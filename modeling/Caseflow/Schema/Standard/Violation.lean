import Caseflow.Json.Compare
import Caseflow.Json.Pointer
import Caseflow.Json.Text
import Caseflow.Schema.Validation
import Caseflow.Text.Quoted

/-!
# Violations of a schema

What is wrong with an instance, and where, as a compiler of schemas finds it out.
-/
namespace Caseflow.Schema.Standard

inductive Cause
  | type (names : List String)
  | required (name : String)
  | additional (names : List String)
  | never
  | enum (options : Json)
  | const (value : Json)
  | minimum (limit : Number)
  | maximum (limit : Number)
  | exclusiveMinimum (limit : Number)
  | exclusiveMaximum (limit : Number)
  | minLength (limit : Nat)
  | maxLength (limit : Nat)
  | minItems (limit : Nat)
  | maxItems (limit : Nat)
  | maxProperties (limit : Nat)
  | uniqueItems
  | pattern (text : String)
  | searchLimit
  | noneOf (keyword : String)
  | severalOf (keyword : String)
  | not (schema : Json)
deriving DecidableEq

/-- A count with the singular or the plural of what is counted. -/
def counted (n : Nat) (one many : String) : String :=
  Nat.repr n ++ " " ++ (if n = 1 then one else many)

def listedNames (names : List String) : String := Text.listed (names.map fun n => s!"'{n}'")

def Cause.text (cause : Cause) (value : Json) : String :=
  let v := value.text
  match cause with
  | type [name] => s!"{v} is not of type {Json.quote name}"
  | type names => s!"{v} is not of types " ++ Text.listed (names.map Json.quote)
  | required name => s!"{Json.quote name} is a required property"
  | additional names =>
    let verb := if names.length = 1 then "was" else "were"
    s!"Additional properties are not allowed ({listedNames names} {verb} unexpected)"
  | never => s!"False schema does not allow {v}"
  | enum options => s!"{v} is not one of {options.text}"
  | const expected => s!"{expected.text} was expected"
  | minimum limit => s!"{v} is less than the minimum of {limit.text}"
  | maximum limit => s!"{v} is greater than the maximum of {limit.text}"
  | exclusiveMinimum limit => s!"{v} is less than or equal to the minimum of {limit.text}"
  | exclusiveMaximum limit => s!"{v} is greater than or equal to the maximum of {limit.text}"
  | minLength limit => s!"{v} is shorter than " ++ counted limit "character" "characters"
  | maxLength limit => s!"{v} is longer than " ++ counted limit "character" "characters"
  | minItems limit => s!"{v} has less than " ++ counted limit "item" "items"
  | maxItems limit => s!"{v} has more than " ++ counted limit "item" "items"
  | maxProperties limit => s!"{v} has more than " ++ counted limit "property" "properties"
  | uniqueItems => s!"{v} has non-unique elements"
  | pattern text => s!"{v} does not match \"{text}\""
  | searchLimit => "Error executing regex: Max limit for backtracking count exceeded"
  | noneOf keyword =>
    s!"{v} is not valid under any of the schemas listed in the '{keyword}' keyword"
  | severalOf keyword =>
    s!"{v} is valid under more than one of the schemas listed in the '{keyword}' keyword"
  | not schema => s!"{schema.text} is not allowed for {v}"

/-- A violation by the value at a path; the last step of the path comes first. -/
structure Violation where
  path : List String
  value : Json
  cause : Cause
deriving DecidableEq

def Violation.finding (v : Violation) : Finding :=
  ⟨Json.Pointer.text v.path.reverse, v.cause.text v.value⟩

end Caseflow.Schema.Standard
