import Caseflow.Schema.Standard.Number
import Caseflow.Schema.Standard.Pattern
import Caseflow.Schema.Standard.Violation

/-!
# Checking instances

A schema becomes a check: a function from an instance, and the path to it, to the violations by it.
The keywords of a schema are checked in the order of its fields; keywords that are not known here
hold of everything.
-/
namespace Caseflow.Schema.Standard

abbrev Check := List String → Json → List Violation

/-- The value of a keyword with its schemas made into checks, and its pattern ready to be searched
for. -/
structure Keyword where
  value : Json
  whole : Check := fun _ _ => []
  items : List Check := []
  entries : List (String × Check) := []
  matcher : Option Regex.Matcher := none

/-- The names of types, in the order messages list them. -/
def typeNames : List String :=
  ["array", "boolean", "integer", "null", "number", "object", "string"]

def hasType (v : Json) (name : String) : Bool :=
  match v with
  | .num n => name == "number" || (name == "integer" && isWhole n)
  | v => v.kindName == name

/-- The types a value of the `type` keyword names; several are listed in the order of all types. -/
def namedTypes : Json → List String
  | .str name => [name]
  | .arr [.str name] => [name]
  | .arr names => typeNames.filter fun t => names.contains (.str t)
  | _ => []

def limit? : Json → Option Nat
  | .num n =>
    if isWhole n ∧ 0 ≤ exactUnits n then some (exactUnits n / Binary64.one).toNat else none
  | _ => none

def violationIf (bad : Bool) (path : List String) (v : Json) (cause : Cause) : List Violation :=
  if bad then [⟨path, v, cause⟩] else []

def checkCount (value : Json) (count : Nat) (below : Bool) (cause : Nat → Cause) : Check :=
  fun path v =>
    match limit? value with
    | some limit =>
      violationIf (if below then count < limit else limit < count) path v (cause limit)
    | none => []

def checkNumber (value : Json) (bad : Number → Number → Bool) (cause : Number → Cause) : Check :=
  fun path v =>
    match value, v with
    | .num limit, .num n => violationIf (bad n limit) path v (cause limit)
    | _, _ => []

def checkProperties (entries : List (String × Check)) : Check := fun path v =>
  match v with
  | .obj fields =>
    entries.flatMap fun p =>
      match Assoc.get? p.1 fields with
      | some w => p.2 (p.1 :: path) w
      | none => []
  | _ => []

/-- Check every property of an object by its own schema or else by the one for the others. -/
def checkAll (entries : List (String × Check)) (others : Check) : Check := fun path v =>
  match v with
  | .obj fields =>
    fields.flatMap fun p => ((Assoc.get? p.1 entries).getD others) (p.1 :: path) p.2
  | _ => []

/-- Allow no properties but the named ones; with no names given, allow none at all. -/
def checkClosed (entries : Option (List (String × Check))) : Check := fun path v =>
  match v, entries with
  | .obj fields, some entries =>
    let unexpected := (fields.map (·.1)).filter fun k => !Assoc.contains k entries
    checkAll entries (fun _ _ => []) path v ++
      violationIf (!unexpected.isEmpty) path v (.additional unexpected)
  | .obj ((_, w) :: _), none => [⟨path, w, .never⟩]
  | _, _ => []

def checkItems (check : Check) : Check := fun path v =>
  match v with
  | .arr items => items.zipIdx.flatMap fun p => check (Nat.repr p.2 :: path) p.1
  | _ => []

def accepts (check : Check) (v : Json) : Bool := (check [] v).isEmpty

def sizeOf? (keyword : String) : Json → Option Nat
  | .str s => if keyword = "minLength" ∨ keyword = "maxLength" then some s.length else none
  | .arr items => if keyword = "minItems" ∨ keyword = "maxItems" then some items.length else none
  | .obj fields => if keyword = "maxProperties" then some fields.length else none
  | _ => none

def checkSize (keyword : String) (value : Json) (below : Bool) (cause : Nat → Cause) : Check :=
  fun path v =>
    match sizeOf? keyword v with
    | some count => checkCount value count below cause path v
    | none => []

def missingNames (names : List Json) (fields : Fields) : List String :=
  (names.filterMap Json.asString?).filter fun n => !Assoc.contains n fields

/-- Whether the keyword for additional properties checks the named ones as well, by its value. -/
def coversProperties : Option Json → Bool
  | some (.bool false) | some (.obj _) => true
  | _ => false

def checkKeyword (keywords : List (String × Keyword)) (name : String) (k : Keyword) : Check :=
  fun path v =>
    match name with
    | "type" =>
      let names := namedTypes k.value
      violationIf (!names.any (hasType v)) path v (.type names)
    | "properties" =>
      let additional := (Assoc.get? "additionalProperties" keywords).map fun k => k.value
      if coversProperties additional then [] else checkProperties k.entries path v
    | "additionalProperties" =>
      let named := (Assoc.get? "properties" keywords).map (·.entries)
      match k.value with
      | .bool false => checkClosed named path v
      | .obj _ => checkAll (named.getD []) k.whole path v
      | _ => []
    | "required" =>
      match v, k.value with
      | .obj fields, .arr names =>
        (missingNames names fields).map fun n => ⟨path, v, .required n⟩
      | _, _ => []
    | "enum" =>
      match k.value with
      | .arr options => violationIf (!options.any (equal v)) path v (.enum k.value)
      | _ => []
    | "const" => violationIf (!equal v k.value) path v (.const k.value)
    | "minimum" => checkNumber k.value lessThan .minimum path v
    | "maximum" => checkNumber k.value (fun n l => lessThan l n) .maximum path v
    | "exclusiveMinimum" => checkNumber k.value (fun n l => !lessThan l n) .exclusiveMinimum path v
    | "exclusiveMaximum" => checkNumber k.value (fun n l => !lessThan n l) .exclusiveMaximum path v
    | "minLength" => checkSize name k.value true .minLength path v
    | "maxLength" => checkSize name k.value false .maxLength path v
    | "minItems" => checkSize name k.value true .minItems path v
    | "maxItems" => checkSize name k.value false .maxItems path v
    | "maxProperties" => checkSize name k.value false .maxProperties path v
    | "uniqueItems" =>
      match v, k.value with
      | .arr items, .bool true => violationIf (!allDistinct items) path v .uniqueItems
      | _, _ => []
    | "pattern" =>
      match v, k.value, k.matcher with
      | .str s, .str pattern, some m =>
        match m.search s with
        | .matched => []
        | .unmatched => [⟨path, v, .pattern pattern⟩]
        | .abandoned => [⟨path, v, .searchLimit⟩]
      | _, _, _ => []
    | "items" => checkItems k.whole path v
    | "allOf" => k.items.flatMap fun check => check path v
    | "anyOf" => violationIf (!k.items.any (accepts · v)) path v (.noneOf name)
    | "oneOf" =>
      match (k.items.filter (accepts · v)).length with
      | 0 => [⟨path, v, .noneOf name⟩]
      | 1 => []
      | _ => [⟨path, v, .severalOf name⟩]
    | "not" => violationIf (accepts k.whole v) path v (.not k.value)
    | _ => []

def checkKeywords (keywords : List (String × Keyword)) : Check := fun path v =>
  keywords.flatMap fun p => checkKeyword keywords p.1 p.2 path v

mutual

def checkOf : Json → Check
  | .bool false => fun path v => [⟨path, v, .never⟩]
  | .obj fields => checkKeywords (keywordsOf fields)
  | _ => fun _ _ => []

def keywordsOf : List (String × Json) → List (String × Keyword)
  | [] => []
  | (name, value) :: rest => (name, keywordOf name value) :: keywordsOf rest

/-- A keyword with a schema, a list of schemas, schemas by name or a pattern, as its name says. -/
def keywordOf (name : String) : Json → Keyword
  | .obj entries =>
    if name = "properties" then { value := .obj entries, entries := entryChecks entries }
    else if ["additionalProperties", "items", "not"].contains name then
      { value := .obj entries, whole := checkKeywords (keywordsOf entries) }
    else { value := .obj entries }
  | .arr schemas =>
    if ["allOf", "anyOf", "oneOf"].contains name then
      { value := .arr schemas, items := itemChecks schemas }
    else { value := .arr schemas }
  | .bool false => { value := .bool false, whole := fun path v => [⟨path, v, .never⟩] }
  | .str text =>
    if name = "pattern" then { value := .str text, matcher := matcher? text }
    else { value := .str text }
  | value => { value }

def itemChecks : List Json → List Check
  | [] => []
  | v :: vs => checkOf v :: itemChecks vs

def entryChecks : List (String × Json) → List (String × Check)
  | [] => []
  | (k, v) :: rest => (k, checkOf v) :: entryChecks rest

end

end Caseflow.Schema.Standard
