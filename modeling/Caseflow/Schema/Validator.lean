import Caseflow.Dict
import Caseflow.Json.Text
import Caseflow.Schema.Validation

/-!
# A validator that keeps what it compiled

Schemas are compiled once and kept by their text. A schema that does not compile is not kept.
-/
namespace Caseflow.Schema

structure Validator where
  compiled : Dict Checker

namespace Validator

variable (compiler : Compiler)

def fresh : Validator := ⟨.empty⟩

def cached (v : Validator) : Nat := v.compiled.entries.length

/-- The checker of a schema, kept from before or compiled now. -/
def compile (v : Validator) (schema : Json) : Except String Checker × Validator :=
  match v.compiled.get? schema.text with
  | some check => (.ok check, v)
  | none =>
    match compiler schema with
    | .ok check => (.ok check, ⟨v.compiled.insert schema.text check⟩)
    | .error text => (.error text, v)

def validate (v : Validator) (schema value : Json) : List String × Validator :=
  let (compiled, v) := v.compile compiler schema
  (messages compiled value, v)

def run (v : Validator) : List (Json × Json) → List (List String × Nat)
  | [] => []
  | (schema, value) :: calls =>
    let (errors, v) := v.validate compiler schema value
    (errors, v.cached) :: v.run calls

end Validator
end Caseflow.Schema
