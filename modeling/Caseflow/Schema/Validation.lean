import Caseflow.Json.Basic

/-!
# Validation

How schemas are compiled is up to a compiler. It makes a schema into a checker, which finds what is
wrong with an instance, or says why the schema is none.
-/
namespace Caseflow.Schema

/-- What is wrong with an instance, and where; the place is a pointer. -/
structure Finding where
  place : String
  text : String

def Finding.message (f : Finding) : String :=
  if f.place = "" then f.text else f.place ++ ": " ++ f.text

abbrev Checker := Json → List Finding

abbrev Compiler := Json → Except String Checker

/-- The messages about an instance; a schema that is none is the only one. -/
def messages (compiled : Except String Checker) (value : Json) : List String :=
  match compiled with
  | .ok check => (check value).map (·.message)
  | .error text => ["invalid schema: " ++ text]

/-- The messages about an instance by a schema without references. -/
abbrev Validation := Json → Json → List String

def validate (compile : Compiler) : Validation := fun schema => messages (compile schema)

end Caseflow.Schema
