import Caseflow.Json.Fields

/-!
# Numbers in validation

Validation compares numbers by their exact values, whether they are integers or doubles, and
documents by equality that is exact in this sense.
-/
namespace Caseflow.Schema.Standard

/-- The exact value of a number in units of 2^-1074. -/
def exactUnits : Number → Int
  | .int n => n * Binary64.one
  | .float x => x.units

def sameNumber (a b : Number) : Bool := exactUnits a == exactUnits b

def lessThan (a b : Number) : Bool := exactUnits a < exactUnits b

/-- Whether a number is whole, written as an integer or not. -/
def isWhole : Number → Bool
  | .int _ => true
  | .float x => x.isIntegral

mutual

def equal : Json → Json → Bool
  | .null, .null => true
  | .bool a, .bool b => a == b
  | .num a, .num b => sameNumber a b
  | .str a, .str b => a == b
  | .arr a, .arr b => equalItems a b
  | .obj a, .obj b => a.length == b.length && equalFields a b
  | _, _ => false

def equalItems : List Json → List Json → Bool
  | [], [] => true
  | a :: as, b :: bs => equal a b && equalItems as bs
  | _, _ => false

def equalFields : List (String × Json) → List (String × Json) → Bool
  | [], _ => true
  | (k, a) :: as, bs =>
    (match Assoc.get? k bs with
      | some b => equal a b
      | none => false) && equalFields as bs

end

def allDistinct : List Json → Bool
  | [] => true
  | v :: vs => !vs.any (equal v) && allDistinct vs

end Caseflow.Schema.Standard
