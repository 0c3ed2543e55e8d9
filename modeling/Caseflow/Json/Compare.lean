import Caseflow.Json.Fields

/-!
# Comparing documents

Equality with numbers compared by value, and the partial order of numbers and of strings that
queries sort by.
-/
namespace Caseflow.Json

mutual

/-- Equality with numbers compared by value; objects are equal whatever the order of their
fields. -/
def equalValue : Json → Json → Bool
  | null, null => true
  | bool a, bool b => a == b
  | num a, num b => a.sameValue b
  | str a, str b => a == b
  | arr a, arr b => equalItems a b
  | obj a, obj b => a.length == b.length && equalFields a b
  | _, _ => false

def equalItems : List Json → List Json → Bool
  | [], [] => true
  | a :: as, b :: bs => equalValue a b && equalItems as bs
  | _, _ => false

/-- Whether every field on the left has an equal one among the fields on the right. -/
def equalFields : List (String × Json) → List (String × Json) → Bool
  | [], _ => true
  | (k, a) :: as, bs =>
    (match Assoc.get? k bs with
      | some b => equalValue a b
      | none => false) && equalFields as bs

end

mutual

/-- Equality that keeps integers and doubles apart, but not the two zeros. -/
def same : Json → Json → Bool
  | null, null => true
  | bool a, bool b => a == b
  | num a, num b => a.sameKind b
  | str a, str b => a == b
  | arr a, arr b => sameItems a b
  | obj a, obj b => sameFields a b
  | _, _ => false

def sameItems : List Json → List Json → Bool
  | [], [] => true
  | a :: as, b :: bs => same a b && sameItems as bs
  | _, _ => false

def sameFields : List (String × Json) → List (String × Json) → Bool
  | [], [] => true
  | (k, a) :: as, (l, b) :: bs => k == l && same a b && sameFields as bs
  | _, _ => false

end

/-- The order of two numbers or two strings; other pairs have none. -/
def compare? : Json → Json → Option Ordering
  | num a, num b => some (a.compare b)
  | str a, str b => some (Ord.compare a b)
  | _, _ => none

end Caseflow.Json
