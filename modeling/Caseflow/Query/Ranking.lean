import Caseflow.Query.Arguments

/-!
# Sorting and extremes by key

Items are ranked by keys that are all numbers or all strings. Sorting is stable; of items with equal
keys the first one is the extreme.
-/
namespace Caseflow.Query

def isRankable : Json → Bool
  | .num _ | .str _ => true
  | _ => false

def unsortable {α : Type} (c : Call) (key : Json) : Result α := c.wrong 0 .sortable key.kindName

def keyed (key : Json → Result Json) (items : List Json) : Result (List (Json × Json)) :=
  items.mapM fun item => do return (← key item, item)

/-- Keys can be compared if the first is rankable and all are of its kind. -/
def checkKeys (c : Call) (pairs : List (Json × Json)) : Result Unit :=
  match pairs with
  | [] => .ok ()
  | (first, _) :: _ =>
    if !isRankable first then unsortable c first
    else
      match pairs.find? fun p => p.1.kindName != first.kindName with
      | some (other, _) => unsortable c other
      | none => .ok ()

def notAfter (a b : Json × Json) : Bool := Json.compare? a.1 b.1 != some .gt

def sortBy (c : Call) (key : Json → Result Json) (items : List Json) : Result (List Json) := do
  let pairs ← keyed key items
  checkKeys c pairs
  return (pairs.mergeSort notAfter).map (·.2)

/-- The better of the best pair so far and a new one: a new one wins if its key compares as
`winning` to the best. -/
def better (c : Call) (winning : Ordering) (best : Option (Json × Json)) (new : Json × Json) :
    Result (Option (Json × Json)) :=
  if !isRankable new.1 then unsortable c new.1
  else
    match best with
    | none => .ok (some new)
    | some old =>
      match Json.compare? new.1 old.1 with
      | none => unsortable c new.1
      | some order => .ok (some (if order = winning then new else old))

def extremeFrom (c : Call) (winning : Ordering) (key : Json → Result Json) :
    Option (Json × Json) → List Json → Result Json
  | best, [] => .ok ((best.map (·.2)).getD .null)
  | best, item :: items => do
    extremeFrom c winning key (← better c winning best (← key item, item)) items

/-- The first item whose key no other key beats; `null` without items. -/
def extremeBy (c : Call) (winning : Ordering) (key : Json → Result Json) (items : List Json) :
    Result Json :=
  extremeFrom c winning key none items

end Caseflow.Query
