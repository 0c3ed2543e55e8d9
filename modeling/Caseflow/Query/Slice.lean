import Caseflow.Query.Expr

/-!
# Slices

A slice selects the items of a list at positions that are one step apart, upwards or downwards.
Positions and bounds are numbers of 64 bits with a sign, and sums are checked. A walk whose next
position does not fit is over. There is no slice where the sum for a bound does not fit, the range
of a bound is empty, an item is asked for that is not there, or the walk goes on for longer than
the list is.
-/
namespace Caseflow.Query

def addSigned? (a b : Int) : Option Int :=
  if Number.minSigned ≤ a + b ∧ a + b ≤ Number.maxSigned then some (a + b) else none

/-- Bring a bound into a range, after counting a negative one from the end. -/
def clampBound? (length low high bound : Int) : Option Int := do
  let bound ← if bound < 0 then addSigned? bound length else some bound
  if low ≤ high then some (max low (min high bound)) else none

def boundOr? (default length low high : Int) : Option Int → Option Int
  | none => some default
  | some bound => clampBound? length low high bound

/-- Whether a walk by a step is still before the position where it stops. -/
def isBefore (step i stop : Int) : Bool := if 0 < step then i < stop else stop < i

def itemAt? (items : List Json) (i : Int) : Option Json := if 0 ≤ i then items[i.toNat]? else none

def itemsFrom? (items : List Json) (step stop : Int) : Nat → Int → Option (List Json)
  | 0, _ => none
  | fuel + 1, i =>
    if isBefore step i stop then do
      let item ← itemAt? items i
      match addSigned? i step with
      | some next => (itemsFrom? items step stop fuel next).map (item :: ·)
      | none => some [item]
    else some []

/-- The step of a slice, upwards by one if none is given. -/
def Bounds.stride (b : Bounds) : Int := b.step.getD 1

def slice? (b : Bounds) (items : List Json) : Option (List Json) := do
  let length : Int := items.length
  if 0 < b.stride then
    let start ← boundOr? 0 length 0 length b.start
    let stop ← boundOr? length length 0 length b.stop
    itemsFrom? items b.stride stop (items.length + 1) start
  else
    let start ← boundOr? (length - 1) length (-1) (length - 1) b.start
    let stop ← boundOr? (-1) length (-1) (length - 1) b.stop
    itemsFrom? items b.stride stop (items.length + 1) start

def slice (b : Bounds) (items : List Json) : List Json := (slice? b items).getD []

end Caseflow.Query
