import Caseflow.Binary64

/-!
# Decimal texts of doubles

Writing looks for the fewest significant digits that read back as the same double, nearest to the
value among those. Reading comes in two kinds: `nearestDecimal?` rounds the decimal once, and
`scaleDecimal?` rounds the digits first and the scaling by a power of ten after them.
-/
namespace Caseflow.Binary64

structure Decimal where
  digits : Nat
  exponent : Int
deriving DecidableEq, Repr

def digitCount (n : Nat) : Nat := (Nat.toDigits 10 n).length

def Decimal.fraction (d : Decimal) : Nat × Nat :=
  if d.exponent < 0 then (d.digits, Nat.pow 10 d.exponent.natAbs)
  else (d.digits * Nat.pow 10 d.exponent.natAbs, 1)

def Decimal.magnitude (d : Decimal) : Nat :=
  let (num, den) := d.fraction
  magnitudeNear (num * one) den

/-- Drop the trailing zeros of the digits, at most `fuel` of them. -/
def Decimal.trim : Nat → Decimal → Decimal
  | 0, d => d
  | fuel + 1, d =>
    if d.digits ≠ 0 ∧ d.digits % 10 = 0 then trim fuel ⟨d.digits / 10, d.exponent + 1⟩ else d

/-- The exponent of the leading decimal digit of a positive number of units. -/
def leadingExponent (units : Nat) : Int :=
  if one ≤ units then digitCount (units / one) - 1 else -(digitCount (one / units) : Int)

/-- Of the two neighbours of `num / den` among the multiples of `10 ^ exponent` the one that reads
back as `magnitude`, the nearer one if both do. -/
def neighbour? (magnitude : Nat) (exponent : Int) (num den : Nat) : Option Decimal :=
  let low : Decimal := ⟨num / den, exponent⟩
  let high : Decimal := ⟨num / den + 1, exponent⟩
  if low.magnitude = magnitude then
    if high.magnitude = magnitude then some ⟨roundHalfEven num den, exponent⟩ else some low
  else if high.magnitude = magnitude then some high
  else none

/-- The best decimal at grid `10 ^ exponent` that reads back as `magnitude`, if there is one next to
the value. -/
def candidate? (magnitude units : Nat) (exponent : Int) : Option Decimal :=
  if exponent < 0 then neighbour? magnitude exponent (units * Nat.pow 10 exponent.natAbs) one
  else neighbour? magnitude exponent units (one * Nat.pow 10 exponent.natAbs)

/-- Try one more digit while no decimal of the present length reads back; the last resort is the
exact value, a whole number of units of 2^-1074 = 5^1074 · 10^-1074. -/
def searchDigits (magnitude units : Nat) (leading : Int) : Nat → Nat → Decimal
  | 0, _ => ⟨units * Nat.pow 5 unitPower, -unitPower⟩
  | more + 1, n =>
    match candidate? magnitude units (leading - n) with
    | some d => d
    | none => searchDigits magnitude units leading more (n + 1)

/-- The shortest decimal that reads back as the absolute value; zero for zero. -/
def shortest (x : Binary64) : Decimal :=
  let units := unitsOfMagnitude x.magnitude
  if units = 0 then ⟨0, 0⟩
  else (searchDigits x.magnitude units (leadingExponent units) 17 0).trim 400

def pointed (fraction : List Char) : List Char :=
  if fraction.isEmpty then [] else '.' :: fraction

/-- Positional text is used for a leading digit between 10^-5 and 10^15; it always has a point.
Outside, the text is scientific, with a sign on every exponent. -/
def Decimal.chars (d : Decimal) : List Char :=
  let ds := Nat.toDigits 10 d.digits
  let count := ds.length
  let leading := d.exponent + count - 1
  if leading < -5 || 15 < leading then
    let sign := if leading < 0 then '-' else '+'
    ds.take 1 ++ (pointed (ds.drop 1) ++ 'e' :: sign :: Nat.toDigits 10 leading.natAbs)
  else if leading < 0 then
    ['0'] ++ pointed (List.replicate (leading.natAbs - 1) '0' ++ ds)
  else
    let whole := leading.natAbs + 1
    if whole < count then ds.take whole ++ pointed (ds.drop whole)
    else ds ++ List.replicate (whole - count) '0' ++ pointed ['0']

def text (x : Binary64) : String :=
  let body := x.shortest.chars
  String.ofList (if x.negative then '-' :: body else body)

/-- The double nearest to a decimal, rounded once; `none` on overflow. -/
def nearestDecimal? (negative : Bool) (d : Decimal) : Option Binary64 :=
  let leading := d.exponent + digitCount d.digits
  if d.digits = 0 then some { zero with negative }
  else if 400 < leading then none
  else if leading < -400 then some { zero with negative }
  else
    let (num, den) := d.fraction
    ofRatio? negative num den

/-- Multiply or divide once by a power of ten that is itself rounded to a double. -/
def scaleOnce? (x : Binary64) (up : Bool) (power : Nat) : Option Binary64 :=
  let p := unitsOfMagnitude (Decimal.magnitude ⟨1, power⟩)
  let u := unitsOfMagnitude x.magnitude
  if up then ofUnits? x.negative (u * p) one else ofUnits? x.negative (u * one) p

/-- Bring a double down by powers of ten, in steps of 10^308 while more than 308 remain. -/
def scaleDown? (x : Binary64) : Nat → Nat → Option Binary64
  | 0, power => scaleOnce? x false (min power 308)
  | steps + 1, power =>
    if power ≤ 308 then scaleOnce? x false power
    else if x.magnitude = 0 then some x
    else (scaleOnce? x false 308).bind fun y => scaleDown? y steps (power - 308)

/-- The digits are rounded to a double, then scaled by the power of ten with roundings of their
own; `none` on overflow. -/
def scaleDecimal? (negative : Bool) (d : Decimal) : Option Binary64 :=
  match ofRatio? negative d.digits 1 with
  | none => none
  | some x =>
    if d.exponent < 0 then scaleDown? x 4 d.exponent.natAbs
    else if d.exponent.natAbs ≤ 308 then scaleOnce? x true d.exponent.natAbs
    else if x.magnitude = 0 then some x
    else none

end Caseflow.Binary64
