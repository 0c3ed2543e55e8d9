/-!
# Finite binary64 numbers

A finite double is a sign and its 63 magnitude bits, so that larger magnitude bits mean a larger
absolute value. Every such value is a whole number of units of 2^-1074, which makes comparison and
rounding exact computations on integers: an operation computes its exact result as a fraction and
rounds it once, to nearest with ties to an even significand.
-/
namespace Caseflow

/-- A finite double: its sign and the magnitude bits below the infinity pattern. -/
structure Binary64 where
  negative : Bool
  magnitude : Nat
  finite : magnitude < 0x7FF0000000000000
deriving DecidableEq, Repr

namespace Binary64

/-- The quotient of two naturals rounded to the nearest integer, ties to even. -/
def roundHalfEven (num den : Nat) : Nat :=
  let q := num / den
  let twice := 2 * (num % den)
  if twice < den then q
  else if den < twice then q + 1
  else q + q % 2

@[simp] theorem roundHalfEven_one (n : Nat) : roundHalfEven n 1 = n := by
  simp [roundHalfEven, Nat.mod_one]

/-- The absolute value that magnitude bits stand for, in units of 2^-1074. -/
def unitsOfMagnitude (magnitude : Nat) : Nat :=
  let field := magnitude / Nat.pow 2 52
  let fraction := magnitude % Nat.pow 2 52
  if field = 0 then fraction else (Nat.pow 2 52 + fraction) * Nat.pow 2 (field - 1)

/-- The value in units of 2^-1074. -/
def units (x : Binary64) : Int :=
  if x.negative then -(unitsOfMagnitude x.magnitude : Int) else unitsOfMagnitude x.magnitude

/-- The magnitude bits nearest to `num / den` units of 2^-1074; the pattern of infinity or above
means overflow. The exponent is chosen so that the rounded significand has 53 bits, or fewer below
the normal range; a carry out of the significand lands in the exponent field. -/
def magnitudeNear (num den : Nat) : Nat :=
  let whole := num / den
  let shift := if whole < Nat.pow 2 53 then 0 else Nat.log2 whole - 52
  shift * Nat.pow 2 52 + roundHalfEven num (den * Nat.pow 2 shift)

/-- The double with this sign nearest to `num / den` units of 2^-1074, unless it overflows. -/
def ofUnits? (negative : Bool) (num den : Nat) : Option Binary64 :=
  let magnitude := magnitudeNear num den
  if h : magnitude < 0x7FF0000000000000 then some ⟨negative, magnitude, h⟩ else none

def ofRatio? (negative : Bool) (num den : Nat) : Option Binary64 :=
  ofUnits? negative (num * Nat.pow 2 1074) den

def largest (negative : Bool) : Binary64 := ⟨negative, 0x7FEFFFFFFFFFFFFF, by decide⟩

/-- The double nearest to an integer; integers beyond the range go to the largest finite value. -/
def ofInt (n : Int) : Binary64 :=
  (ofRatio? (n < 0) n.natAbs 1).getD (largest (n < 0))

def zero : Binary64 := ⟨false, 0, by decide⟩

instance : Inhabited Binary64 := ⟨zero⟩

/-- Numerical comparison: the two zeros are equal. -/
def compare (x y : Binary64) : Ordering := Ord.compare x.units y.units

/-- Numerical equality: the two zeros are equal. -/
def sameValue (x y : Binary64) : Bool := x.units == y.units

def abs (x : Binary64) : Binary64 := { x with negative := false }

/-- The sum, rounded once; `none` when it overflows. -/
def add? (x y : Binary64) : Option Binary64 :=
  let total := x.units + y.units
  ofUnits? (total < 0) total.natAbs 1

def divNat? (x : Binary64) (n : Nat) : Option Binary64 :=
  ofUnits? x.negative x.units.natAbs n

/-- The power of two that one is, in units. -/
def unitPower : Nat := 1074

def one : Nat := Nat.pow 2 unitPower

def isIntegral (x : Binary64) : Bool := x.units % one == 0

def floor (x : Binary64) : Int := Int.fdiv x.units one

def ceil (x : Binary64) : Int := -Int.fdiv (-x.units) one

def truncate (x : Binary64) : Int := Int.tdiv x.units one

end Binary64
end Caseflow
