import Caseflow.Binary64.Decimal
import Caseflow.Json.Reading

/-!
# Numbers in plain text

A decimal number with an optional sign, point and exponent, digits on at least one side of the
point; rounded once. Words for infinity and for no number read as no finite value.
-/
namespace Caseflow.Binary64

def splitSign : List Char → Bool × List Char
  | '-' :: cs => (true, cs)
  | '+' :: cs => (false, cs)
  | cs => (false, cs)

def exponentOf? (cs : List Char) : Option Int :=
  let (negative, cs) := splitSign cs
  if cs.isEmpty || !cs.all Json.isDigit then none
  else
    let n := (Json.natOfDigits (cs.map Json.digitValue) : Int)
    some (if negative then -n else n)

def exponentAfter? : List Char → Option Int
  | [] => some 0
  | c :: cs => if c = 'e' ∨ c = 'E' then exponentOf? cs else none

def readFraction : List Char → List Nat × List Char
  | '.' :: cs => Json.readDigits cs
  | cs => ([], cs)

def decimalOfChars? (cs : List Char) : Option Decimal :=
  let (whole, cs) := Json.readDigits cs
  let (fraction, cs) := readFraction cs
  if whole.isEmpty && fraction.isEmpty then none
  else
    (exponentAfter? cs).map fun e =>
      ⟨Json.natOfDigits (whole ++ fraction), e - fraction.length⟩

def decimalOfText? (text : String) : Option (Bool × Decimal) :=
  let (negative, cs) := splitSign text.toList
  (decimalOfChars? cs).map (negative, ·)

/-- The finite value a text denotes. -/
def ofText? (text : String) : Option Binary64 :=
  (decimalOfText? text).bind fun (negative, d) => nearestDecimal? negative d

end Caseflow.Binary64
