import Caseflow.Binary64.Decimal

/-!
# Numbers of JSON documents

A number is an integer or a finite double, and the two kinds stay apart: `1` and `1.0` are different
numbers with different texts that compare as equal values. Integers that a document can hold are
those of the unsigned and of the signed 64-bit range; a literal outside them becomes a double.
-/
namespace Caseflow

inductive Number
  | int (n : Int)
  | float (x : Binary64)
deriving DecidableEq, Repr

namespace Number

def maxUnsigned : Nat := Nat.pow 2 64 - 1
def minSigned : Int := -(Nat.pow 2 63 : Nat)
def maxSigned : Int := (Nat.pow 2 63 : Nat) - 1

def toBinary64 : Number → Binary64
  | int n => Binary64.ofInt n
  | float x => x

/-- Comparison by value, as doubles. -/
def compare (a b : Number) : Ordering := a.toBinary64.compare b.toBinary64

def sameValue (a b : Number) : Bool := a.toBinary64.sameValue b.toBinary64

/-- Equality that keeps integers and doubles apart but not the two zeros. -/
def sameKind : Number → Number → Bool
  | int a, int b => a == b
  | float a, float b => a.sameValue b
  | _, _ => false

/-- The number as an unsigned 64-bit integer; doubles are none. -/
def toUnsigned? : Number → Option Nat
  | int n => if 0 ≤ n ∧ n ≤ maxUnsigned then some n.toNat else none
  | float _ => none

def text : Number → String
  | int n => if n < 0 then "-" ++ Nat.repr n.natAbs else Nat.repr n.natAbs
  | float x => x.text

/-- A computed double as a number: whole values below 9·10^15 become integers. -/
def ofBinary64 (x : Binary64) : Number :=
  if x.isIntegral ∧ x.truncate.natAbs < 9000000000000000 then int x.truncate else float x

structure Literal where
  negative : Bool
  whole : List Nat
  fraction : List Nat
  exponent : Option Int
deriving Repr

/-- Append digits while the significand stays within 64 bits. Returns the significand and the
digits that no longer fitted. -/
def appendDigits (significand : Nat) : List Nat → Nat × List Nat
  | [] => (significand, [])
  | d :: ds =>
    if significand * 10 + d ≤ maxUnsigned then appendDigits (significand * 10 + d) ds
    else (significand, d :: ds)

/-- The number a literal denotes, or none if it overflows. Without point and exponent a literal in
range is an integer, except that `-0` is the negative zero. -/
def ofLiteral? (l : Literal) : Option Number :=
  let (whole, lost) := appendDigits 0 l.whole
  let asDouble (d : Binary64.Decimal) := (Binary64.scaleDecimal? l.negative d).map float
  match l.fraction, l.exponent with
  | [], none =>
    if lost ≠ [] then asDouble ⟨whole, lost.length⟩
    else if !l.negative then some (int whole)
    else if whole ≠ 0 ∧ minSigned ≤ -(whole : Int) then some (int (-(whole : Int)))
    else asDouble ⟨whole, 0⟩
  | fraction, exponent =>
    let (significand, dropped) := appendDigits whole fraction
    let kept := fraction.length - dropped.length
    asDouble ⟨significand, (lost.length : Int) - kept + exponent.getD 0⟩

end Number
end Caseflow
