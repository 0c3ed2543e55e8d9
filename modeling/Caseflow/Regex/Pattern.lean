import Caseflow.Text.Word
import Caseflow.Text.Digit
import Caseflow.Text.Blank
import Caseflow.Text.CaseFold

/-!
# Patterns of regular expressions

Sets of characters, assertions about a position, and patterns built from them. Repetition prefers
more copies when it is greedy and fewer otherwise; the first branch of an alternative is preferred.
-/
namespace Caseflow.Regex

inductive CharSet
  | ranges (rs : List (Nat × Nat))
  | word
  | digit
  | blank
  | complement (s : CharSet)
  | union (a b : CharSet)
  | inter (a b : CharSet)
  | folded (s : CharSet)

namespace CharSet

def containsNat : CharSet → Nat → Bool
  | ranges rs, n => Text.inRanges n rs
  | word, n => Text.inRanges n Text.wordRanges
  | digit, n => Text.inRanges n Text.digitRanges
  | blank, n => Text.inRanges n Text.blankRanges
  | complement s, n => !s.containsNat n
  | union a b, n => a.containsNat n || b.containsNat n
  | inter a b, n => a.containsNat n && b.containsNat n
  | folded s, n => (Text.caseVariants n).any s.containsNat

def contains (s : CharSet) (c : Char) : Bool := s.containsNat c.toNat

def single (c : Char) : CharSet := ranges [(c.toNat, c.toNat)]

def empty : CharSet := ranges []

def difference (a b : CharSet) : CharSet := inter a (complement b)

def symmetricDifference (a b : CharSet) : CharSet := union (difference a b) (difference b a)

def negatedIf (negated : Bool) (s : CharSet) : CharSet := if negated then complement s else s

end CharSet

inductive Look
  | textStart
  | textEnd
  | lineStart
  | lineEnd
  | boundary
  | notBoundary
  | wordStart
  | wordEnd
  | wordStartHalf
  | wordEndHalf
deriving DecidableEq

def Look.holds (look : Look) (before after : Option Char) : Bool :=
  let wordBefore := before.any Text.isWord
  let wordAfter := after.any Text.isWord
  match look with
  | textStart => before.isNone
  | textEnd => after.isNone
  | lineStart => before.all (· == '\n')
  | lineEnd => after.all (· == '\n')
  | boundary => wordBefore != wordAfter
  | notBoundary => wordBefore == wordAfter
  | wordStart => !wordBefore && wordAfter
  | wordEnd => wordBefore && !wordAfter
  | wordStartHalf => !wordBefore
  | wordEndHalf => !wordAfter

inductive Pattern
  | empty
  | chars (s : CharSet)
  | look (l : Look)
  | seq (a b : Pattern)
  | alt (a b : Pattern)
  | group (index : Nat) (p : Pattern)
  | repeat (least : Nat) (most : Option Nat) (greedy : Bool) (p : Pattern)

namespace Pattern

def onlyEmpty : Pattern → Bool
  | empty | look _ => true
  | chars _ => false
  | seq a b | alt a b => a.onlyEmpty && b.onlyEmpty
  | group _ p => p.onlyEmpty
  | «repeat» _ most _ p => most == some 0 || p.onlyEmpty

def maybeEmpty : Pattern → Bool
  | empty | look _ => true
  | chars _ => false
  | seq a b => a.maybeEmpty && b.maybeEmpty
  | alt a b => a.maybeEmpty || b.maybeEmpty
  | group _ p => p.maybeEmpty
  | «repeat» least _ _ p => least == 0 || p.maybeEmpty

/-- A repetition in its plainest form: copies of an empty match are at most one, no copies are the
empty pattern, and one copy is the pattern itself. -/
def repeated (least : Nat) (most : Option Nat) (greedy : Bool) (p : Pattern) : Pattern :=
  let (least, most) :=
    if p.onlyEmpty then (min least 1, some (min (most.getD 1) 1)) else (least, most)
  if least = 0 ∧ most = some 0 then empty
  else if least = 1 ∧ most = some 1 then p
  else «repeat» least most greedy p

/-- The number of program steps a pattern unfolds to. -/
def weight : Pattern → Nat
  | empty | look _ => 1
  | chars _ => 1
  | seq a b => a.weight + b.weight
  | alt a b => a.weight + b.weight + 1
  | group _ p => p.weight + 2
  | «repeat» least most _ p => (max least (most.getD (least + 1))) * (p.weight + 1) + 1

def maxGroup : Pattern → Nat
  | empty | look _ | chars _ => 0
  | seq a b | alt a b => max a.maxGroup b.maxGroup
  | group i p => max i p.maxGroup
  | «repeat» _ _ _ p => p.maxGroup

end Pattern
end Caseflow.Regex
