import Caseflow.Regex.Pattern

/-!
# Patterns with look-around and references

Patterns that also look ahead or behind without moving, commit to the first way they match, or ask
for the text that a group matched. `size?` is the one length of all matches, where there is one;
`plain?` is the part of these patterns that a program can run in step with the text.
-/
namespace Caseflow.Regex

inductive Extended
  | empty
  | chars (s : CharSet)
  | look (l : Look)
  | seq (a b : Extended)
  | alt (a b : Extended)
  | group (index : Nat) (p : Extended)
  | repeat (least : Nat) (most : Option Nat) (greedy : Bool) (p : Extended)
  | ahead (negated : Bool) (p : Extended)
  | behind (negated : Bool) (p : Extended)
  | atomic (p : Extended)
  | reference (index : Nat)

def Look.aboutWords : Look → Bool
  | textStart | textEnd | lineStart | lineEnd => false
  | boundary | notBoundary | wordStart | wordEnd | wordStartHalf | wordEndHalf => true

namespace Extended

/-- The length of every match, if they all have the same. -/
def size? : Extended → Option Nat
  | empty | look _ | ahead _ _ | behind _ _ => some 0
  | chars _ => some 1
  | seq a b => a.size?.bind fun m => b.size?.map fun n => m + n
  | alt a b => if a.size? = b.size? then a.size? else none
  | group _ p | atomic p => p.size?
  | «repeat» least most _ p => if most = some least then p.size?.map (least * ·) else none
  | reference _ => none

def join : Extended → Extended → Extended
  | empty, q => q
  | p, empty => p
  | p, q => seq p q

/-- Look behind for a pattern. Alternatives of different lengths are looked for one by one. -/
def lookBehind (negated : Bool) : Extended → Extended
  | alt a b =>
    if (alt a b).size?.isSome then behind negated (alt a b)
    else if negated then seq (behind true a) (lookBehind true b)
    else alt (behind false a) (lookBehind false b)
  | p => behind negated p

/-- Whether copies of a pattern may be asked for: not of what never moves. -/
def isRepeatable : Extended → Bool
  | empty | look _ | ahead _ _ | behind _ _ => false
  | _ => true

/-- The pattern a program can run, unless there is need to go back over what was matched: for
look-around, edges of words, references and the groups they name. -/
def plain? (referenced : List Nat) : Extended → Option Pattern
  | empty => some .empty
  | chars s => some (.chars s)
  | look l => if l.aboutWords then none else some (.look l)
  | seq a b => (a.plain? referenced).bind fun p => (b.plain? referenced).map fun q => .seq p q
  | alt a b => (a.plain? referenced).bind fun p => (b.plain? referenced).map fun q => .alt p q
  | group i p => if referenced.contains i then none else (p.plain? referenced).map (.group i)
  | «repeat» least most greedy p => (p.plain? referenced).map (.repeated least most greedy)
  | ahead _ _ | behind _ _ | atomic _ | reference _ => none

end Extended
end Caseflow.Regex
