import Caseflow.Regex.Extended.Basic
import Caseflow.Regex.Search

/-!
# Plans of extended patterns

A plan says how a pattern is tried. A part that needs no going back, and after which nothing of the
pattern follows, is run once by a program and keeps its first match; all else is tried by going back
to the last choice. Looking behind goes back by the one length of what is looked for, so a pattern
without one has no plan.
-/
namespace Caseflow.Regex

inductive Plan
  | empty
  | chars (s : CharSet)
  | look (l : Look)
  | once (prog : Program)
  | seq (a b : Plan)
  | alt (a b : Plan)
  | group (index : Nat) (p : Plan)
  | repeat (least : Nat) (most : Option Nat) (greedy : Bool) (p : Plan)
  | ahead (negated : Bool) (p : Plan)
  | behind (negated : Bool) (size : Nat) (p : Plan)
  | atomic (p : Plan)
  | reference (index : Nat)

/-- The plan of a pattern. With `inner`, more of the whole pattern may follow, so that every way to
match has to be tried. -/
def Extended.plan? (referenced : List Nat) (inner : Bool) (p : Extended) : Option Plan :=
  match inner, p.plain? referenced with
  | false, some q => (q.program? []).map .once
  | _, _ =>
    match p with
    | empty => some .empty
    | chars s => some (.chars s)
    | look l => some (.look l)
    | seq a b =>
      (a.plan? referenced true).bind fun x =>
        (b.plan? referenced (inner || (b.plain? referenced).isNone)).map fun y => .seq x y
    | alt a b =>
      (a.plan? referenced inner).bind fun x => (b.plan? referenced inner).map fun y => .alt x y
    | group i q => (q.plan? referenced inner).map (.group i)
    | «repeat» least most greedy q =>
      let optional := least == 0 && most == some 1
      (q.plan? referenced (inner || (!optional && (q.plain? referenced).isNone))).map
        (.repeat least most greedy)
    | ahead negated q => (q.plan? referenced false).map (.ahead negated)
    | behind negated q =>
      q.size?.bind fun n => (q.plan? referenced false).map (.behind negated n)
    | atomic q => (q.plan? referenced false).map .atomic
    | reference i => some (.reference i)

end Caseflow.Regex
