import Caseflow.Regex.Pattern

/-!
# Programs of a pattern

A pattern becomes a program: an array of steps that name the steps after them. A fork tries its
first branch before its second, which is how greed and the order of alternatives are kept. Programs
are built backwards, each pattern with the address to go on at.
-/
namespace Caseflow.Regex

inductive Step
  | chars (s : CharSet) (next : Nat)
  | look (l : Look) (next : Nat)
  | save (slot : Nat) (next : Nat)
  | fork (first second : Nat)
  | accept

abbrev Builder := StateM (Array Step)

namespace Builder

def push (step : Step) : Builder Nat := fun steps => (steps.size, steps.push step)

def set (address : Nat) (step : Step) : Builder Unit := fun steps =>
  ((), steps.setIfInBounds address step)

/-- A fork between going on with a pattern and leaving it, by greed. -/
def choice (greedy : Bool) (inside outside : Nat) : Step :=
  if greedy then .fork inside outside else .fork outside inside

/-- So many copies of what `build` builds, ending at `next`. -/
def copies (build : Nat → Builder Nat) : Nat → Nat → Builder Nat
  | 0, next => pure next
  | n + 1, next => do copies build n (← build next)

/-- Up to so many copies, each within the one before it, all leaving to `next`. -/
def optionalCopies (build : Nat → Builder Nat) (greedy : Bool) (exit : Nat) :
    Nat → Nat → Builder Nat
  | 0, next => pure next
  | n + 1, next => do
    let inside ← build next
    optionalCopies build greedy exit n (← push (choice greedy inside exit))

/-- One or more copies. Returns the address of the first copy. -/
def atLeastOne (build : Nat → Builder Nat) (greedy : Bool) (next : Nat) : Builder Nat := do
  let loop ← push .accept
  let start ← build loop
  set loop (choice greedy start next)
  pure start

def anyNumber (build : Nat → Builder Nat) (greedy : Bool) (next : Nat) : Builder Nat := do
  let loop ← push .accept
  let start ← build loop
  set loop (choice greedy start next)
  pure loop

end Builder

open Builder

/-- Build the steps of a pattern that goes on at `next`; returns where it starts. -/
def Pattern.build : Pattern → Nat → Builder Nat
  | empty, next => pure next
  | .chars s, next => push (.chars s next)
  | .look l, next => push (.look l next)
  | seq a b, next => do a.build (← b.build next)
  | alt a b, next => do
    let first ← a.build next
    let second ← b.build next
    push (.fork first second)
  | group i p, next => do
    let close ← push (.save (2 * i + 1) next)
    let start ← p.build close
    push (.save (2 * i) start)
  | «repeat» 0 none greedy p, next =>
    if p.maybeEmpty then do
      let start ← atLeastOne p.build greedy next
      push (choice greedy start next)
    else anyNumber p.build greedy next
  | «repeat» (least + 1) none greedy p, next => do
    copies p.build least (← atLeastOne p.build greedy next)
  | «repeat» least (some most) greedy p, next => do
    copies p.build least (← optionalCopies p.build greedy next (most - least) next)

/-- A compiled expression: its steps, where to start, and its groups. -/
structure Program where
  steps : Array Step
  start : Nat
  groups : Nat
  names : List (String × Nat)

def weightLimit : Nat := 250000

def Program.ofPattern (p : Pattern) (names : List (String × Nat)) : Program :=
  let whole : Builder Nat := do
    let done ← push .accept
    p.build done
  let (start, steps) := whole #[]
  ⟨steps, start, p.maxGroup + 1, names⟩

def Pattern.program? (p : Pattern) (names : List (String × Nat)) : Option Program :=
  if p.weight ≤ weightLimit then some (Program.ofPattern p names) else none

end Caseflow.Regex
