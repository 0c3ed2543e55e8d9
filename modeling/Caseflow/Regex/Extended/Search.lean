import Caseflow.Regex.Extended.Plan

/-!
# Searching with a plan

An attempt tries the choices of a plan in order of preference, each with all that follows it, and
goes back to the last choice when it fails. It may fail only so many times; then it is given up
without an answer.
-/
namespace Caseflow.Regex

/-- Where an attempt stands: the text behind, nearest character first, the text ahead, how far it
came, and what groups matched, latest first. -/
structure Place where
  behind : List Char
  ahead : List Char
  pos : Nat
  groups : List (Nat × List Char)

namespace Place

def forward : Nat → Place → Place
  | 0, p => p
  | n + 1, p =>
    match p.ahead with
    | [] => p
    | c :: rest => forward n { p with behind := c :: p.behind, ahead := rest, pos := p.pos + 1 }

def backward? : Nat → Place → Option Place
  | 0, p => some p
  | n + 1, p =>
    match p.behind with
    | [] => none
    | c :: rest => backward? n { p with behind := rest, ahead := c :: p.ahead, pos := p.pos - 1 }

def capture (index : Nat) (start stop : Place) : Place :=
  { stop with groups := (index, start.ahead.take (stop.pos - start.pos)) :: stop.groups }

def captured? (index : Nat) (p : Place) : Option (List Char) :=
  (p.groups.find? (·.1 == index)).map (·.2)

end Place

/-- How an attempt ends, with the number of failures left to it. -/
inductive Outcome
  | found (place : Place) (left : Nat)
  | missed (left : Nat)
  | exhausted

def Outcome.miss : Nat → Outcome
  | 0 => exhausted
  | left + 1 => missed left

def Outcome.orElse (first : Outcome) (second : Nat → Outcome) : Outcome :=
  match first with
  | missed left => second left
  | o => o

abbrev Attempt := Place → Nat → Outcome

/-- Copies of a step, then what follows. Copies beyond the least that are asked for have to move, if
there is no limit to them. The fuel is at least the number of copies that can be made. -/
def Attempt.copies (step : Attempt → Attempt) (least : Nat) (most : Option Nat) (greedy : Bool)
    (next : Attempt) : Nat → Nat → Attempt
  | 0, _ => fun _ left => .miss left
  | fuel + 1, count => fun p left =>
    let again : Attempt := step fun q left =>
      if most.isNone ∧ least ≤ count ∧ q.pos = p.pos then .miss left
      else copies step least most greedy next fuel (count + 1) q left
    if most = some count then next p left
    else if count < least then again p left
    else if greedy then (again p left).orElse (next p)
    else (next p left).orElse (again p)

def Plan.attempt : Plan → Attempt → Attempt
  | empty, next => next
  | chars s, next => fun p left =>
    if p.ahead.head?.any s.contains then next (p.forward 1) left else .miss left
  | look l, next => fun p left =>
    if l.holds p.behind.head? p.ahead.head? then next p left else .miss left
  | once prog, next => fun p left =>
    match prog.extent? p.behind.head? p.ahead with
    | some n => next (p.forward n) left
    | none => .miss left
  | seq a b, next => a.attempt (b.attempt next)
  | alt a b, next => fun p left => (a.attempt next p left).orElse (b.attempt next p)
  | group i q, next => fun p => q.attempt (fun r => next (p.capture i r)) p
  | «repeat» least most greedy q, next => fun p =>
    let fuel := (most.getD (least + p.ahead.length)) + 2
    Attempt.copies q.attempt least most greedy next fuel 0 p
  | ahead false q, next => fun p =>
    q.attempt (fun r => next { p with groups := r.groups }) p
  | ahead true q, next => fun p left =>
    match q.attempt .found p left with
    | .found _ left => .miss left
    | .missed left => next p left
    | .exhausted => .exhausted
  | behind false n q, next => fun p left =>
    match p.backward? n with
    | some start => q.attempt (fun r => next { p with groups := r.groups }) start left
    | none => .miss left
  | behind true n q, next => fun p left =>
    match p.backward? n with
    | some start =>
      match q.attempt .found start left with
      | .found _ left => .miss left
      | .missed left => next p left
      | .exhausted => .exhausted
    | none => (Outcome.miss left).orElse (next p)
  | atomic q, next => fun p left =>
    match q.attempt .found p left with
    | .found r left => next r left
    | o => o
  | reference i, next => fun p left =>
    match p.captured? i with
    | some text =>
      if text.isPrefixOf p.ahead then next (p.forward text.length) left else .miss left
    | none => .miss left

def failureLimit : Nat := 1000000

def Plan.searchFrom (plan : Plan) (behind : List Char) (pos : Nat) : List Char → Nat → Outcome
  | [], left => plan.attempt .found ⟨behind, [], pos, []⟩ left
  | c :: rest, left =>
    (plan.attempt .found ⟨behind, c :: rest, pos, []⟩ left).orElse
      (plan.searchFrom (c :: behind) (pos + 1) rest)

inductive Verdict
  | matched
  | unmatched
  | abandoned
deriving DecidableEq

inductive Matcher
  | stepwise (prog : Program)
  | backtracking (plan : Plan)

def Matcher.search (m : Matcher) (text : String) : Verdict :=
  match m with
  | stepwise prog => if prog.isMatch text then .matched else .unmatched
  | backtracking plan =>
    match plan.searchFrom [] 0 text.toList failureLimit with
    | .found _ _ => .matched
    | .missed _ => .unmatched
    | .exhausted => .abandoned

end Caseflow.Regex
