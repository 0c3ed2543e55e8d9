import Mathlib.Data.List.Chain
import Mathlib.Data.List.Nodup
import Caseflow.Proofs.Case.Grounded

/-!
# Courses of predictions

Without a limit a prediction goes from case to case until nothing can happen any more, no move can
be made, or all is as it was before. Its courses so far are the ends of one another, so what a
prediction with a limit answers follows from the course that it has taken when it ends or meets the
limit.
-/
namespace Caseflow.Case

open Scenario Time

variable {engine : Engine} {start c next : Case} {past run longer : List Case} {limit : Nat}
  {answer : Result (List Forecast)} {xs : List Forecast}

/-- Whether a prediction halts at the first of its cases, which come latest first: all is as it was
before, or nothing can happen any more. -/
def halts : List Case → Bool
  | [] => true
  | c :: past => (past.map fingerprint).contains c.fingerprint || c.isFinished

theorem halts_cons : halts (c :: past) =
    ((past.map fingerprint).contains c.fingerprint || c.isFinished) := rfl

/-- The cases that a prediction without a limit has gone through so far, latest first. -/
inductive Course (engine : Engine) (start : Case) : List Case → Prop
  | start : Course engine start [start]
  | move {c next : Case} {past : List Case} (h : Course engine start (c :: past))
      (hgo : halts (c :: past) = false) (hnext : engine.predictNext c = .ok (some next)) :
      Course engine start (next :: c :: past)

/-- Whether a prediction that does not halt can make no move. -/
def Engine.IsStuck (engine : Engine) : List Case → Prop
  | [] => False
  | c :: past => halts (c :: past) = false ∧ engine.predictNext c = .ok none

def Engine.Ends (engine : Engine) (run : List Case) : Prop := halts run = true ∨ engine.IsStuck run

def Engine.GoesOn (engine : Engine) : List Case → Prop
  | [] => False
  | c :: past => halts (c :: past) = false ∧ ∃ next, engine.predictNext c = .ok (some next)

theorem Engine.IsStuck.not_halts (h : engine.IsStuck run) : halts run = false := by
  cases run with
  | nil => exact h.elim
  | cons c past => exact h.1

theorem Engine.Ends.not_goesOn (h : engine.Ends run) : ¬ engine.GoesOn run := by
  intro hgoes
  cases run with
  | nil => exact hgoes
  | cons c past =>
    obtain ⟨hgo, next, hnext⟩ := hgoes
    obtain hhalts | ⟨-, hstuck⟩ := h
    · cases hgo.symm.trans hhalts
    · cases hnext.symm.trans hstuck

theorem Course.ne_nil (h : Course engine start run) : run ≠ [] := by
  cases h with
  | start => exact List.cons_ne_nil _ _
  | move => exact List.cons_ne_nil _ _

theorem Course.exists_longer (h : Course engine start run) (hgoes : engine.GoesOn run) :
    ∃ next, Course engine start (next :: run) := by
  cases run with
  | nil => exact hgoes.elim
  | cons c past =>
    obtain ⟨hgo, next, hnext⟩ := hgoes
    exact ⟨next, h.move hgo hnext⟩

/-- Whatever a course has gone through, it has gone on from there. -/
theorem Course.goesOn (h : Course engine start longer) (hsuffix : run <:+ longer)
    (hne : run ≠ []) (hless : run ≠ longer) : engine.GoesOn run := by
  induction h with
  | start =>
    obtain hsame | hnil := List.suffix_cons_iff.1 hsuffix
    · exact absurd hsame hless
    · exact absurd (List.suffix_nil.1 hnil) hne
  | @move c next past _ hgo hnext ih =>
    obtain hsame | hshorter := List.suffix_cons_iff.1 hsuffix
    · exact absurd hsame hless
    · by_cases hlast : run = c :: past
      · rw [hlast]
        exact ⟨hgo, next, hnext⟩
      · exact ih hshorter hlast

/-- A prediction has no choice: of two courses of a start, one is the end of the other. -/
theorem Course.suffix (h : Course engine start run) (hlonger : Course engine start longer)
    (hle : run.length ≤ longer.length) : run <:+ longer := by
  induction hlonger generalizing run with
  | start =>
    cases h with
    | start => exact List.suffix_rfl
    | move => simp at hle
  | @move c next past hcourse hgo hnext ih =>
    cases h with
    | start => exact List.suffix_cons_iff.2 (.inr (ih .start (by simp)))
    | @move d later before hbefore hbegun hlater =>
      have hsuffix := ih hbefore (by simpa using hle)
      obtain hsame | hshorter := Nat.eq_or_lt_of_le hsuffix.length_le
      · cases hsuffix.eq_of_length hsame
        cases hnext.symm.trans hlater
        exact List.suffix_rfl
      · exact List.suffix_cons_iff.2 (.inr (ih (.move hbefore hbegun hlater) hshorter))

/-- A course that goes no further has all that another one has, up to where that one is. -/
theorem Course.eq_of_length_le (h : Course engine start run) (hends : ¬ engine.GoesOn run)
    (hlonger : Course engine start longer) (hle : run.length ≤ longer.length) : run = longer := by
  refine Decidable.byContradiction fun hless => ?_
  exact hends (hlonger.goesOn (h.suffix hlonger hle) h.ne_nil hless)

theorem Course.eq_of_not_goesOn {other : List Case} (h : Course engine start run)
    (hends : ¬ engine.GoesOn run) (hother : Course engine start other)
    (hlast : ¬ engine.GoesOn other) : run = other := by
  obtain hle | hle := Nat.le_total run.length other.length
  · exact h.eq_of_length_le hends hother hle
  · exact (hother.eq_of_length_le hlast h hle).symm

def statesOf (run : List Case) : List Forecast := run.reverse.map forecast

theorem statesOf_cons (c : Case) (past : List Case) :
    statesOf (c :: past) = statesOf past ++ [c.forecast] := by
  rw [statesOf, List.reverse_cons, List.map_append]
  rfl

/-- What a prediction answers that may have so many states, by the course that it has taken: it
looks for a move only if there is room for another state. -/
inductive Answer (engine : Engine) (limit : Nat) : List Case → Result (List Forecast) → Prop
  | halted {run : List Case} (hhalts : halts run = true) (hle : run.length ≤ max limit 1) :
      Answer engine limit run (.ok (statesOf run))
  | stuck {run : List Case} (hstuck : engine.IsStuck run) (hlt : run.length < limit) :
      Answer engine limit run (.ok (statesOf run))
  | cut {run : List Case} (hgo : halts run = false) (hlength : run.length = max limit 1) :
      Answer engine limit run (.error (.predictionLimit limit))
  | failed {c : Case} {past : List Case} {e : Error} (hgo : halts (c :: past) = false)
      (herror : engine.predictNext c = .error e) (hlt : (c :: past).length < limit) :
      Answer engine limit (c :: past) (.error e)

theorem predictFrom_of_move {room : Nat} {seen : List String}
    (hnext : engine.predictNext c = .ok (some next)) :
    engine.predictFrom limit (room + 1) c seen =
      if seen.contains next.fingerprint || next.isFinished then .ok [next.forecast]
      else (next.forecast :: ·) <$>
        engine.predictFrom limit room next (next.fingerprint :: seen) := by
  rw [Engine.predictFrom, hnext]
  rfl

theorem predictFrom_cons {room : Nat} (hnext : engine.predictNext c = .ok (some next)) :
    (statesOf (c :: past) ++ ·) <$>
        engine.predictFrom limit (room + 1) c ((c :: past).map fingerprint) =
      if halts (next :: c :: past) then .ok (statesOf (next :: c :: past))
      else (statesOf (next :: c :: past) ++ ·) <$>
        engine.predictFrom limit room next ((next :: c :: past).map fingerprint) := by
  rw [predictFrom_of_move hnext, ← halts_cons, ← List.map_cons, statesOf_cons next]
  cases halts (next :: c :: past) with
  | true => rfl
  | false =>
    rw [if_neg (by decide), if_neg (by decide)]
    cases engine.predictFrom limit room next ((next :: c :: past).map fingerprint) with
    | error e => rfl
    | ok later => exact congrArg Except.ok (List.append_assoc _ [next.forecast] later).symm

theorem exists_answer_predictFrom {room : Nat} (h : Course engine start (c :: past))
    (hgo : halts (c :: past) = false) (hroom : (c :: past).length + room = max limit 1) :
    ∃ run, Course engine start run ∧
      Answer engine limit run ((statesOf (c :: past) ++ ·) <$>
        engine.predictFrom limit room c ((c :: past).map fingerprint)) := by
  induction room generalizing c past with
  | zero => exact ⟨c :: past, h, .cut hgo hroom⟩
  | succ room ih =>
    have hlt : (c :: past).length < limit := by
      rw [List.length_cons] at hroom ⊢
      omega
    cases hnext : engine.predictNext c with
    | error e =>
      refine ⟨c :: past, h, ?_⟩
      rw [Engine.predictFrom, hnext]
      exact .failed hgo hnext hlt
    | ok found =>
      cases found with
      | none =>
        refine ⟨c :: past, h, ?_⟩
        rw [Engine.predictFrom, hnext]
        change Answer _ _ _ (.ok (statesOf (c :: past) ++ []))
        rw [List.append_nil]
        exact .stuck ⟨hgo, hnext⟩ hlt
      | some next =>
        have hcourse := h.move hgo hnext
        rw [predictFrom_cons hnext]
        cases hhalts : halts (next :: c :: past) with
        | true =>
          refine ⟨next :: c :: past, hcourse, .halted hhalts ?_⟩
          rw [List.length_cons]
          omega
        | false =>
          refine ih hcourse hhalts ?_
          rw [List.length_cons]
          omega

/-- A prediction answers by the course that it has taken. -/
theorem exists_answer (engine : Engine) (limit : Nat) (c : Case) :
    ∃ run, Course engine c run ∧ Answer engine limit run (engine.predict limit c) := by
  have hhalts : halts [c] = c.isFinished := rfl
  unfold Engine.predict
  cases hfinished : c.isFinished with
  | true =>
    exact ⟨[c], .start, .halted (hhalts.trans hfinished) (Nat.le_max_right _ _)⟩
  | false =>
    have hroom : [c].length + (limit - 1) = max limit 1 := by
      rw [List.length_singleton]
      omega
    obtain ⟨run, hrun, hanswer⟩ :=
      exists_answer_predictFrom .start (hhalts.trans hfinished) hroom
    refine ⟨run, hrun, ?_⟩
    rw [if_neg (by decide)]
    exact hanswer

theorem Answer.of_ok (h : Answer engine limit run (.ok xs)) :
    xs = statesOf run ∧ engine.Ends run ∧ run.length ≤ max limit 1 ∧
      (engine.IsStuck run → run.length < limit) := by
  cases h with
  | halted hhalts hle =>
    exact ⟨rfl, .inl hhalts, hle, fun hstuck => (nomatch hstuck.not_halts.symm.trans hhalts)⟩
  | stuck hstuck hlt => exact ⟨rfl, .inr hstuck, by omega, fun _ => hlt⟩

theorem Answer.eq_or_cut (h : Answer engine limit run answer) :
    (¬ engine.GoesOn run ∧ run.length ≤ max limit 1) ∨
      halts run = false ∧ run.length = max limit 1 ∧
        answer = .error (.predictionLimit limit) := by
  cases h with
  | halted hhalts hle => exact .inl ⟨Engine.Ends.not_goesOn (.inl hhalts), hle⟩
  | stuck hstuck hlt => exact .inl ⟨Engine.Ends.not_goesOn (.inr hstuck), by omega⟩
  | cut hgo hlength => exact .inr ⟨hgo, hlength, rfl⟩
  | failed hgo herror hlt =>
    refine .inl ⟨?_, by omega⟩
    rintro ⟨-, next, hnext⟩
    cases herror.symm.trans hnext

/-- A course that ends within the limit is answered, if there is room to find that no move can be
made. -/
theorem Course.predict_of_ends (h : Course engine c run) (hends : engine.Ends run)
    (hle : run.length ≤ max limit 1) (hroom : engine.IsStuck run → run.length < limit) :
    engine.predict limit c = .ok (statesOf run) := by
  obtain ⟨other, hother, hanswer⟩ := exists_answer engine limit c
  have hsame : run = other := by
    obtain ⟨hlast, -⟩ | ⟨-, hlength, -⟩ := hanswer.eq_or_cut
    · exact h.eq_of_not_goesOn hends.not_goesOn hother hlast
    · exact h.eq_of_length_le hends.not_goesOn hother (by omega)
  subst hsame
  generalize engine.predict limit c = answer at hanswer
  cases hanswer with
  | halted => rfl
  | stuck => rfl
  | cut hgo hlength =>
    obtain hhalts | hstuck := hends
    · cases hgo.symm.trans hhalts
    · have hlt := hroom hstuck
      omega
  | failed hgo herror =>
    obtain hhalts | ⟨-, hnone⟩ := hends
    · cases hgo.symm.trans hhalts
    · cases herror.symm.trans hnone

theorem Course.predict_of_cut (h : Course engine c run) (hgo : halts run = false)
    (hlength : run.length = max limit 1) :
    engine.predict limit c = .error (.predictionLimit limit) := by
  obtain ⟨other, hother, hanswer⟩ := exists_answer engine limit c
  obtain ⟨hlast, hle⟩ | ⟨-, -, hcut⟩ := hanswer.eq_or_cut
  · obtain rfl := hother.eq_of_length_le hlast h (by omega)
    generalize engine.predict limit c = answer at hanswer
    cases hanswer with
    | halted hhalts => cases hgo.symm.trans hhalts
    | stuck hstuck hlt => omega
    | cut => rfl
    | failed hgo herror hlt => omega
  · exact hcut

/-- The cases that a prediction goes through, in order: each follows from the one before, no two but
the last are alike, and in the last nothing can happen, no move can be made, or all is as it was
before. -/
structure Engine.Foretells (engine : Engine) (c : Case) (cases : List Case) : Prop where
  starts : cases.head? = some c
  proceeds : cases.IsChain engine.Proceeds
  fresh : (cases.dropLast.map fingerprint).Nodup
  ends : ∃ last, cases.getLast? = some last ∧ (last.isFinished = true ∨
    engine.predictNext last = .ok none ∨ last.fingerprint ∈ cases.dropLast.map fingerprint)

theorem Course.getLast? (h : Course engine start run) : run.getLast? = some start := by
  induction h with
  | start => rfl
  | move _ _ _ ih => rw [List.getLast?_cons_cons, ih]

theorem Course.isChain (h : Course engine start run) :
    run.IsChain fun next c => engine.Proceeds c next := by
  induction h with
  | start => exact .singleton _
  | move _ _ hnext ih => exact .cons_cons (Engine.proceeds hnext) ih

theorem Course.nodup (h : Course engine start run) : (run.tail.map fingerprint).Nodup := by
  induction h with
  | start => exact List.nodup_nil
  | move _ hgo _ ih =>
    obtain ⟨hnew, -⟩ := Bool.or_eq_false_iff.1 hgo
    refine List.nodup_cons.2 ⟨?_, ih⟩
    rw [← List.contains_iff_mem, hnew]
    decide

theorem Course.foretells (h : Course engine c run) (hends : engine.Ends run) :
    engine.Foretells c run.reverse where
  starts := by rw [List.head?_reverse, h.getLast?]
  proceeds := List.isChain_reverse.2 h.isChain
  fresh := by
    rw [List.dropLast_reverse, List.map_reverse, List.nodup_reverse]
    exact h.nodup
  ends := by
    rw [List.getLast?_reverse, List.dropLast_reverse]
    cases run with
    | nil => exact absurd rfl h.ne_nil
    | cons last past =>
      refine ⟨last, rfl, ?_⟩
      obtain hhalts | ⟨-, hnone⟩ := hends
      · obtain hseen | hfinished := Bool.or_eq_true_iff.1 hhalts
        · refine .inr (.inr ?_)
          rw [List.map_reverse, List.mem_reverse]
          exact List.contains_iff_mem.1 hseen
        · exact .inl hfinished
      · exact .inr (.inl hnone)

/-- After an hour the email service should send, which the client is taken to stand in for, but
cannot; that the case lapses is ruled out. -/
def stallingDocument : Json := .obj [
  ("actors", .obj [("client", .null)]),
  ("states", .obj [
    ("initial", .obj [("after", .str "1 hour"), ("goto", .str "stalled")]),
    ("stalled", .obj [("transitions", .arr [
      .obj [("by", .str "service:email"), ("goto", .str "(sent)"), ("on", .str "send")],
      .obj [("after", .str "1 hour"), ("goto", .str "(lapsed)"), ("if", .bool false)]])])])]

def stalled : Option (Case × Case × State) := do
  let c ← trial stallingDocument []
  let next ← ((Engine.standard c.scenario).predictNext c).toOption.join
  let state ← next.state.toOption
  return (c, next, state)

theorem stalled_shown :
    stalled.map (fun (c, next, state) =>
      (halts [c] || halts [next, c],
        decide (((Engine.standard c.scenario).predictNext next).toOption = some none),
        (next.current.timestamp, next.candidateMoves state),
        state.timeoutTransitions.map next.dueTime?)) =
      some (false, true, (afterSeconds 3600, [⟨"send", ⟨"client", none⟩, none⟩]),
        [some (afterSeconds 7200)]) := by
  decide +kernel

/-- The case gets to the second state in time and is at rest there: the client is refused, and
nothing happens when the timeout is due. -/
theorem stalled_at_rest :
    ∃ c next state, trial stallingDocument [] = some c ∧
      (Engine.standard c.scenario).Foretells c [c, next] ∧
      next.current.timestamp = afterSeconds 3600 ∧ next.state = .ok state ∧
      next.candidateMoves state = [⟨"send", ⟨"client", none⟩, none⟩] ∧
      state.timeoutTransitions.map next.dueTime? = [some (afterSeconds 7200)] ∧
      (Engine.standard c.scenario).AtRest next state := by
  obtain ⟨⟨c, next, state⟩, hstalled, hshown⟩ := Option.map_eq_some_iff.1 stalled_shown
  simp only [stalled, Option.bind_eq_bind, Option.bind_eq_some_iff, Option.join_eq_some_iff,
    toOption_eq_some_iff] at hstalled
  obtain ⟨c, hc, next, hnext, state, hstate, heq⟩ := hstalled
  cases heq
  obtain ⟨hgo, hshown⟩ := Prod.mk.inj hshown
  obtain ⟨hnone, hshown⟩ := Prod.mk.inj hshown
  obtain ⟨hentered, hdue⟩ := Prod.mk.inj hshown
  obtain ⟨htime, hmoves⟩ := Prod.mk.inj hentered
  obtain ⟨hbegun, hlast⟩ := Bool.or_eq_false_iff.1 hgo
  have hstuck := toOption_eq_some_iff.1 (of_decide_eq_true hnone)
  have hcourse : Course (Engine.standard c.scenario) c [next, c] :=
    Course.start.move hbegun hnext
  exact ⟨c, next, state, hc, hcourse.foretells (.inr ⟨hlast, hstuck⟩), htime, hstate, hmoves, hdue,
    (predictNext_eq_none_iff hstate).1 hstuck⟩

/-- Two states that follow each other for ever. -/
def circlingDocument : Json := .obj [("states", .obj [
  ("initial", .obj [("goto", .str "asked"), ("on", .str "ask")]),
  ("asked", .obj [("goto", .str "initial"), ("on", .str "answer")])])]

theorem circling_predicted :
    ((trial circlingDocument []).bind fun c =>
        ((Engine.standard c.scenario).predict 3 c).toOption.map (·.map (·.key))) =
      some ["initial", "asked", "initial"] := by
  decide +kernel

end Caseflow.Case
