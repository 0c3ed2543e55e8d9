import Caseflow.Proofs.Case.Course

/-!
# Limits of predictions

A limit should only cut off predictions that have more states than it allows. One that ends with as
many states as are allowed is answered if nothing can happen any more or all is as it was before.
But whether a move can be made is not looked at when there is no room for another state, so a
prediction that ends there because it can make no move is cut off as well.
-/
namespace Caseflow.Case

open Scenario Time

variable {engine : Engine} {c : Case} {run : List Case} {limit n : Nat}

/-- A fault that says that a prediction has more states than are allowed. -/
def Error.IsLimit : Error → Prop
  | predictionLimit _ => True
  | _ => False

theorem removed_isLimit : Removed Error.IsLimit := ⟨fun _ => not_false, fun _ => not_false⟩

theorem not_dangles_isLimit : ¬ Dangles Error.IsLimit := by
  rintro ⟨e, hlimit, hdangling⟩
  cases e <;> first | exact hlimit | exact hdangling

theorem predictNext_ne_limit : engine.predictNext c ≠ .error (.predictionLimit n) := fun h =>
  avoids_predictNext removed_isLimit (fun hdangles => (not_dangles_isLimit hdangles).elim) _ h
    trivial

/-- A prediction is cut off if it has as many states as are allowed and does not halt there. -/
theorem predict_eq_limit_iff (hpos : 1 ≤ limit) :
    engine.predict limit c = .error (.predictionLimit n) ↔
      n = limit ∧ ∃ run, Course engine c run ∧ run.length = limit ∧ halts run = false := by
  have hmax : max limit 1 = limit := Nat.max_eq_left hpos
  constructor
  · intro h
    obtain ⟨run, hrun, hanswer⟩ := exists_answer engine limit c
    rw [h] at hanswer
    cases hanswer with
    | cut hgo hlength => exact ⟨rfl, run, hrun, hlength.trans hmax, hgo⟩
    | failed hgo herror hlt => exact absurd herror predictNext_ne_limit
  · rintro ⟨rfl, run, hrun, hlength, hgo⟩
    exact hrun.predict_of_cut hgo (hlength.trans hmax.symm)

/-- What a limit should do: a prediction that ends with as many states as are allowed is answered,
and one that is cut off has one more. -/
structure Engine.KeepsLimit (engine : Engine) (limit : Nat) (c : Case) : Prop where
  answered : ∀ run, Course engine c run → engine.Ends run → run.length ≤ limit →
    engine.predict limit c = .ok (statesOf run)
  cut : ∀ n, engine.predict limit c = .error (.predictionLimit n) →
    ∃ run, Course engine c run ∧ run.length = limit + 1

/-- From as many states as are allowed a move is made, unless the prediction halts or is cut off too
early. -/
theorem Engine.KeepsLimit.goesOn (h : engine.KeepsLimit limit c) (hpos : 1 ≤ limit)
    (hrun : Course engine c run) (hlength : run.length = limit) (hgo : halts run = false) :
    engine.GoesOn run := by
  have hcut := (predict_eq_limit_iff hpos).2 ⟨rfl, run, hrun, hlength, hgo⟩
  obtain ⟨longer, hlonger, hmore⟩ := h.cut limit hcut
  have hless : run.length < longer.length := by rw [hlength, hmore]; exact Nat.lt_succ_self _
  refine hlonger.goesOn (hrun.suffix hlonger (Nat.le_of_lt hless)) hrun.ne_nil fun hsame => ?_
  exact Nat.ne_of_lt hless (congrArg List.length hsame)

/-- What could be done is ruled out. -/
def stuckDocument : Json := .obj [("states", .obj [
  ("initial", .obj [("transitions", .arr [
    .obj [("goto", .str "(done)"), ("if", .bool false), ("on", .str "finish")]])])])]

theorem stuck_predicted :
    ((trial stuckDocument []).bind fun c =>
      ((Engine.standard c.scenario).predictNext c).toOption.map fun next =>
        (c.isFinished, next.isNone)) = some (false, true) := by
  decide +kernel

/-- A limit is kept exactly if the prediction goes on where it has as many states as are allowed and
does not halt. -/
theorem keepsLimit_iff (hpos : 1 ≤ limit) :
    (∀ n, engine.predict limit c = .error (.predictionLimit n) ↔
      n = limit ∧ ∃ run, Course engine c run ∧ run.length = limit ∧ halts run = false) ∧
    (engine.KeepsLimit limit c ↔
      ∀ run, Course engine c run → run.length = limit → halts run = false → engine.GoesOn run) := by
  refine ⟨fun _ => predict_eq_limit_iff hpos, ?_, fun hgoes => ⟨?_, ?_⟩⟩
  · intro h run hrun hlength hgo
    exact h.goesOn hpos hrun hlength hgo
  · intro run hrun hends hle
    refine hrun.predict_of_ends hends (by omega) fun hstuck => ?_
    refine Nat.lt_of_le_of_ne hle fun hlength => ?_
    exact hends.not_goesOn (hgoes run hrun hlength hstuck.not_halts)
  · intro n hcut
    obtain ⟨-, run, hrun, hlength, hgo⟩ := (predict_eq_limit_iff hpos).1 hcut
    obtain ⟨next, hnext⟩ := hrun.exists_longer (hgoes run hrun hlength hgo)
    exact ⟨next :: run, hnext, congrArg (· + 1) hlength⟩

/-- Two states are too few for a prediction that goes on to a third one, where all is as it was
before. -/
theorem circling_cut_off :
    ∃ c, trial circlingDocument [] = some c ∧
      (Engine.standard c.scenario).predict 2 c = .error (.predictionLimit 2) ∧
      (Engine.standard c.scenario).KeepsLimit 2 c := by
  obtain ⟨c, hc, h⟩ := Option.bind_eq_some_iff.1 circling_predicted
  obtain ⟨xs, hxs, hkeys⟩ := Option.map_eq_some_iff.1 h
  obtain ⟨run, hrun, hanswer⟩ := exists_answer (Engine.standard c.scenario) 3 c
  rw [toOption_eq_some_iff.1 hxs] at hanswer
  obtain ⟨rfl, -, -⟩ := hanswer.of_ok
  have hlength : run.length = 3 := by
    simpa [statesOf] using congrArg List.length hkeys
  have htwo : 1 ≤ 2 := by decide
  refine ⟨c, hc, ((keepsLimit_iff htwo).1 2).2 ⟨rfl, ?_⟩, (keepsLimit_iff htwo).2.2 ?_⟩
  · cases hrun with
    | start => cases hlength
    | move hpast hgo _ => exact ⟨_, hpast, Nat.succ.inj hlength, hgo⟩
  · intro past hpast hshort _
    refine hrun.goesOn (hpast.suffix hrun (by omega)) hpast.ne_nil fun hsame => ?_
    cases hshort.symm.trans ((congrArg List.length hsame).trans hlength)

/-- A prediction with one state, in which no move can be made, is cut off as if it had two. -/
theorem stuck_cut_off :
    ∃ s c, normalize stuckDocument = .ok s ∧ Reachable (Engine.standard s) s c ∧
      Course (Engine.standard s) c [c] ∧ (Engine.standard s).IsStuck [c] ∧
      (Engine.standard s).predict 1 c = .error (.predictionLimit 1) ∧
      ¬ (Engine.standard s).KeepsLimit 1 c := by
  obtain ⟨c, hc, h⟩ := Option.bind_eq_some_iff.1 stuck_predicted
  obtain ⟨next, hnext, hshown⟩ := Option.map_eq_some_iff.1 h
  obtain ⟨hfinished, hnone⟩ := Prod.mk.inj hshown
  obtain rfl := Option.isNone_iff_eq_none.1 hnone
  obtain ⟨hs, hreachable⟩ := reachable_of_trial hc
  have hstuck : (Engine.standard c.scenario).IsStuck [c] :=
    ⟨halts_cons.trans hfinished, toOption_eq_some_iff.1 hnext⟩
  have hcut : (Engine.standard c.scenario).predict 1 c = .error (.predictionLimit 1) :=
    Course.start.predict_of_cut hstuck.not_halts rfl
  refine ⟨c.scenario, c, hs, hreachable, .start, hstuck, hcut, fun hkeeps => ?_⟩
  have hanswered := hkeeps.answered [c] .start (.inr hstuck) (Nat.le_refl 1)
  cases hcut.symm.trans hanswered

end Caseflow.Case
