import Caseflow.Proofs.Case.Chain

/-!
# Rebuilding cases

Whatever an operation appends to the log can be applied again and makes the same case. So the log
of a reachable case is all that is needed to rebuild it.
-/
namespace Caseflow.Case

open Scenario Time

variable {engine : Engine} {s : Scenario} {c next : Case} {move : Move} {now : Timestamp}

@[simp] theorem givenResponse_givenResponse (response : Option Json) :
    givenResponse (givenResponse response) = givenResponse response := by
  simp [givenResponse, Option.filter_filter]

@[simp] theorem effectiveResponse_givenResponse (action : Action) (response : Option Json) :
    effectiveResponse action (givenResponse response) = effectiveResponse action response := by
  rw [effectiveResponse, givenResponse_givenResponse, ← effectiveResponse]

/-- An attempt without a response of `null`. -/
def Move.plain (move : Move) : Move := { move with response := givenResponse move.response }

theorem admission_plain (engine : Engine) (c : Case) (move : Move) (predicting : Bool) :
    engine.admission c move.plain predicting = engine.admission c move predicting := by
  unfold Engine.admission Engine.admissionRefusals
  simp only [Move.plain, effectiveResponse_givenResponse]
  rfl

theorem attemptOf_plain (c : Case) (move : Move) (now : Timestamp) (reasons : List Refusal) :
    c.attemptOf move.plain now reasons = c.attemptOf move now reasons := by
  simp only [attemptOf, Move.plain, givenResponse_givenResponse]

theorem decide_plain (engine : Engine) (c : Case) (move : Move) (now : Timestamp)
    (predicting : Bool) :
    engine.decide c move.plain now predicting = engine.decide c move now predicting := by
  unfold Engine.decide
  rw [admission_plain, attemptOf_plain]
  rfl

theorem move_recorded (c : Case) (move : Move) (now : Timestamp) (reasons : List Refusal) :
    (c.recorded move now reasons).move = move.plain := rfl

theorem apply_attemptOf {reasons : List Refusal} (hne : c.events ≠ [])
    (h : Happens engine c (c.attemptOf move now reasons) next) :
    engine.apply c (c.attemptOf move now reasons) = .ok next :=
  apply_eq_ok_iff.2 ⟨(hash_attemptOf ..).symm, previous?_attemptOf hne, h⟩

theorem apply_step (hne : c.events ≠ []) (h : engine.step c move now = .ok next) :
    ∃ e, next.events = c.events ++ [e] ∧ engine.apply c e = .ok next := by
  obtain htaken | ⟨reasons, hreasons, -, rfl⟩ := step_eq_ok_iff.1 h
  · refine ⟨c.attemptOf move now [], events_decide htaken, apply_attemptOf hne ?_⟩
    rw [attemptOf_eq]
    refine .taken rfl ?_
    rw [move_recorded, decide_plain]
    exact htaken
  · refine ⟨c.attemptOf move now reasons, rfl, apply_attemptOf hne ?_⟩
    rw [attemptOf_eq]
    refine .skipped ?_
    simpa [recorded] using hreasons

theorem apply_expire (hne : c.events ≠ []) (h : engine.expire? c now = .ok (some next)) :
    ∃ e, next.events = c.events ++ [e] ∧ engine.apply c e = .ok next := by
  refine ⟨c.expiryOf now, events_expire h, apply_eq_ok_iff.2 ⟨?_, previous?_expiryOf hne, ?_⟩⟩
  · exact (hash_expiryOf ..).symm
  · rw [expiryOf_eq]
    exact .expired h

theorem replay_instantiate {start : Start} (h : engine.instantiate s start = .ok c) :
    engine.replay s c.events = .ok c := by
  obtain ⟨actors, stage, -, -, -, hc⟩ := begin_eq_ok_iff.1 h
  have hevents : c.events = [.genesis (Engine.genesisOf s start).sealed] := by rw [hc]; rfl
  rw [hevents]
  exact replay_eq_ok_iff.2 ⟨_, [], c, rfl, Genesis.hash_sealed _, rfl, h, rfl⟩

theorem replay_apply {e : Event} (hc : engine.replay s c.events = .ok c)
    (hevents : next.events = c.events ++ [e]) (h : engine.apply c e = .ok next) :
    engine.replay s next.events = .ok next := by
  rw [hevents, replay_append hc]
  exact bind_eq_ok_iff.2 ⟨next, h, rfl⟩

theorem Reachable.replay_events (h : Reachable engine s c) :
    engine.replay s c.events = .ok c := by
  induction h with
  | start h => exact replay_instantiate h
  | step hc h ih =>
    obtain ⟨e, hevents, happly⟩ := apply_step hc.produced.validChain.ne_nil h
    exact replay_apply ih hevents happly
  | timeout hc h ih =>
    obtain ⟨-, rfl⟩ | hdue := timeout_eq_ok_iff.1 h
    · exact ih
    · obtain ⟨e, hevents, happly⟩ := apply_expire hc.produced.validChain.ne_nil hdue
      exact replay_apply ih hevents happly

/-- The case that a run ends in is rebuilt from its log by the engine that made it. -/
theorem replay_rebuilds_played {start : Start} {requests : List Request}
    (h : engine.play s start requests = .ok c) : engine.replay s c.events = .ok c :=
  (reachable_iff_play.2 ⟨start, requests, h⟩).replay_events

theorem replay_rebuilds_expiring :
    ∃ s c, normalize expiringDocument = .ok s ∧
      trial expiringDocument expiringRequests = some c ∧ c.events.length = 4 ∧
      (Engine.standard s).replay s c.events = .ok c := by
  obtain ⟨c, hc, hshown⟩ := Option.map_eq_some_iff.1 trial_expiring
  obtain ⟨s, hs, hplay⟩ := trial_eq_some_iff.1 hc
  exact ⟨s, c, hs, hc, congrArg Prod.snd hshown, replay_rebuilds_played hplay⟩

end Caseflow.Case
