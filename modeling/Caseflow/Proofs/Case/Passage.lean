import Caseflow.Case.Forecast
import Caseflow.Proofs.Case.Outcome

/-!
# What operations go through

An attempt that succeeds goes through admission, updates, the check of the case and the choice of a
transition, and then enters a state. `Passage` holds all of it, and `decide_eq_ok_iff` says that a
decision succeeds exactly with the result of a passage. `expire?_eq_some_iff` says the same of a
transition that time takes. A prediction proceeds by the one or the other.
-/
namespace Caseflow.Case

open Scenario Time

variable {engine : Engine} {regex : Regex.Engine} {c next : Case} {move : Move} {now : Timestamp}
  {predicting : Bool}

/-- An actor of the case acts as what the case knows of it. -/
theorem profile?_of_get? {key : String} {profile : Json} (h : c.actors.get? key = some profile) :
    c.profile? key = some profile := by
  rw [profile?, h, Option.some_or]

theorem admission_eq_ok_iff {admission : Admission} :
    engine.admission c move predicting = .ok admission ↔
      ∃ offer action profile, c.current.offer? move.action = some offer ∧
        c.scenario.actions.get? (c.fullKey move.action) = some action ∧
        c.profile? move.actor.key = some profile ∧
        engine.admissionRefusals offer action move profile predicting = [] ∧
        admission = ⟨c.fullKey move.action, action, profile,
          effectiveResponse action move.response⟩ := by
  unfold Engine.admission
  simp only [bind_eq_ok_iff, orRefuse_eq_ok_iff, orFault_eq_ok_iff, orFail_eq_ok_iff,
    pure_eq_ok_iff, exists_and_left]
  constructor
  · rintro ⟨offer, hoffer, action, haction, profile, hprofile, ⟨⟩, hrefuse, rfl⟩
    exact ⟨offer, hoffer, action, haction, profile, hprofile, refuse_eq_ok_iff.1 hrefuse, rfl⟩
  · rintro ⟨offer, hoffer, action, haction, profile, hprofile, hnone, rfl⟩
    exact ⟨offer, hoffer, action, haction, profile, hprofile, (), refuse_eq_ok_iff.2 hnone, rfl⟩

theorem absorb_eq_ok_iff {ctx : Json} {key : String} :
    engine.absorb c ctx key predicting = .ok next ↔
      shapeRefusals ctx = [] ∧ (predicting = false → engine.refusals (c.absorb ctx key) = []) ∧
        next = c.absorb ctx key := by
  simp only [Engine.absorb, bind_eq_ok_iff, pure_eq_ok_iff]
  constructor
  · rintro ⟨⟨⟩, hrefuse, rfl⟩
    have hnone := refuse_eq_ok_iff.1 hrefuse
    rw [List.append_eq_nil_iff] at hnone
    refine ⟨hnone.1, ?_, rfl⟩
    intro hp
    simpa [hp] using hnone.2
  · rintro ⟨hshape, hsound, rfl⟩
    refine ⟨(), refuse_eq_ok_iff.2 ?_, rfl⟩
    rw [hshape, List.nil_append]
    by_cases hp : predicting = true
    · rw [if_pos hp]
    · rw [if_neg hp]
      exact hsound (by simpa using hp)

theorem transitionOf_eq_ok_iff {key : String} {ctx : Json} {t : ActionTransition} :
    engine.transitionOf c move key ctx = .ok t ↔
      ∃ state, c.scenario.states.get? c.current.key = some state ∧
        firstOpen engine.regex ctx (candidates state key move.actor.key) = .ok (some t) := by
  simp only [Engine.transitionOf, bind_eq_ok_iff, orRefuse_eq_ok_iff, orFault_eq_ok_iff,
    orFail_eq_ok_iff]
  constructor
  · rintro ⟨state, hstate, found, hfound, rfl⟩
    exact ⟨state, hstate, hfound⟩
  · rintro ⟨state, hstate, hfound⟩
    exact ⟨state, hstate, some t, hfound, rfl⟩

theorem firstOpen_eq_some {ctx : Json} {ts : List ActionTransition} {t : ActionTransition}
    (h : firstOpen regex ctx ts = .ok (some t)) :
    t ∈ ts ∧ holds regex ctx t.guard = .ok true := by
  induction ts with
  | nil => cases h
  | cons u rest ih =>
    obtain ⟨open?, hopen, h⟩ := bind_eq_ok_iff.1 h
    cases open? with
    | true =>
      rw [if_pos rfl, pure_eq_ok_iff] at h
      cases h
      exact ⟨List.mem_cons_self, hopen⟩
    | false =>
      rw [if_neg (by decide)] at h
      obtain ⟨hmem, hguard⟩ := ih h
      exact ⟨List.mem_cons_of_mem _ hmem, hguard⟩

/-- If no guard that is looked at fails to evaluate, the first transition is found that is due and
whose guard holds. -/
theorem firstDue_eq_find? {ctx : Json} {elapsed : Int} {ts : List TimeoutTransition}
    {found : Option TimeoutTransition} (h : firstDue regex ctx elapsed ts = .ok found) :
    ts.find? (fun t => isDue elapsed t && (holds regex ctx t.guard).toOption.getD false) =
      found := by
  induction ts with
  | nil =>
    cases h
    rfl
  | cons t rest ih =>
    unfold firstDue at h
    split at h
    · rename_i hdue
      obtain ⟨open?, hguard, h⟩ := bind_eq_ok_iff.1 h
      cases open? with
      | true =>
        cases h
        rw [List.find?_cons_of_pos]
        rw [hdue, hguard]
        rfl
      | false =>
        rw [List.find?_cons_of_neg, ih h]
        rw [hdue, hguard]
        decide
    · rename_i hdue
      rw [List.find?_cons_of_neg, ih h]
      rw [eq_false_of_ne_true hdue, Bool.false_and]
      decide

/-- No transition is taken exactly if the guards of all that are due are found closed. -/
theorem firstDue_eq_none_iff {ctx : Json} {elapsed : Int} {ts : List TimeoutTransition} :
    firstDue regex ctx elapsed ts = .ok none ↔
      ∀ t ∈ ts, isDue elapsed t = true → holds regex ctx t.guard = .ok false := by
  induction ts with
  | nil => simp [firstDue]
  | cons t rest ih =>
    rw [List.forall_mem_cons, ← ih, firstDue]
    split
    · rename_i hdue
      rw [bind_eq_ok_iff]
      constructor
      · rintro ⟨holding, hguard, h⟩
        cases holding with
        | true => cases h
        | false => exact ⟨fun _ => hguard, h⟩
      · rintro ⟨hguard, h⟩
        exact ⟨false, hguard hdue, h⟩
    · rename_i hdue
      exact (and_iff_right fun h => absurd h hdue).symm

theorem mem_candidates {state : State} {key actor : String} {t : ActionTransition}
    (h : t ∈ candidates state key actor) : t ∈ state.actionTransitions ∧ t.action = key := by
  have hmem := List.mem_filter.1 h
  simp only [Bool.and_eq_true, beq_iff_eq] at hmem
  exact ⟨hmem.1, hmem.2.1⟩

theorem advance_eq_ok_iff {e : Event} {ctx : Json} {goto : Option String} {rule : LogRule}
    {actor : Option Performer} {entered : Timestamp} :
    engine.advance c e ctx goto rule actor entered = .ok next ↔
      ∃ entries stage, logEntryOf engine.regex ctx rule e.timestamp actor = .ok entries ∧
        Stage.enter engine.regex c.scenario (goto.getD c.current.key) (withEvent e ctx) entered =
          .ok stage ∧
        next = { c with log := c.log ++ entries, events := c.events ++ [e], current := stage } := by
  simp only [Engine.advance, bind_eq_ok_iff, pure_eq_ok_iff, exists_and_left]
  constructor
  · rintro ⟨entries, hlog, stage, hstage, rfl⟩
    exact ⟨entries, hlog, stage, hstage, rfl⟩
  · rintro ⟨entries, hlog, stage, hstage, rfl⟩
    exact ⟨entries, hlog, stage, hstage, rfl⟩

def recorded (c : Case) (move : Move) (now : Timestamp) (reasons : List Refusal) : Attempt where
  previous := c.tailHash
  timestamp := now
  action := move.action
  actor := move.actor
  response := givenResponse move.response
  skipped := !reasons.isEmpty
  errors := reasons.map Refusal.message
  hash := (c.attemptOf move now reasons).hash

theorem attemptOf_eq (c : Case) (move : Move) (now : Timestamp) (reasons : List Refusal) :
    c.attemptOf move now reasons = .attempt (c.recorded move now reasons) := rfl

/-- What an attempt that succeeds goes through. -/
structure Passage (engine : Engine) (c : Case) (move : Move) (now : Timestamp)
    (predicting : Bool) where
  admission : Admission
  ctx : Json
  transition : ActionTransition
  entries : List LogEntry
  stage : Stage
  admitted : engine.admission c move predicting = .ok admission
  updated : applyUpdates engine.regex predicting (c.actingContext move.actor.key admission)
    admission.action.updates = .ok ctx
  absorbed : engine.absorb c ctx move.actor.key predicting = .ok (c.absorb ctx move.actor.key)
  chosen : engine.transitionOf c move admission.key ctx = .ok transition
  logged : logEntryOf engine.regex ctx transition.log now (some move.actor) = .ok entries
  entered : Stage.enter engine.regex c.scenario (transition.goto.getD c.current.key)
    (withEvent (c.attemptOf move now []) ctx)
    (if transition.goto.isSome then now else c.current.timestamp) = .ok stage

namespace Passage

/-- The case with the data of the context and the id that the attempt gave. -/
def bound (p : Passage engine c move now predicting) : Case :=
  (c.absorb p.ctx move.actor.key).bindActor move.actor p.admission.profile

def result (p : Passage engine c move now predicting) : Case :=
  { p.bound with
    log := c.log ++ p.entries
    events := c.events ++ [c.attemptOf move now []]
    current := { p.stage with
      actor := some move.actor
      response := some ((p.ctx.field "current").field "response") } }

end Passage

theorem bindActor_eq (c : Case) (actor : Performer) (profile : Json) :
    c.bindActor actor profile = { c with actors := (c.bindActor actor profile).actors } := by
  unfold bindActor
  split
  · split <;> rfl
  · rfl

@[simp] theorem scenario_bindActor (c : Case) (actor : Performer) (profile : Json) :
    (c.bindActor actor profile).scenario = c.scenario := by rw [bindActor_eq]

@[simp] theorem current_bindActor (c : Case) (actor : Performer) (profile : Json) :
    (c.bindActor actor profile).current = c.current := by rw [bindActor_eq]

@[simp] theorem events_bindActor (c : Case) (actor : Performer) (profile : Json) :
    (c.bindActor actor profile).events = c.events := by rw [bindActor_eq]

@[simp] theorem log_bindActor (c : Case) (actor : Performer) (profile : Json) :
    (c.bindActor actor profile).log = c.log := by rw [bindActor_eq]

/-- A decision succeeds exactly with the result of a passage. -/
theorem decide_eq_ok_iff :
    engine.decide c move now predicting = .ok next ↔
      ∃ p : Passage engine c move now predicting, p.result = next := by
  simp only [Engine.decide, bind_eq_ok_iff, orFault_eq_ok_iff, advance_eq_ok_iff,
    pure_eq_ok_iff]
  constructor
  · rintro ⟨admission, hadmit, ctx, hctx, absorbed, habsorb, t, ht, _,
      ⟨entries, stage, hlog, hstage, rfl⟩, rfl⟩
    obtain rfl := (absorb_eq_ok_iff.1 habsorb).2.2
    rw [current_bindActor, scenario_bindActor] at hstage
    refine ⟨⟨admission, ctx, t, entries, stage, hadmit, hctx, habsorb, ht, hlog, hstage⟩, ?_⟩
    simp only [Passage.result, Passage.bound, log_bindActor, events_bindActor]
    rfl
  · rintro ⟨p, rfl⟩
    refine ⟨p.admission, p.admitted, p.ctx, p.updated, _, p.absorbed, p.transition, p.chosen, _,
      ⟨p.entries, p.stage, p.logged, ?_, rfl⟩, ?_⟩
    · rw [current_bindActor, scenario_bindActor]
      exact p.entered
    · simp only [Passage.result, Passage.bound, log_bindActor, events_bindActor]
      rfl

/-- A decision is refused at admission, when its context is taken over, or for want of a
transition. -/
theorem decide_eq_refused_iff {reasons : List Refusal} :
    engine.decide c move now predicting = .error (.refused reasons) ↔
      engine.admission c move predicting = .error (.refused reasons) ∨
        ∃ admission, engine.admission c move predicting = .ok admission ∧
          ∃ ctx, applyUpdates engine.regex predicting (c.actingContext move.actor.key admission)
              admission.action.updates = .ok ctx ∧
            (engine.absorb c ctx move.actor.key predicting = .error (.refused reasons) ∨
              ∃ next, engine.absorb c ctx move.actor.key predicting = .ok next ∧
                engine.transitionOf c move admission.key ctx = .error (.refused reasons)) := by
  simp only [Engine.decide, bind_eq_error_iff, orFault_eq_ok_iff, orFault_ne_refused, false_or,
    pure, Except.pure, reduceCtorEq, and_false, exists_false, or_false]

theorem admission_eq_refused_iff {reasons : List Refusal} :
    engine.admission c move predicting = .error (.refused reasons) ↔
      (c.current.offer? move.action = none ∧
        reasons = [.notAvailable move.action c.current.key]) ∨
      ∃ offer action, c.current.offer? move.action = some offer ∧
        c.scenario.actions.get? (c.fullKey move.action) = some action ∧
        ((c.profile? move.actor.key = none ∧ reasons = [.unknownActor move.actor.key]) ∨
          ∃ profile, c.profile? move.actor.key = some profile ∧
            reasons = engine.admissionRefusals offer action move profile predicting ∧
            reasons ≠ []) := by
  unfold Engine.admission
  simp only [bind_eq_error_iff, orRefuse_eq_refused_iff, orRefuse_eq_ok_iff, orFault_eq_ok_iff,
    orFail_eq_ok_iff, orFault_ne_refused, refuse_eq_refused_iff, false_or, pure, Except.pure,
    reduceCtorEq, and_false, exists_false, or_false, exists_and_left]

theorem absorb_eq_refused_iff {ctx : Json} {key : String} {reasons : List Refusal} :
    engine.absorb c ctx key predicting = .error (.refused reasons) ↔
      reasons = (shapeRefusals ctx ++
        if predicting then [] else engine.refusals (c.absorb ctx key)) ∧ reasons ≠ [] := by
  simp only [Engine.absorb, bind_eq_error_iff, refuse_eq_refused_iff, pure, Except.pure,
    reduceCtorEq, and_false, exists_false, or_false]

theorem transitionOf_eq_refused_iff {key : String} {ctx : Json} {reasons : List Refusal} :
    engine.transitionOf c move key ctx = .error (.refused reasons) ↔
      ∃ state, c.scenario.states.get? c.current.key = some state ∧
        firstOpen engine.regex ctx (candidates state key move.actor.key) = .ok none ∧
        reasons = [.noTransition move.action c.current.key] := by
  simp only [Engine.transitionOf, bind_eq_error_iff, orRefuse_eq_refused_iff, orFault_eq_ok_iff,
    orFail_eq_ok_iff, orFault_ne_refused, false_or]
  refine exists_congr fun state => and_congr_right fun _ => ?_
  constructor
  · rintro ⟨_, hnone, rfl, hreasons⟩
    exact ⟨hnone, hreasons⟩
  · rintro ⟨hnone, hreasons⟩
    exact ⟨none, hnone, rfl, hreasons⟩

theorem ne_nil_of_refused {reasons : List Refusal}
    (h : engine.decide c move now predicting = .error (.refused reasons)) : reasons ≠ [] := by
  obtain hadmit | ⟨_, -, ctx, -, habsorb | ⟨_, -, hchosen⟩⟩ := decide_eq_refused_iff.1 h
  · obtain ⟨-, rfl⟩ | ⟨_, _, -, -, ⟨-, rfl⟩ | ⟨_, -, -, hne⟩⟩ := admission_eq_refused_iff.1 hadmit
    · exact List.cons_ne_nil _ _
    · exact List.cons_ne_nil _ _
    · exact hne
  · exact (absorb_eq_refused_iff.1 habsorb).2
  · obtain ⟨_, -, -, rfl⟩ := transitionOf_eq_refused_iff.1 hchosen
    exact List.cons_ne_nil _ _

theorem notAvailable_not_mem_admissionRefusals {offer : Offer} {definition : Action}
    {profile : Json} {action key : String} :
    .notAvailable action key ∉
      engine.admissionRefusals offer definition move profile predicting := by
  have hidentity : .notAvailable action key ∉ identityRefusals move.actor profile := by
    unfold identityRefusals
    repeat' split
    all_goals simp
  simp only [Engine.admissionRefusals, List.mem_append, not_or]
  refine ⟨⟨?_, ?_⟩, ?_⟩
  · split
    · exact List.not_mem_nil
    · exact hidentity
  · split <;> simp
  · split <;> simp

theorem notAvailable_not_mem_shapeRefusals {ctx : Json} {action key : String} :
    .notAvailable action key ∉ shapeRefusals ctx := by
  simp only [shapeRefusals, List.mem_append, not_or]
  refine ⟨⟨?_, ?_⟩, ?_⟩
  all_goals split <;> simp

theorem notAvailable_not_mem_refusals {action key : String} :
    .notAvailable action key ∉ engine.refusals c := by
  have hactor (name : String) (profile : Json) :
      .notAvailable action key ∉ engine.actorRefusals c.scenario name profile := by
    unfold Engine.actorRefusals
    split <;> simp
  simp only [Engine.refusals, List.mem_append, List.mem_flatMap, not_or, not_exists, not_and]
  refine ⟨⟨fun p _ => hactor p.1 p.2, by simp⟩, ?_⟩
  split <;> simp

/-- An attempt is skipped because its action is not on offer. -/
def Unavailable (engine : Engine) (c : Case) (move : Move) (now : Timestamp) : Prop :=
  ∃ reasons, engine.decide c move now false = .error (.refused reasons) ∧
    .notAvailable move.action c.current.key ∈ reasons

theorem unavailable_iff : Unavailable engine c move now ↔ c.current.offer? move.action = none := by
  constructor
  · rintro ⟨reasons, hrefused, hmem⟩
    obtain hadmit | ⟨_, -, ctx, -, habsorb | ⟨_, -, hchosen⟩⟩ := decide_eq_refused_iff.1 hrefused
    · obtain ⟨hnone, -⟩ | ⟨_, _, -, -, ⟨-, rfl⟩ | ⟨_, -, rfl, -⟩⟩ :=
        admission_eq_refused_iff.1 hadmit
      · exact hnone
      · cases List.mem_singleton.1 hmem
      · exact absurd hmem notAvailable_not_mem_admissionRefusals
    · obtain ⟨rfl, -⟩ := absorb_eq_refused_iff.1 habsorb
      obtain hshape | hsound := List.mem_append.1 hmem
      · exact absurd hshape notAvailable_not_mem_shapeRefusals
      · exact absurd hsound notAvailable_not_mem_refusals
    · obtain ⟨_, -, -, rfl⟩ := transitionOf_eq_refused_iff.1 hchosen
      cases List.mem_singleton.1 hmem
  · intro hnone
    refine ⟨_, decide_eq_refused_iff.2 (.inl (admission_eq_refused_iff.2 (.inl ⟨hnone, rfl⟩))), ?_⟩
    exact List.mem_singleton_self _

/-- A step either succeeds, or leaves only an event with the reasons. -/
theorem step_eq_ok_iff :
    engine.step c move now = .ok next ↔
      engine.decide c move now false = .ok next ∨
        ∃ reasons, reasons ≠ [] ∧ engine.decide c move now false = .error (.refused reasons) ∧
          next = c.append (c.attemptOf move now reasons) := by
  unfold Engine.step
  split
  · rename_i taken h
    simp [h]
  · rename_i reasons h
    have hne := ne_nil_of_refused h
    simp only [h, Except.ok.injEq, reduceCtorEq, Except.error.injEq, Halt.refused.injEq, false_or]
    constructor
    · rintro rfl
      exact ⟨reasons, hne, rfl, rfl⟩
    · rintro ⟨_, -, rfl, rfl⟩
      rfl
  · rename_i e h
    simp [h]

theorem expiryOf_eq (c : Case) (now : Timestamp) :
    c.expiryOf now = .expiry ⟨c.tailHash, now, (c.expiryOf now).hash⟩ := rfl

theorem expire?_eq_some_iff :
    engine.expire? c now = .ok (some next) ↔
      ∃ state t entries stage, c.scenario.states.get? c.current.key = some state ∧
        firstDue engine.regex c.ownContext (Timestamp.secondsBetween c.current.timestamp now)
          state.timeoutTransitions = .ok (some t) ∧
        logEntryOf engine.regex c.ownContext t.log now none = .ok entries ∧
        Stage.enter engine.regex c.scenario (t.goto.getD c.current.key)
          (withEvent (c.expiryOf now) c.ownContext) now = .ok stage ∧
        next = { c with
          log := c.log ++ entries, events := c.events ++ [c.expiryOf now], current := stage } := by
  simp only [Engine.expire?, Case.state, bind_eq_ok_iff, orFail_eq_ok_iff]
  constructor
  · rintro ⟨state, hstate, due, hdue, h⟩
    cases due with
    | none => cases h
    | some t =>
      obtain ⟨after, hafter, heq⟩ := map_eq_ok_iff.1 h
      cases heq
      obtain ⟨entries, stage, hlog, hstage, rfl⟩ := advance_eq_ok_iff.1 hafter
      exact ⟨state, t, entries, stage, hstate, hdue, hlog, hstage, rfl⟩
  · rintro ⟨state, t, entries, stage, hstate, hdue, hlog, hstage, rfl⟩
    exact ⟨state, hstate, some t, hdue, map_eq_ok_iff.2
      ⟨_, advance_eq_ok_iff.2 ⟨entries, stage, hlog, hstage, rfl⟩, rfl⟩⟩

theorem expire?_eq_none_iff {state : State} (hstate : c.state = .ok state) :
    engine.expire? c now = .ok none ↔ ∀ t ∈ state.timeoutTransitions,
      isDue (Timestamp.secondsBetween c.current.timestamp now) t = true →
        holds engine.regex c.ownContext t.guard = .ok false := by
  rw [← firstDue_eq_none_iff]
  constructor
  · intro h
    obtain ⟨_, hsame, h⟩ := bind_eq_ok_iff.1 h
    cases hstate.symm.trans hsame
    obtain ⟨due, hdue, h⟩ := bind_eq_ok_iff.1 h
    cases due with
    | none => exact hdue
    | some t =>
      obtain ⟨_, -, hnone⟩ := map_eq_ok_iff.1 h
      cases hnone
  · intro h
    exact bind_eq_ok_iff.2 ⟨state, hstate, bind_eq_ok_iff.2 ⟨none, h, rfl⟩⟩

/-- A look at the clock leaves a case as it is, or takes a transition. -/
theorem timeout_eq_ok_iff :
    engine.timeout c now = .ok next ↔
      (engine.expire? c now = .ok none ∧ next = c) ∨ engine.expire? c now = .ok (some next) := by
  simp only [Engine.timeout, bind_eq_ok_iff, pure_eq_ok_iff]
  constructor
  · rintro ⟨after, h, rfl⟩
    cases after with
    | none => exact .inl ⟨h, rfl⟩
    | some next => exact .inr h
  · rintro (⟨h, rfl⟩ | h)
    · exact ⟨none, h, rfl⟩
    · exact ⟨some next, h, rfl⟩

theorem firstAccepted_decided {moves : List Move}
    (h : engine.firstAccepted c moves = .ok (some next)) :
    ∃ move, engine.decide c move c.current.timestamp true = .ok next := by
  induction moves with
  | nil => cases h
  | cons move rest ih =>
    unfold Engine.firstAccepted at h
    split at h
    · rename_i taken htaken
      cases h
      exact ⟨move, htaken⟩
    · exact ih h
    · cases h

/-- No attempt succeeds exactly if all are refused. -/
theorem firstAccepted_eq_none_iff {moves : List Move} :
    engine.firstAccepted c moves = .ok none ↔ ∀ move ∈ moves, ∃ reasons,
      engine.decide c move c.current.timestamp true = .error (.refused reasons) := by
  induction moves with
  | nil => simp [Engine.firstAccepted]
  | cons move rest ih =>
    rw [List.forall_mem_cons, Engine.firstAccepted]
    split
    · rename_i htaken
      simp [htaken]
    · rename_i hrefused
      rw [ih, hrefused]
      simp
    · rename_i hfault
      simp [hfault]

theorem firstExpiry_eq_none_iff {times : List Timestamp} :
    engine.firstExpiry c times = .ok none ↔
      ∀ now ∈ times, engine.expire? c now = .ok none := by
  induction times with
  | nil => simp [Engine.firstExpiry]
  | cons now rest ih =>
    rw [List.forall_mem_cons, ← ih, Engine.firstExpiry, bind_eq_ok_iff]
    constructor
    · rintro ⟨after, hafter, h⟩
      cases after with
      | some next => cases h
      | none => exact ⟨hafter, h⟩
    · rintro ⟨hnow, h⟩
      exact ⟨none, hnow, h⟩

/-- Where something happens at one of some times, nothing does at those before it. -/
theorem firstExpiry_split {times : List Timestamp}
    (h : engine.firstExpiry c times = .ok (some next)) :
    ∃ before now rest, times = before ++ now :: rest ∧
      (∀ earlier ∈ before, engine.expire? c earlier = .ok none) ∧
        engine.expire? c now = .ok (some next) := by
  induction times with
  | nil => cases h
  | cons first times ih =>
    obtain ⟨after, hafter, h⟩ := bind_eq_ok_iff.1 h
    cases after with
    | some d =>
      cases h
      exact ⟨[], first, times, rfl, List.forall_mem_nil _, hafter⟩
    | none =>
      obtain ⟨before, now, rest, rfl, hbefore, hexpire⟩ := ih h
      exact ⟨first :: before, now, rest, rfl, List.forall_mem_cons.2 ⟨hafter, hbefore⟩, hexpire⟩

/-- A case that follows another in a prediction: an attempt succeeds at the time at which the
current state was entered, or time takes a transition. -/
inductive Engine.Proceeds (engine : Engine) (c next : Case) : Prop
  | attempt (move : Move) (h : engine.decide c move c.current.timestamp true = .ok next)
  | expiry (now : Timestamp) (h : engine.expire? c now = .ok (some next))

theorem Engine.proceeds (h : engine.predictNext c = .ok (some next)) : engine.Proceeds c next := by
  obtain ⟨state, -, h⟩ := bind_eq_ok_iff.1 h
  obtain ⟨accepted, haccepted, h⟩ := bind_eq_ok_iff.1 h
  cases accepted with
  | some d =>
    cases h
    obtain ⟨move, hdecide⟩ := firstAccepted_decided haccepted
    exact .attempt move hdecide
  | none =>
    obtain ⟨-, now, -, -, -, hexpire⟩ := firstExpiry_split h
    exact .expiry now hexpire

/-- Nothing can be done in a case: every attempt of a candidate is refused, and whenever a timeout
is due, the guards of all that are due then are closed. -/
structure Engine.AtRest (engine : Engine) (c : Case) (state : State) : Prop where
  refused : ∀ move ∈ c.candidateMoves state, ∃ reasons,
    engine.decide c move c.current.timestamp true = .error (.refused reasons)
  closed : ∀ t ∈ state.timeoutTransitions, ∀ due, c.dueTime? t = some due →
    ∀ u ∈ state.timeoutTransitions,
      isDue (Timestamp.secondsBetween c.current.timestamp due) u = true →
        holds engine.regex c.ownContext u.guard = .ok false

/-- A prediction finds no move exactly where nothing can be done. -/
theorem predictNext_eq_none_iff {state : State} (hstate : c.state = .ok state) :
    engine.predictNext c = .ok none ↔ engine.AtRest c state := by
  have hexpiry : engine.firstExpiry c (state.timeoutTransitions.filterMap c.dueTime?) = .ok none ↔
      ∀ t ∈ state.timeoutTransitions, ∀ due, c.dueTime? t = some due →
        engine.expire? c due = .ok none := by
    simp only [firstExpiry_eq_none_iff, List.mem_filterMap]
    exact ⟨fun h t ht due hdue => h due ⟨t, ht, hdue⟩, fun h due ⟨t, ht, hdue⟩ => h t ht due hdue⟩
  simp only [expire?_eq_none_iff hstate] at hexpiry
  constructor
  · intro h
    obtain ⟨_, hsame, h⟩ := bind_eq_ok_iff.1 h
    cases hstate.symm.trans hsame
    obtain ⟨accepted, haccepted, h⟩ := bind_eq_ok_iff.1 h
    cases accepted with
    | some next => cases h
    | none => exact ⟨firstAccepted_eq_none_iff.1 haccepted, hexpiry.1 h⟩
  · rintro ⟨hrefused, hclosed⟩
    exact bind_eq_ok_iff.2 ⟨state, hstate, bind_eq_ok_iff.2
      ⟨none, firstAccepted_eq_none_iff.2 hrefused, hexpiry.2 hclosed⟩⟩

end Caseflow.Case
