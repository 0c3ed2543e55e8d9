import Caseflow.Proofs.Case.Reachable
import Caseflow.Proofs.Scenario.Linked

/-!
# No dangling references

A case is grounded if its scenario has all that it refers to, and the case is in a state of it and
offers actions of it. Operations keep cases grounded, predictions included, and on a grounded case
no operation fails for want of a state or an action. What is said of an attempt, a look at the clock
and a move of a prediction holds of any faults but those of evaluations and targets: nothing else
goes wrong in them.
-/
namespace Caseflow.Case

open Scenario Time

variable {engine : Engine} {regex : Regex.Engine} {s : Scenario} {c next : Case} {move : Move}
  {now : Timestamp} {predicting : Bool} {ctx : Json} {α β : Type}

/-- A fault that says that something a scenario refers to is not there. -/
def Error.IsDangling : Error → Prop
  | missingState _ | missingAction _ => True
  | _ => False

/-- Faults that are not those of evaluations and of the targets of updates. -/
structure Removed (faults : Error → Prop) : Prop where
  evaluation : ∀ e, ¬ faults (.evaluation e)
  invalidTarget : ∀ path, ¬ faults (.invalidTarget path)

theorem removed_isDangling : Removed Error.IsDangling := ⟨fun _ => not_false, fun _ => not_false⟩

/-- Whether one of the faults says that something is not there. -/
def Dangles (faults : Error → Prop) : Prop := ∃ e, faults e ∧ e.IsDangling

def Halt.Carries (faults : Error → Prop) : Halt → Prop
  | fault e => faults e
  | refused _ => False

variable {faults : Error → Prop}

theorem avoids_orFault {r : Result α} (h : Avoids faults r) :
    Avoids (Halt.Carries faults) (orFault r) := by
  intro halt hhalt
  cases r with
  | error e =>
    cases hhalt
    exact h e rfl
  | ok a => cases hhalt

theorem avoids_orRefuse (reason : Refusal) (o : Option α) :
    Avoids (Halt.Carries faults) (orRefuse reason o) := by
  cases o with
  | none => exact avoids_error not_false
  | some a => exact avoids_ok a

theorem avoids_refuse (reasons : List Refusal) : Avoids (Halt.Carries faults) (refuse reasons) := by
  unfold refuse
  split
  · exact avoids_ok _
  · exact avoids_error not_false

/-- A lookup avoids the faults if it succeeds or its own fault is none of them. -/
theorem avoids_orFail {e : Error} {o : Option α} (h : faults e → ∃ a, o = some a) :
    Avoids faults (orFail e o) := by
  cases o with
  | some a => exact avoids_ok a
  | none =>
    refine avoids_error fun hfault => ?_
    obtain ⟨a, ha⟩ := h hfault
    cases ha

section

variable (hf : Removed faults)

include hf

theorem avoids_evaluate (ctx node : Json) : Avoids faults (evaluate regex ctx node) := by
  intro e h
  unfold evaluate at h
  cases hnode : Marker.resolve regex ctx node with
  | error d =>
    rw [hnode] at h
    cases h
    exact hf.evaluation d
  | ok v =>
    rw [hnode] at h
    cases h

theorem avoids_holds (ctx guard : Json) : Avoids faults (holds regex ctx guard) :=
  (avoids_evaluate hf ctx guard).map

theorem avoids_display (ctx node : Json) : Avoids faults (display regex ctx node) :=
  (avoids_evaluate hf ctx node).map

theorem avoids_instructionTexts (ctx : Json) (entries : List (String × Json)) :
    Avoids faults (instructionTexts regex ctx entries) := by
  induction entries with
  | nil => exact avoids_ok _
  | cons p rest ih =>
    refine (avoids_display hf ctx p.2).bind fun _ _ => ?_
    exact ih.bind fun _ _ => avoids_pure _

theorem avoids_alertOf? (ctx : Json) (n : Notice) : Avoids faults (alertOf? regex ctx n) := by
  refine (avoids_holds hf ctx n.guard).bind fun shown _ => ?_
  cases shown with
  | false => exact avoids_pure _
  | true =>
    rw [if_pos rfl]
    cases n.message with
    | none => exact avoids_pure _
    | some node => exact (avoids_evaluate hf ctx node).map.bind fun _ _ => avoids_pure _

theorem avoids_alertsOf (ctx : Json) (notices : List Notice) :
    Avoids faults (alertsOf regex ctx notices) := by
  induction notices with
  | nil => exact avoids_ok _
  | cons n rest ih =>
    refine (avoids_alertOf? hf ctx n).bind fun _ _ => ?_
    exact ih.bind fun _ _ => avoids_pure _

theorem avoids_applyUpdates (ctx : Json) (updates : List Update) :
    Avoids faults (applyUpdates regex predicting ctx updates) := by
  induction updates generalizing ctx with
  | nil => exact avoids_ok _
  | cons u rest ih =>
    refine Avoids.bind ?_ fun next _ => ih next
    unfold applyUpdate
    split
    · refine (avoids_holds hf ctx u.guard).bind fun made _ => ?_
      cases made with
      | false => exact avoids_pure _
      | true => exact (avoids_evaluate hf _ _).bind fun _ _ => avoids_pure _
    · exact avoids_error (hf.invalidTarget _)

theorem avoids_firstOpen (ctx : Json) (ts : List ActionTransition) :
    Avoids faults (firstOpen regex ctx ts) := by
  induction ts with
  | nil => exact avoids_ok _
  | cons t rest ih =>
    refine (avoids_holds hf ctx t.guard).bind fun open? _ => ?_
    cases open? with
    | false => exact ih
    | true => exact avoids_pure _

theorem avoids_firstDue (ctx : Json) (elapsed : Int) (ts : List TimeoutTransition) :
    Avoids faults (firstDue regex ctx elapsed ts) := by
  induction ts with
  | nil => exact avoids_ok _
  | cons t rest ih =>
    unfold firstDue
    split
    · refine (avoids_holds hf ctx t.guard).bind fun open? _ => ?_
      cases open? with
      | false => exact ih
      | true => exact avoids_pure _
    · exact ih

theorem avoids_logEntryOf (ctx : Json) (rule : LogRule) (timestamp : Timestamp)
    (actor : Option Performer) :
    Avoids faults (logEntryOf regex ctx rule timestamp actor) := by
  refine (avoids_holds hf ctx rule.guard).bind fun shown _ => ?_
  cases shown with
  | false => exact avoids_pure _
  | true =>
    refine (avoids_display hf ctx rule.title).bind fun _ _ => ?_
    exact (avoids_display hf ctx rule.description).bind fun _ _ => avoids_pure _

theorem avoids_offerOf? {key : String} {t : ActionTransition}
    (h : Dangles faults → s.actions.contains t.action = true) :
    Avoids faults (offerOf? regex s key ctx t) := by
  refine (avoids_orFail fun hfault => ?_).bind fun action _ => ?_
  · exact Dict.contains_iff.1 (h ⟨_, hfault, trivial⟩)
  refine (avoids_holds hf ctx t.guard).bind fun own _ => ?_
  cases own with
  | false => exact avoids_pure _
  | true =>
    refine (avoids_holds hf ctx action.guard).bind fun shared _ => ?_
    cases shared with
    | false => exact avoids_pure _
    | true => exact avoids_pure _

theorem avoids_offersFrom {key : String} {ts : List ActionTransition} (offers : List Offer)
    (h : Dangles faults → ∀ t ∈ ts, s.actions.contains t.action = true) :
    Avoids faults (offersFrom regex s key ctx offers ts) := by
  induction ts generalizing offers with
  | nil => exact avoids_ok _
  | cons t rest ih =>
    have hrest := fun hdangles => (List.forall_mem_cons.1 (h hdangles)).2
    unfold offersFrom
    split
    · exact ih offers hrest
    · refine (avoids_offerOf? hf fun hdangles => ?_).bind fun _ _ => ih _ hrest
      exact h hdangles t List.mem_cons_self

theorem avoids_enter {key : String}
    (h : Dangles faults → s.Linked ∧ s.states.contains key = true) :
    Avoids faults (Stage.enter regex s key ctx now) := by
  refine (avoids_orFail fun hfault => ?_).bind fun entered hentered => ?_
  · exact Dict.contains_iff.1 (h ⟨_, hfault, trivial⟩).2
  rw [orFail_eq_ok_iff] at hentered
  refine (avoids_instructionTexts hf ctx _).bind fun _ _ => ?_
  refine (avoids_offersFrom hf [] fun hdangles => ?_).bind fun _ _ => ?_
  · exact (h hdangles).1.action key entered hentered
  refine (avoids_alertsOf hf ctx _).bind fun _ _ => ?_
  refine (avoids_display hf ctx _).bind fun _ _ => ?_
  exact (avoids_display hf ctx _).bind fun _ _ => avoids_pure _

end

structure Grounded (c : Case) : Prop where
  linked : c.scenario.Linked
  state : c.scenario.states.contains c.current.key = true
  action : ∀ offer ∈ c.current.offers, c.scenario.actions.contains (c.fullKey offer.key) = true

/-- The short key of an action leads to an action, though perhaps to another one. -/
theorem contains_actionKey_shortKey {state key : String} (h : s.actions.contains key = true) :
    s.actions.contains (s.actionKey state (shortKey state key)) = true := by
  unfold Scenario.actionKey
  split
  · assumption
  · rename_i hscoped
    obtain hshort | hown := eq_or_eq_scopedKey state key
    · rw [← hshort]
      exact h
    · rw [← hown] at hscoped
      exact absurd h hscoped

theorem grounded_of_entered (h : c.scenario.Linked)
    (hentered : Stage.enter engine.regex c.scenario c.current.key ctx c.current.timestamp
      = .ok c.current.bare) : c.Grounded := by
  obtain ⟨state, _, _, _, _, _, hstate, -⟩ := enter_eq_ok_iff.1 hentered
  refine ⟨h, Dict.contains_iff.2 ⟨state, hstate⟩, ?_⟩
  intro offer hoffer
  obtain ⟨shown, hshown, t, ht, hfound⟩ := offer_of_enter hentered hoffer
  obtain ⟨action, haction, -, -, rfl⟩ := offerOf?_eq_some_iff.1 hfound
  exact contains_actionKey_shortKey (Dict.contains_iff.2 ⟨action, haction⟩)

theorem Reachable.grounded (h : s.Linked) (hc : Reachable engine s c) : c.Grounded := by
  obtain ⟨ctx, hentered⟩ := hc.entered
  have hscenario := hc.scenario
  subst hscenario
  exact grounded_of_entered h hentered

theorem Grounded.decide (hc : c.Grounded) (h : engine.decide c move now predicting = .ok next) :
    next.Grounded := by
  obtain ⟨p, rfl⟩ := decide_eq_ok_iff.1 h
  have hscenario : p.result.scenario = c.scenario := scenario_bindActor _ _ _
  have hentered := enter_again p.entered
  rw [← hscenario] at hentered
  refine grounded_of_entered ?_ hentered
  rw [hscenario]
  exact hc.linked

theorem Grounded.expire (hc : c.Grounded) (h : engine.expire? c now = .ok (some next)) :
    next.Grounded := by
  obtain ⟨state, t, entries, stage, -, -, -, hstage, rfl⟩ := expire?_eq_some_iff.1 h
  exact grounded_of_entered hc.linked (enter_again hstage)

/-- A state of a linked scenario leads to states that there are, or stays. -/
theorem contains_target {key : String} {state : State} {t : Transition} (h : s.Linked)
    (hstate : s.states.get? key = some state) (ht : t ∈ state.transitions) :
    s.states.contains (t.goto.getD key) = true := by
  cases hgoto : t.goto with
  | none => exact Dict.contains_iff.2 ⟨state, hstate⟩
  | some target => exact h.goto key state hstate t ht target hgoto

section

variable (hf : Removed faults)

include hf

theorem avoids_advance {e : Event} {rule : LogRule} {goto : Option String}
    {actor : Option Performer}
    (h : Dangles faults → c.scenario.Linked ∧
      c.scenario.states.contains (goto.getD c.current.key) = true) :
    Avoids faults (engine.advance c e ctx goto rule actor now) := by
  refine (avoids_logEntryOf hf ctx rule _ actor).bind fun _ _ => ?_
  exact (avoids_enter hf h).bind fun _ _ => avoids_pure _

omit hf in
theorem avoids_admission (hc : Dangles faults → c.Grounded) :
    Avoids (Halt.Carries faults) (engine.admission c move predicting) := by
  refine (avoids_orRefuse _ _).bind fun offer hoffer => ?_
  rw [orRefuse_eq_ok_iff] at hoffer
  obtain ⟨hmem, hkey⟩ := mem_of_offer? hoffer
  refine (avoids_orFault (avoids_orFail fun hfault => ?_)).bind fun _ _ => ?_
  · have haction := (hc ⟨_, hfault, trivial⟩).action offer hmem
    rw [hkey] at haction
    exact Dict.contains_iff.1 haction
  refine (avoids_orRefuse _ _).bind fun _ _ => ?_
  exact (avoids_refuse _).bind fun _ _ => avoids_pure _

theorem avoids_transitionOf {key : String} (hc : Dangles faults → c.Grounded) :
    Avoids (Halt.Carries faults) (engine.transitionOf c move key ctx) := by
  refine (avoids_orFault (avoids_orFail fun hfault => ?_)).bind fun _ _ => ?_
  · exact Dict.contains_iff.1 (hc ⟨_, hfault, trivial⟩).state
  refine (avoids_orFault (avoids_firstOpen hf ctx _)).bind fun _ _ => ?_
  exact avoids_orRefuse _ _

theorem avoids_decide (hc : Dangles faults → c.Grounded) :
    Avoids (Halt.Carries faults) (engine.decide c move now predicting) := by
  refine (avoids_admission hc).bind fun admission _ => ?_
  refine (avoids_orFault (avoids_applyUpdates hf _ _)).bind fun ctx _ => ?_
  refine Avoids.bind ((avoids_refuse _).bind fun _ _ => avoids_pure _) fun absorbed habsorbed => ?_
  obtain ⟨-, -, rfl⟩ := absorb_eq_ok_iff.1 habsorbed
  refine (avoids_transitionOf hf hc).bind fun t ht => ?_
  obtain ⟨state, hstate, hopen⟩ := transitionOf_eq_ok_iff.1 ht
  obtain ⟨hmem, -⟩ := mem_candidates (firstOpen_eq_some hopen).1
  refine (avoids_orFault (avoids_advance hf fun hdangles => ?_)).bind fun _ _ => avoids_pure _
  have hlinked := (hc hdangles).linked
  rw [scenario_bindActor, current_bindActor]
  exact ⟨hlinked, contains_target (t := .action t) hlinked hstate (mem_actionTransitions.1 hmem)⟩

end

theorem avoids_step (hc : c.Grounded) : Avoids Error.IsDangling (engine.step c move now) := by
  intro e h
  unfold Engine.step at h
  split at h
  · cases h
  · cases h
  · rename_i f hfault
    cases h
    exact avoids_decide removed_isDangling (fun _ => hc) _ hfault

theorem avoids_state (hc : Dangles faults → c.Grounded) : Avoids faults c.state :=
  avoids_orFail fun hfault => Dict.contains_iff.1 (hc ⟨_, hfault, trivial⟩).state

theorem avoids_expire? (hf : Removed faults) (hc : Dangles faults → c.Grounded) :
    Avoids faults (engine.expire? c now) := by
  refine (avoids_state hc).bind fun state hstate => ?_
  refine (avoids_firstDue hf _ _ _).bind fun due hdue => ?_
  cases due with
  | none => exact avoids_pure _
  | some t =>
    have hmem := mem_timeoutTransitions.1 (List.mem_of_find?_eq_some (firstDue_eq_find? hdue))
    refine (avoids_advance hf fun hdangles => ?_).map
    have hlinked := (hc hdangles).linked
    exact ⟨hlinked, contains_target (t := .timeout t) hlinked (orFail_eq_ok_iff.1 hstate) hmem⟩

theorem avoids_timeout (hc : c.Grounded) : Avoids Error.IsDangling (engine.timeout c now) :=
  (avoids_expire? removed_isDangling fun _ => hc).bind fun _ _ => avoids_pure _

theorem avoids_firstAccepted (hf : Removed faults) (hc : Dangles faults → c.Grounded)
    (moves : List Move) : Avoids faults (engine.firstAccepted c moves) := by
  induction moves with
  | nil => exact avoids_ok _
  | cons move rest ih =>
    unfold Engine.firstAccepted
    split
    · exact avoids_ok _
    · exact ih
    · rename_i e hfault
      exact avoids_error (avoids_decide hf hc _ hfault)

theorem avoids_firstExpiry (hf : Removed faults) (hc : Dangles faults → c.Grounded)
    (times : List Timestamp) : Avoids faults (engine.firstExpiry c times) := by
  induction times with
  | nil => exact avoids_ok _
  | cons now rest ih =>
    refine (avoids_expire? hf hc).bind fun after _ => ?_
    cases after with
    | none => exact ih
    | some d => exact avoids_pure _

theorem Grounded.predictNext (hc : c.Grounded) (h : engine.predictNext c = .ok (some next)) :
    next.Grounded := by
  cases Engine.proceeds h with
  | attempt move hdecide => exact hc.decide hdecide
  | expiry now hexpire => exact hc.expire hexpire

theorem avoids_predictNext (hf : Removed faults) (hc : Dangles faults → c.Grounded) :
    Avoids faults (engine.predictNext c) := by
  refine (avoids_state hc).bind fun state _ => ?_
  refine (avoids_firstAccepted hf hc _).bind fun accepted _ => ?_
  cases accepted with
  | some d => exact avoids_pure _
  | none => exact avoids_firstExpiry hf hc _

theorem avoids_predictFrom {limit room : Nat} {seen : List String} (hc : c.Grounded) :
    Avoids Error.IsDangling (engine.predictFrom limit room c seen) := by
  induction room generalizing c seen with
  | zero => exact avoids_error not_false
  | succ room ih =>
    refine (avoids_predictNext removed_isDangling fun _ => hc).bind fun after hafter => ?_
    cases after with
    | none => exact avoids_pure _
    | some next =>
      simp only
      split
      · exact avoids_pure _
      · exact (ih (hc.predictNext hafter)).bind fun _ _ => avoids_pure _

theorem avoids_predict (hc : c.Grounded) (limit : Nat) :
    Avoids Error.IsDangling (engine.predict limit c) := by
  unfold Engine.predict
  split
  · exact avoids_pure _
  · exact (avoids_predictFrom hc).bind fun _ _ => avoids_pure _

/-- A normalized scenario has all that it refers to, and nothing that can be asked of a case of it
fails for want of a state or an action. -/
theorem normalized_never_dangles {document : Json} (h : normalize document = .ok s) :
    s.Linked ∧ ∀ engine c, Reachable engine s c →
      (∀ move now, Avoids Error.IsDangling (engine.step c move now)) ∧
      (∀ now, Avoids Error.IsDangling (engine.timeout c now)) ∧
      ∀ limit, Avoids Error.IsDangling (engine.predict limit c) := by
  have hlinked := linked_of_normalize h
  refine ⟨hlinked, ?_⟩
  intro engine c hc
  have hgrounded := hc.grounded hlinked
  exact ⟨fun _ _ => avoids_step hgrounded, fun _ => avoids_timeout hgrounded,
    fun limit => avoids_predict hgrounded limit⟩

/-- What has expired can be asked anything. -/
theorem expiring_never_dangles :
    ∃ s c, normalize expiringDocument = .ok s ∧ trial expiringDocument expiringRequests = some c ∧
      s.Linked ∧ ∀ limit, Avoids Error.IsDangling ((Engine.standard s).predict limit c) := by
  obtain ⟨c, hc, -⟩ := Option.map_eq_some_iff.1 trial_expiring
  obtain ⟨hs, hreachable⟩ := reachable_of_trial hc
  obtain ⟨hlinked, hasked⟩ := normalized_never_dangles hs
  exact ⟨c.scenario, c, hs, hc, hlinked, (hasked _ c hreachable).2.2⟩

end Caseflow.Case
