import Caseflow.Proofs.Case.Reachable

/-!
# Who may act

An attempt is admitted by the list of actors that its offer shows, but the action it takes is found
by its full key. Both are the same action unless the state has transitions on a shared action and
on an action of its own with the same short key.
-/
namespace Caseflow.Case

open Scenario Time

variable {engine : Engine} {s : Scenario} {c next : Case} {move : Move} {now : Timestamp}

/-- The state has transitions on a shared action and on one of its own that hides it. -/
def Hides (s : Scenario) (key action : String) : Prop :=
  ∃ state, s.states.get? key = some state ∧
    (∃ t ∈ state.actionTransitions, t.action = action) ∧
    ∃ t ∈ state.actionTransitions, t.action = scopedKey key action

theorem actionKey_eq_or_eq (s : Scenario) (key action : String) :
    s.actionKey key action = scopedKey key action ∨ s.actionKey key action = action := by
  unfold actionKey
  split
  · exact .inl rfl
  · exact .inr rfl

theorem actionKey_of_get? {key action : String} {definition : Action}
    (h : s.actions.get? (scopedKey key action) = some definition) :
    s.actionKey key action = scopedKey key action := by
  rw [actionKey, if_pos]
  rw [Dict.contains, h, Option.isSome_some]

/-- What a reachable case offers belongs to an action that a transition of its state takes. -/
theorem Reachable.offered (hc : Reachable engine s c) {action : String} {offer : Offer}
    (h : c.current.offer? action = some offer) :
    ∃ state, s.states.get? c.current.key = some state ∧ ∃ t ∈ state.actionTransitions,
      ∃ definition, s.actions.get? t.action = some definition ∧
        offer.actors = definition.actors ∧
        (t.action = action ∨ t.action = scopedKey c.current.key action) := by
  obtain ⟨ctx, hentered⟩ := hc.entered
  obtain ⟨hmem, hkey⟩ := mem_of_offer? h
  obtain ⟨state, hstate, t, ht, hoffer⟩ := offer_of_enter hentered hmem
  obtain ⟨definition, hdefinition, -, -, rfl⟩ := offerOf?_eq_some_iff.1 hoffer
  refine ⟨state, hstate, t, ht, definition, hdefinition, rfl, ?_⟩
  have hkeys := eq_or_eq_scopedKey c.current.key t.action
  rw [show shortKey c.current.key t.action = action from hkey] at hkeys
  exact hkeys

/-- The offer of an action that a state takes is that of the action's full key, unless the state
has it hide a shared action that is offered. -/
theorem Reachable.actors_of_offer (hc : Reachable engine s c) {action : String} {offer : Offer}
    {state : State} {t : ActionTransition} {definition : Action}
    (hoffer : c.current.offer? action = some offer)
    (hstate : s.states.get? c.current.key = some state) (ht : t ∈ state.actionTransitions)
    (hon : t.action = s.actionKey c.current.key action)
    (hdefinition : s.actions.get? (s.actionKey c.current.key action) = some definition) :
    offer.actors = definition.actors ∨
      Hides s c.current.key action ∧
        ∃ shared, s.actions.get? action = some shared ∧ offer.actors = shared.actors := by
  obtain ⟨shown, hshown, u, hu, found, hfound, hactors, hkey⟩ := hc.offered hoffer
  rw [hstate, Option.some.injEq] at hshown
  subst hshown
  by_cases hsame : u.action = s.actionKey c.current.key action
  · left
    rw [hsame, hdefinition, Option.some.injEq] at hfound
    rw [hactors, hfound]
  · right
    obtain hshared | hown := hkey
    · obtain hscoped | hplain := actionKey_eq_or_eq s c.current.key action
      · refine ⟨⟨state, hstate, ⟨u, hu, hshared⟩, t, ht, hon.trans hscoped⟩, found, ?_, hactors⟩
        rw [← hshared, hfound]
      · exact absurd (hshared.trans hplain.symm) hsame
    · rw [hown] at hfound
      exact absurd (hown.trans (actionKey_of_get? hfound).symm) hsame

theorem isAuthorized_of_admissionRefusals {offer : Offer} {action : Action} {profile : Json}
    {predicting : Bool}
    (h : engine.admissionRefusals offer action move profile predicting = []) :
    isAuthorized offer.actors move.actor.key profile predicting = true := by
  simp only [Engine.admissionRefusals, List.append_eq_nil_iff] at h
  by_cases hallowed : isAuthorized offer.actors move.actor.key profile predicting = true
  · exact hallowed
  · rw [if_neg hallowed] at h
    exact absurd h.1.2 (List.cons_ne_nil _ _)

theorem Passage.transition_mem {predicting : Bool} (p : Passage engine c move now predicting) :
    ∃ state, c.scenario.states.get? c.current.key = some state ∧
      p.transition ∈ state.actionTransitions ∧ p.transition.action = p.admission.key := by
  obtain ⟨state, hstate, hopen⟩ := transitionOf_eq_ok_iff.1 p.chosen
  obtain ⟨hmem, haction⟩ := mem_candidates (firstOpen_eq_some hopen).1
  exact ⟨state, hstate, hmem, haction⟩

/-- Alice may send, but in the initial state only Bob. -/
def hidingDocument : Json := .obj [
  ("actions", .obj [("initial.send", .obj [("actor", .str "bob")]),
    ("send", .obj [("actor", .str "alice")])]),
  ("actors", .obj [("alice", .null), ("bob", .null)]),
  ("states", .obj [("initial", .obj [("transitions", .arr [
    .obj [("goto", .str "(shared)"), ("on", .str "send")],
    .obj [("goto", .str "(own)"), ("on", .str "initial.send")]])])])]

def aliceSends : Move := ⟨"send", ⟨"alice", some "a1"⟩, none⟩

def hidingTrial : Option (Case × Case) := do
  let c ← trial hidingDocument []
  let next ← ((Engine.standard c.scenario).decide c aliceSends (afterSeconds 1) false).toOption
  return (c, next)

theorem hidingTrial_eq_some {c next : Case} (h : hidingTrial = some (c, next)) :
    normalize hidingDocument = .ok c.scenario ∧
      Reachable (Engine.standard c.scenario) c.scenario c ∧
      (Engine.standard c.scenario).decide c aliceSends (afterSeconds 1) false = .ok next := by
  simp only [hidingTrial, Option.bind_eq_bind, Option.bind_eq_some_iff, toOption_eq_some_iff] at h
  obtain ⟨c, hc, next, hnext, hpair⟩ := h
  obtain ⟨hs, hreachable⟩ := reachable_of_trial hc
  cases hpair
  exact ⟨hs, hreachable, hnext⟩

theorem hidingTrial_shown :
    (do
      let (c, next) ← hidingTrial
      let action ← c.scenario.actions.get? (c.scenario.actionKey c.current.key "send")
      let profile ← c.profile? "alice"
      return (next.current.key, isAuthorized action.actors "alice" profile false)) =
        some ("(own)", false) := by
  decide +kernel

/-- The action that an attempt takes admits the actor by its own list, unless the state has it hide
a shared action that admits the actor. -/
theorem taken_action_admits (hc : Reachable engine s c)
    (h : engine.decide c move now false = .ok next) :
    ∃ p : Passage engine c move now false, p.result = next ∧
      s.actions.get? (s.actionKey c.current.key move.action) = some p.admission.action ∧
      p.transition.action = s.actionKey c.current.key move.action ∧
      (isAuthorized p.admission.action.actors move.actor.key p.admission.profile false = true ∨
        Hides s c.current.key move.action ∧
          ∃ shared, s.actions.get? move.action = some shared ∧
            isAuthorized shared.actors move.actor.key p.admission.profile false = true) := by
  obtain ⟨p, hnext⟩ := decide_eq_ok_iff.1 h
  obtain ⟨offer, action, profile, hoffer, haction, -, hrefuse, hadmission⟩ :=
    admission_eq_ok_iff.1 p.admitted
  obtain ⟨state, hstate, hmem, hon⟩ := p.transition_mem
  have hallowed := isAuthorized_of_admissionRefusals hrefuse
  refine ⟨p, hnext, ?_⟩
  rw [hadmission] at hon ⊢
  unfold fullKey at haction hon
  rw [hc.scenario] at haction hon hstate
  refine ⟨haction, hon, ?_⟩
  obtain hown | ⟨hhides, shared, hshared, hactors⟩ :=
    hc.actors_of_offer hoffer hstate hmem hon haction
  · rw [hown] at hallowed
    exact .inl hallowed
  · rw [hactors] at hallowed
    exact .inr ⟨hhides, shared, hshared, hallowed⟩

/-- The attempt of Alice takes the action that is Bob's. -/
theorem hiding_action_taken :
    ∃ c next, hidingTrial = some (c, next) ∧
      ∃ p : Passage (Engine.standard c.scenario) c aliceSends (afterSeconds 1) false,
        p.result = next ∧ p.transition.action = c.scenario.actionKey c.current.key "send" := by
  have hshown := hidingTrial_shown
  simp only [Option.bind_eq_bind, Option.bind_eq_some_iff] at hshown
  obtain ⟨⟨c, next⟩, htrial, -⟩ := hshown
  obtain ⟨-, hreachable, hdecide⟩ := hidingTrial_eq_some htrial
  obtain ⟨p, hnext, -, haction, -⟩ := taken_action_admits hreachable hdecide
  exact ⟨c, next, htrial, p, hnext, haction⟩

/-- The action that Alice's attempt takes does not admit her. -/
theorem hiding_action_refuses :
    ∃ s c next action profile, normalize hidingDocument = .ok s ∧
      Reachable (Engine.standard s) s c ∧
      (Engine.standard s).decide c aliceSends (afterSeconds 1) false = .ok next ∧
      s.actions.get? (s.actionKey c.current.key aliceSends.action) = some action ∧
      c.profile? aliceSends.actor.key = some profile ∧
      isAuthorized action.actors aliceSends.actor.key profile false = false := by
  have hshown := hidingTrial_shown
  simp only [Option.bind_eq_bind, Option.bind_eq_some_iff] at hshown
  obtain ⟨⟨c, next⟩, htrial, action, haction, profile, hprofile, hkey⟩ := hshown
  obtain ⟨hs, hreachable, hdecide⟩ := hidingTrial_eq_some htrial
  have hrefused := congrArg Prod.snd (Option.some.inj hkey)
  exact ⟨c.scenario, c, next, action, profile, hs, hreachable, hdecide, haction, hprofile,
    hrefused⟩

end Caseflow.Case
