import Caseflow.Proofs.Case.Chain

/-!
# Conformance to schemas

A step is checked against the schemas before the id that it gives is bound. So all that the schemas
refuse of a reachable case is the actor of the last step that was taken, if that gave an id.
-/
namespace Caseflow.Case

open Scenario Time

variable {engine : Engine} {s : Scenario} {c next : Case} {move : Move} {now : Timestamp}

/-- The attempt that an event records, if it was taken. -/
def Event.taken? : Event → Option Attempt
  | attempt a => if a.skipped then none else some a
  | genesis _ | expiry _ => none

def lastTaken? (events : List Event) : Option Attempt :=
  (events.filterMap Event.taken?).getLast?

/-- An actor who gives an id, with what the case knows of it. -/
def identified? (c : Case) (actor : Performer) : Option (String × Json) :=
  actor.id.bind fun _ => (c.actors.get? actor.key).map fun profile => (actor.key, profile)

theorem lastTaken?_append (events : List Event) (e : Event) :
    lastTaken? (events ++ [e]) = e.taken?.or (lastTaken? events) := by
  unfold lastTaken?
  rw [List.filterMap_append]
  cases h : e.taken? with
  | none => simp [h]
  | some a => simp [h]

theorem taken?_attemptOf_nil (c : Case) (move : Move) (now : Timestamp) :
    (c.attemptOf move now []).taken? = some (c.recorded move now []) := rfl

theorem taken?_attemptOf {reasons : List Refusal} (h : reasons ≠ []) :
    (c.attemptOf move now reasons).taken? = none := by
  rw [attemptOf_eq, Event.taken?, if_pos]
  simpa [recorded] using h

theorem refusals_eq_nil_iff :
    engine.refusals c = [] ↔
      (∀ a ∈ c.actors.entries, engine.actorRefusals c.scenario a.1 a.2 = []) ∧
        engine.validate c.scenario.varsSchema (.obj c.vars.entries) = [] ∧
        (c.result.isNull = false → engine.validate c.scenario.result c.result = []) := by
  unfold Engine.refusals
  rw [List.append_eq_nil_iff, List.append_eq_nil_iff, List.flatMap_eq_nil_iff, List.map_eq_nil_iff,
    and_assoc]
  cases c.result.isNull with
  | true => simp
  | false => simp

/-- Where nothing is collected from other pairs, only what is inserted is collected from. -/
theorem flatMap_insert {α β : Type} {key : String} {value : α} {pairs : List (String × α)}
    {f : String × α → List β} (h : ∀ p ∈ pairs, f p = []) :
    (Assoc.insert key value pairs).flatMap f = f (key, value) := by
  induction pairs with
  | nil => simp [Assoc.insert]
  | cons p rest ih =>
    have hrest : rest.flatMap f = [] := by
      rw [List.flatMap_eq_nil_iff]
      intro q hq
      exact h q (List.mem_cons_of_mem _ hq)
    have hp := h p List.mem_cons_self
    unfold Assoc.insert
    split
    · rw [List.flatMap_cons, hrest, List.append_nil]
    · split
      · rw [List.flatMap_cons, List.flatMap_cons, hrest, hp, List.append_nil, List.append_nil]
      · rw [List.flatMap_cons, hp, List.nil_append]
        exact ih fun q hq => h q (List.mem_cons_of_mem _ hq)

/-- A change of one actor in a case that conforms is refused for that actor alone. -/
theorem refusals_insert {key : String} {profile : Json} (h : engine.refusals c = []) :
    engine.refusals { c with actors := c.actors.insert key profile } =
      engine.actorRefusals c.scenario key profile := by
  obtain ⟨hactors, hvars, hresult⟩ := refusals_eq_nil_iff.1 h
  unfold Engine.refusals
  rw [hvars, List.map_nil, List.append_nil]
  change (Assoc.insert key profile c.actors.entries).flatMap _ ++ _ = _
  rw [flatMap_insert hactors]
  by_cases hnull : c.result.isNull = true
  · rw [if_pos hnull, List.append_nil]
  · rw [if_neg hnull, hresult (by simpa using hnull), List.map_nil, List.append_nil]

theorem identified?_conforms {actor : Performer} (h : engine.refusals c = []) :
    (c.identified? actor).elim [] (fun a => engine.actorRefusals c.scenario a.1 a.2) = [] := by
  cases hfound : c.identified? actor with
  | none => rfl
  | some a =>
    simp only [identified?, Option.bind_eq_some_iff, Option.map_eq_some_iff] at hfound
    obtain ⟨_, -, profile, hprofile, rfl⟩ := hfound
    exact (refusals_eq_nil_iff.1 h).1 _ (Dict.mem_entries_iff.2 hprofile)

/-- Where an id is bound, the actor with the id is all that can be refused. -/
theorem refusals_bindActor {actor : Performer} {profile : Json} (h : engine.refusals c = []) :
    engine.refusals (c.bindActor actor profile) =
      ((c.bindActor actor profile).identified? actor).elim []
        fun a => engine.actorRefusals c.scenario a.1 a.2 := by
  unfold bindActor
  split
  · rename_i id fields hid _ _
    split
    · rw [h, identified?_conforms h]
    · rw [refusals_insert h]
      simp [identified?, hid]
  · rw [h, identified?_conforms h]

/-- A client whose id has at most three characters. -/
def shortIdDocument : Json := .obj [
  ("actors", .obj [("client", .obj [("properties", .obj [
    ("id", .obj [("maxLength", .num (.int 3)), ("type", .str "string")])])])]),
  ("states", .obj [("initial", .obj [("goto", .str "(done)"), ("on", .str "complete")])])]

def shortIdTrial (id : String) : Option Case :=
  trial shortIdDocument [.attempt ⟨"complete", ⟨"client", some id⟩, none⟩ (afterSeconds 1)]

theorem shortIdTrial_shown :
    (["c-1", "client-1"].map fun id => (shortIdTrial id).map fun c =>
      (c.current.key, ((Engine.standard c.scenario).refusals c).isEmpty)) =
        [some ("(done)", true), some ("(done)", false)] := by
  decide +kernel

/-- All that the schemas refuse of a reachable case is the actor of the last step that was taken,
with the id that this gave. -/
theorem refusals_reachable (hc : Reachable engine s c) :
    engine.refusals c =
      ((lastTaken? c.events).bind fun a => c.identified? a.actor).elim []
        fun a => engine.actorRefusals s a.1 a.2 := by
  induction hc with
  | @start start c h =>
    obtain ⟨actors, stage, -, hsound, -, rfl⟩ := begin_eq_ok_iff.1 h
    exact hsound
  | @step c next move now hc h ih =>
    obtain htaken | ⟨reasons, hne, -, rfl⟩ := step_eq_ok_iff.1 h
    · rw [events_decide htaken, lastTaken?_append, taken?_attemptOf_nil, Option.some_or]
      obtain ⟨p, rfl⟩ := decide_eq_ok_iff.1 htaken
      have hsound := (absorb_eq_ok_iff.1 p.absorbed).2.1 rfl
      have hscenario : (c.absorb p.ctx move.actor.key).scenario = s := hc.scenario
      rw [← hscenario]
      exact refusals_bindActor hsound
    · rw [append, lastTaken?_append, taken?_attemptOf hne, Option.none_or]
      exact ih
  | timeout hc h ih =>
    obtain ⟨-, rfl⟩ | hdue := timeout_eq_ok_iff.1 h
    · exact ih
    · obtain ⟨state, t, entries, stage, -, -, -, -, rfl⟩ := expire?_eq_some_iff.1 hdue
      rw [lastTaken?_append, expiryOf_eq]
      exact ih

/-- A client with a short id conforms. -/
theorem short_id_conforms :
    ∃ c, shortIdTrial "c-1" = some c ∧
      ((lastTaken? c.events).bind fun a => c.identified? a.actor).elim []
        (fun a => (Engine.standard c.scenario).actorRefusals c.scenario a.1 a.2) = [] := by
  obtain ⟨hshort, -⟩ := List.cons.inj shortIdTrial_shown
  obtain ⟨c, hc, hshown⟩ := Option.map_eq_some_iff.1 hshort
  have hnone := List.isEmpty_iff.1 (congrArg Prod.snd hshown)
  rw [refusals_reachable (reachable_of_trial hc).2] at hnone
  exact ⟨c, hc, hnone⟩

/-- A client with a long id completes a case that does not conform. -/
theorem long_id_refused :
    ∃ s c, normalize shortIdDocument = .ok s ∧ Reachable (Engine.standard s) s c ∧
      (Engine.standard s).refusals c ≠ [] := by
  obtain ⟨-, hlong⟩ := List.cons.inj shortIdTrial_shown
  obtain ⟨c, hc, hshown⟩ := Option.map_eq_some_iff.1 (List.cons.inj hlong).1
  obtain ⟨hs, hreachable⟩ := reachable_of_trial hc
  refine ⟨c.scenario, c, hs, hreachable, ?_⟩
  intro hnone
  have hsome := congrArg Prod.snd hshown
  rw [hnone] at hsome
  cases hsome

end Caseflow.Case
