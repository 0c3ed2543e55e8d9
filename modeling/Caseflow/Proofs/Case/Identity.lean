import Caseflow.Proofs.Case.Conformance
import Caseflow.Proofs.Case.Footprint
import Caseflow.Proofs.Case.Takeover

/-!
# Who acts as an actor

The id of the party who acts as an actor is bound once. If no update of a scenario writes at or
below the actors or the one who acts, then from there on the actor has that id whatever is asked of
the case, and every step of the actor that is taken gave that id or none.
-/
namespace Caseflow

/-- An update that writes neither at or below the actors nor at or below the one who acts. -/
def Scenario.Update.SparesActors (u : Scenario.Update) : Prop :=
  Case.isBelow "actors" u.target = false ∧ Case.isBelow "current.actor" u.target = false

instance (u : Scenario.Update) : Decidable u.SparesActors :=
  inferInstanceAs (Decidable (_ ∧ _))

/-- A scenario whose updates all leave the actors to the steps. -/
def Scenario.SparesActors (s : Scenario) : Prop :=
  ∀ p ∈ s.actions.entries, ∀ u ∈ p.2.updates, u.SparesActors

instance (s : Scenario) : Decidable s.SparesActors :=
  inferInstanceAs (Decidable (∀ p ∈ s.actions.entries, ∀ u ∈ p.2.updates, u.SparesActors))

namespace Case

open Scenario Time

variable {engine : Engine} {c next : Case} {move : Move} {now : Timestamp} {predicting : Bool}
  {key id : String} {profile : Json} {actor : Performer} {events more : List Event}

theorem apart_of_ne {name other : String} {path place : List String} (h : name ≠ other) :
    Apart (name :: path) (other :: place) := by
  simp [Apart, List.cons_prefix_cons, h, h.symm]

theorem apart_of_sparesActors {u : Update} (hallowed : isAllowedTarget u.target = true)
    (h : u.SparesActors) : Apart ["actors"] (pathOf u) ∧ Apart ["current", "actor"] (pathOf u) := by
  have hroot : ∃ root ∈ ["title", "vars", "result"], isBelow root u.target = true := by
    simpa [isAllowedTarget, writableRoots, h.1, h.2] using hallowed
  obtain ⟨root, hmem, hbelow⟩ := hroot
  have hplain : ∀ root ∈ ["title", "vars", "result"],
      Text.split '.' root = [root] ∧ "actors" ≠ root ∧ "current" ≠ root := by decide
  obtain ⟨hsplit, hactors, hcurrent⟩ := hplain root hmem
  obtain ⟨more, hpath⟩ := prefix_pathOf hbelow
  rw [← hpath, hsplit]
  exact ⟨apart_of_ne hactors, apart_of_ne hcurrent⟩

theorem get?_bindActor_of_ne {other : String} (h : actor.key ≠ other) (c : Case)
    (profile : Json) : (c.bindActor actor profile).actors.get? other = c.actors.get? other := by
  cases hperson : isService actor.key with
  | true => rw [bindActor_of_isService hperson]
  | false => rw [get?_bindActor hperson, if_neg h]

namespace Passage

theorem spared (p : Passage engine c move now predicting)
    (h : ∀ u ∈ p.admission.action.updates, u.SparesActors) :
    p.ctx.field? "actors" = some (.obj c.actors.entries) ∧
      (p.ctx.field "current").field "actor" = keyed move.actor.key p.admission.profile := by
  have hapart (w : Write) (hw : w ∈ p.writes) :
      Apart ["actors"] w.path ∧ Apart ["current", "actor"] w.path := by
    obtain ⟨u, hu, hallowed, hpath⟩ := p.applied.exists_update w hw
    exact hpath ▸ apart_of_sparesActors hallowed (h u hu)
  have hactors := p.applied.frame fun w hw => (hapart w hw).1
  have hacting := p.applied.frame fun w hw => (hapart w hw).2
  rw [valueAt?_cons (by simp)] at hacting
  simp only [valueAt?, Option.bind_fun_some] at hactors hacting
  refine ⟨hactors, field_of_field? (hacting.trans ?_)⟩
  simp [actingContext, context, Json.field?, Assoc.get?, Assoc.get?_insert]

/-- If the updates spare the actors, one who does not act stays as before. -/
theorem get?_result_of_ne (p : Passage engine c move now predicting)
    (h : ∀ u ∈ p.admission.action.updates, u.SparesActors) (hkey : move.actor.key ≠ key) :
    p.result.actors.get? key = c.actors.get? key := by
  rw [result, bound, get?_bindActor_of_ne hkey, get?_absorb (p.spared h).1 hkey]
  rfl

/-- The one who acts is taken over from the current state, without the key and with the id that the
step binds. -/
theorem get?_result_self (p : Passage engine c move now predicting)
    (h : ∀ u ∈ p.admission.action.updates, u.SparesActors)
    (hperson : isService move.actor.key = false) {fields : Fields}
    (hprofile : p.admission.profile = .obj fields) :
    p.result.actors.get? move.actor.key = some (identified move.actor (.obj fields)
      (unkeyed (keyed move.actor.key (.obj fields)))) := by
  have hacting := (p.spared h).2
  rw [hprofile] at hacting
  rw [result, bound, get?_bindActor hperson, if_pos rfl, hprofile]
  exact congrArg _ (get?_absorb_self hperson hacting c)

end Passage

def boundTo? (c : Case) (key : String) : Option String := (c.actors.get? key).bind boundId?

theorem isObject_of_boundId? (h : boundId? profile = some id) :
    ∃ fields, profile = .obj fields := by
  cases profile with
  | obj fields => exact ⟨fields, rfl⟩
  | _ => cases h

/-- A step keeps the ids that are bound. -/
theorem boundTo?_decide (hspares : c.scenario.SparesActors)
    (h : engine.decide c move now predicting = .ok next) (hperson : isService key = false)
    (hbound : c.boundTo? key = some id) : next.boundTo? key = some id := by
  obtain ⟨p, rfl⟩ := decide_eq_ok_iff.1 h
  obtain ⟨offer, action, known, -, haction, hknown, -, hadmission⟩ :=
    admission_eq_ok_iff.1 p.admitted
  have hown : ∀ u ∈ p.admission.action.updates, u.SparesActors := by
    rw [hadmission]
    exact hspares _ (Dict.mem_entries_iff.2 haction)
  by_cases hkey : move.actor.key = key
  · subst hkey
    obtain ⟨profile, hprofile, hid⟩ := Option.bind_eq_some_iff.1 hbound
    obtain ⟨fields, rfl⟩ := isObject_of_boundId? hid
    rw [profile?_of_get? hprofile, Option.some.injEq] at hknown
    have hsame : p.admission.profile = .obj fields := by rw [hadmission, hknown]
    have hgiven : "id" = "id" → move.actor.id = none ∨ (boundId? (.obj fields)).isSome = true :=
      fun _ => .inr (by rw [hid, Option.isSome_some])
    rw [boundTo?, p.get?_result_self hown hperson hsame, Option.bind_some, boundId?,
      field?_identified hgiven, field?_unkeyed_keyed (by decide)]
    exact hid
  · rw [boundTo?, p.get?_result_of_ne hown hkey]
    exact hbound

theorem id_of_identityRefusals (h : identityRefusals actor profile = [])
    (hbound : boundId? profile = some id) : actor.id = none ∨ actor.id = some id := by
  cases hid : actor.id with
  | none => exact .inl rfl
  | some given =>
    simp only [identityRefusals, hid, hbound] at h
    split at h
    · rename_i hsame
      rw [hsame]
      exact .inr rfl
    · cases h

theorem id_of_decide (h : engine.decide c move now false = .ok next)
    (hperson : isService move.actor.key = false)
    (hbound : c.boundTo? move.actor.key = some id) :
    move.actor.id = none ∨ move.actor.id = some id := by
  obtain ⟨p, rfl⟩ := decide_eq_ok_iff.1 h
  obtain ⟨offer, action, known, -, -, hknown, hnone, -⟩ := admission_eq_ok_iff.1 p.admitted
  obtain ⟨profile, hprofile, hid⟩ := Option.bind_eq_some_iff.1 hbound
  rw [profile?_of_get? hprofile, Option.some.injEq] at hknown
  subst hknown
  rw [Engine.admissionRefusals, hperson, Bool.or_self, if_neg (by decide), List.append_assoc,
    List.append_eq_nil_iff] at hnone
  exact id_of_identityRefusals hnone.1 hid

/-- Whether all steps of an actor that are recorded as taken gave the id or none. -/
def TakenAs (key id : String) (events : List Event) : Prop :=
  ∀ a ∈ events.filterMap Event.taken?, a.actor.key = key →
    a.actor.id = none ∨ a.actor.id = some id

theorem takenAs_append :
    TakenAs key id (events ++ more) ↔ TakenAs key id events ∧ TakenAs key id more := by
  simp only [TakenAs, List.filterMap_append, List.forall_mem_append]

/-- Whatever is asked of a case, the ids that are bound stay. -/
theorem boundTo?_serve (hspares : c.scenario.SparesActors) (hperson : isService key = false)
    (hbound : c.boundTo? key = some id) {request : Request}
    (h : engine.serve c request = .ok next) :
    next.boundTo? key = some id ∧
      ∃ later, next.events = c.events ++ later ∧ TakenAs key id later := by
  cases request with
  | attempt move now =>
    obtain htaken | ⟨reasons, hne, -, rfl⟩ := step_eq_ok_iff.1 h
    · refine ⟨boundTo?_decide hspares htaken hperson hbound, _, events_decide htaken, ?_⟩
      intro a ha hkey
      rw [List.filterMap_cons_some (taken?_attemptOf_nil c move now), List.filterMap_nil,
        List.mem_singleton] at ha
      subst ha
      change move.actor.key = key at hkey
      subst hkey
      exact id_of_decide htaken hperson hbound
    · refine ⟨hbound, _, rfl, ?_⟩
      intro a ha
      rw [List.filterMap_cons_none (taken?_attemptOf hne)] at ha
      cases ha
  | clock now =>
    obtain ⟨-, rfl⟩ | hdue := timeout_eq_ok_iff.1 h
    · exact ⟨hbound, [], (List.append_nil _).symm, nofun⟩
    · obtain ⟨state, t, entries, stage, -, -, -, -, rfl⟩ := expire?_eq_some_iff.1 hdue
      exact ⟨hbound, _, rfl, nofun⟩

theorem scenario_serve {request : Request} (h : engine.serve c request = .ok next) :
    next.scenario = c.scenario := by
  cases request with
  | attempt move now => exact scenario_step h
  | clock now => exact scenario_timeout h

/-- A client who makes notes until the case is completed. -/
def accountDocument : Json := .obj [
  ("actions", .obj [("note", .obj [("update", .obj [
    ("set", .str "vars.note"), ("value", .str "x")])])]),
  ("actors", .obj [("client", .null)]),
  ("states", .obj [("initial", .obj [("transitions", .arr [
    .obj [("on", .str "note")], .obj [("goto", .str "(done)"), ("on", .str "complete")]])])]),
  ("vars", .obj [("note", .str "string")])]

def accountTrial : Option Case :=
  trial accountDocument [.attempt ⟨"note", ⟨"client", some "c1"⟩, none⟩ (afterSeconds 1)]

def accountRequests : List Request :=
  [.attempt ⟨"note", ⟨"client", some "c2"⟩, none⟩ (afterSeconds 2),
    .attempt ⟨"complete", ⟨"client", none⟩, none⟩ (afterSeconds 3)]

theorem account_shown :
    (accountTrial.bind fun c =>
      ((Engine.standard c.scenario).serveAll c accountRequests).toOption.map fun next =>
        (decide c.scenario.SparesActors, c.boundTo? "client", next.current.key)) =
      some (true, some "c1", "(done)") := by
  decide +kernel

/-- If no update writes at or below the actors or the one who acts, an id that is bound stays, and
all who act as that actor from there on give that id or none. -/
theorem identity_kept (hspares : c.scenario.SparesActors) (hperson : isService key = false)
    (hbound : c.boundTo? key = some id) {requests : List Request}
    (h : engine.serveAll c requests = .ok next) :
    next.boundTo? key = some id ∧
      ∃ later, next.events = c.events ++ later ∧ TakenAs key id later := by
  induction requests generalizing c with
  | nil =>
    cases h
    exact ⟨hbound, [], (List.append_nil _).symm, nofun⟩
  | cons request rest ih =>
    obtain ⟨d, hd, h⟩ := bind_eq_ok_iff.1 h
    obtain ⟨hkept, earlier, hearlier, htaken⟩ := boundTo?_serve hspares hperson hbound hd
    rw [← scenario_serve hd] at hspares
    obtain ⟨hlast, later, hlater, hothers⟩ := ih hspares hkept h
    refine ⟨hlast, earlier ++ later, ?_, takenAs_append.2 ⟨htaken, hothers⟩⟩
    rw [hlater, hearlier, List.append_assoc]

/-- The client completes the case under the id of the first note. -/
theorem account_kept :
    ∃ c next, accountTrial = some c ∧
      (Engine.standard c.scenario).serveAll c accountRequests = .ok next ∧
      next.current.key = "(done)" ∧ c.boundTo? "client" = some "c1" ∧
      next.boundTo? "client" = some "c1" := by
  obtain ⟨c, hc, hrun⟩ := Option.bind_eq_some_iff.1 account_shown
  obtain ⟨next, hnext, hshown⟩ := Option.map_eq_some_iff.1 hrun
  rw [toOption_eq_some_iff] at hnext
  obtain ⟨hspares, hrest⟩ := Prod.mk.inj hshown
  obtain ⟨hbound, hdone⟩ := Prod.mk.inj hrest
  obtain ⟨hkept, -⟩ := identity_kept (of_decide_eq_true hspares) rfl hbound hnext
  exact ⟨c, next, hc, hnext, hdone, hbound, hkept⟩

end Case
end Caseflow
