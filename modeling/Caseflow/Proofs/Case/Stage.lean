import Caseflow.Case.Entry
import Caseflow.Proofs.Case.Outcome
import Caseflow.Proofs.Scenario.Keys
import Mathlib.Data.List.Nodup

/-!
# What an entered state shows

`enter_eq_ok_iff` says what a state shows once it is entered. Each of its offers is that of an
action of the scenario that one of the state's transitions takes, under the short key of that
action. No two of them have the same key, and a key is on offer exactly if a transition on it is
open.
-/
namespace Caseflow.Case

open Scenario Time

variable {regex : Regex.Engine} {s : Scenario} {ctx : Json}

theorem enter_eq_ok_iff {key : String} {timestamp : Timestamp} {stage : Stage} :
    Stage.enter regex s key ctx timestamp = .ok stage ↔
      ∃ state instructions offers alerts title description,
        s.states.get? key = some state ∧
        instructionTexts regex ctx state.instructions.entries = .ok instructions ∧
        offersFrom regex s key ctx [] state.actionTransitions = .ok offers ∧
        alertsOf regex ctx state.notices = .ok alerts ∧
        display regex ctx state.title = .ok title ∧
        display regex ctx state.description = .ok description ∧
        stage = ⟨key, timestamp, title, description, .ofList instructions, alerts, offers, none,
          none⟩ := by
  simp only [Stage.enter, bind_eq_ok_iff, orFail_eq_ok_iff, pure_eq_ok_iff]
  constructor
  · rintro ⟨state, hstate, instructions, hinstructions, offers, hoffers, alerts, halerts, title,
      htitle, description, hdescription, rfl⟩
    exact ⟨state, instructions, offers, alerts, title, description, hstate, hinstructions, hoffers,
      halerts, htitle, hdescription, rfl⟩
  · rintro ⟨state, instructions, offers, alerts, title, description, hstate, hinstructions, hoffers,
      halerts, htitle, hdescription, rfl⟩
    exact ⟨state, hstate, instructions, hinstructions, offers, hoffers, alerts, halerts, title,
      htitle, description, hdescription, rfl⟩

/-- What a state shows besides who entered it and with which response. -/
def Stage.bare (stage : Stage) : Stage := { stage with actor := none, response := none }

theorem enter_eq_ok {key : String} {timestamp : Timestamp} {stage : Stage}
    (h : Stage.enter regex s key ctx timestamp = .ok stage) :
    stage.key = key ∧ stage.timestamp = timestamp ∧ stage.bare = stage := by
  obtain ⟨state, instructions, offers, alerts, title, description, -, -, -, -, -, -, rfl⟩ :=
    enter_eq_ok_iff.1 h
  exact ⟨rfl, rfl, rfl⟩

theorem enter_again {key : String} {timestamp : Timestamp} {stage : Stage}
    (h : Stage.enter regex s key ctx timestamp = .ok stage) :
    Stage.enter regex s stage.key ctx stage.timestamp = .ok stage.bare := by
  obtain ⟨hkey, htime, hbare⟩ := enter_eq_ok h
  rw [hkey, htime, hbare, h]

theorem mem_of_offer? {stage : Stage} {action : String} {offer : Offer}
    (h : stage.offer? action = some offer) : offer ∈ stage.offers ∧ offer.key = action := by
  refine ⟨List.mem_of_find?_eq_some h, ?_⟩
  simpa using List.find?_some h

theorem offerOf?_eq_some_iff {key : String} {t : ActionTransition} {offer : Offer} :
    offerOf? regex s key ctx t = .ok (some offer) ↔
      ∃ action, s.actions.get? t.action = some action ∧ holds regex ctx t.guard = .ok true ∧
        holds regex ctx action.guard = .ok true ∧
        offer = ⟨shortKey key t.action, action.title, action.description, action.actors,
          action.response⟩ := by
  simp only [offerOf?, bind_eq_ok_iff, orFail_eq_ok_iff]
  constructor
  · rintro ⟨action, haction, own, hown, h⟩
    cases own with
    | false => cases h
    | true =>
      obtain ⟨shared, hshared, h⟩ := bind_eq_ok_iff.1 h
      cases shared with
      | false => cases h
      | true =>
        cases h
        exact ⟨action, haction, hown, hshared, rfl⟩
  · rintro ⟨action, haction, hown, hshared, rfl⟩
    refine ⟨action, haction, true, hown, ?_⟩
    rw [if_pos rfl, bind_eq_ok_iff]
    exact ⟨true, hshared, rfl⟩

/-- A transition on a key that is on offer already is passed over. -/
theorem offersFrom_cons_eq_ok {key : String} {t : ActionTransition} {ts : List ActionTransition}
    {offers shown : List Offer} (h : offersFrom regex s key ctx offers (t :: ts) = .ok shown) :
    (shortKey key t.action ∈ offers.map (·.key) ∧
      offersFrom regex s key ctx offers ts = .ok shown) ∨
      (shortKey key t.action ∉ offers.map (·.key) ∧
        ∃ found, offerOf? regex s key ctx t = .ok found ∧
          offersFrom regex s key ctx (offers ++ found.toList) ts = .ok shown) := by
  have hthere : offers.any (·.key == shortKey key t.action) = true ↔
      shortKey key t.action ∈ offers.map (·.key) := by
    simp
  unfold offersFrom at h
  split at h
  · rename_i hany
    exact .inl ⟨hthere.1 hany, h⟩
  · rename_i hany
    obtain ⟨found, hfound, h⟩ := bind_eq_ok_iff.1 h
    exact .inr ⟨mt hthere.2 hany, found, hfound, h⟩

/-- Offers are those there were before and those of transitions. -/
theorem mem_offersFrom {key : String} {ts : List ActionTransition} {offers shown : List Offer}
    {offer : Offer} (h : offersFrom regex s key ctx offers ts = .ok shown) (hmem : offer ∈ shown) :
    offer ∈ offers ∨ ∃ t ∈ ts, offerOf? regex s key ctx t = .ok (some offer) := by
  induction ts generalizing offers with
  | nil =>
    cases h
    exact .inl hmem
  | cons t rest ih =>
    rw [List.exists_mem_cons_iff]
    obtain ⟨-, h⟩ | ⟨-, found, hfound, h⟩ := offersFrom_cons_eq_ok h
    · exact (ih h).imp_right .inr
    · obtain hold | hrest := ih h
      · obtain hold | hnew := List.mem_append.1 hold
        · exact .inl hold
        · rw [Option.mem_toList] at hnew
          rw [hnew] at hfound
          exact .inr (.inl hfound)
      · exact .inr (.inr hrest)

/-- An offer of an entered state is that of an action which one of its transitions takes. -/
theorem offer_of_enter {key : String} {timestamp : Timestamp} {stage : Stage} {offer : Offer}
    (h : Stage.enter regex s key ctx timestamp = .ok stage) (hmem : offer ∈ stage.offers) :
    ∃ state, s.states.get? key = some state ∧ ∃ t ∈ state.actionTransitions,
      offerOf? regex s key ctx t = .ok (some offer) := by
  obtain ⟨state, _, offers, _, _, _, hstate, -, hoffers, -, -, -, rfl⟩ := enter_eq_ok_iff.1 h
  obtain hnil | ⟨t, ht, hoffer⟩ := mem_offersFrom hoffers hmem
  · cases hnil
  · exact ⟨state, hstate, t, ht, hoffer⟩

/-- The guards of a transition and of its action hold. -/
def Opens (regex : Regex.Engine) (s : Scenario) (ctx : Json) (t : ActionTransition) : Prop :=
  holds regex ctx t.guard = .ok true ∧
    ∃ action, s.actions.get? t.action = some action ∧ holds regex ctx action.guard = .ok true

theorem opens_iff_offerOf? (key : String) {t : ActionTransition} :
    Opens regex s ctx t ↔ ∃ offer, offerOf? regex s key ctx t = .ok (some offer) := by
  simp only [Opens, offerOf?_eq_some_iff]
  constructor
  · rintro ⟨hown, action, haction, hshared⟩
    exact ⟨_, action, haction, hown, hshared, rfl⟩
  · rintro ⟨_, action, haction, hown, hshared, -⟩
    exact ⟨hown, action, haction, hshared⟩

theorem key_of_offerOf? {key : String} {t : ActionTransition} {offer : Offer}
    (h : offerOf? regex s key ctx t = .ok (some offer)) : offer.key = shortKey key t.action := by
  obtain ⟨action, -, -, -, rfl⟩ := offerOf?_eq_some_iff.1 h
  rfl

/-- An action is offered once. -/
theorem nodup_offersFrom {key : String} {ts : List ActionTransition} {offers shown : List Offer}
    (h : offersFrom regex s key ctx offers ts = .ok shown) (hoffers : (offers.map (·.key)).Nodup) :
    (shown.map (·.key)).Nodup := by
  induction ts generalizing offers with
  | nil =>
    cases h
    exact hoffers
  | cons t rest ih =>
    obtain ⟨-, h⟩ | ⟨hnew, found, hfound, h⟩ := offersFrom_cons_eq_ok h
    · exact ih h hoffers
    · apply ih h
      cases found with
      | none => simpa using hoffers
      | some offer =>
        rw [← key_of_offerOf? hfound] at hnew
        rw [Option.toList_some, List.map_append, List.map_singleton, ← List.concat_eq_append]
        exact hoffers.concat hnew

theorem mem_keys_offersFrom {key action : String} {ts : List ActionTransition}
    {offers shown : List Offer} (h : offersFrom regex s key ctx offers ts = .ok shown) :
    action ∈ shown.map (·.key) ↔ action ∈ offers.map (·.key) ∨
      ∃ t ∈ ts, shortKey key t.action = action ∧ Opens regex s ctx t := by
  induction ts generalizing offers with
  | nil =>
    cases h
    simp
  | cons t rest ih =>
    rw [List.exists_mem_cons_iff]
    obtain ⟨hthere, h⟩ | ⟨-, found, hfound, h⟩ := offersFrom_cons_eq_ok h
    · rw [ih h]
      constructor
      · exact Or.imp_right .inr
      · rintro (hold | ⟨rfl, -⟩ | hrest)
        · exact .inl hold
        · exact .inl hthere
        · exact .inr hrest
    · rw [ih h, List.map_append, List.mem_append, or_assoc]
      refine or_congr_right (or_congr_left ?_)
      rw [opens_iff_offerOf? key, hfound]
      cases found with
      | none => simp
      | some offer => simp [key_of_offerOf? hfound, eq_comm]

theorem nodup_keys_of_enter {key : String} {timestamp : Timestamp} {stage : Stage}
    (h : Stage.enter regex s key ctx timestamp = .ok stage) : (stage.offers.map (·.key)).Nodup := by
  obtain ⟨_, _, offers, _, _, _, -, -, hoffers, -, -, -, rfl⟩ := enter_eq_ok_iff.1 h
  exact nodup_offersFrom hoffers List.nodup_nil

/-- A key is on offer exactly if a transition with this short key is open. -/
theorem mem_keys_of_enter {key action : String} {timestamp : Timestamp} {stage : Stage}
    {state : State} (h : Stage.enter regex s key ctx timestamp = .ok stage)
    (hstate : s.states.get? key = some state) :
    action ∈ stage.offers.map (·.key) ↔
      ∃ t ∈ state.actionTransitions, shortKey key t.action = action ∧ Opens regex s ctx t := by
  obtain ⟨_, _, offers, _, _, _, hsame, -, hoffers, -, -, -, rfl⟩ := enter_eq_ok_iff.1 h
  cases hstate.symm.trans hsame
  exact (mem_keys_offersFrom hoffers).trans (or_iff_right List.not_mem_nil)

theorem isSome_offer?_iff {stage : Stage} {action : String} :
    (stage.offer? action).isSome = true ↔ action ∈ stage.offers.map (·.key) := by
  simp [Stage.offer?, List.find?_isSome]

theorem offer?_of_mem {stage : Stage} {offer : Offer} (h : (stage.offers.map (·.key)).Nodup)
    (hmem : offer ∈ stage.offers) : stage.offer? offer.key = some offer := by
  obtain ⟨found, hfound⟩ := Option.isSome_iff_exists.1
    (isSome_offer?_iff.2 (List.mem_map_of_mem hmem))
  obtain ⟨hthere, hkey⟩ := mem_of_offer? hfound
  rw [hfound, List.inj_on_of_nodup_map h hthere hmem hkey]

theorem of_alertOf? {n : Notice} {alert : Alert} (h : alertOf? regex ctx n = .ok (some alert)) :
    alert.service = n.service ∧ alert.trigger = n.trigger := by
  obtain ⟨open?, -, h⟩ := bind_eq_ok_iff.1 h
  cases open? with
  | false => cases h
  | true =>
    rw [if_pos rfl] at h
    simp only at h
    split at h
    · obtain ⟨message, -, heq⟩ := bind_eq_ok_iff.1 h
      cases heq
      exact ⟨rfl, rfl⟩
    · obtain ⟨message, -, heq⟩ := bind_eq_ok_iff.1 h
      cases heq
      exact ⟨rfl, rfl⟩

theorem mem_alertsOf {ns : List Notice} {alerts : List Alert} {alert : Alert}
    (h : alertsOf regex ctx ns = .ok alerts) (hmem : alert ∈ alerts) :
    ∃ n ∈ ns, alert.service = n.service ∧ alert.trigger = n.trigger := by
  induction ns generalizing alerts with
  | nil =>
    cases h
    cases hmem
  | cons n rest ih =>
    obtain ⟨first, hfirst, h⟩ := bind_eq_ok_iff.1 h
    obtain ⟨others, hothers, heq⟩ := bind_eq_ok_iff.1 h
    cases heq
    obtain hmem | hmem := List.mem_append.1 hmem
    · rw [Option.mem_toList] at hmem
      subst hmem
      exact ⟨n, List.mem_cons_self, of_alertOf? hfirst⟩
    · obtain ⟨m, hm, hsame⟩ := ih hothers hmem
      exact ⟨m, List.mem_cons_of_mem _ hm, hsame⟩

theorem alert_of_enter {key : String} {timestamp : Timestamp} {stage : Stage} {state : State}
    {alert : Alert} (h : Stage.enter regex s key ctx timestamp = .ok stage)
    (hstate : s.states.get? key = some state) (hmem : alert ∈ stage.alerts) :
    ∃ n ∈ state.notices, alert.service = n.service ∧ alert.trigger = n.trigger := by
  obtain ⟨_, _, _, alerts, _, _, hsame, -, -, halerts, -, -, rfl⟩ := enter_eq_ok_iff.1 h
  cases hstate.symm.trans hsame
  exact mem_alertsOf halerts hmem

end Caseflow.Case
