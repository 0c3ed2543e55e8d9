import Caseflow.Proofs.Case.Chain
import Caseflow.Proofs.Time.Elapsed

/-!
# What time takes

A look at the clock takes the first timeout transition that is due and whose guard holds. Whole
seconds tell what is due, so a case goes by the exact instants except in the second before it
entered its state: there, what takes no time at all is due already.
-/
namespace Caseflow.Case

open Scenario Time

variable {engine : Engine} {c next : Case} {state : State} {now : Timestamp} {t : TimeoutTransition}

/-- Whether the guard of a timeout transition holds in a case as it is. -/
def Engine.isOpen (engine : Engine) (c : Case) (t : TimeoutTransition) : Bool :=
  (holds engine.regex c.ownContext t.guard).toOption.getD false

/-- Whether a timeout transition fires at an instant: it is due and its guard holds. -/
def Engine.fires (engine : Engine) (c : Case) (now : Timestamp) (t : TimeoutTransition) :
    Bool :=
  isDue (Timestamp.secondsBetween c.current.timestamp now) t && engine.isOpen c t

def Engine.expireBy (engine : Engine) (c : Case) (now : Timestamp) (t : TimeoutTransition) :
    Result Case :=
  engine.advance c (c.expiryOf now) c.ownContext t.goto t.log none now

theorem find?_of_expire?_none (hstate : c.state = .ok state) (h : engine.expire? c now = .ok none) :
    state.timeoutTransitions.find? (engine.fires c now) = none := by
  refine List.find?_eq_none.2 fun t ht hfires => ?_
  obtain ⟨hdue, hopen⟩ := Bool.and_eq_true_iff.1 hfires
  rw [Engine.isOpen, (expire?_eq_none_iff hstate).1 h t ht hdue] at hopen
  cases hopen

theorem find?_of_expire?_some (hstate : c.state = .ok state)
    (h : engine.expire? c now = .ok (some next)) :
    ∃ t, state.timeoutTransitions.find? (engine.fires c now) = some t ∧
      engine.expireBy c now t = .ok next := by
  obtain ⟨_, hsame, h⟩ := bind_eq_ok_iff.1 h
  cases hstate.symm.trans hsame
  obtain ⟨due, hdue, h⟩ := bind_eq_ok_iff.1 h
  cases due with
  | none => cases h
  | some t =>
    obtain ⟨d, hd, heq⟩ := map_eq_ok_iff.1 h
    cases heq
    exact ⟨t, firstDue_eq_find? hdue, hd⟩

/-- What a timeout transition makes has one more event, of the instant at which it is entered. -/
theorem of_expireBy (h : engine.expireBy c now t = .ok next) :
    (∃ e : Expiry, e.timestamp = now ∧ next.events = c.events ++ [.expiry e]) ∧
      next.current.timestamp = now := by
  obtain ⟨entries, stage, -, hstage, rfl⟩ := advance_eq_ok_iff.1 h
  exact ⟨⟨⟨c.tailHash, now, (c.expiryOf now).hash⟩, rfl, rfl⟩, (enter_eq_ok hstage).2.1⟩

/-- Whether a timeout transition is ripe at an instant: its seconds have passed, to the nanosecond,
and its guard holds. -/
def Engine.isRipe (engine : Engine) (c : Case) (now : Timestamp) (t : TimeoutTransition) :
    Bool :=
  c.current.timestamp.hasPassed t.after now && engine.isOpen c t

/-- Whether an instant is in the second before the current state was entered. -/
def IsJustBefore (c : Case) (now : Timestamp) : Prop :=
  -(nanosPerSecond : Int) < Timestamp.nanosBetween c.current.timestamp now ∧
    Timestamp.nanosBetween c.current.timestamp now < 0

/-- Whether a case is looked at in the second before its state was entered, and something in that
state takes no time. -/
def Engine.IsHasty (engine : Engine) (c : Case) (state : State) (now : Timestamp) : Prop :=
  c.IsJustBefore now ∧ ∃ t ∈ state.timeoutTransitions, t.after = 0 ∧ engine.isOpen c t = true

instance (c : Case) (now : Timestamp) : Decidable (c.IsJustBefore now) :=
  inferInstanceAs (Decidable (_ ∧ _))

instance (engine : Engine) (c : Case) (state : State) (now : Timestamp) :
    Decidable (engine.IsHasty c state now) :=
  inferInstanceAs (Decidable (_ ∧ _))

/-- What a look at the clock should make of a case in a state: there is one more event, of that
instant, exactly if a timeout transition is ripe, counted as `Timestamp.hasPassed` does. Then the
first ripe one has been taken, and else the case is as it was. -/
structure Engine.Timely (engine : Engine) (c : Case) (state : State) (now : Timestamp)
    (next : Case) : Prop where
  appended_iff : (∃ e : Expiry, e.timestamp = now ∧ next.events = c.events ++ [.expiry e]) ↔
    ∃ t ∈ state.timeoutTransitions, engine.isRipe c now t = true
  taken : ∀ t, state.timeoutTransitions.find? (engine.isRipe c now) = some t →
    engine.expireBy c now t = .ok next
  kept : state.timeoutTransitions.find? (engine.isRipe c now) = none → next = c

theorem fires_iff :
    engine.fires c now t = true ↔ engine.isRipe c now t = true ∨
      t.after = 0 ∧ -(nanosPerSecond : Int) < Timestamp.nanosBetween c.current.timestamp now ∧
        engine.isOpen c t = true := by
  simp only [Engine.fires, Engine.isRipe, Bool.and_eq_true, isDue, decide_eq_true_eq,
    Timestamp.le_secondsBetween_iff]
  rw [or_and_right, and_assoc]

theorem not_isRipe (h : c.IsJustBefore now) : ¬ engine.isRipe c now t = true := by
  obtain ⟨-, hbefore⟩ := h
  intro hripe
  have hpassed := of_decide_eq_true (Bool.and_eq_true_iff.1 hripe).1
  simp only [nanosPerSecond] at hpassed
  omega

/-- But for the second before the current state was entered, what fires is what is ripe. -/
theorem fires_eq_isRipe (h : ¬ c.IsJustBefore now) : engine.fires c now = engine.isRipe c now := by
  funext t
  rw [Bool.eq_iff_iff, fires_iff]
  refine or_iff_left_of_imp ?_
  rintro ⟨hnone, hsecond, hopen⟩
  have hpassed : c.current.timestamp.hasPassed t.after now = true := by
    rw [Timestamp.hasPassed, hnone, decide_eq_true_eq]
    have hnot := mt (And.intro hsecond) h
    omega
  rw [Engine.isRipe, hpassed, hopen]
  rfl

/-- In the second before, what takes no time fires. -/
theorem fires_of_isJustBefore (h : c.IsJustBefore now) :
    engine.fires c now t = true ↔ t.after = 0 ∧ engine.isOpen c t = true := by
  rw [fires_iff, or_iff_right (not_isRipe h), and_iff_right h.1]

/-- A look at the clock takes the first transition that fires, or leaves the case as it is. -/
theorem timeout_find? (hstate : c.state = .ok state) (h : engine.timeout c now = .ok next) :
    (state.timeoutTransitions.find? (engine.fires c now) = none ∧ next = c) ∨
      ∃ t, state.timeoutTransitions.find? (engine.fires c now) = some t ∧
        engine.expireBy c now t = .ok next := by
  obtain ⟨hnone, rfl⟩ | hsome := timeout_eq_ok_iff.1 h
  · exact .inl ⟨find?_of_expire?_none hstate hnone, rfl⟩
  · exact .inr (find?_of_expire?_some hstate hsome)

theorem timely_of_find? (hstate : c.state = .ok state) (h : engine.timeout c now = .ok next)
    (hsame : state.timeoutTransitions.find? (engine.fires c now) =
      state.timeoutTransitions.find? (engine.isRipe c now)) : engine.Timely c state now next := by
  obtain ⟨hfound, rfl⟩ | ⟨t, hfound, hnext⟩ := timeout_find? hstate h
  · rw [hsame] at hfound
    refine ⟨iff_of_false ?_ ?_, fun u hu => (nomatch hfound.symm.trans hu), fun _ => rfl⟩
    · rintro ⟨e, -, hevents⟩
      simp at hevents
    · rintro ⟨u, hu, hripe⟩
      exact List.find?_eq_none.1 hfound u hu hripe
  · rw [hsame] at hfound
    refine ⟨iff_of_true (of_expireBy hnext).1 ?_, ?_,
      fun hnone => (nomatch hfound.symm.trans hnone)⟩
    · exact ⟨t, List.mem_of_find?_eq_some hfound, List.find?_some hfound⟩
    · intro u hu
      cases hfound.symm.trans hu
      exact hnext

/-- In the second before its state was entered, a case that time should leave alone is changed by
what takes no time. -/
theorem not_timely (hstate : c.state = .ok state) (h : engine.timeout c now = .ok next)
    (hhasty : engine.IsHasty c state now) : ¬ engine.Timely c state now next := by
  obtain ⟨hbefore, t, ht, hnone, hopen⟩ := hhasty
  intro htimely
  obtain ⟨hfound, -⟩ | ⟨u, -, hnext⟩ := timeout_find? hstate h
  · exact List.find?_eq_none.1 hfound t ht ((fires_of_isJustBefore hbefore).2 ⟨hnone, hopen⟩)
  · obtain ⟨v, -, hripe⟩ := htimely.appended_iff.1 (of_expireBy hnext).1
    exact not_isRipe hbefore hripe

/-- The case that requests make of an authored scenario, its state in the scenario, and the case
after a look at the clock. -/
def clocked (document : Json) (requests : List Request) (now : Timestamp) :
    Option (Case × State × Case) := do
  let c ← trial document requests
  let state ← c.state.toOption
  let next ← ((Engine.standard c.scenario).timeout c now).toOption
  return (c, state, next)

theorem of_clocked {document : Json} {requests : List Request}
    (h : clocked document requests now = some (c, state, next)) :
    trial document requests = some c ∧ c.state = .ok state ∧
      (Engine.standard c.scenario).timeout c now = .ok next := by
  simp only [clocked, Option.bind_eq_bind, Option.bind_eq_some_iff, toOption_eq_some_iff] at h
  obtain ⟨c, hc, state, hstate, next, hnext, heq⟩ := h
  cases heq
  exact ⟨hc, hstate, hnext⟩

def halfASecondBefore : Timestamp := ⟨-1, 500000000, .inl (by decide)⟩

/-- What is started is done at once. -/
def hastyDocument : Json := .obj [("states", .obj [
  ("initial", .obj [("after", .str "0 seconds"), ("goto", .str "(done)")])])]

theorem expiring_clocked :
    ((clocked expiringDocument (expiringRequests.take 2) (afterSeconds 3601)).map
      fun (c, state, next) =>
        (decide ((Engine.standard c.scenario).IsHasty c state (afterSeconds 3601)),
          next.current.key)) = some (false, "(expired)") := by
  decide +kernel

theorem hasty_clocked :
    ((clocked hastyDocument [] halfASecondBefore).map
      fun (c, state, _) =>
        decide ((Engine.standard c.scenario).IsHasty c state halfASecondBefore)) = some true := by
  decide +kernel

/-- A look at the clock does what exact instants say, unless it is in the second before the current
state was entered and something in that state takes no time. Then the first transition is taken that
takes no time and whose guard holds. -/
theorem timeout_timely_iff (hstate : c.state = .ok state) (h : engine.timeout c now = .ok next) :
    (engine.Timely c state now next ↔ ¬ engine.IsHasty c state now) ∧
      (c.IsJustBefore now → ∀ t,
        (state.timeoutTransitions.find? fun t => t.after == 0 && engine.isOpen c t) = some t →
          engine.expireBy c now t = .ok next) := by
  have htaken (hbefore : c.IsJustBefore now) :
      engine.fires c now = fun t => t.after == 0 && engine.isOpen c t := by
    funext t
    rw [Bool.eq_iff_iff, fires_of_isJustBefore hbefore, Bool.and_eq_true, beq_iff_eq]
  refine ⟨⟨fun htimely hhasty => not_timely hstate h hhasty htimely, ?_⟩, ?_⟩
  · intro hpatient
    apply timely_of_find? hstate h
    by_cases hbefore : c.IsJustBefore now
    · -- nothing is ripe, and nothing that takes no time is there to fire
      rw [List.find?_eq_none.2, List.find?_eq_none.2]
      · exact fun t _ => not_isRipe hbefore
      · intro t ht hfires
        exact hpatient ⟨hbefore, t, ht, (fires_of_isJustBefore hbefore).1 hfires⟩
    · rw [fires_eq_isRipe hbefore]
  · intro hbefore t ht
    rw [← htaken hbefore] at ht
    obtain ⟨hnone, -⟩ | ⟨u, hfound, hnext⟩ := timeout_find? hstate h
    · cases hnone.symm.trans ht
    · cases hfound.symm.trans ht
      exact hnext

/-- What has been submitted expires when the hour is over, as it should. -/
theorem expiring_timely :
    ∃ c state next, trial expiringDocument (expiringRequests.take 2) = some c ∧
      c.state = .ok state ∧
      (Engine.standard c.scenario).timeout c (afterSeconds 3601) = .ok next ∧
      next.current.key = "(expired)" ∧
      (Engine.standard c.scenario).Timely c state (afterSeconds 3601) next := by
  obtain ⟨⟨c, state, next⟩, hclocked, hshown⟩ := Option.map_eq_some_iff.1 expiring_clocked
  obtain ⟨hc, hstate, hnext⟩ := of_clocked hclocked
  obtain ⟨hpatient, hexpired⟩ := Prod.mk.inj hshown
  exact ⟨c, state, next, hc, hstate, hnext, hexpired,
    (timeout_timely_iff hstate hnext).1.2 (of_decide_eq_false hpatient)⟩

/-- What takes no time is done half a second before the case is started. -/
theorem hasty_untimely :
    ∃ s c state next, normalize hastyDocument = .ok s ∧ Reachable (Engine.standard s) s c ∧
      c.state = .ok state ∧ (Engine.standard s).timeout c halfASecondBefore = .ok next ∧
      ¬ (Engine.standard s).Timely c state halfASecondBefore next := by
  obtain ⟨⟨c, state, next⟩, hclocked, hshown⟩ := Option.map_eq_some_iff.1 hasty_clocked
  obtain ⟨hc, hstate, hnext⟩ := of_clocked hclocked
  obtain ⟨hs, hreachable⟩ := reachable_of_trial hc
  exact ⟨c.scenario, c, state, next, hs, hreachable, hstate, hnext,
    not_timely hstate hnext (of_decide_eq_true hshown)⟩

end Caseflow.Case
