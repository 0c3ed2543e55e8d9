import Caseflow.Proofs.Case.Expiry

/-!
# Forced timeouts

Where no actor can do anything, a prediction moves the clock to the due times of the state's timeout
transitions, in the order of the transitions, until something fires. What fires there need not be
the transition whose due time it is. It is the first one whose guard holds, at its own due time,
exactly if that is the time to which the clock was moved.
-/
namespace Caseflow.Case

open Scenario Time

variable {engine : Engine} {c next : Case} {state : State} {now due : Timestamp}
  {t f : TimeoutTransition}

/-- Whether a timeout transition can be foreseen: its guard holds, and its due time can be written.
-/
def Engine.isForeseen (engine : Engine) (c : Case) (t : TimeoutTransition) : Bool :=
  engine.isOpen c t && (c.dueTime? t).isSome

theorem isOpen_of_isForeseen (h : engine.isForeseen c t = true) : engine.isOpen c t = true :=
  (Bool.and_eq_true_iff.1 h).1

/-- The first of the due times of a state at which anything fires. -/
def Engine.occasion? (engine : Engine) (c : Case) (state : State) : Option Timestamp :=
  (state.timeoutTransitions.filterMap c.dueTime?).find? fun now =>
    state.timeoutTransitions.any (engine.fires c now)

/-- Going through times stops at the first one at which anything fires. -/
theorem firstExpiry_find? (hstate : c.state = .ok state) {times : List Timestamp}
    (h : engine.firstExpiry c times = .ok (some next)) :
    ∃ now t, times.find? (fun now => state.timeoutTransitions.any (engine.fires c now)) = some now ∧
      state.timeoutTransitions.find? (engine.fires c now) = some t ∧
      engine.expireBy c now t = .ok next := by
  obtain ⟨before, now, rest, rfl, hbefore, hexpire⟩ := firstExpiry_split h
  obtain ⟨t, hfound, hnext⟩ := find?_of_expire?_some hstate hexpire
  refine ⟨now, t, List.find?_eq_some_iff_append.2 ⟨?_, before, rest, rfl, ?_⟩, hfound, hnext⟩
  · exact List.any_eq_true.2 ⟨t, List.mem_of_find?_eq_some hfound, List.find?_some hfound⟩
  · intro earlier hearlier
    rw [Bool.not_eq_true', List.any_eq_false]
    exact List.find?_eq_none.1 (find?_of_expire?_none hstate (hbefore earlier hearlier))

/-- What fires at a due time is itself due at a time that can be written. -/
theorem isForeseen_of_fires (hdue : c.dueTime? f = some due) (h : engine.fires c due t = true) :
    engine.isForeseen c t = true := by
  obtain ⟨hpassed, hopen⟩ := Bool.and_eq_true_iff.1 h
  have hle : (t.after : Int) ≤ f.after :=
    Int.le_trans (of_decide_eq_true hpassed) (Timestamp.secondsBetween_le hdue)
  obtain ⟨own, hown⟩ := Timestamp.exists_addSeconds?_of_le (Int.ofNat_le.1 hle) hdue
  rw [Engine.isForeseen, hopen, dueTime?, hown]
  rfl

theorem fires_dueTime (hentered : c.current.timestamp.isLeapSecond = false)
    (hdue : c.dueTime? t = some due) (hopen : engine.isOpen c t = true) :
    engine.fires c due t = true := by
  rw [Engine.fires, hopen, isDue, Timestamp.secondsBetween_of_addSeconds? hentered hdue]
  simp

/-- If the first transition that can be foreseen fires at some due time, it is the first that
fires. -/
theorem find?_fires (hforeseen : state.timeoutTransitions.find? (engine.isForeseen c) = some f)
    {u : TimeoutTransition} (hdue : c.dueTime? u = some due)
    (hfires : engine.fires c due f = true) :
    state.timeoutTransitions.find? (engine.fires c due) = some f := by
  obtain ⟨-, before, rest, hsplit, hfirst⟩ := List.find?_eq_some_iff_append.1 hforeseen
  refine List.find?_eq_some_iff_append.2 ⟨hfires, before, rest, hsplit, ?_⟩
  intro t ht
  rw [Bool.not_eq_true']
  refine eq_false_of_ne_true fun hearlier => ?_
  have hseen := isForeseen_of_fires hdue hearlier
  simpa [hseen] using hfirst t ht

/-- If no actor can do anything with the case that is started, and that was not in a leap second:
when the first transition is due that can be foreseen, and the state that is predicted with its
time. -/
def glimpse (document : Json) : Option (Timestamp × String × Timestamp) := do
  let c ← trial document []
  let engine := Engine.standard c.scenario
  let state ← c.state.toOption
  let accepted ← (engine.firstAccepted c (c.candidateMoves state)).toOption
  let predicted ← (engine.predictNext c).toOption
  let next ← predicted
  let f ← state.timeoutTransitions.find? (engine.isForeseen c)
  let due ← c.dueTime? f
  if accepted.isNone && !c.current.timestamp.isLeapSecond then
    return (due, next.current.key, next.current.timestamp)
  else none

theorem of_glimpse {document : Json} {key : String}
    (h : glimpse document = some (due, key, now)) :
    ∃ c state next f, trial document [] = some c ∧ c.state = .ok state ∧
      (Engine.standard c.scenario).firstAccepted c (c.candidateMoves state) = .ok none ∧
      (Engine.standard c.scenario).predictNext c = .ok (some next) ∧
      c.current.timestamp.isLeapSecond = false ∧
      state.timeoutTransitions.find? ((Engine.standard c.scenario).isForeseen c) = some f ∧
      c.dueTime? f = some due ∧
      next.current.key = key ∧ next.current.timestamp = now := by
  simp only [glimpse, Option.bind_eq_bind, Option.bind_eq_some_iff, toOption_eq_some_iff,
    Option.ite_none_right_eq_some, Bool.and_eq_true, Option.isNone_iff_eq_none,
    Bool.not_eq_true'] at h
  obtain ⟨c, hc, state, hstate, _, haccepted, _, hpredicted, next, rfl, f, hf, due, hdue,
    ⟨rfl, hordinary⟩, heq⟩ := h
  cases heq
  exact ⟨c, state, next, f, hc, hstate, haccepted, hpredicted, hordinary, hf, hdue, rfl, rfl⟩

/-- A request that is not decided in time. That it is granted is ruled out. -/
def undecidedDocument (last : String) : Json := .obj [("states", .obj [
  ("initial", .obj [("transitions", .arr [
    .obj [("after", .str "20 seconds"), ("goto", .str "(granted)"), ("if", .bool false)],
    .obj [("after", .str "30 seconds"), ("goto", .str "(refused)")],
    .obj [("after", .str last), ("goto", .str "(dropped)")]])])])]

theorem undecided_foretold :
    (["40 seconds", "10 seconds"].map fun last => glimpse (undecidedDocument last)) =
      [some (afterSeconds 30, "(refused)", afterSeconds 30),
        some (afterSeconds 30, "(dropped)", afterSeconds 20)] := by
  decide +kernel

/-- Where no actor can do anything, the clock is moved to the first of the due times, in the order
of the transitions, at which anything fires, and the first transition that fires there is taken.
That one is the first whose guard holds, at its own due time, exactly if the clock was moved to the
due time of the first whose guard holds and that one fires there. -/
theorem forced_expiry_iff (hstate : c.state = .ok state)
    (hnone : engine.firstAccepted c (c.candidateMoves state) = .ok none)
    (h : engine.predictNext c = .ok (some next)) :
    ∃ now t, engine.occasion? c state = some now ∧
      state.timeoutTransitions.find? (engine.fires c now) = some t ∧
      engine.expireBy c now t = .ok next ∧
      (∃ e : Expiry, e.timestamp = now ∧ next.events = c.events ++ [.expiry e]) ∧
      next.current.timestamp = now ∧
      (state.timeoutTransitions.find? (engine.isForeseen c) = some t ∧ c.dueTime? t = some now ↔
        ∃ f, state.timeoutTransitions.find? (engine.isForeseen c) = some f ∧
          c.dueTime? f = some now ∧ engine.fires c now f = true) := by
  obtain ⟨_, hsame, h⟩ := bind_eq_ok_iff.1 h
  cases hstate.symm.trans hsame
  obtain ⟨_, haccepted, h⟩ := bind_eq_ok_iff.1 h
  cases hnone.symm.trans haccepted
  obtain ⟨now, t, hnow, hfound, hnext⟩ := firstExpiry_find? hstate h
  obtain ⟨hevents, htime⟩ := of_expireBy hnext
  refine ⟨now, t, hnow, hfound, hnext, hevents, htime, ?_, ?_⟩
  · rintro ⟨hforeseen, hdue⟩
    exact ⟨t, hforeseen, hdue, List.find?_some hfound⟩
  · rintro ⟨f, hforeseen, hdue, hfires⟩
    cases (find?_fires hforeseen hdue hfires).symm.trans hfound
    exact ⟨hforeseen, hdue⟩

/-- Where the last transition is due last, the request is refused when that is due. -/
theorem refusal_forced :
    ∃ c state next t, trial (undecidedDocument "40 seconds") [] = some c ∧ c.state = .ok state ∧
      (Engine.standard c.scenario).firstAccepted c (c.candidateMoves state) = .ok none ∧
      (Engine.standard c.scenario).predictNext c = .ok (some next) ∧
      next.current.key = "(refused)" ∧
      state.timeoutTransitions.find? ((Engine.standard c.scenario).isForeseen c) = some t ∧
      c.dueTime? t = some (afterSeconds 30) ∧
      (Engine.standard c.scenario).expireBy c (afterSeconds 30) t = .ok next := by
  obtain ⟨hlate, -⟩ := List.cons.inj undecided_foretold
  obtain ⟨c, state, next, f, hc, hstate, hnone, hnext, hordinary, hf, hdue, hkey, htime⟩ :=
    of_glimpse hlate
  obtain ⟨now, t, -, -, hexpired, -, hnow, hiff⟩ := forced_expiry_iff hstate hnone hnext
  obtain rfl : now = afterSeconds 30 := hnow.symm.trans htime
  have hfires := fires_dueTime hordinary hdue (isOpen_of_isForeseen (List.find?_some hf))
  obtain ⟨hforeseen, htdue⟩ := hiff.2 ⟨f, hf, hdue, hfires⟩
  exact ⟨c, state, next, t, hc, hstate, hnone, hnext, hkey, hforeseen, htdue, hexpired⟩

/-- Where the last transition is due first, the request is dropped when the one is due that is ruled
out, although it should be refused ten seconds later. -/
theorem dropping_forced :
    ∃ s c state next, normalize (undecidedDocument "10 seconds") = .ok s ∧
      Reachable (Engine.standard s) s c ∧ c.state = .ok state ∧
      (Engine.standard s).firstAccepted c (c.candidateMoves state) = .ok none ∧
      (Engine.standard s).predictNext c = .ok (some next) ∧ next.current.key = "(dropped)" ∧
      ∀ t due, state.timeoutTransitions.find? ((Engine.standard s).isForeseen c) = some t →
        c.dueTime? t = some due → (Engine.standard s).expireBy c due t ≠ .ok next := by
  obtain ⟨-, hearly⟩ := List.cons.inj undecided_foretold
  obtain ⟨c, state, next, f, hc, hstate, hnone, hnext, -, hf, hdue, hkey, htime⟩ :=
    of_glimpse (List.cons.inj hearly).1
  obtain ⟨hs, hreachable⟩ := reachable_of_trial hc
  refine ⟨c.scenario, c, state, next, hs, hreachable, hstate, hnone, hnext, hkey, ?_⟩
  intro t due ht htdue hexpired
  cases hf.symm.trans ht
  have htwenty : due = afterSeconds 20 := (of_expireBy hexpired).2.symm.trans htime
  have hthirty : afterSeconds 30 = due := Option.some.inj (hdue.symm.trans htdue)
  exact absurd (hthirty.trans htwenty) (by decide)

end Caseflow.Case
