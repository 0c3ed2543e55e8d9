import Caseflow.Proofs.Case.Rebuild
import Caseflow.Proofs.Json.Record

/-!
# What replay makes of a log

Replay takes a skipped attempt over as it is, but an attempt that was taken is taken again and told
anew, without reasons and without a response of `null`. So the events of a case that is rebuilt are
those of the log exactly if the log tells of no such reason and no such response.
-/
namespace Caseflow.Case

open Scenario Time

variable {engine : Engine} {s : Scenario} {c next : Case} {e : Event} {log : List Event}

/-- An attempt as taking it again tells it. -/
def Attempt.retold (a : Attempt) : Attempt :=
  { a with response := givenResponse a.response, errors := [] }

/-- An event as replay tells it: taken attempts are told anew, all else stays. -/
def Event.retaken : Event → Event
  | genesis start => genesis start
  | attempt a => if a.skipped then attempt a else (attempt a.retold).sealed
  | expiry t => expiry t

/-- Whether an event that was taken tells just what taking it tells. -/
def Event.IsPlain : Event → Prop
  | genesis _ | expiry _ => True
  | attempt a => a.skipped = false → a.errors = [] ∧ a.response ≠ some .null

theorem givenResponse_eq_self_iff {response : Option Json} :
    givenResponse response = response ↔ response ≠ some .null := Json.filter_isNull_eq_self_iff

theorem Attempt.retold_eq_self_iff {a : Attempt} :
    a.retold = a ↔ a.errors = [] ∧ a.response ≠ some .null := by
  rw [← givenResponse_eq_self_iff]
  constructor
  · intro h
    exact ⟨(congrArg Attempt.errors h).symm, congrArg Attempt.response h⟩
  · rintro ⟨herrors, hresponse⟩
    rw [retold, hresponse, ← herrors]

theorem Event.eq_of_sealed_eq {a b : Attempt} (h : (attempt a).sealed = attempt b) :
    b = { a with hash := b.hash } := by
  injection h with h
  rw [← h]

theorem Event.sealed_eq_self (h : e.digest = e.hash) : e.sealed = e := by
  rw [sealed, h]
  cases e <;> rfl

/-- Sealing does not look at the hash that an event carries. -/
theorem Event.sealed_withHash (hash : String) (e : Event) :
    (e.withHash hash).sealed = e.sealed := by
  simp [sealed, digest]

/-- An event with its own hash is told as it was exactly if it is plain. -/
theorem Event.retaken_eq_self_iff (h : e.digest = e.hash) : e.retaken = e ↔ e.IsPlain := by
  cases e with
  | genesis start => exact iff_of_true rfl trivial
  | expiry t => exact iff_of_true rfl trivial
  | attempt a =>
    simp only [retaken, IsPlain, ← Attempt.retold_eq_self_iff]
    cases a.skipped with
    | true => simp
    | false =>
      rw [if_neg (by decide)]
      constructor
      · intro heq _
        rw [eq_of_sealed_eq heq]
        simp [Attempt.retold]
      · intro hplain
        rw [hplain rfl, sealed_eq_self h]

theorem tailHash_eq_of_previous? {previous : String} (h : some previous = c.tailHash?) :
    c.tailHash = previous := by
  rw [tailHash, ← h, Option.getD_some]

theorem events_apply (h : engine.apply c e = .ok next) :
    next.events = c.events ++ [e.retaken] := by
  obtain ⟨hhash, hlink, hhappens⟩ := apply_eq_ok_iff.1 h
  cases hhappens with
  | @skipped a hskip =>
    rw [Event.retaken, if_pos hskip]
    rfl
  | @taken a _ hskip hdecide =>
    have htold : c.attemptOf a.move a.timestamp [] =
        ((Event.attempt a.retold).withHash "").sealed := by
      rw [attemptOf, tailHash_eq_of_previous? hlink]
      simp [Event.withHash, Attempt.retold, Attempt.move, hskip]
    rw [events_decide hdecide, Event.retaken, if_neg (by simp [hskip]), htold,
      Event.sealed_withHash]
  | @expired t _ hdue =>
    have htold : c.expiryOf t.timestamp = ((Event.expiry t).withHash "").sealed := by
      rw [expiryOf, tailHash_eq_of_previous? hlink]
      rfl
    rw [events_expire hdue, Event.retaken, htold, Event.sealed_withHash, Event.sealed_eq_self hhash]

theorem events_applyAll (h : engine.applyAll c log = .ok next) :
    next.events = c.events ++ log.map Event.retaken ∧ ∀ e ∈ log, e.digest = e.hash := by
  induction log generalizing c with
  | nil =>
    cases h
    simp
  | cons e rest ih =>
    obtain ⟨d, hd, h⟩ := bind_eq_ok_iff.1 h
    obtain ⟨hevents, hhashed⟩ := ih h
    refine ⟨?_, List.forall_mem_cons.2 ⟨(apply_eq_ok_iff.1 hd).1, hhashed⟩⟩
    rw [hevents, events_apply hd, List.map_cons, List.append_assoc, List.singleton_append]

theorem events_begin {start : Genesis} (h : engine.begin s start = .ok c) :
    c.events = [.genesis start] := by
  obtain ⟨actors, stage, -, -, -, rfl⟩ := begin_eq_ok_iff.1 h
  rfl

theorem events_of_replay (h : engine.replay s log = .ok c) :
    c.events = log.map Event.retaken ∧ ∀ e ∈ log, e.digest = e.hash := by
  obtain ⟨start, rest, first, rfl, hhash, -, hfirst, hrest⟩ := replay_eq_ok_iff.1 h
  obtain ⟨hevents, hhashed⟩ := events_applyAll hrest
  refine ⟨?_, List.forall_mem_cons.2 ⟨hhash, hhashed⟩⟩
  rw [hevents, events_begin hfirst, List.map_cons, List.singleton_append, Event.retaken]

/-- The event of an attempt that was taken in spite of reasons against it. -/
def overruled (c : Case) (move : Move) (now : Timestamp) (reasons : List String) : Event :=
  (Event.attempt { c.recorded move now [] with errors := reasons }).sealed

/-- Reasons do not keep an attempt from being taken again. -/
theorem apply_overruled {move : Move} {now : Timestamp} (hne : c.events ≠ [])
    (h : engine.decide c move now false = .ok next) (reasons : List String) :
    engine.apply c (c.overruled move now reasons) = .ok next := by
  refine apply_eq_ok_iff.2 ⟨(Event.hash_sealed _).symm, (tailHash?_eq_some hne).symm, ?_⟩
  refine .taken rfl ?_
  change engine.decide c (c.recorded move now []).move now false = .ok next
  rw [move_recorded, decide_plain, h]

theorem overruled_ne {move : Move} {now : Timestamp} {reasons : List String} (h : reasons ≠ []) :
    c.overruled move now reasons ≠ c.attemptOf move now [] := by
  rw [attemptOf_eq]
  intro heq
  exact h (congrArg Attempt.errors (Event.eq_of_sealed_eq heq)).symm

/-- What is submitted is done. -/
def promptDocument : Json := .obj [("states", .obj [
  ("initial", .obj [("goto", .str "(done)"), ("on", .str "submit")])])]

def submission : Move := ⟨"submit", ⟨"actor", some "a1"⟩, none⟩

def promptTrial : Option (Case × Case) := do
  let c ← trial promptDocument []
  let next ← ((Engine.standard c.scenario).decide c submission (afterSeconds 1) false).toOption
  return (c, next)

theorem promptTrial_shown : (promptTrial.map fun p => p.2.current.key) = some "(done)" := by
  decide +kernel

/-- The log of the trial with a reason against the submission is accepted. -/
theorem promptTrial_overruled :
    ∃ (s : Scenario) (c next : Case), normalize promptDocument = .ok s ∧
      (Engine.standard s).replay s
        (c.events ++ [c.overruled submission (afterSeconds 1) ["late"]]) = .ok next ∧
      next.events = c.events ++ [c.attemptOf submission (afterSeconds 1) []] := by
  obtain ⟨⟨c, next⟩, htrial, -⟩ := Option.map_eq_some_iff.1 promptTrial_shown
  simp only [promptTrial, Option.bind_eq_bind, Option.bind_eq_some_iff, toOption_eq_some_iff]
    at htrial
  obtain ⟨_, hc, _, hnext, hpair⟩ := htrial
  cases hpair
  obtain ⟨hs, hreachable⟩ := reachable_of_trial hc
  have hne := hreachable.produced.validChain.ne_nil
  refine ⟨c.scenario, c, next, hs, ?_, events_decide hnext⟩
  rw [replay_append hreachable.replay_events]
  exact bind_eq_ok_iff.2 ⟨next, apply_overruled hne hnext ["late"], rfl⟩

/-- The events of a case that is rebuilt are those of its log as taking them tells them: the same
events exactly if what the log says was taken was taken without a reason against it and without a
response of `null`. -/
theorem replayed_events_eq_iff (h : engine.replay s log = .ok c) :
    c.events = log.map Event.retaken ∧ (c.events = log ↔ ∀ e ∈ log, e.IsPlain) := by
  obtain ⟨hevents, hhashed⟩ := events_of_replay h
  have hsame : log.map Event.retaken = log ↔ ∀ e ∈ log, e.retaken = e := by
    simpa using List.map_eq_map_iff (l := log) (f := Event.retaken) (g := fun e => e)
  refine ⟨hevents, ?_⟩
  rw [hevents, hsame]
  constructor
  · intro hkept e he
    exact (Event.retaken_eq_self_iff (hhashed e he)).1 (hkept e he)
  · intro hplain e he
    exact (Event.retaken_eq_self_iff (hhashed e he)).2 (hplain e he)

/-- The submission that was taken in spite of a reason is told without it. -/
theorem overruled_log_retaken :
    ∃ s log c, normalize promptDocument = .ok s ∧ (Engine.standard s).replay s log = .ok c ∧
      c.events = log.map Event.retaken := by
  obtain ⟨s, c, next, hs, hreplay, -⟩ := promptTrial_overruled
  exact ⟨s, _, next, hs, hreplay, (replayed_events_eq_iff hreplay).1⟩

/-- A log is accepted that is not the log of the case it rebuilds. -/
theorem overruled_log_rewritten :
    ∃ s log c, normalize promptDocument = .ok s ∧ (Engine.standard s).replay s log = .ok c ∧
      c.events ≠ log := by
  obtain ⟨s, c, next, hs, hreplay, hevents⟩ := promptTrial_overruled
  refine ⟨s, _, next, hs, hreplay, ?_⟩
  rw [hevents]
  intro heq
  have hlast := List.append_cancel_left heq
  exact overruled_ne (List.cons_ne_nil "late" []) (List.cons.inj hlast).1.symm

end Caseflow.Case
