import Caseflow.Case.Replay
import Caseflow.Proofs.Case.Reachable

/-!
# Applying logs

When an event can be applied to a case, and what a case is rebuilt from. An event must carry its own
hash and that of the last event, and then what it tells must happen again.
-/
namespace Caseflow.Case

open Scenario Time

variable {engine : Engine} {s : Scenario} {c next : Case} {e : Event}

theorem checkHash_eq_ok_iff {index : Nat} : checkHash index e = .ok () ↔ e.digest = e.hash := by
  unfold checkHash
  split <;> simp_all

theorem checkLink_eq_ok_iff {index : Nat} :
    checkLink c index e = .ok () ↔ e.previous? = c.tailHash? := by
  unfold checkLink
  split <;> simp_all

theorem redo_eq_ok_iff {index : Nat} {a : Attempt} :
    engine.redo c index a = .ok next ↔ engine.decide c a.move a.timestamp false = .ok next := by
  unfold Engine.redo
  split <;> simp_all

/-- What a log says happened: a step that was skipped, one that was taken, or a timeout. -/
inductive Happens (engine : Engine) (c : Case) : Event → Case → Prop
  | skipped {a : Attempt} (h : a.skipped = true) :
      Happens engine c (.attempt a) (c.append (.attempt a))
  | taken {a : Attempt} {next : Case} (h : a.skipped = false)
      (hdecide : engine.decide c a.move a.timestamp false = .ok next) :
      Happens engine c (.attempt a) next
  | expired {t : Expiry} {next : Case} (h : engine.expire? c t.timestamp = .ok (some next)) :
      Happens engine c (.expiry t) next

theorem apply_eq_ok_iff :
    engine.apply c e = .ok next ↔
      e.digest = e.hash ∧ e.previous? = c.tailHash? ∧ Happens engine c e next := by
  simp only [Engine.apply, bind_eq_ok_iff]
  constructor
  · rintro ⟨⟨⟩, hhash, h⟩
    refine ⟨checkHash_eq_ok_iff.1 hhash, ?_⟩
    cases e with
    | genesis start => cases h
    | attempt a =>
      obtain ⟨⟨⟩, hlink, h⟩ := bind_eq_ok_iff.1 h
      refine ⟨checkLink_eq_ok_iff.1 hlink, ?_⟩
      cases hskip : a.skipped with
      | true =>
        rw [hskip, if_pos rfl, pure_eq_ok_iff] at h
        subst h
        exact .skipped hskip
      | false =>
        rw [hskip, if_neg (by decide)] at h
        exact .taken hskip (redo_eq_ok_iff.1 h)
    | expiry t =>
      obtain ⟨⟨⟩, hlink, h⟩ := bind_eq_ok_iff.1 h
      obtain ⟨due, hdue, h⟩ := bind_eq_ok_iff.1 h
      refine ⟨checkLink_eq_ok_iff.1 hlink, ?_⟩
      cases due with
      | none => cases h
      | some after =>
        cases h
        exact .expired hdue
  · rintro ⟨hhash, hlink, h⟩
    refine ⟨(), checkHash_eq_ok_iff.2 hhash, ?_⟩
    cases h with
    | skipped hskip =>
      refine bind_eq_ok_iff.2 ⟨(), checkLink_eq_ok_iff.2 hlink, ?_⟩
      rw [if_pos hskip]
      rfl
    | taken hskip hdecide =>
      refine bind_eq_ok_iff.2 ⟨(), checkLink_eq_ok_iff.2 hlink, ?_⟩
      rw [if_neg (by simp [hskip])]
      exact redo_eq_ok_iff.2 hdecide
    | expired hdue =>
      refine bind_eq_ok_iff.2 ⟨(), checkLink_eq_ok_iff.2 hlink, ?_⟩
      exact bind_eq_ok_iff.2 ⟨some next, hdue, rfl⟩

theorem applyAll_append (engine : Engine) (c : Case) (events more : List Event) :
    engine.applyAll c (events ++ more) =
      (engine.applyAll c events >>= fun c => engine.applyAll c more) := by
  induction events generalizing c with
  | nil => rfl
  | cons e rest ih =>
    simp only [List.cons_append, Engine.applyAll]
    cases engine.apply c e with
    | error f => rfl
    | ok next => exact ih next

theorem replay_eq_ok_iff {events : List Event} :
    engine.replay s events = .ok c ↔
      ∃ start rest first, events = .genesis start :: rest ∧
        (Event.genesis start).digest = start.hash ∧ start.scenario = s.id ∧
        engine.begin s start = .ok first ∧ engine.applyAll first rest = .ok c := by
  constructor
  · intro h
    unfold Engine.replay at h
    split at h
    · rename_i start rest
      obtain ⟨⟨⟩, hhash, h⟩ := bind_eq_ok_iff.1 h
      split at h
      · rename_i hscenario
        obtain ⟨first, hfirst, hrest⟩ := bind_eq_ok_iff.1 h
        exact ⟨start, rest, first, rfl, checkHash_eq_ok_iff.1 hhash, hscenario, hfirst, hrest⟩
      · cases h
    · cases h
  · rintro ⟨start, rest, first, rfl, hhash, hscenario, hfirst, hrest⟩
    refine bind_eq_ok_iff.2 ⟨(), checkHash_eq_ok_iff.2 hhash, ?_⟩
    rw [if_pos hscenario]
    exact bind_eq_ok_iff.2 ⟨first, hfirst, hrest⟩

/-- A replay of more events goes on from the replay of the first of them. -/
theorem replay_append {events : List Event} (h : engine.replay s events = .ok c)
    (more : List Event) : engine.replay s (events ++ more) = engine.applyAll c more := by
  obtain ⟨start, rest, first, rfl, hhash, hscenario, hfirst, hrest⟩ := replay_eq_ok_iff.1 h
  simp only [List.cons_append, Engine.replay, checkHash_eq_ok_iff.2 hhash, if_pos hscenario, hfirst]
  change engine.applyAll first (rest ++ more) = _
  rw [applyAll_append, hrest]
  rfl

end Caseflow.Case
