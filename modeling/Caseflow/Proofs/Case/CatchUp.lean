import Caseflow.Proofs.Case.Commitment
import Caseflow.Proofs.Case.Retaken
import Mathlib.Data.List.Nodup

/-!
# Catching up with a log

Whatever requests make of a case can be applied to it again. No two events of a valid chain carry
the same hash, since the events before them would too, down to the start, which has none before it.
So a case that is given the later log from any event on that it has itself skips just those it has.
-/
namespace Caseflow.Case

open Digest Scenario Time

variable {engine : Engine} {s : Scenario} {c next : Case} {e e' : Event} {log : List Event}
  {requests : List Request}

theorem applyAll_serve {request : Request} (hne : c.events ≠ [])
    (h : engine.serve c request = .ok next) :
    ∃ added, next.events = c.events ++ added ∧ engine.applyAll c added = .ok next := by
  have single {e : Event} (hevents : next.events = c.events ++ [e])
      (happly : engine.apply c e = .ok next) :
      ∃ added, next.events = c.events ++ added ∧ engine.applyAll c added = .ok next :=
    ⟨[e], hevents, bind_eq_ok_iff.2 ⟨next, happly, rfl⟩⟩
  cases request with
  | attempt move now =>
    obtain ⟨e, hevents, happly⟩ := apply_step hne h
    exact single hevents happly
  | clock now =>
    obtain ⟨-, rfl⟩ | hdue := timeout_eq_ok_iff.1 h
    · exact ⟨[], (List.append_nil _).symm, rfl⟩
    · obtain ⟨e, hevents, happly⟩ := apply_expire hne hdue
      exact single hevents happly

/-- What requests append to the log of a case makes the same of the case when it is applied. -/
theorem applyAll_serveAll (hne : c.events ≠ []) (h : engine.serveAll c requests = .ok next) :
    ∃ added, next.events = c.events ++ added ∧ engine.applyAll c added = .ok next := by
  induction requests generalizing c with
  | nil =>
    cases h
    exact ⟨[], (List.append_nil _).symm, rfl⟩
  | cons request rest ih =>
    obtain ⟨d, hd, h⟩ := bind_eq_ok_iff.1 h
    obtain ⟨first, hfirst, happly⟩ := applyAll_serve hne hd
    obtain ⟨others, hothers, hrest⟩ := ih (by simp [hfirst, hne]) h
    refine ⟨first ++ others, ?_, ?_⟩
    · rw [hothers, hfirst, List.append_assoc]
    · rw [applyAll_append, bind_eq_ok_iff]
      exact ⟨d, happly, hrest⟩

/-- The digest does not collide on the events of a log. -/
structure Collisionless (log : List Event) : Prop where
  text_eq : ∀ e ∈ log, ∀ e' ∈ log,
    Sha256.hex e.content.canonicalText = Sha256.hex e'.content.canonicalText →
      e.content.canonicalText = e'.content.canonicalText

theorem ValidChain.eq_of_hash (h : ValidChain log) (hdigest : Collisionless log) (he : e ∈ log)
    (he' : e' ∈ log) (hhash : e.hash = e'.hash) : e = e' := by
  have hdigests : e.digest = e'.digest := by rw [← h.hashed e he, ← h.hashed e' he', hhash]
  exact Event.eq_of_content hhash (Json.eq_of_canonicalText (hdigest.text_eq e he e' he' hdigests))

theorem ValidChain.index_eq (h : ValidChain log) (hdigest : Collisionless log) {i j : Nat}
    (hi : i < log.length) (hj : j < log.length) (hhash : log[i].hash = log[j].hash) : i = j := by
  have hsame := h.eq_of_hash hdigest (List.getElem_mem hi) (List.getElem_mem hj) hhash
  induction i generalizing j with
  | zero =>
    have hstart := (h.start_iff 0 hi).2 rfl
    rw [hsame] at hstart
    exact ((h.start_iff j hj).1 hstart).symm
  | succ i ih =>
    cases j with
    | zero =>
      have hstart := (h.start_iff 0 hj).2 rfl
      rw [← hsame] at hstart
      exact (h.start_iff (i + 1) hi).1 hstart
    | succ j =>
      have hprevious := h.linked i hi
      rw [hsame, h.linked j hj, Option.some.injEq] at hprevious
      have hbefore := h.eq_of_hash hdigest (List.getElem_mem (by omega : i < log.length))
        (List.getElem_mem (by omega : j < log.length)) hprevious.symm
      rw [ih (by omega) (by omega) hprevious.symm hbefore]

/-- An event that comes later in a chain has a hash that none before it has. -/
theorem ValidChain.hash_ne {events added : List Event} (h : ValidChain (events ++ added))
    (hdigest : Collisionless (events ++ added)) (he : e ∈ events) (he' : e' ∈ added) :
    e.hash ≠ e'.hash := by
  obtain ⟨i, hi, rfl⟩ := List.getElem_of_mem he
  obtain ⟨j, hj, rfl⟩ := List.getElem_of_mem he'
  intro hhash
  have hlength : (events ++ added).length = events.length + added.length := List.length_append
  have hindex := h.index_eq hdigest (i := i) (j := events.length + j) (by omega) (by omega) (by
    rw [List.getElem_append_left hi, List.getElem_append_right (by omega), hhash]
    simp)
  omega

/-- Where no two events of a valid chain carry the same hash, the digest does not collide. -/
theorem ValidChain.collisionless (h : ValidChain log) (hnodup : (log.map Event.hash).Nodup) :
    Collisionless log := by
  constructor
  intro e he e' he' hdigests
  have hhash : e.hash = e'.hash := by
    rw [h.hashed e he, h.hashed e' he']
    exact hdigests
  rw [List.inj_on_of_nodup_map hnodup he he' hhash]

theorem newEvents_append {known added : List Event} (hknown : ∀ e ∈ known, e ∈ c.events)
    (hnew : ∀ e ∈ c.events, ∀ e' ∈ added, e.hash ≠ e'.hash) :
    Engine.newEvents c (known ++ added) = added := by
  have hhas : ∀ e ∈ known, (c.events.map Event.hash).contains e.hash = true := by
    intro e he
    exact List.contains_iff_mem.2 (List.mem_map_of_mem (hknown e he))
  rw [Engine.newEvents, List.dropWhile_append_of_pos hhas]
  cases added with
  | nil => rfl
  | cons e rest =>
    rw [List.dropWhile_cons_of_neg]
    intro hmem
    obtain ⟨d, hd, hhash⟩ := List.mem_map.1 (List.contains_iff_mem.1 hmem)
    exact hnew d hd e List.mem_cons_self hhash

/-- Where the digest does not collide on its events, the log that requests leave brings the case
they were made of up to date, whether it is given as a whole, from an event on that the case has, or
from the first new one. Just the events that the case has are skipped. -/
theorem replayOnto_catches_up (hc : Reachable engine s c)
    (h : engine.serveAll c requests = .ok next) (hdigest : Collisionless next.events) {k : Nat}
    (hk : k ≤ c.events.length) :
    Engine.newEvents c (next.events.drop k) = next.events.drop c.events.length ∧
      engine.replayOnto c (next.events.drop k) = .ok next := by
  obtain ⟨added, hevents, happly⟩ := applyAll_serveAll hc.produced.validChain.ne_nil h
  have hchain := (hc.serveAll h).produced.validChain
  rw [hevents] at hchain hdigest ⊢
  have hnew : Engine.newEvents c ((c.events ++ added).drop k) = added := by
    rw [List.drop_append_of_le_length hk]
    refine newEvents_append (fun e he => List.mem_of_mem_drop he) ?_
    intro e he e' he'
    exact hchain.hash_ne hdigest he he'
  refine ⟨?_, ?_⟩
  · rw [hnew, List.drop_left]
  · rw [Engine.replayOnto, hnew, happly]

/-- Each second the only state is entered again. -/
def tickingScenario : Scenario := ⟨"", "", "", [], .empty, .empty,
  .ofList [("initial", ⟨.null, .null, .empty, [],
    [.timeout ⟨1, none, .bool true, ⟨.null, .null, .bool false⟩⟩]⟩)],
  .empty, .null, .empty⟩

def tickingStart : Start := ⟨⟨0⟩, .epoch, .empty, .empty⟩

def tickingGenesis : Genesis := (Engine.genesisOf tickingScenario tickingStart).sealed

def tick : Event := (Event.expiry ⟨tickingGenesis.hash, afterSeconds 1, ""⟩).sealed

theorem ticking_hashes :
    tickingGenesis.hash = "00b04fbcc215e6f53bbbab0d3663d01cdf963473f74e39238e3e7ffcce797725" ∧
      tick.hash = "cdad31df84b2eaf207994d9a371984b1e59cccbe8a85178a6e4b8cee82eba330" := by
  have hid : tickingScenario.id = ⟨0xb306f69daa2c559aabd9b72ed169320c#128⟩ := by
    rw [Scenario.id, Json.canonicalText, Json.text, utf8_ofList]
    decide +kernel
  have hgenesis : tickingGenesis.hash =
      "00b04fbcc215e6f53bbbab0d3663d01cdf963473f74e39238e3e7ffcce797725" := by
    rw [tickingGenesis, Genesis.sealed, Event.digest, Json.contentHash_eq, Engine.genesisOf, hid]
    decide +kernel
  refine ⟨hgenesis, ?_⟩
  rw [tick, Event.sealed, Event.hash_withHash, Event.digest, Json.contentHash_eq, hgenesis]
  decide +kernel

theorem ticking_shown :
    ((Engine.standard tickingScenario).play tickingScenario tickingStart
      [.clock (afterSeconds 1)]).toOption.map (fun c => c.events.length) = some 2 := by
  decide +kernel

/-- A case that is given the log of what the clock has made of it ticks just once. -/
theorem ticking_catches_up :
    ∃ c next, (Engine.standard tickingScenario).instantiate tickingScenario tickingStart = .ok c ∧
      (Engine.standard tickingScenario).timeout c (afterSeconds 1) = .ok next ∧
      next.events = c.events ++ [tick] ∧
      Engine.newEvents c next.events = [tick] ∧
      (Engine.standard tickingScenario).replayOnto c next.events = .ok next := by
  obtain ⟨next, hplay, hlength⟩ := Option.map_eq_some_iff.1 ticking_shown
  obtain ⟨c, hc, hserve⟩ := bind_eq_ok_iff.1 (toOption_eq_some_iff.1 hplay)
  obtain ⟨ticked, hticked, hend⟩ := bind_eq_ok_iff.1 hserve
  cases hend
  have hstart : c.events = [.genesis tickingGenesis] := events_begin hc
  have hevents : next.events = c.events ++ [tick] := by
    obtain rfl | happended := events_timeout hticked
    · rw [hstart] at hlength
      cases hlength
    · rw [happended, tick, expiryOf, tailHash, tailHash?, hstart]
      rfl
  have hchain := ((Reachable.start hc).serveAll hserve).produced.validChain
  have hdigest : Collisionless next.events := by
    apply hchain.collisionless
    rw [hevents, hstart, List.singleton_append, List.map_cons, List.map_cons, List.map_nil,
      ticking_hashes.2, Event.hash, ticking_hashes.1]
    decide
  obtain ⟨hnew, hreplay⟩ := replayOnto_catches_up (Reachable.start hc) hserve hdigest
    (Nat.zero_le c.events.length)
  refine ⟨c, next, hc, hticked, hevents, ?_, hreplay⟩
  rw [List.drop_zero, hevents, List.drop_left] at hnew
  rwa [hevents]

end Caseflow.Case
