import Caseflow.Proofs.Case.Log

/-!
# Chains of events

A log is a valid chain if its first event and no other is a start, every event carries its own hash,
and every later event carries the hash of the one before it. Every case that any operation gives
back has a valid chain, and operations only append to it.
-/
namespace Caseflow.Case

open Scenario Time

variable {engine : Engine} {s : Scenario} {c next : Case} {events : List Event} {e last : Event}

def Event.isGenesis : Event → Bool
  | genesis _ => true
  | attempt _ | expiry _ => false

structure ValidChain (events : List Event) : Prop where
  ne_nil : events ≠ []
  start_iff : ∀ i (h : i < events.length), events[i].isGenesis = true ↔ i = 0
  hashed : ∀ e ∈ events, e.hash = e.digest
  linked : ∀ i (h : i + 1 < events.length), events[i + 1].previous? = some events[i].hash

theorem validChain_start {start : Genesis} (h : (Event.genesis start).digest = start.hash) :
    ValidChain [.genesis start] where
  ne_nil := List.cons_ne_nil _ _
  start_iff i hi := by
    have hzero : i = 0 := by simpa using hi
    subst hzero
    exact iff_of_true rfl rfl
  hashed e he := by
    rw [List.mem_singleton.1 he, h]
    rfl
  linked i hi := by
    simp at hi

theorem isGenesis_of_previous {hash : String} (h : e.previous? = some hash) :
    e.isGenesis = false := by
  cases e with
  | genesis start => cases h
  | attempt a => rfl
  | expiry t => rfl

/-- A chain goes on with an event that carries its own hash and that of the last event. -/
theorem ValidChain.append (h : ValidChain events) (hhash : e.hash = e.digest)
    (hlink : e.previous? = events.getLast?.map Event.hash) : ValidChain (events ++ [e]) where
  ne_nil := by simp
  start_iff i hi := by
    by_cases hlt : i < events.length
    · rw [List.getElem_append_left hlt]
      exact h.start_iff i hlt
    · -- the new event has a predecessor, and there was an event before
      have hlast : i = events.length := by
        rw [List.length_append, List.length_singleton] at hi
        omega
      subst hlast
      rw [List.getElem_concat_length rfl]
      rw [List.getLast?_eq_some_getLast h.ne_nil, Option.map_some] at hlink
      rw [isGenesis_of_previous hlink]
      have hpos := List.length_pos_iff.2 h.ne_nil
      exact iff_of_false (by decide) (by omega)
  hashed d hd := by
    obtain hold | hnew := List.mem_append.1 hd
    · exact h.hashed d hold
    · rw [List.mem_singleton.1 hnew, hhash]
  linked i hi := by
    by_cases hlt : i + 1 < events.length
    · rw [List.getElem_append_left hlt, List.getElem_append_left (by omega)]
      exact h.linked i hlt
    · have hlast : i + 1 = events.length := by
        rw [List.length_append, List.length_singleton] at hi
        omega
      rw [List.getElem_append_left (by omega : i < events.length)]
      have hnew : (events ++ [e])[i + 1] = e := List.getElem_concat_length hlast hi
      have hprevious : events.length - 1 = i := by omega
      rw [hnew, hlink, List.getLast?_eq_getElem?, hprevious, List.getElem?_eq_getElem (by omega),
        Option.map_some]

theorem Genesis.hash_sealed (start : Genesis) :
    (Event.genesis start.sealed).digest = start.sealed.hash := by
  rw [← Event.genesis_sealed, ← Event.hash_sealed, Event.genesis_sealed, Event.hash]

theorem hash_attemptOf (c : Case) (move : Move) (now : Timestamp) (reasons : List Refusal) :
    (c.attemptOf move now reasons).hash = (c.attemptOf move now reasons).digest :=
  Event.hash_sealed _

theorem hash_expiryOf (c : Case) (now : Timestamp) :
    (c.expiryOf now).hash = (c.expiryOf now).digest :=
  Event.hash_sealed _

theorem tailHash?_eq_some (h : c.events ≠ []) : c.tailHash? = some c.tailHash := by
  simp [tailHash, tailHash?, List.getLast?_eq_some_getLast h]

theorem previous?_attemptOf {move : Move} {now : Timestamp} {reasons : List Refusal}
    (h : c.events ≠ []) : (c.attemptOf move now reasons).previous? = c.tailHash? := by
  rw [attemptOf_eq, tailHash?_eq_some h]
  rfl

theorem previous?_expiryOf {now : Timestamp} (h : c.events ≠ []) :
    (c.expiryOf now).previous? = c.tailHash? := by
  rw [tailHash?_eq_some h]
  rfl

theorem events_decide {move : Move} {now : Timestamp} {predicting : Bool}
    (h : engine.decide c move now predicting = .ok next) :
    next.events = c.events ++ [c.attemptOf move now []] := by
  obtain ⟨p, rfl⟩ := decide_eq_ok_iff.1 h
  rfl

/-- A step appends one event; if that says it was skipped, nothing else is changed. -/
theorem events_step {move : Move} {now : Timestamp} (h : engine.step c move now = .ok next) :
    ∃ reasons, next.events = c.events ++ [c.attemptOf move now reasons] ∧
      (reasons ≠ [] → next = c.append (c.attemptOf move now reasons)) := by
  obtain htaken | ⟨reasons, -, -, rfl⟩ := step_eq_ok_iff.1 h
  · refine ⟨[], events_decide htaken, ?_⟩
    intro hne
    exact absurd rfl hne
  · exact ⟨reasons, rfl, fun _ => rfl⟩

theorem events_expire {now : Timestamp} (h : engine.expire? c now = .ok (some next)) :
    next.events = c.events ++ [c.expiryOf now] := by
  obtain ⟨state, t, entries, stage, -, -, -, -, rfl⟩ := expire?_eq_some_iff.1 h
  rfl

/-- A look at the clock changes nothing or appends one event. -/
theorem events_timeout {now : Timestamp} (h : engine.timeout c now = .ok next) :
    next = c ∨ next.events = c.events ++ [c.expiryOf now] := by
  obtain ⟨-, heq⟩ | hdue := timeout_eq_ok_iff.1 h
  · exact .inl heq
  · exact .inr (events_expire hdue)

theorem ValidChain.decide (hc : ValidChain c.events) {move : Move} {now : Timestamp}
    {predicting : Bool} (h : engine.decide c move now predicting = .ok next) :
    ValidChain next.events := by
  rw [events_decide h]
  exact hc.append (hash_attemptOf ..) (previous?_attemptOf hc.ne_nil)

theorem ValidChain.step (hc : ValidChain c.events) {move : Move} {now : Timestamp}
    (h : engine.step c move now = .ok next) : ValidChain next.events := by
  obtain ⟨reasons, hevents, -⟩ := events_step h
  rw [hevents]
  exact hc.append (hash_attemptOf ..) (previous?_attemptOf hc.ne_nil)

theorem ValidChain.expire (hc : ValidChain c.events) {now : Timestamp}
    (h : engine.expire? c now = .ok (some next)) : ValidChain next.events := by
  rw [events_expire h]
  exact hc.append (hash_expiryOf ..) (previous?_expiryOf hc.ne_nil)

theorem ValidChain.timeout (hc : ValidChain c.events) {now : Timestamp}
    (h : engine.timeout c now = .ok next) : ValidChain next.events := by
  obtain ⟨-, rfl⟩ | hdue := timeout_eq_ok_iff.1 h
  · exact hc
  · exact hc.expire hdue

/-- An event that comes from anywhere is checked before it is taken over. -/
theorem ValidChain.apply (hc : ValidChain c.events) (h : engine.apply c e = .ok next) :
    ValidChain next.events := by
  obtain ⟨hhash, hlink, hhappens⟩ := apply_eq_ok_iff.1 h
  cases hhappens with
  | skipped _ => exact hc.append hhash.symm hlink
  | taken _ hdecide => exact hc.decide hdecide
  | expired hdue => exact hc.expire hdue

theorem ValidChain.applyAll {log : List Event} (hc : ValidChain c.events)
    (h : engine.applyAll c log = .ok next) : ValidChain next.events := by
  induction log generalizing c with
  | nil =>
    cases h
    exact hc
  | cons e rest ih =>
    obtain ⟨d, hd, h⟩ := bind_eq_ok_iff.1 h
    exact ih (hc.apply hd) h

theorem validChain_begin {start : Genesis} (hhash : (Event.genesis start).digest = start.hash)
    (h : engine.begin s start = .ok c) : ValidChain c.events := by
  obtain ⟨actors, stage, -, -, -, rfl⟩ := begin_eq_ok_iff.1 h
  exact validChain_start hhash

theorem validChain_replay {log : List Event} (h : engine.replay s log = .ok c) :
    ValidChain c.events := by
  obtain ⟨start, rest, first, rfl, hhash, -, hfirst, hrest⟩ := replay_eq_ok_iff.1 h
  exact (validChain_begin hhash hfirst).applyAll hrest

/-- An applied event adds one event to the log. -/
theorem prefix_apply (h : engine.apply c e = .ok next) : c.events <+: next.events := by
  obtain ⟨-, -, hhappens⟩ := apply_eq_ok_iff.1 h
  cases hhappens with
  | skipped _ => exact List.prefix_append _ _
  | taken _ hdecide => exact events_decide hdecide ▸ List.prefix_append _ _
  | expired hdue => exact events_expire hdue ▸ List.prefix_append _ _

theorem prefix_applyAll {log : List Event} (h : engine.applyAll c log = .ok next) :
    c.events <+: next.events := by
  induction log generalizing c with
  | nil =>
    cases h
    exact List.prefix_rfl
  | cons e rest ih =>
    obtain ⟨d, hd, h⟩ := bind_eq_ok_iff.1 h
    exact (prefix_apply hd).trans (ih h)

/-- The cases that operations give back, whichever engines carry them out. -/
inductive Produced : Case → Prop
  | instantiate {engine : Engine} {s : Scenario} {start : Start} {c : Case}
      (h : engine.instantiate s start = .ok c) : Produced c
  | step {engine : Engine} {c next : Case} {move : Move} {now : Timestamp} (hc : Produced c)
      (h : engine.step c move now = .ok next) : Produced next
  | timeout {engine : Engine} {c next : Case} {now : Timestamp} (hc : Produced c)
      (h : engine.timeout c now = .ok next) : Produced next
  | replay {engine : Engine} {s : Scenario} {log : List Event} {c : Case}
      (h : engine.replay s log = .ok c) : Produced c
  | migrate {engine : Engine} {s : Scenario} {log : List Event} {c : Case}
      (h : engine.migrate s log = .ok c) : Produced c
  | replayOnto {engine : Engine} {c next : Case} {log : List Event} (hc : Produced c)
      (h : engine.replayOnto c log = .ok next) : Produced next

theorem Reachable.produced (h : Reachable engine s c) : Produced c := by
  induction h with
  | start h => exact .instantiate h
  | step _ h ih => exact ih.step h
  | timeout _ h ih => exact ih.timeout h

theorem Produced.validChain (h : Produced c) : ValidChain c.events := by
  induction h with
  | instantiate h => exact validChain_begin (Genesis.hash_sealed _) h
  | step _ h ih => exact ih.step h
  | timeout _ h ih => exact ih.timeout h
  | replay h => exact validChain_replay h
  | migrate h => exact validChain_replay h
  | replayOnto _ h ih => exact ih.applyAll h

/-- Every case that an operation gives back has a valid chain. A step appends one event and a look
at the clock at most one, and where no step or transition is taken nothing else is changed. -/
theorem produced_chain_append_only (h : Produced c) :
    ValidChain c.events ∧
      (∀ engine move now next, Engine.step engine c move now = .ok next →
        ∃ a, next.events = c.events ++ [.attempt a] ∧
          (a.skipped = true → next = c.append (.attempt a))) ∧
      (∀ engine now next, Engine.timeout engine c now = .ok next →
        next = c ∨ ∃ t, next.events = c.events ++ [.expiry t]) ∧
      ∀ engine log next, Engine.replayOnto engine c log = .ok next →
        c.events <+: next.events := by
  refine ⟨h.validChain, ?_, ?_, ?_⟩
  · intro engine move now next hstep
    obtain ⟨reasons, hevents, hskip⟩ := events_step hstep
    rw [attemptOf_eq] at hevents hskip
    refine ⟨c.recorded move now reasons, hevents, ?_⟩
    intro hmark
    apply hskip
    rintro rfl
    cases hmark
  · intro engine now next htimeout
    obtain rfl | hevents := events_timeout htimeout
    · exact .inl rfl
    · rw [expiryOf_eq] at hevents
      exact .inr ⟨_, hevents⟩
  · intro engine log next hreplay
    exact prefix_applyAll hreplay

/-- The log of a trial with a skipped step, a taken one and a timeout is a valid chain. -/
theorem expiring_chain_append_only :
    ∃ c, trial expiringDocument expiringRequests = some c ∧ c.events.length = 4 ∧
      ValidChain c.events := by
  obtain ⟨c, hc, hshown⟩ := Option.map_eq_some_iff.1 trial_expiring
  have hproduced := (reachable_of_trial hc).2.produced
  exact ⟨c, hc, congrArg Prod.snd hshown, (produced_chain_append_only hproduced).1⟩

end Caseflow.Case
