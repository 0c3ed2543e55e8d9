import Caseflow.Proofs.Case.Retaken
import Caseflow.Proofs.Json.Fields
import Mathlib.Data.List.Chain

/-!
# Moving logs to other scenarios

Linking a log anew keeps what its events tell, its payload, and makes all else from it. So the log
of a case that was moved tells what the old one told, and moving it on gives what moving the old log
there gives. A valid chain that is linked anew under its own scenario stays as it is.
-/
namespace Caseflow.Case

open Scenario Time

variable {engine : Engine} {s t : Scenario} {c : Case} {e : Event} {events more : List Event}
  {id : Uuid} {previous : Option Event}

/-- What an event tells apart from its place: without the scenario of a start and both hashes. -/
def Event.payload : Event → Event
  | genesis e => genesis { e with scenario := ⟨0⟩, hash := "" }
  | attempt e => attempt { e with previous := "", hash := "" }
  | expiry e => expiry { e with previous := "", hash := "" }

def Event.relinked (id : Uuid) (previous : Option Event) (e : Event) : Event :=
  ((e.withScenario id).follow previous).sealed

theorem relink_cons (id : Uuid) (previous : Option Event) (e : Event) (rest : List Event) :
    relink id previous (e :: rest) =
      e.relinked id previous :: relink id (some (e.relinked id previous)) rest := rfl

@[simp] theorem Event.payload_relinked (id : Uuid) (previous : Option Event) (e : Event) :
    (e.relinked id previous).payload = e.payload := by
  cases e <;> cases previous <;> rfl

@[simp] theorem Event.isGenesis_payload (e : Event) : e.payload.isGenesis = e.isGenesis := by
  cases e <;> rfl

/-- All that the place of an event leaves of it is its payload; only a start has no place. -/
theorem Event.relinked_payload (hstart : previous = none → e.isGenesis = true) :
    e.payload.relinked id previous = e.relinked id previous := by
  have hplaced : (e.payload.withScenario id).follow previous =
      ((e.withScenario id).follow previous).withHash "" := by
    cases e with
    | genesis start => cases previous <;> rfl
    | attempt a =>
      cases previous with
      | none => cases hstart rfl
      | some before => rfl
    | expiry a =>
      cases previous with
      | none => cases hstart rfl
      | some before => rfl
  rw [relinked, hplaced, sealed_withHash, relinked]

theorem Event.isPlain_relinked : (e.relinked id previous).IsPlain ↔ e.IsPlain := by
  cases e <;> cases previous <;> exact Iff.rfl

theorem Event.digest_relinked (id : Uuid) (previous : Option Event) (e : Event) :
    (e.relinked id previous).digest = (e.relinked id previous).hash := by
  rw [relinked, hash_sealed]

theorem Event.withScenario_of_previous? {hash : String} (h : e.previous? = some hash) :
    e.withScenario id = e := by
  cases e with
  | genesis start => cases h
  | attempt a => rfl
  | expiry a => rfl

theorem Event.withPrevious_eq_self {hash : String} (h : e.previous? = some hash) :
    e.withPrevious hash = e := by
  cases e with
  | genesis start => rfl
  | attempt a =>
    cases h
    rfl
  | expiry a =>
    cases h
    rfl

theorem Event.relinked_eq_self {before : Event} (hhash : e.digest = e.hash)
    (hlink : e.previous? = some before.hash) : e.relinked id (some before) = e := by
  rw [relinked, withScenario_of_previous? hlink, follow, withPrevious_eq_self hlink,
    sealed_eq_self hhash]

theorem map_payload_relink (id : Uuid) (previous : Option Event) (events : List Event) :
    (relink id previous events).map Event.payload = events.map Event.payload := by
  induction events generalizing previous with
  | nil => rfl
  | cons e rest ih => rw [relink_cons, List.map_cons, Event.payload_relinked, ih, List.map_cons]

/-- Logs that tell the same are linked alike. -/
theorem relink_congr (hpayload : events.map Event.payload = more.map Event.payload)
    (hstart : previous = none → ∀ e ∈ events.head?, e.isGenesis = true) :
    relink id previous events = relink id previous more := by
  induction events generalizing previous more with
  | nil => rw [List.map_eq_nil_iff.1 hpayload.symm]
  | cons e rest ih =>
    obtain ⟨d, others, rfl, hfirst, hrest⟩ := List.map_eq_cons_iff.1 hpayload.symm
    have he (hnone : previous = none) : e.isGenesis = true := hstart hnone e rfl
    have hd (hnone : previous = none) : d.isGenesis = true := by
      rw [← Event.isGenesis_payload, hfirst, Event.isGenesis_payload, he hnone]
    have hplaced : e.relinked id previous = d.relinked id previous := by
      rw [← Event.relinked_payload he, ← hfirst, Event.relinked_payload hd]
    rw [relink_cons, relink_cons, hplaced]
    rw [ih hrest.symm fun hnone => absurd hnone (Option.some_ne_none _)]

theorem mem_relink {d : Event} (h : d ∈ relink id previous events) :
    ∃ e ∈ events, ∃ before, d = e.relinked id before := by
  induction events generalizing previous with
  | nil => cases h
  | cons e rest ih =>
    obtain hhead | htail := List.mem_cons.1 h
    · exact ⟨e, List.mem_cons_self, previous, hhead⟩
    · obtain ⟨f, hf, before, hd⟩ := ih htail
      exact ⟨f, List.mem_cons_of_mem _ hf, before, hd⟩

theorem relink_linked {before : Event} (hhashed : ∀ e ∈ events, e.digest = e.hash)
    (hlinked : List.IsChain (fun d e => e.previous? = some d.hash) (before :: events)) :
    relink id (some before) events = events := by
  induction events generalizing before with
  | nil => rfl
  | cons e rest ih =>
    obtain ⟨hfirst, hrest⟩ := List.isChain_cons_cons.1 hlinked
    obtain ⟨hhash, hhashes⟩ := List.forall_mem_cons.1 hhashed
    rw [relink_cons, Event.relinked_eq_self hhash hfirst, ih hhashes hrest]

/-- A valid chain is what linking it anew under its own scenario gives. -/
theorem ValidChain.relink_eq_self {start : Genesis} (h : ValidChain (.genesis start :: events))
    (hscenario : start.scenario = id) :
    relink id none (.genesis start :: events) = .genesis start :: events := by
  obtain ⟨hhash, hhashes⟩ := List.forall_mem_cons.1 h.hashed
  have hfirst : (Event.genesis start).relinked id none = .genesis start := by
    rw [← hscenario]
    exact Event.sealed_eq_self hhash.symm
  have hlinked : List.IsChain (fun d e => e.previous? = some d.hash) (.genesis start :: events) :=
    List.isChain_iff_getElem.2 h.linked
  rw [relink_cons, hfirst, relink_linked (fun e he => (hhashes e he).symm) hlinked]

theorem ValidChain.isGenesis_head (h : ValidChain events) :
    ∀ e ∈ events.head?, e.isGenesis = true := by
  intro e he
  obtain ⟨rest, rfl⟩ := List.head?_eq_some_iff.1 he
  exact (h.start_iff 0 (List.length_pos_iff.2 h.ne_nil)).2 rfl

/-- The log of a reachable case tells of no taken attempt more than taking it tells. -/
theorem Reachable.isPlain (hc : Reachable engine s c) : ∀ e ∈ c.events, e.IsPlain := by
  obtain ⟨hevents, hhashed⟩ := events_of_replay hc.replay_events
  intro e he
  rw [← Event.retaken_eq_self_iff (hhashed e he)]
  exact map_eq_self_iff.1 hevents.symm e he

theorem events_of_migrate {moved : Case} (hplain : ∀ e ∈ events, e.IsPlain)
    (h : engine.migrate s events = .ok moved) : moved.events = relink s.id none events := by
  rw [(events_of_replay h).1, map_eq_self_iff]
  intro d hd
  obtain ⟨e, he, before, rfl⟩ := mem_relink hd
  rw [Event.retaken_eq_self_iff (Event.digest_relinked ..), Event.isPlain_relinked]
  exact hplain e he

/-- Moving logs that tell the same gives the same. -/
theorem migrate_congr (engine : Engine) (s : Scenario) (hchain : ValidChain events)
    (hpayload : events.map Event.payload = more.map Event.payload) :
    engine.migrate s events = engine.migrate s more := by
  rw [Engine.migrate, relink_congr hpayload fun _ => hchain.isGenesis_head, ← Engine.migrate]

theorem Reachable.migrate_self (hc : Reachable engine s c) :
    engine.migrate s c.events = .ok c := by
  have hreplay := hc.replay_events
  obtain ⟨start, rest, first, hevents, -, hscenario, -, -⟩ := replay_eq_ok_iff.1 hreplay
  have hchain := hc.produced.validChain
  rw [hevents] at hchain
  rw [Engine.migrate, hevents, hchain.relink_eq_self hscenario, ← hevents, hreplay]

/-- Moved to its own scenario, the log of a reachable case gives the case. Moved to another one, its
events tell what they told, in a valid chain that starts under that scenario. Moving the new log on
gives what moving the old one there gives, be it a case or a fault. -/
theorem migrations_compose (hc : Reachable engine s c) :
    engine.migrate s c.events = .ok c ∧
      ∀ (other : Engine) (t : Scenario) (moved : Case), other.migrate t c.events = .ok moved →
        moved.events.map Event.payload = c.events.map Event.payload ∧
        (∃ start rest, moved.events = .genesis start :: rest ∧ start.scenario = t.id) ∧
        ValidChain moved.events ∧
        ∀ (last : Engine) (u : Scenario),
          last.migrate u moved.events = last.migrate u c.events := by
  refine ⟨hc.migrate_self, ?_⟩
  intro other t moved hmoved
  have hevents := events_of_migrate hc.isPlain hmoved
  have hpayload : moved.events.map Event.payload = c.events.map Event.payload := by
    rw [hevents, map_payload_relink]
  have hchain : ValidChain moved.events := validChain_replay hmoved
  refine ⟨hpayload, ?_, hchain, ?_⟩
  · obtain ⟨start, rest, first, hlog, -, hscenario, -, -⟩ := replay_eq_ok_iff.1 hmoved
    exact ⟨start, rest, hevents.trans hlog, hscenario⟩
  · intro last u
    exact migrate_congr last u hchain hpayload

/-- What has been submitted lapses after half an hour. -/
def lapsingDocument : Json := .obj [("states", .obj [
  ("initial", .obj [("goto", .str "waiting"), ("on", .str "submit")]),
  ("waiting", .obj [("after", .str "30 minutes"), ("goto", .str "(lapsed)")])])]

/-- The log of what expires after an hour can be moved to where it lapses earlier, and back. -/
theorem expiring_migrations_compose :
    ∃ s t c moved, normalize expiringDocument = .ok s ∧ normalize lapsingDocument = .ok t ∧
      trial expiringDocument expiringRequests = some c ∧
      (Engine.standard t).migrate t c.events = .ok moved ∧ moved.current.key = "(lapsed)" ∧
      (Engine.standard s).migrate s moved.events = .ok c := by
  have hshown : (do
      let c ← trial expiringDocument expiringRequests
      let moved ← trial lapsingDocument expiringRequests
      return (decide (c.events.map Event.payload = moved.events.map Event.payload),
        moved.current.key)) = some (true, "(lapsed)") := by
    decide +kernel
  simp only [Option.bind_eq_bind, Option.bind_eq_some_iff] at hshown
  obtain ⟨c, hc, moved, hmoved, hpair⟩ := hshown
  obtain ⟨hs, hreachable⟩ := reachable_of_trial hc
  obtain ⟨ht, hlapsed⟩ := reachable_of_trial hmoved
  have hpayload := of_decide_eq_true (congrArg Prod.fst (Option.some.inj hpair))
  have hthere : (Engine.standard moved.scenario).migrate moved.scenario c.events = .ok moved := by
    rw [migrate_congr _ _ hreachable.produced.validChain hpayload, hlapsed.migrate_self]
  obtain ⟨hself, hcompose⟩ := migrations_compose hreachable
  obtain ⟨-, -, -, hon⟩ := hcompose _ _ moved hthere
  refine ⟨c.scenario, moved.scenario, c, moved, hs, ht, hc, hthere, ?_, ?_⟩
  · exact congrArg Prod.snd (Option.some.inj hpair)
  · rw [hon, hself]

end Caseflow.Case
