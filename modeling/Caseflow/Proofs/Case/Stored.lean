import Caseflow.Case.Codec
import Caseflow.Proofs.Case.Kinds
import Caseflow.Proofs.Scenario.Stored

/-!
# Cases read back

A case is stored as its written form and read again before the next operation. What an engine makes
is always read, and all of it as it was except where a value of `null` stands that may as well be
missing: the response of the last step, the message of an alert and, in the scenario, the stub of an
update and the message of a notice. Such a value is read as missing.
-/
namespace Caseflow.Case

open Json Scenario Time

variable {engine : Engine} {s : Scenario} {c next : Case} {e : Event} {v : Json} {name : String}

theorem optional?_performer {actor : Option Performer}
    (h : v.field? name = actor.map Performer.encode) :
    optional? Performer.decode? name v = some actor := by
  rw [optional?, h]
  cases actor with
  | none => rfl
  | some a => exact congrArg (Option.map some) a.decode?_encode

theorem Offer.decode?_encode (o : Offer) : decode? o.encode = some o := by
  have hactors : required? strings? "actor" o.encode = some o.actors := strings?_ofStrings o.actors
  rw [decode?, hactors]
  rfl

theorem LogEntry.decode?_encode {l : LogEntry} (h : l.timestamp.InRange) :
    decode? l.encode = some l := by
  obtain ⟨timestamp, title, description, actor⟩ := l
  have htime : (encode ⟨timestamp, title, description, actor⟩).field? "timestamp" =
      some (.str timestamp.text) := by
    cases actor <;> rfl
  have hactor : (encode ⟨timestamp, title, description, actor⟩).field? "actor" =
      actor.map Performer.encode := by
    cases actor <;> rfl
  rw [decode?, required?_timestamp h htime, optional?_performer hactor]
  cases actor <;> rfl

def Alert.stored (a : Alert) : Alert := { a with message := a.message.filter (!·.isNull) }

theorem Alert.stored_eq_self_iff {a : Alert} : a.stored = a ↔ a.message ≠ some .null := by
  rw [← filter_isNull_eq_self_iff]
  constructor
  · exact congrArg Alert.message
  · intro h
    rw [stored, h]

theorem Alert.decode?_encode (a : Alert) : decode? a.encode = some a.stored := by
  obtain ⟨service, trigger, message⟩ := a
  cases message with
  | none => cases trigger <;> rfl
  | some v => cases v <;> cases trigger <;> rfl

def Stage.stored (stage : Stage) : Stage :=
  { stage with alerts := stage.alerts.map (·.stored), response := givenResponse stage.response }

theorem Stage.stored_eq_self_iff {stage : Stage} : stage.stored = stage ↔
    (∀ a ∈ stage.alerts, a.message ≠ some .null) ∧ stage.response ≠ some .null := by
  have hparts : stage.stored = stage ↔ stage.alerts.map (·.stored) = stage.alerts ∧
      givenResponse stage.response = stage.response := by
    constructor
    · intro h
      exact ⟨congrArg Stage.alerts h, congrArg Stage.response h⟩
    · rintro ⟨halerts, hresponse⟩
      rw [stored, halerts, hresponse]
  rw [hparts, map_eq_self_iff, givenResponse_eq_self_iff]
  exact and_congr_left' (forall₂_congr fun _ _ => Alert.stored_eq_self_iff)

/-- Past the fields that are not always there, the others are found. -/
theorem Stage.field?_encode (stage : Stage) :
    stage.encode.field? "actor" = stage.actor.map Performer.encode ∧
      stage.encode.field? "response" = stage.response ∧
      stage.encode.field? "key" = some (.str stage.key) ∧
      stage.encode.field? "title" = some (.str stage.title) ∧
      stage.encode.field? "description" = some (.str stage.description) ∧
      stage.encode.field? "timestamp" = some (.str stage.timestamp.text) ∧
      stage.encode.field? "instructions" = some (ofDict .str stage.instructions) ∧
      stage.encode.field? "notify" = some (.arr (stage.alerts.map (·.encode))) := by
  obtain ⟨key, timestamp, title, description, instructions, alerts, offers, actor, response⟩ :=
    stage
  cases actor <;> cases response <;> exact ⟨rfl, rfl, rfl, rfl, rfl, rfl, rfl, rfl⟩

theorem Stage.decode?_encode {stage : Stage} (h : stage.timestamp.InRange) :
    decode? stage.encode = some stage.stored := by
  obtain ⟨hactor, hresponse, hkey, htitle, hdescription, htime, hinstructions, halerts⟩ :=
    stage.field?_encode
  unfold decode?
  refine Option.bind_eq_some_iff.2 ⟨_, required?_text hkey, ?_⟩
  refine Option.bind_eq_some_iff.2 ⟨_, required?_timestamp h htime, ?_⟩
  refine Option.bind_eq_some_iff.2 ⟨_, required?_text htitle, ?_⟩
  refine Option.bind_eq_some_iff.2 ⟨_, required?_text hdescription, ?_⟩
  refine Option.bind_eq_some_iff.2 ⟨stage.instructions, ?_, ?_⟩
  · rw [required?, hinstructions]
    exact dictOf?_ofDict_self fun _ _ => rfl
  refine Option.bind_eq_some_iff.2 ⟨stage.alerts.map (·.stored), ?_, ?_⟩
  · rw [required?, halerts]
    exact listOf?_map fun a _ => a.decode?_encode
  refine Option.bind_eq_some_iff.2 ⟨stage.offers, listOf?_map_self fun o _ => o.decode?_encode, ?_⟩
  refine Option.bind_eq_some_iff.2 ⟨_, optional?_performer hactor, ?_⟩
  exact Option.bind_eq_some_iff.2 ⟨_, optional?_value hresponse, rfl⟩

/-- Whatever time a case shows is that of one of its events. -/
structure Dated (c : Case) : Prop where
  current : c.current.timestamp ∈ c.events.map Event.timestamp
  log : ∀ l ∈ c.log, l.timestamp ∈ c.events.map Event.timestamp

theorem timestamp_of_logEntryOf {ctx : Json} {rule : LogRule} {t : Timestamp}
    {actor : Option Performer} {entries : List LogEntry}
    (h : logEntryOf engine.regex ctx rule t actor = .ok entries) :
    ∀ l ∈ entries, l.timestamp = t := by
  obtain ⟨shown, -, h⟩ := bind_eq_ok_iff.1 h
  cases shown with
  | false =>
    cases h
    exact List.forall_mem_nil _
  | true =>
    obtain ⟨title, -, h⟩ := bind_eq_ok_iff.1 h
    obtain ⟨description, -, h⟩ := bind_eq_ok_iff.1 h
    cases h
    exact List.forall_mem_singleton.2 rfl

theorem Dated.advance {entries : List LogEntry} (hc : c.Dated)
    (hevents : next.events = c.events ++ [e]) (hlog : next.log = c.log ++ entries)
    (hentries : ∀ l ∈ entries, l.timestamp = e.timestamp)
    (hcurrent : next.current.timestamp = e.timestamp ∨
      next.current.timestamp = c.current.timestamp) : next.Dated := by
  have hold {t : Timestamp} (ht : t ∈ c.events.map Event.timestamp) :
      t ∈ next.events.map Event.timestamp := by
    rw [hevents, List.map_append]
    exact List.mem_append_left _ ht
  have hnew : e.timestamp ∈ next.events.map Event.timestamp := by
    rw [hevents, List.map_append]
    exact List.mem_append_right _ List.mem_cons_self
  constructor
  · obtain heq | heq := hcurrent
    · exact heq ▸ hnew
    · exact heq ▸ hold hc.current
  · intro l hl
    rw [hlog] at hl
    obtain hl | hl := List.mem_append.1 hl
    · exact hold (hc.log l hl)
    · exact hentries l hl ▸ hnew

theorem Reachable.dated (hc : Reachable engine s c) : c.Dated := by
  induction hc with
  | start h =>
    obtain ⟨actors, stage, -, -, hstage, rfl⟩ := begin_eq_ok_iff.1 h
    refine ⟨?_, List.forall_mem_nil _⟩
    obtain ⟨-, htime, -⟩ := enter_eq_ok hstage
    exact htime ▸ List.mem_cons_self
  | @step c next move now hc h ih =>
    obtain htaken | ⟨reasons, -, -, rfl⟩ := step_eq_ok_iff.1 h
    · obtain ⟨p, rfl⟩ := decide_eq_ok_iff.1 htaken
      refine ih.advance rfl rfl (timestamp_of_logEntryOf p.logged) ?_
      obtain ⟨-, htime, -⟩ := enter_eq_ok p.entered
      split at htime
      · exact .inl htime
      · exact .inr htime
    · exact ih.advance rfl (List.append_nil _).symm (List.forall_mem_nil _) (.inr rfl)
  | timeout hc h ih =>
    obtain ⟨-, rfl⟩ | hdue := timeout_eq_ok_iff.1 h
    · exact ih
    · obtain ⟨state, t, entries, stage, -, -, hlog, hstage, rfl⟩ := expire?_eq_some_iff.1 hdue
      obtain ⟨-, htime, -⟩ := enter_eq_ok hstage
      exact ih.advance rfl rfl (timestamp_of_logEntryOf hlog) (.inl htime)

theorem Reachable.response_ne_null (hc : Reachable engine s c) :
    ∀ e ∈ c.events, e.response? ≠ some .null := by
  induction hc with
  | start h =>
    obtain ⟨actors, stage, -, -, -, rfl⟩ := begin_eq_ok_iff.1 h
    exact List.forall_mem_singleton.2 nofun
  | @step c next move now hc h ih =>
    obtain ⟨reasons, hevents, -⟩ := events_step h
    rw [hevents, List.forall_mem_append]
    refine ⟨ih, List.forall_mem_singleton.2 ?_⟩
    exact givenResponse_eq_self_iff.1 (givenResponse_givenResponse move.response)
  | timeout hc h ih =>
    obtain rfl | hevents := events_timeout h
    · exact ih
    · rw [hevents, List.forall_mem_append]
      exact ⟨ih, List.forall_mem_singleton.2 nofun⟩

/-- The case that the written form of a case is read as. -/
def stored (c : Case) : Case :=
  { c with scenario := c.scenario.reread, current := c.current.stored }

/-- A case without a `null` that may as well be missing. -/
structure Storable (c : Case) : Prop where
  stubs : c.scenario.Storable
  notices : ∀ p ∈ c.scenario.states.entries, ∀ n ∈ p.2.notices, n.message ≠ some .null
  alerts : ∀ a ∈ c.current.alerts, a.message ≠ some .null
  response : c.current.response ≠ some .null

instance (c : Case) : Decidable c.Storable :=
  decidable_of_iff (c.scenario.Storable ∧
      (∀ p ∈ c.scenario.states.entries, ∀ n ∈ p.2.notices, n.message ≠ some .null) ∧
      (∀ a ∈ c.current.alerts, a.message ≠ some .null) ∧ c.current.response ≠ some .null)
    ⟨fun ⟨hstubs, hnotices, halerts, hresponse⟩ => ⟨hstubs, hnotices, halerts, hresponse⟩,
      fun h => ⟨h.stubs, h.notices, h.alerts, h.response⟩⟩

theorem stored_eq_self_iff : c.stored = c ↔ c.Storable := by
  have hparts : c.stored = c ↔ c.scenario.reread = c.scenario ∧ c.current.stored = c.current := by
    constructor
    · intro h
      exact ⟨congrArg Case.scenario h, congrArg Case.current h⟩
    · rintro ⟨hscenario, hcurrent⟩
      rw [stored, hscenario, hcurrent]
  rw [hparts, reread_eq_self_iff, Stage.stored_eq_self_iff]
  constructor
  · rintro ⟨⟨hstubs, hnotices⟩, halerts, hresponse⟩
    exact ⟨hstubs, hnotices, halerts, hresponse⟩
  · rintro ⟨hstubs, hnotices, halerts, hresponse⟩
    exact ⟨⟨hstubs, hnotices⟩, halerts, hresponse⟩

theorem Reachable.decode?_encode (hc : Reachable engine s c) (hs : s.Bounded)
    (ht : ∀ e ∈ c.events, e.timestamp.InRange) : decode? c.encode = some c.stored := by
  have hrange {t : Timestamp} (h : t ∈ c.events.map Event.timestamp) : t.InRange := by
    obtain ⟨e, he, rfl⟩ := List.mem_map.1 h
    exact ht e he
  have hscenario : Scenario.decode? c.scenario.encode = some c.scenario.reread :=
    Scenario.decode?_encode (hc.scenario ▸ hs)
  have hevents : listOf? Event.decode? (.arr (c.events.map (·.encode))) = some c.events := by
    refine listOf?_map_self fun e he => ?_
    rw [Event.decode?_encode (ht e he), Event.stored_eq_self_iff.2 (hc.response_ne_null e he)]
  have hlog : listOf? LogEntry.decode? (.arr (c.log.map (·.encode))) = some c.log :=
    listOf?_map_self fun l hl => LogEntry.decode?_encode (hrange (hc.dated.log l hl))
  unfold decode?
  refine Option.bind_eq_some_iff.2 ⟨c.id, required?_uuid rfl, ?_⟩
  refine Option.bind_eq_some_iff.2 ⟨c.title, rfl, ?_⟩
  refine Option.bind_eq_some_iff.2 ⟨c.tags, strings?_ofStrings c.tags, ?_⟩
  refine Option.bind_eq_some_iff.2 ⟨c.scenarioId, required?_uuid rfl, ?_⟩
  refine Option.bind_eq_some_iff.2 ⟨_, hscenario, ?_⟩
  refine Option.bind_eq_some_iff.2 ⟨c.actors, dictOf?_entries c.actors, ?_⟩
  refine Option.bind_eq_some_iff.2 ⟨c.vars, dictOf?_entries c.vars, ?_⟩
  refine Option.bind_eq_some_iff.2 ⟨c.result, rfl, ?_⟩
  refine Option.bind_eq_some_iff.2 ⟨_, Stage.decode?_encode (hrange hc.dated.current), ?_⟩
  refine Option.bind_eq_some_iff.2 ⟨c.events, hevents, ?_⟩
  exact Option.bind_eq_some_iff.2 ⟨c.log, hlog, rfl⟩

def submissionTrial (response : Option Json) : Option Case :=
  trial promptDocument [.attempt { submission with response } (afterSeconds 1)]

theorem submissionTrial_shown :
    ([some (.str "yes"), none].map fun response => (submissionTrial response).map fun c =>
      (decide (c.scenario.Bounded ∧ ∀ e ∈ c.events, e.timestamp.InRange), decide c.Storable)) =
        [some (true, true), some (true, false)] := by
  decide +kernel

/-- The written form of a reachable case is read, and as the case itself exactly if no `null` stands
in it that may as well be missing. -/
theorem stored_case_read (hc : Reachable engine s c) (hs : s.Bounded)
    (ht : ∀ e ∈ c.events, e.timestamp.InRange) :
    decode? c.encode = some c.stored ∧ (c.stored = c ↔ c.Storable) :=
  ⟨hc.decode?_encode hs ht, stored_eq_self_iff⟩

/-- After a submission with a response the case is read as itself. -/
theorem answered_case_read :
    ∃ c, submissionTrial (some (.str "yes")) = some c ∧ decode? c.encode = some c := by
  obtain ⟨hfirst, -⟩ := List.cons.inj submissionTrial_shown
  obtain ⟨c, htrial, hshown⟩ := Option.map_eq_some_iff.1 hfirst
  obtain ⟨hgiven, hstorable⟩ := Prod.mk.inj hshown
  obtain ⟨hs, ht⟩ := of_decide_eq_true hgiven
  obtain ⟨-, hc⟩ := reachable_of_trial htrial
  obtain ⟨hread, hsame⟩ := stored_case_read hc hs ht
  rw [hsame.2 (of_decide_eq_true hstorable)] at hread
  exact ⟨c, htrial, hread⟩

/-- After a submission without a response the case is read as one without its `null`. -/
theorem unanswered_case_changed :
    ∃ s c d, normalize promptDocument = .ok s ∧ Reachable (Engine.standard s) s c ∧
      submissionTrial none = some c ∧ decode? c.encode = some d ∧ d ≠ c := by
  obtain ⟨-, hrest⟩ := List.cons.inj submissionTrial_shown
  obtain ⟨c, htrial, hshown⟩ := Option.map_eq_some_iff.1 (List.cons.inj hrest).1
  obtain ⟨hgiven, hlost⟩ := Prod.mk.inj hshown
  obtain ⟨hs, ht⟩ := of_decide_eq_true hgiven
  obtain ⟨hnormalize, hc⟩ := reachable_of_trial htrial
  refine ⟨c.scenario, c, c.stored, hnormalize, hc, htrial, hc.decode?_encode hs ht, ?_⟩
  rw [Ne, stored_eq_self_iff]
  exact of_decide_eq_false hlost

end Caseflow.Case
