import Caseflow.Proofs.Case.Retaken
import Caseflow.Proofs.Time.Reading
import Caseflow.Proofs.Uuid

/-!
# Events read back

The written form of an event does not say of which kind the event is: a start is known by its id, an
attempt by its action, and what time took by having neither. So an event is read as one of its own
kind, and as the event itself unless its response is `null`, which is read as none.
-/
namespace Caseflow.Case

open Json Time

variable {v : Json} {name : String} {t : Timestamp} {e : Event}

theorem required?_uuid {u : Uuid} (h : v.field? name = some (.str u.text)) :
    required? uuid? name v = some u := by
  rw [required?, h, Option.bind_some, uuid?, asString?, Option.bind_some, Uuid.parse?_text]

theorem required?_timestamp (ht : t.InRange) (h : v.field? name = some (.str t.text)) :
    required? timestamp? name v = some t := by
  rw [required?, h, Option.bind_some, timestamp?, asString?, Option.bind_some,
    Timestamp.ofText?_text ht]

theorem inRange_of_required? (h : required? timestamp? name v = some t) : t.InRange := by
  obtain ⟨w, -, htime⟩ := Option.bind_eq_some_iff.1 h
  obtain ⟨text, -, hread⟩ := Option.bind_eq_some_iff.1 htime
  exact Timestamp.inRange_of_ofText? hread

theorem defaulted?_entries {d : Dict Json} (h : v.field? name = some (.obj d.entries)) :
    defaulted? (dictOf? some) .empty name v = some d := by
  rw [defaulted?, h]
  exact dictOf?_entries d

theorem Performer.decode?_encode (a : Performer) : decode? a.encode = some a := by
  obtain ⟨key, id⟩ := a
  cases id <;> rfl

theorem Genesis.decode?_fields {e : Genesis} (h : e.timestamp.InRange) :
    decode? (.obj e.fields) = some e := by
  unfold decode?
  refine Option.bind_eq_some_iff.2 ⟨e.id, required?_uuid rfl, ?_⟩
  refine Option.bind_eq_some_iff.2 ⟨e.timestamp, required?_timestamp h rfl, ?_⟩
  refine Option.bind_eq_some_iff.2 ⟨e.scenario, required?_uuid rfl, ?_⟩
  refine Option.bind_eq_some_iff.2 ⟨e.actors, defaulted?_entries rfl, ?_⟩
  exact Option.bind_eq_some_iff.2 ⟨e.vars, defaulted?_entries rfl, rfl⟩

/-- An attempt as it is read: without a response of `null`. -/
def Attempt.stored (a : Attempt) : Attempt := { a with response := givenResponse a.response }

theorem Attempt.field?_fields (a : Attempt) :
    let v := Json.obj a.fields
    v.field? "previous" = some (.str a.previous) ∧
      v.field? "timestamp" = some (.str a.timestamp.text) ∧
      v.field? "response" = a.response ∧ v.field? "skipped" = some (.bool a.skipped) ∧
      v.field? "hash" = some (.str a.hash) ∧ v.field? "id" = none := by
  obtain ⟨previous, timestamp, action, actor, response, skipped, errors, hash⟩ := a
  cases errors <;> cases response <;> exact ⟨rfl, rfl, rfl, rfl, rfl, rfl⟩

theorem Attempt.errors_fields (a : Attempt) :
    defaulted? strings? [] "errors" (.obj a.fields) = some a.errors := by
  obtain ⟨previous, timestamp, action, actor, response, skipped, errors, hash⟩ := a
  cases errors with
  | nil => cases response <;> rfl
  | cons e rest => exact strings?_ofStrings (e :: rest)

theorem Attempt.decode?_fields {a : Attempt} (h : a.timestamp.InRange) :
    decode? (.obj a.fields) = some a.stored := by
  obtain ⟨hprevious, htime, hresponse, hskipped, hhash, -⟩ := a.field?_fields
  unfold decode?
  refine Option.bind_eq_some_iff.2 ⟨a.previous, required?_text hprevious, ?_⟩
  refine Option.bind_eq_some_iff.2 ⟨a.timestamp, required?_timestamp h htime, ?_⟩
  refine Option.bind_eq_some_iff.2 ⟨a.action, rfl, ?_⟩
  refine Option.bind_eq_some_iff.2 ⟨a.actor, a.actor.decode?_encode, ?_⟩
  refine Option.bind_eq_some_iff.2 ⟨_, optional?_value hresponse, ?_⟩
  refine Option.bind_eq_some_iff.2 ⟨a.skipped, ?_, ?_⟩
  · rw [defaulted?, hskipped]
    rfl
  refine Option.bind_eq_some_iff.2 ⟨a.errors, a.errors_fields, ?_⟩
  refine Option.bind_eq_some_iff.2 ⟨a.hash, ?_, rfl⟩
  rw [defaulted?, hhash]
  rfl

theorem Expiry.decode?_fields {e : Expiry} (h : e.timestamp.InRange) :
    decode? (.obj e.fields) = some e := by
  unfold decode?
  refine Option.bind_eq_some_iff.2 ⟨_, rfl, ?_⟩
  refine Option.bind_eq_some_iff.2 ⟨(), rfl, ?_⟩
  refine Option.bind_eq_some_iff.2 ⟨e.previous, rfl, ?_⟩
  refine Option.bind_eq_some_iff.2 ⟨e.timestamp, required?_timestamp h rfl, ?_⟩
  exact Option.bind_eq_some_iff.2 ⟨e.hash, rfl, rfl⟩

namespace Event

def response? : Event → Option Json
  | attempt a => a.response
  | genesis _ | expiry _ => none

def stored : Event → Event
  | genesis e => genesis e
  | attempt a => attempt a.stored
  | expiry e => expiry e

theorem stored_eq_self_iff : e.stored = e ↔ e.response? ≠ some .null := by
  cases e with
  | genesis e => exact iff_of_true rfl nofun
  | expiry e => exact iff_of_true rfl nofun
  | attempt a =>
    rw [response?, ← givenResponse_eq_self_iff]
    constructor
    · intro h
      exact congrArg response? h
    · intro h
      rw [stored, Attempt.stored, h]

theorem decode?_encode (h : e.timestamp.InRange) : decode? e.encode = some e.stored := by
  cases e with
  | genesis e =>
    rw [encode, fields, decode?, Genesis.decode?_fields h]
    rfl
  | attempt a =>
    obtain ⟨-, -, -, -, -, hid⟩ := a.field?_fields
    have hgenesis : Genesis.decode? (.obj a.fields) = none := by
      rw [Genesis.decode?, required?, hid]
      rfl
    rw [encode, fields, decode?, hgenesis, Attempt.decode?_fields h]
    rfl
  | expiry e =>
    have hgenesis : Genesis.decode? (.obj e.fields) = none := rfl
    have hattempt : Attempt.decode? (.obj e.fields) = none := by
      rw [Attempt.decode?, required?_timestamp h rfl]
      rfl
    rw [encode, fields, decode?, hgenesis, hattempt, Expiry.decode?_fields h]
    rfl

theorem inRange_of_decode? (h : decode? v = some e) : e.timestamp.InRange := by
  simp only [decode?, Option.or_eq_some_iff, Option.map_eq_some_iff] at h
  obtain ⟨start, hread, rfl⟩ | ⟨-, ⟨a, hread, rfl⟩ | ⟨-, due, hread, rfl⟩⟩ := h
  · simp only [Genesis.decode?, Option.bind_eq_bind, Option.bind_eq_some_iff] at hread
    obtain ⟨id, -, t, htime, scenario, -, actors, -, vars, -, hash, -, heq⟩ := hread
    cases heq
    exact inRange_of_required? htime
  · simp only [Attempt.decode?, Option.bind_eq_bind, Option.bind_eq_some_iff] at hread
    obtain ⟨previous, -, t, htime, action, -, actor, -, response, -, skipped, -, errors, -, hash, -,
      heq⟩ := hread
    cases heq
    exact inRange_of_required? htime
  · simp only [Expiry.decode?, Option.bind_eq_bind, Option.bind_eq_some_iff] at hread
    obtain ⟨fields, -, known, -, previous, -, t, htime, hash, -, heq⟩ := hread
    cases heq
    exact inRange_of_required? htime

/-- An event is read back as itself exactly if its response, if any, is not `null`. -/
theorem decode?_encode_eq_some_iff (e : Event) :
    decode? e.encode = some e ↔ e.timestamp.InRange ∧ e.response? ≠ some .null := by
  rw [← stored_eq_self_iff]
  constructor
  · intro h
    have ht := inRange_of_decode? h
    rw [decode?_encode ht, Option.some.injEq] at h
    exact ⟨ht, h⟩
  · rintro ⟨ht, h⟩
    rw [decode?_encode ht, h]

end Event
end Caseflow.Case
