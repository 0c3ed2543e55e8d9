import Caseflow.Proofs.Case.Chain
import Caseflow.Proofs.Json.Record
import Caseflow.Proofs.Time.Timestamp
import Caseflow.Proofs.Uuid
import Mathlib.Data.List.Induction

/-!
# What a tail hash commits to

The content of an event tells all its fields but the hash: its kind by the first name, and optional
fields by the names that follow. Where the digest does not collide, the hash of the last event of a
valid chain therefore tells the last event, its predecessor's hash, and in the end the whole log.
-/
namespace Caseflow.Case

open Json Digest

variable {e e' : Event} {events log log' : List Event}

theorem Performer.encode_injective {p q : Performer} (h : p.encode = q.encode) : p = q := by
  obtain ⟨hid, hkey⟩ := optionalField_append_inj (fun _ _ => str.inj) (by decide) (by decide)
    (obj.inj h)
  obtain ⟨key, id⟩ := p
  obtain ⟨key', id'⟩ := q
  simp_all

theorem Attempt.erase_hash (a : Attempt) : Assoc.erase "hash" a.fields =
    ("action", .str a.action) :: ("actor", a.actor.encode) ::
      (fieldIf (!a.errors.isEmpty) "errors" (ofStrings a.errors) ++ ("previous", .str a.previous) ::
        (optionalField "response" (fun r => r) a.response ++
          [("skipped", .bool a.skipped), ("timestamp", .str a.timestamp.text)])) := by
  cases he : a.errors.isEmpty <;> simp [fields, Assoc.erase, fieldIf, he]

theorem Genesis.eq_of_content {a b : Genesis} (hhash : a.hash = b.hash)
    (h : (Event.genesis a).content = (Event.genesis b).content) : a = b := by
  simp [Event.content, Event.fields, fields, Assoc.erase] at h
  obtain ⟨hactors, hid, hscenario, htime, hvars⟩ := h
  obtain ⟨id, timestamp, scenario, actors, vars, hash⟩ := a
  obtain ⟨id', timestamp', scenario', actors', vars', hash'⟩ := b
  cases hhash
  cases Uuid.text_injective hid
  cases Uuid.text_injective hscenario
  cases Time.Timestamp.text_injective htime
  cases Dict.ext_entries hactors
  cases Dict.ext_entries hvars
  rfl

theorem Attempt.eq_of_content {a b : Attempt} (hhash : a.hash = b.hash)
    (h : (Event.attempt a).content = (Event.attempt b).content) : a = b := by
  simp only [Event.content, Event.fields, erase_hash, obj.injEq, List.cons.injEq, Prod.mk.injEq,
    true_and, str.injEq] at h
  obtain ⟨haction, hactor, h⟩ := h
  obtain ⟨hsome, hshown, h⟩ := fieldIf_append_inj (by decide) (by decide) h
  obtain ⟨hprevious, h⟩ := List.cons.inj h
  obtain ⟨hresponse, h⟩ := optionalField_append_inj (fun _ _ h => h) (by decide) (by decide) h
  have herrors : a.errors = b.errors := by
    cases ha : a.errors with
    | nil =>
      rw [ha] at hsome
      exact (List.isEmpty_iff.1 (Bool.not_inj hsome.symm)).symm
    | cons x xs =>
      rw [← ha]
      exact ofStrings_injective (hshown (by rw [ha]; rfl))
  simp at hprevious h
  obtain ⟨previous, timestamp, action, actor, response, skipped, errors, hash⟩ := a
  obtain ⟨previous', timestamp', action', actor', response', skipped', errors', hash'⟩ := b
  cases hhash
  cases haction
  cases Performer.encode_injective hactor
  cases herrors
  cases hprevious
  cases hresponse
  cases h.1
  cases Time.Timestamp.text_injective h.2
  rfl

theorem Expiry.eq_of_content {a b : Expiry} (hhash : a.hash = b.hash)
    (h : (Event.expiry a).content = (Event.expiry b).content) : a = b := by
  simp [Event.content, Event.fields, fields, Assoc.erase] at h
  obtain ⟨previous, timestamp, hash⟩ := a
  obtain ⟨previous', timestamp', hash'⟩ := b
  cases hhash
  cases h.1
  cases Time.Timestamp.text_injective h.2
  rfl

def Event.firstName : Event → String
  | genesis _ => "actors"
  | attempt _ => "action"
  | expiry _ => "previous"

theorem Event.firstName_eq (e : Event) :
    (e.content.asObject?.bind List.head?).map Prod.fst = some e.firstName := by
  cases e with
  | genesis e => rfl
  | attempt e => rw [content, fields, Attempt.erase_hash]; rfl
  | expiry e => rfl

theorem Event.eq_of_content (hhash : e.hash = e'.hash) (h : e.content = e'.content) : e = e' := by
  have hfirst := e.firstName_eq
  rw [h, e'.firstName_eq, Option.some.injEq] at hfirst
  match e, e' with
  | genesis a, genesis b => rw [Genesis.eq_of_content hhash h]
  | attempt a, attempt b => rw [Attempt.eq_of_content hhash h]
  | expiry a, expiry b => rw [Expiry.eq_of_content hhash h]
  | genesis _, attempt _ | genesis _, expiry _ | attempt _, genesis _ | attempt _, expiry _
  | expiry _, genesis _ | expiry _, attempt _ => simp [firstName] at hfirst

/-- What comes before the last event of a valid chain is one, and the last event says how it
ends. -/
theorem ValidChain.init (h : ValidChain (events ++ [e])) (hne : events ≠ []) :
    ValidChain events ∧ e.previous? = events.getLast?.map Event.hash := by
  have hlength : (events ++ [e]).length = events.length + 1 := List.length_append
  refine ⟨⟨hne, ?_, ?_, ?_⟩, ?_⟩
  · intro i hi
    have hstart := h.start_iff i (by omega)
    rwa [List.getElem_append_left hi] at hstart
  · intro d hd
    exact h.hashed d (List.mem_append_left _ hd)
  · intro i hi
    have hlink := h.linked i (by omega)
    rwa [List.getElem_append_left hi, List.getElem_append_left (by omega)] at hlink
  · have hpos := List.length_pos_iff.2 hne
    have hlink := h.linked (events.length - 1) (by omega)
    have hlast (h : events.length - 1 + 1 < (events ++ [e]).length) :
        (events ++ [e])[events.length - 1 + 1] = e := by
      simp [Nat.sub_add_cancel hpos]
    rw [hlast, List.getElem_append_left (by omega)] at hlink
    rw [hlink, List.getLast?_eq_getElem?, List.getElem?_eq_getElem (by omega), Option.map_some]

theorem ValidChain.isGenesis_last (h : ValidChain (events ++ [e])) :
    e.isGenesis = true ↔ events = [] := by
  have hstart := h.start_iff events.length (by simp)
  rw [List.getElem_concat_length rfl] at hstart
  rw [hstart, List.length_eq_zero_iff]

/-- Where the digest does not collide on their events, valid chains that end with the same hash are
the same log: from the end backwards, equal hashes give equal events, and these the hashes before
them. -/
theorem eq_of_tail_hash (hlog : ValidChain log) (hlog' : ValidChain log')
    (hdigest : ∀ e ∈ log, ∀ e' ∈ log',
      Sha256.hex e.content.canonicalText = Sha256.hex e'.content.canonicalText →
        e.content.canonicalText = e'.content.canonicalText)
    (htail : log.getLast?.map Event.hash = log'.getLast?.map Event.hash) : log = log' := by
  induction log using List.reverseRecOn generalizing log' with
  | nil => exact absurd rfl hlog.ne_nil
  | append_singleton init e ih =>
    obtain ⟨init', e', rfl⟩ : ∃ init' e', log' = init' ++ [e'] :=
      ⟨_, _, (List.dropLast_concat_getLast hlog'.ne_nil).symm⟩
    have hhash : e.hash = e'.hash := by simpa using htail
    have hmem : e ∈ init ++ [e] := List.mem_append_right _ List.mem_cons_self
    have hmem' : e' ∈ init' ++ [e'] := List.mem_append_right _ List.mem_cons_self
    have hsame : e = e' := by
      apply Event.eq_of_content hhash
      apply eq_of_canonicalText
      apply hdigest e hmem e' hmem'
      have hdigests := hhash
      rwa [hlog.hashed e hmem, hlog'.hashed e' hmem'] at hdigests
    subst hsame
    by_cases hinit : init = []
    · have hinit' := hlog'.isGenesis_last.1 (hlog.isGenesis_last.2 hinit)
      rw [hinit, hinit']
    · have hinit' : init' ≠ [] := fun hnil =>
        hinit (hlog.isGenesis_last.1 (hlog'.isGenesis_last.2 hnil))
      obtain ⟨hchain, hprevious⟩ := hlog.init hinit
      obtain ⟨hchain', hprevious'⟩ := hlog'.init hinit'
      have hinits := ih hchain hchain'
        (fun d hd d' hd' => hdigest d (List.mem_append_left _ hd) d' (List.mem_append_left _ hd'))
        (hprevious.symm.trans hprevious')
      rw [hinits]

/-- The start of a case that time ends at once. -/
def briefStart : Genesis := ⟨⟨0⟩, .epoch, ⟨1⟩, .empty, .empty,
  "0555b39ba6a6195f3d0447e09b39ed9b3a5602b0be8b2b7c184a2cc7ade3869f"⟩

def briefEnd : Expiry := ⟨briefStart.hash, .epoch,
  "77629d0df7b0feb8df2ce48e61a65371df91ad031bc18d2a16d8fa2e48ab5e83"⟩

def briefLog : List Event := [.genesis briefStart, .expiry briefEnd]

theorem digest_briefStart : (Event.genesis briefStart).digest = briefStart.hash := by
  rw [Event.digest, contentHash_eq]
  decide +kernel

theorem digest_briefEnd : (Event.expiry briefEnd).digest = briefEnd.hash := by
  rw [Event.digest, contentHash_eq]
  decide +kernel

theorem validChain_briefLog : ValidChain briefLog :=
  (validChain_start digest_briefStart).append digest_briefEnd.symm rfl

/-- The log is what sealing its events anew gives. -/
theorem brief_log_eq : ValidChain briefLog ∧ briefLog = briefLog.map Event.sealed := by
  have hsealed : briefLog.map Event.sealed = briefLog := by
    rw [briefLog, List.map_cons, List.map_cons, List.map_nil, Event.sealed, Event.sealed,
      digest_briefStart, digest_briefEnd]
    rfl
  have hdistinct : ∀ e ∈ briefLog, ∀ e' ∈ briefLog, e.hash = e'.hash → e = e' := by decide
  have hchain : ValidChain (briefLog.map Event.sealed) := by
    rw [hsealed]
    exact validChain_briefLog
  refine ⟨validChain_briefLog, eq_of_tail_hash validChain_briefLog hchain ?_ ?_⟩
  · intro e he e' he' hdigest
    rw [hsealed] at he'
    have hhash : e.hash = e'.hash := by
      rw [validChain_briefLog.hashed e he, validChain_briefLog.hashed e' he']
      exact hdigest
    rw [hdistinct e he e' he' hhash]
  · rw [hsealed]

end Caseflow.Case
