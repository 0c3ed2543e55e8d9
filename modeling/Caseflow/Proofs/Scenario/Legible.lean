import Caseflow.Proofs.Scenario.Reread

/-!
# Results are authored documents

Whatever document a scenario comes from, its format is the one there is, all that it refers to is
there, periods fit 64 bits and messages are more than `null`. So its written form can be normalized
again.
-/
namespace Caseflow.Scenario

open Json

variable {s : Scenario} {document : Json} {key : String} {declared explicit : List String}
  {actions after : Dict Action} {state : State} {authored : AuthoredState}

namespace Period

variable {n m : Nat}

theorem le_of_bounded? (h : bounded? n = some m) : m ≤ Number.maxUnsigned := by
  rw [bounded?, Option.ite_none_right_eq_some] at h
  obtain ⟨hle, heq⟩ := h
  cases heq
  exact hle

theorem le_of_number? {digits : List Char} (h : number? digits = some n) :
    n ≤ Number.maxUnsigned := by
  unfold number? at h
  split at h
  · cases h
  · exact le_of_bounded? h

/-- A sum never leaves the bound that it starts in. -/
theorem le_of_sum? {fuel total : Nat} {cs : List Char} (htotal : total ≤ Number.maxUnsigned)
    (h : sum? fuel total cs = some n) : n ≤ Number.maxUnsigned := by
  induction fuel generalizing total cs with
  | zero =>
    cases cs with
    | nil =>
      cases h
      exact htotal
    | cons c rest => cases h
  | succ fuel ih =>
    cases cs with
    | nil =>
      cases h
      exact htotal
    | cons c rest =>
      obtain ⟨⟨seconds, more⟩, -, h⟩ := Option.bind_eq_some_iff.1 h
      obtain ⟨next, hnext, h⟩ := Option.bind_eq_some_iff.1 h
      exact ih (le_of_bounded? hnext) h

theorem le_of_ofText? {text : String} (h : ofText? text = some n) : n ≤ Number.maxUnsigned := by
  unfold ofText? at h
  simp only at h
  split at h
  · cases h
  · split at h
    · exact le_of_number? h
    · exact le_of_sum? (Nat.zero_le _) h

theorem le_of_toUnsigned? {x : Number} (h : x.toUnsigned? = some n) : n ≤ Number.maxUnsigned := by
  cases x with
  | int k =>
    rw [Number.toUnsigned?, Option.ite_none_right_eq_some] at h
    obtain ⟨⟨-, hle⟩, heq⟩ := h
    cases heq
    exact Int.toNat_le.2 hle
  | float x => cases h

theorem le_of_ofJson {v : Json} (h : ofJson v = .ok n) : n ≤ Number.maxUnsigned := by
  cases v with
  | num x =>
    cases hx : x.toUnsigned? with
    | none => simp [ofJson, hx] at h
    | some m =>
      simp only [ofJson, hx, Option.elim_some, Except.ok.injEq] at h
      cases h
      exact le_of_toUnsigned? hx
  | str text =>
    cases htext : ofText? text with
    | none => simp [ofJson, htext] at h
    | some m =>
      simp only [ofJson, htext, Option.elim_some, Except.ok.injEq] at h
      cases h
      exact le_of_ofText? htext
  | null | bool _ | arr _ | obj _ => cases h

end Period

/-- The period of a trigger, if it is one, fits 64 bits. -/
def Trigger.Bounded (t : Trigger) : Prop :=
  ∀ seconds, t = .after seconds → seconds ≤ Number.maxUnsigned

theorem readTrigger_bounded {index : Nat} {path : String} {fields : Fields} {t : Trigger}
    (h : Draft.readTrigger key index path fields = .ok t) : t.Bounded := by
  intro seconds ht
  subst ht
  unfold Draft.readTrigger at h
  split at h
  · obtain ⟨actors, -, heq⟩ := bind_eq_ok_iff.1 h
    cases heq
  · cases h
  · split at h
    · rename_i hperiod
      cases h
      exact Period.le_of_ofJson hperiod
    · cases h
  · cases h

theorem read_bounded {index : Nat} {v : Json} {d : Draft} (h : Draft.read key index v = .ok d) :
    d.trigger.Bounded := by
  cases v with
  | obj fields =>
    obtain ⟨goto, -, h⟩ := bind_eq_ok_iff.1 h
    obtain ⟨trigger, htrigger, heq⟩ := bind_eq_ok_iff.1 h
    cases heq
    exact readTrigger_bounded htrigger
  | null | bool _ | num _ | str _ | arr _ => cases h

theorem settle_bounded {implied more : Implied} {d d' : Draft}
    (h : settle key declared explicit actions implied d = .ok (d', more))
    (hd : d.trigger.Bounded) : d'.trigger.Bounded := by
  unfold settle at h
  split at h
  · cases h
    exact hd
  · split at h
    · cases h
      exact hd
    · simp only at h
      split at h
      · cases h
      · cases h
        intro seconds ht
        cases ht

theorem settleAll_bounded {index : Nat} {implied more : Implied} {drafts : List Draft}
    {vs : List Json}
    (h : settleAll key declared explicit actions index implied vs = .ok (drafts, more)) :
    ∀ d ∈ drafts, d.trigger.Bounded := by
  induction vs generalizing index implied drafts with
  | nil =>
    cases h
    exact List.forall_mem_nil _
  | cons v rest ih =>
    obtain ⟨draft, hread, h⟩ := bind_eq_ok_iff.1 h
    obtain ⟨⟨first, _⟩, hfirst, h⟩ := bind_eq_ok_iff.1 h
    obtain ⟨⟨others, _⟩, hothers, h⟩ := bind_eq_ok_iff.1 h
    cases h
    exact List.forall_mem_cons.2 ⟨settle_bounded hfirst (read_bounded hread), ih hothers⟩

theorem present?_ne_null (name : String) (fields : Fields) :
    Authored.present? name fields ≠ some .null := by
  intro h
  unfold Authored.present? at h
  split at h
  · cases h
  · rename_i hnot
    exact hnot h

theorem notice_message {path : String} {v : Json} {n : Notice}
    (h : Authored.notice path v = .ok n) : n.message ≠ some .null := by
  unfold Authored.notice at h
  split at h
  · cases h
    exact nofun
  · split at h
    · obtain ⟨trigger, -, heq⟩ := bind_eq_ok_iff.1 h
      cases heq
      exact present?_ne_null _ _
    · cases h
  · cases h

theorem noticeItems_message {path : String} {vs : List Json} {ns : List Notice}
    (h : Authored.noticeItems path vs = .ok ns) : ∀ n ∈ ns, n.message ≠ some .null := by
  induction vs generalizing ns with
  | nil =>
    cases h
    exact List.forall_mem_nil _
  | cons v rest ih =>
    obtain ⟨first, hfirst, h⟩ := bind_eq_ok_iff.1 h
    obtain ⟨others, hothers, heq⟩ := bind_eq_ok_iff.1 h
    cases heq
    exact List.forall_mem_cons.2 ⟨notice_message hfirst, ih hothers⟩

theorem notices_message {v : Option Json} {ns : List Notice}
    (h : Authored.notices key v = .ok ns) : ∀ n ∈ ns, n.message ≠ some .null := by
  unfold Authored.notices at h
  simp only at h
  split at h
  · cases h
    exact List.forall_mem_nil _
  · exact noticeItems_message h
  · exact noticeItems_message h

theorem impliedNotices_message {ns : List Notice} {keys : ServiceKeys} :
    ∀ n ∈ impliedNotices ns keys, n.message ≠ some .null := by
  intro n hn
  obtain ⟨p, -, rfl⟩ := List.mem_map.1 hn
  exact nofun

theorem Settlement.legible
    (t : Settlement key declared explicit actions authored state after) :
    state.Legible key after where
  ending := t.ends
  action _ hu := t.action_mem hu
  after u hu := by
    obtain ⟨d, hd, hfinish⟩ := exists_of_mem_finishAll t.finished (mem_timeoutTransitions.1 hu)
    exact settleAll_bounded t.drafted d hd u.after (trigger_of_finish hfinish)
  message n hn := by
    rw [t.notices_eq] at hn
    obtain hread | himplied := List.mem_append.1 hn
    · exact notices_message t.notices_read n hread
    · exact impliedNotices_message n himplied

theorem State.Legible.mono (h : state.Legible key actions)
    (hmore : ∀ k, actions.contains k = true → after.contains k = true) :
    state.Legible key after where
  ending := h.ending
  action t ht := hmore _ (h.action t ht)
  after := h.after
  message := h.message

theorem legible_ending (key title : String) (actions : Dict Action) :
    (State.ending title).Legible key actions where
  ending _ := rfl
  action := List.forall_mem_nil _
  after := List.forall_mem_nil _
  message := List.forall_mem_nil _

theorem format_eq {v : Option Json} {uri : String} (h : Authored.format v = .ok uri) :
    uri = formatUri := by
  unfold Authored.format at h
  split at h
  · cases h
    rfl
  · cases h
    rfl
  · split at h
    · cases h
      rfl
    · cases h
  · cases h

/-- The written form of a result is an authored document. -/
theorem legible_of_normalize (h : normalize document = .ok s) : s.Legible := by
  obtain ⟨doc, -, ⟨n⟩⟩ := normalize_eq_ok_iff.1 h
  refine ⟨format_eq n.format_read, linked_of_normalize h, ?_⟩
  intro key state hstate
  obtain ⟨_, _, _, -, ⟨t⟩, hmore⟩ | ⟨-, rfl⟩ := n.origin hstate
  · exact t.legible.mono hmore
  · exact legible_ending key key s.actions

end Caseflow.Scenario
