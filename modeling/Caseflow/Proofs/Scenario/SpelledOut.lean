import Caseflow.Proofs.Scenario.Coined
import Caseflow.Proofs.Scenario.Listed

/-!
# Documents without shorthand for states

What a document shares among its states can be written out in each of them, and the transition that
a state writes among its own fields can be listed. Normalizing the document that is written out
gives the same scenario. So in that scenario a state's own fields, instructions and transitions come
first.
-/
namespace Caseflow.Scenario

open Json Schema

variable {s : Scenario} {document v : Json} {doc fields own shared states : Fields} {key : String}
  {a w : AuthoredState} {ts : List Json}

/-- What is written for a state if there is a state to share, or none. -/
def spelledState (wildcard : Option Json) (key : String) (v : Json) : Json :=
  match wildcard with
  | none => listDirect v
  | some wildcard =>
    if isEndState key then listDirect v
    else .obj (withShared (ownFields (listDirect wildcard)) (ownFields (listDirect v)))

def spelledStates (states : Fields) : Fields :=
  (Assoc.erase "*" states).map fun p => (p.1, spelledState (Assoc.get? "*" states) p.1 p.2)

/-- A document in which every state is written out and none is shared. -/
def spelledOut : Json → Json
  | .obj doc =>
    match Assoc.get? "states" doc with
    | some (.obj states) => .obj (Assoc.insert "states" (.obj (spelledStates states)) doc)
    | _ => .obj doc
  | v => v

section Entries

variable {α : Type} {read : String → Json → Result α} {entries : List (String × α)}

theorem entriesOf_filter (keeps : String → Bool)
    (h : Authored.entriesOf read fields = .ok entries) :
    Authored.entriesOf read (fields.filter (keeps ·.1)) = .ok (entries.filter (keeps ·.1)) := by
  induction fields generalizing entries with
  | nil =>
    cases h
    rfl
  | cons p rest ih =>
    obtain ⟨first, hfirst, h⟩ := bind_eq_ok_iff.1 h
    obtain ⟨others, hothers, h⟩ := bind_eq_ok_iff.1 h
    cases h
    rw [List.filter_cons, List.filter_cons]
    split
    · exact bind_eq_ok_iff.2 ⟨first, hfirst, bind_eq_ok_iff.2 ⟨_, ih hothers, rfl⟩⟩
    · exact ih hothers

theorem entriesOf_map {change : String → Json → Json} {after : String → α → α}
    (h : Authored.entriesOf read fields = .ok entries)
    (hchange : ∀ p ∈ fields, ∀ a, read p.1 p.2 = .ok a →
      read p.1 (change p.1 p.2) = .ok (after p.1 a)) :
    Authored.entriesOf read (fields.map fun p => (p.1, change p.1 p.2)) =
      .ok (entries.map fun p => (p.1, after p.1 p.2)) := by
  induction fields generalizing entries with
  | nil =>
    cases h
    rfl
  | cons p rest ih =>
    obtain ⟨first, hfirst, h⟩ := bind_eq_ok_iff.1 h
    obtain ⟨others, hothers, h⟩ := bind_eq_ok_iff.1 h
    cases h
    obtain ⟨hp, hrest⟩ := List.forall_mem_cons.1 hchange
    exact bind_eq_ok_iff.2 ⟨_, hp first hfirst, bind_eq_ok_iff.2 ⟨_, ih hothers hrest, rfl⟩⟩

theorem keys_entriesOf (h : Authored.entriesOf read fields = .ok entries) :
    entries.map Prod.fst = fields.map Prod.fst := by
  induction fields generalizing entries with
  | nil =>
    cases h
    rfl
  | cons p rest ih =>
    obtain ⟨first, -, h⟩ := bind_eq_ok_iff.1 h
    obtain ⟨others, hothers, h⟩ := bind_eq_ok_iff.1 h
    cases h
    rw [List.map_cons, List.map_cons, ih hothers]

theorem get?_entriesOf (h : Authored.entriesOf read fields = .ok entries) (key : String) :
    (Assoc.get? key fields = none ∧ Assoc.get? key entries = none) ∨
      ∃ v a, Assoc.get? key fields = some v ∧ Assoc.get? key entries = some a ∧
        read key v = .ok a := by
  induction fields generalizing entries with
  | nil =>
    cases h
    exact .inl ⟨rfl, rfl⟩
  | cons p rest ih =>
    obtain ⟨first, hfirst, h⟩ := bind_eq_ok_iff.1 h
    obtain ⟨others, hothers, h⟩ := bind_eq_ok_iff.1 h
    cases h
    rw [Assoc.get?, Assoc.get?]
    split
    · rename_i hkey
      exact .inr ⟨p.2, first, rfl, rfl, hkey ▸ hfirst⟩
    · exact ih hothers

end Entries

def sharedState (wildcard : Option AuthoredState) (key : String) (a : AuthoredState) :
    AuthoredState :=
  match wildcard with
  | none => a
  | some wildcard => if isEndState key then a else AuthoredState.share wildcard a

theorem entries_spread {entries : List (String × AuthoredState)} (h : KeysAscend entries) :
    (AuthoredState.spread (Dict.ofList entries)).entries =
      (entries.filter (·.1 != "*")).map fun p =>
        (p.1, sharedState (Assoc.get? "*" entries) p.1 p.2) := by
  have hget : (Dict.ofList entries).get? AuthoredState.wildcardKey = Assoc.get? "*" entries := by
    rw [Dict.get?, Dict.entries_ofList h]
    rfl
  unfold AuthoredState.spread
  rw [hget]
  cases hwildcard : Assoc.get? "*" entries with
  | none =>
    have hall : entries.filter (·.1 != "*") = entries := by
      rw [List.filter_eq_self]
      rintro ⟨k, a⟩ hp
      rw [bne_iff_ne]
      rintro rfl
      rw [(Assoc.get?_eq_some_iff_mem h).2 hp] at hwildcard
      cases hwildcard
    rw [hall]
    exact (Dict.entries_ofList h).trans (List.map_id _).symm
  | some wildcard =>
    simp only [Dict.mapWithKey, Dict.erase, Dict.entries_ofList h]
    rfl

/-- States that are written out are read as the states that are shared with. -/
theorem entriesOf_spelledStates {entries : List (String × AuthoredState)}
    (hstates : (obj states).ordered = true)
    (h : Authored.entriesOf AuthoredState.read states = .ok entries) :
    Authored.entriesOf AuthoredState.read (spelledStates states) =
      .ok (AuthoredState.spread (Dict.ofList entries)).entries := by
  obtain ⟨hascend, hordered⟩ := ordered_obj_iff.1 hstates
  rw [entries_spread (Assoc.keysAscend_of_keys (keys_entriesOf h) hascend), spelledStates,
    Assoc.erase_eq_filter hascend]
  apply entriesOf_map (entriesOf_filter (· != "*") h)
  intro p hp a hread
  have hp := hordered p (List.mem_of_mem_filter hp)
  obtain ⟨hnone, hnone'⟩ | ⟨v, w, hv, hw, hwildcard⟩ := get?_entriesOf h "*"
  · rw [hnone, hnone']
    exact read_listDirect hp hread
  · rw [hv, hw, spelledState, sharedState]
    split
    · exact read_listDirect hp hread
    · have hvalue := hordered _ (Assoc.mem_of_get? hv)
      exact (listed_withShared (listed_of_read hp hread) (listed_of_read hvalue hwildcard)).read p.1

theorem readAll_eq_ok_iff {authored : Dict AuthoredState} :
    AuthoredState.readAll (some (.obj states)) = .ok authored ↔ ∃ entries,
      Authored.entriesOf AuthoredState.read states = .ok entries ∧
      AuthoredState.spread (Dict.ofList entries) = authored := by
  simp only [AuthoredState.readAll, Authored.fieldsOrEmpty, bind_eq_ok_iff, pure_eq_ok_iff,
    Except.ok.injEq, exists_eq_left']

theorem readAll_spelledStates {authored : Dict AuthoredState}
    (hstates : (obj states).ordered = true)
    (h : AuthoredState.readAll (some (.obj states)) = .ok authored) :
    AuthoredState.readAll (some (.obj (spelledStates states))) = .ok authored := by
  obtain ⟨entries, hentries, rfl⟩ := readAll_eq_ok_iff.1 h
  refine readAll_eq_ok_iff.2 ⟨_, entriesOf_spelledStates hstates hentries, ?_⟩
  rw [Dict.ofList_entries]
  exact spread_of_not_contains (not_contains_spread _)

/-- Only the states of a document are written out. -/
def Normalization.spelledOut (n : Normalization doc s) (hstates : (obj states).ordered = true)
    (h : Assoc.get? "states" doc = some (.obj states)) :
    Normalization (Assoc.insert "states" (.obj (spelledStates states)) doc) s :=
  have hkeep {name : String} (hne : "states" ≠ name) :
      Assoc.get? name (Assoc.insert "states" (.obj (spelledStates states)) doc) =
        Assoc.get? name doc := Assoc.get?_insert_of_ne hne _ _
  have hpresent {name : String} (hne : "states" ≠ name) :
      Authored.present? name (Assoc.insert "states" (.obj (spelledStates states)) doc) =
        Authored.present? name doc := by
    rw [Authored.present?, hkeep hne, Authored.present?]
  { n with
    format_read := by rw [hkeep (by decide), n.format_read]
    title_read := by
      rw [Authored.textOr, hpresent (by decide)]
      exact n.title_read
    description_read := by
      rw [Authored.textOr, hpresent (by decide)]
      exact n.description_read
    tags_read := by rw [hpresent (by decide), n.tags_read]
    actors_read := by rw [hkeep (by decide), n.actors_read]
    actions_read := by rw [hkeep (by decide), n.actions_read]
    states_read := by
      rw [Assoc.get?_insert_self]
      exact readAll_spelledStates hstates (h ▸ n.states_read)
    vars_read := by rw [hkeep (by decide), n.vars_read]
    definitions_read := by rw [hkeep (by decide), n.definitions_read]
    result_eq := by rw [hkeep (by decide), n.result_eq] }

/-- A transition is what is written for it; its action is the one that is named, or the state's own
of that name. -/
structure MadeOf (key : String) (d : Draft) (t : Transition) : Prop where
  goto : t.goto = d.goto
  guard : t.guard = d.guard
  trigger : t.trigger = d.trigger ∨ ∃ action actors,
    d.trigger = .on action actors ∧ t.trigger = .on (scopedKey key action) actors

theorem madeOf_of_settle {declared explicit : List String} {actions after : Dict Action}
    {implied implied' : Implied} {d d' : Draft} {t : Transition}
    (h : settle key declared explicit actions implied d = .ok (d', implied'))
    (hfinish : d'.finish after = .ok t) : MadeOf key d t := by
  have hfinished : t.goto = d'.goto ∧ t.guard = d'.guard := by
    unfold Draft.finish at hfinish
    split at hfinish
    · obtain ⟨log, -, heq⟩ := bind_eq_ok_iff.1 hfinish
      cases heq
      exact ⟨rfl, rfl⟩
    · obtain ⟨log, -, heq⟩ := bind_eq_ok_iff.1 hfinish
      cases heq
      exact ⟨rfl, rfl⟩
  have htrigger := trigger_of_finish hfinish
  unfold settle at h
  split at h
  · cases h
    exact ⟨hfinished.1, hfinished.2, .inl htrigger.symm⟩
  · rename_i action actors hon
    split at h
    · cases h
      exact ⟨hfinished.1, hfinished.2, .inl htrigger.symm⟩
    · simp only at h
      split at h
      · cases h
      · cases h
        exact ⟨hfinished.1, hfinished.2, .inr ⟨action, actors, hon, htrigger.symm⟩⟩

/-- Transitions stay in the places where they are written. -/
theorem getElem?_settleAll {declared explicit : List String} {actions after : Dict Action}
    {index : Nat} {implied implied' : Implied} {drafts : List Draft} {made : List Transition}
    (h : settleAll key declared explicit actions index implied ts = .ok (drafts, implied'))
    (hfinish : finishAll after drafts = .ok made) (i : Nat) (hi : ts[i]? = some v) :
    ∃ d t, Draft.read key (index + i) v = .ok d ∧ made[i]? = some t ∧ MadeOf key d t := by
  induction ts generalizing index implied drafts made i with
  | nil => cases hi
  | cons w rest ih =>
    obtain ⟨draft, hread, h⟩ := bind_eq_ok_iff.1 h
    obtain ⟨⟨first, between⟩, hfirst, h⟩ := bind_eq_ok_iff.1 h
    obtain ⟨⟨others, _⟩, hothers, h⟩ := bind_eq_ok_iff.1 h
    cases h
    obtain ⟨t, ht, hfinish⟩ := bind_eq_ok_iff.1 hfinish
    obtain ⟨last, hlast, hfinish⟩ := bind_eq_ok_iff.1 hfinish
    cases hfinish
    cases i with
    | zero =>
      cases hi
      exact ⟨draft, t, hread, rfl, madeOf_of_settle hfirst ht⟩
    | succ i =>
      obtain ⟨d, u, hd, hu, hmade⟩ := ih hothers hlast i hi
      exact ⟨d, u, by rw [← hd, Nat.add_right_comm, Nat.add_assoc], hu, hmade⟩

/-- What a state says itself is there in what it becomes: its title, its description, each of its
instructions, its notices before all others, and its transitions in the first places. -/
structure State.KeepsOwn (key : String) (own : Fields) (state : State) : Prop where
  title : ∀ v, Assoc.get? "title" own = some v → state.title = v
  description : ∀ v, Assoc.get? "description" own = some v → state.description = v
  instructions : ∀ texts name text, Assoc.get? "instructions" own = some (.obj texts) →
    Assoc.get? name texts = some text → state.instructions.get? name = some text
  notices : ∀ v, Assoc.get? "notify" own = some v → ∃ notices,
    Authored.notices key (Authored.present? "notify" own) = .ok notices ∧ notices <+: state.notices
  transitions : ∀ i v, (ownTransitions own)[i]? = some v → ∃ d t,
    Draft.read key i v = .ok d ∧ state.transitions[i]? = some t ∧ MadeOf key d t

structure HasOwn (own : Fields) (a : AuthoredState) : Prop where
  field : ∀ name v, name ≠ "transitions" → name ≠ "instructions" →
    Assoc.get? name own = some v → Assoc.get? name a.fields = some v
  instructions : ∀ texts, Assoc.get? "instructions" own = some (.obj texts) → ∃ all,
    Assoc.get? "instructions" a.fields = some (.obj all) ∧ KeysAscend all ∧
    ∀ name text, Assoc.get? name texts = some text → Assoc.get? name all = some text
  transitions : ownTransitions own <+: a.transitions

theorem Listed.hasOwn (h : Listed own a) : HasOwn own a where
  field name v hlist _ hv := by
    rw [h.rest, Assoc.get?_erase_of_ne hlist.symm, hv]
  instructions texts htexts := by
    refine ⟨texts, ?_, h.texts texts htexts, fun _ _ htext => htext⟩
    rw [h.rest, Assoc.get?_erase_of_ne (by decide), htexts]
  transitions := by
    have hlist := ownTransitions_of_listed (h.transitions "")
    exact hlist ▸ List.prefix_rfl

theorem hasOwn_share (hown : Listed own a) (hshared : Listed shared w) :
    HasOwn own (AuthoredState.share w a) where
  field name v hlist hplain hv := by
    rw [get?_share hown hshared, if_neg (Ne.symm hlist), get?_ownOverShared hown hshared, hv]
    cases Assoc.get? name shared with
    | none => rfl
    | some value =>
      rw [Option.map_some, sharedValue_some fun _ _ _ _ => hplain]
      rfl
  instructions texts htexts := by
    rw [get?_share hown hshared, if_neg (by decide), get?_ownOverShared hown hshared, htexts]
    cases hvalue : Assoc.get? "instructions" shared with
    | none => exact ⟨texts, rfl, hown.texts texts htexts, fun _ _ htext => htext⟩
    | some value =>
      rw [Option.map_some, Option.some_or]
      cases value with
      | obj more =>
        rw [AuthoredState.sharedValue, if_pos rfl]
        refine ⟨_, rfl, Shorthand.keysAscend_addMissing (hown.texts texts htexts), ?_⟩
        intro name text htext
        rw [Shorthand.get?_addMissing, htext]
        rfl
      | null | bool _ | num _ | str _ | arr _ =>
        exact ⟨texts, rfl, hown.texts texts htexts, fun _ _ htext => htext⟩
  transitions := by
    rw [ownTransitions_of_listed (hown.transitions "")]
    exact List.prefix_append _ _

/-- Settling a state keeps what the state says itself, whatever else it was given. -/
theorem Settlement.keepsOwn {declared explicit : List String} {actions after : Dict Action}
    {state : State} (t : Settlement key declared explicit actions a state after)
    (h : HasOwn own a) : state.KeepsOwn key own where
  title v hv := by
    rw [t.title_eq, h.field "title" v (by decide) (by decide) hv]
    rfl
  description v hv := by
    rw [t.description_eq, h.field "description" v (by decide) (by decide) hv]
    rfl
  instructions texts name text htexts htext := by
    obtain ⟨all, hall, hascend, hkept⟩ := h.instructions texts htexts
    have hread := t.instructions_read
    rw [hall] at hread
    cases hread
    rw [t.instructions_eq, Dict.get?, Dict.entries_ofList hascend]
    exact hkept name text htext
  notices v hv := by
    have hread := t.notices_read
    have hpresent : Authored.present? "notify" a.fields = Authored.present? "notify" own := by
      rw [Authored.present?, h.field "notify" v (by decide) (by decide) hv, Authored.present?, hv]
    rw [hpresent] at hread
    refine ⟨t.notices, hread, ?_⟩
    rw [t.notices_eq]
    exact List.prefix_append _ _
  transitions i v hv := by
    have hi : a.transitions[i]? = some v := by
      obtain ⟨rest, hrest⟩ := h.transitions
      rw [← hrest, List.getElem?_append_left (List.getElem?_eq_some_iff.1 hv).1]
      exact hv
    have hmade := getElem?_settleAll t.drafted t.finished i hi
    rw [Nat.zero_add] at hmade
    exact hmade

/-- What is read for a state has what the state says itself. -/
theorem exists_hasOwn {authored : Dict AuthoredState} (hstates : (obj states).ordered = true)
    (h : AuthoredState.readAll (some (.obj states)) = .ok authored)
    (hv : Assoc.get? key states = some v) (hkey : key ≠ "*") :
    ∃ a, authored.get? key = some a ∧ HasOwn (ownFields (listDirect v)) a := by
  obtain ⟨entries, hentries, rfl⟩ := readAll_eq_ok_iff.1 h
  obtain ⟨hascend, hordered⟩ := ordered_obj_iff.1 hstates
  have hown := hordered _ (Assoc.mem_of_get? hv)
  obtain ⟨hnone, -⟩ | ⟨w, a, hw, ha, hread⟩ := get?_entriesOf hentries key
  · cases hv.symm.trans hnone
  · cases hv.symm.trans hw
    refine ⟨sharedState (Assoc.get? "*" entries) key a, ?_, ?_⟩
    · rw [Dict.get?, entries_spread (Assoc.keysAscend_of_keys (keys_entriesOf hentries) hascend),
        Assoc.get?_mapWithKey, Assoc.get?_filter (· != "*"), if_pos (bne_iff_ne.2 hkey), ha]
      rfl
    · have hlisted := listed_of_read hown hread
      obtain ⟨-, hnone⟩ | ⟨wildcard, w, hwildcard, hw, hshared⟩ := get?_entriesOf hentries "*"
      · rw [hnone]
        exact hlisted.hasOwn
      · rw [hw, sharedState]
        split
        · exact hlisted.hasOwn
        · have hvalue := hordered _ (Assoc.mem_of_get? hwildcard)
          exact hasOwn_share hlisted (listed_of_read hvalue hshared)

/-- A shared state with a text for everyone, and a state that has a title and a text of its own. -/
def orderDocument : Json := .obj [("states", .obj [
  ("*", .obj [("goto", .str "(cancelled)"),
    ("instructions", .obj [("client", .str "Wait."), ("service", .str "Ping.")]),
    ("on", .str "cancel"), ("title", .str "Order")]),
  ("initial", .obj [("goto", .str "(done)"), ("instructions", .obj [("client", .str "Pay.")]),
    ("on", .str "pay"), ("title", .str "Payment")])])]

def spelledOrder : Json := .obj [("states", .obj [
  ("initial", .obj [
    ("instructions", .obj [("client", .str "Pay."), ("service", .str "Ping.")]),
    ("title", .str "Payment"),
    ("transitions", .arr [.obj [("goto", .str "(done)"), ("on", .str "pay")],
      .obj [("goto", .str "(cancelled)"), ("on", .str "cancel")]])])])]

theorem order_spelledOut : spelledOut orderDocument = spelledOrder := by
  decide +kernel

theorem order_accepted : (normalize orderDocument).toOption.isSome = true := by
  decide +kernel

/-- A document that is written out has the same scenario, and in it what a state says itself comes
before all that is shared. -/
theorem normalize_spelledOut (hordered : document.ordered = true)
    (h : normalize document = .ok s) :
    normalize (spelledOut document) = .ok s ∧
      ∀ key v, (document.field "states").field? key = some v → key ≠ "*" → ∃ state,
        s.states.get? key = some state ∧ state.KeepsOwn key (ownFields (listDirect v)) := by
  obtain ⟨doc, rfl, ⟨n⟩⟩ := normalize_eq_ok_iff.1 h
  obtain ⟨-, hfields⟩ := ordered_obj_iff.1 hordered
  unfold spelledOut
  dsimp only
  split
  · rename_i states hstates
    have hread := n.states_read
    rw [hstates] at hread
    have hthere := hfields _ (Assoc.mem_of_get? hstates)
    refine ⟨normalize_eq_ok_iff.2 ⟨_, rfl, ⟨n.spelledOut hthere hstates⟩⟩, ?_⟩
    intro key v hv hkey
    rw [Json.field, Json.field?, hstates] at hv
    obtain ⟨a, ha, hown⟩ := exists_hasOwn hthere hread hv hkey
    obtain ⟨state, before, between, hstate, ⟨t⟩, -⟩ := n.exists_settlement ha
    exact ⟨state, hstate, t.keepsOwn hown⟩
  · rename_i hnone
    refine ⟨h, ?_⟩
    intro key v hv
    rw [Json.field, Json.field?] at hv
    cases hget : Assoc.get? "states" doc with
    | none =>
      rw [hget] at hv
      cases hv
    | some w =>
      rw [hget] at hv
      cases w with
      | obj states => exact (hnone states hget).elim
      | null | bool _ | num _ | str _ | arr _ => cases hv

/-- Paying stays the first that can be done in an order, and its own title and text stay. -/
theorem order_keepsOwn : orderDocument.ordered = true ∧ ∃ s, normalize orderDocument = .ok s ∧
    normalize spelledOrder = .ok s ∧ ∃ state, s.states.get? "initial" = some state ∧
      state.title = .str "Payment" ∧ state.instructions.get? "client" = some (.str "Pay.") ∧
      ∃ t, state.transitions[0]? = some t ∧ t.goto = some "(done)" := by
  obtain ⟨s, hs⟩ := Option.isSome_iff_exists.1 order_accepted
  have h := toOption_eq_some_iff.1 hs
  have hordered : orderDocument.ordered = true := by decide +kernel
  obtain ⟨hsame, hown⟩ := normalize_spelledOut hordered h
  rw [order_spelledOut] at hsame
  obtain ⟨state, hstate, hkept⟩ := hown "initial" _ rfl (by decide)
  refine ⟨hordered, s, h, hsame, state, hstate, hkept.title _ rfl,
    hkept.instructions _ "client" _ rfl rfl, ?_⟩
  obtain ⟨d, t, hd, ht, hmade⟩ := hkept.transitions 0 _ rfl
  cases hd
  exact ⟨t, ht, hmade.goto⟩

end Caseflow.Scenario
