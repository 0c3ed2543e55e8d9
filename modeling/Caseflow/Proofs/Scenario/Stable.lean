import Caseflow.Proofs.Scenario.Legible
import Caseflow.Proofs.Scenario.Services
import Caseflow.Proofs.Schema.Actor

/-!
# Scenarios that normalizing again leaves alone

The written form of a scenario that a document is normalized to is always normalized to a scenario,
but not always to the same one. It is the same exactly if all its object schemas are closed, no
notice names a service with the word that marks services, and every service that can act in a state
has a notice there.
-/
namespace Caseflow.Scenario

open Json Schema.Shorthand

variable {s : Scenario} {document : Json} {doc : Fields} {key : String}
  {declared explicit : List String} {actions after : Dict Action} {state : State}

theorem Notice.again_eq_self_iff {n : Notice} : n.again = n ↔ serviceName? n.service = none := by
  have hservice : n.again = n ↔ Authored.serviceOf n.service = n.service := by
    constructor
    · exact fun h => congrArg Notice.service h
    · intro h
      rw [Notice.again, h]
  rw [hservice, Authored.serviceOf]
  cases hname : serviceName? n.service with
  | none => simp
  | some rest =>
    refine iff_of_false ?_ nofun
    intro heq
    have hlength := congrArg String.length (Text.after?_eq_some_iff.1 hname)
    rw [show rest = n.service from heq, String.length_append] at hlength
    exact absurd (Nat.right_eq_add.1 hlength) (by decide)

theorem impliedNotices_eq_nil_iff {ns : List Notice} {keys : ServiceKeys} :
    impliedNotices ns keys = [] ↔ ∀ name ∈ keys.map (·.1), ∃ n ∈ ns, n.service = name := by
  unfold impliedNotices
  simp

theorem map_append_eq_self_iff {α : Type} {f : α → α} {xs ys : List α} :
    xs.map f ++ ys = xs ↔ (∀ x ∈ xs, f x = x) ∧ ys = [] := by
  rw [← map_eq_self_iff]
  constructor
  · intro h
    have hlength := congrArg List.length h
    rw [List.length_append, List.length_map] at hlength
    have hys : ys = [] := List.length_eq_zero_iff.1 (Nat.add_eq_left.1 hlength)
    rw [hys, List.append_nil] at h
    exact ⟨h, hys⟩
  · rintro ⟨hxs, rfl⟩
    rw [List.append_nil, hxs]

/-- A state is normalized to itself exactly if its notices name services without the word that marks
them and no service is left to be notified. -/
theorem State.again_eq_self_iff :
    state.again key actions = state ↔ (∀ n ∈ state.notices, serviceName? n.service = none) ∧
      ∀ service ∈ state.services actions, ∃ n ∈ state.notices, n.service = service := by
  have hnotices : state.again key actions = state ↔
      (state.again key actions).notices = state.notices := by
    constructor
    · exact congrArg State.notices
    · intro h
      exact congrArg (fun notices => { state with notices }) h
  rw [hnotices]
  refine map_append_eq_self_iff.trans ?_
  have hnames : (∀ n ∈ state.notices, n.again = n) ↔
      ∀ n ∈ state.notices, serviceName? n.service = none :=
    forall₂_congr fun n _ => n.again_eq_self_iff
  rw [hnames]
  refine and_congr_right fun hplain => ?_
  have hsame : state.notices.map (·.again) = state.notices := map_eq_self_iff.2 (hnames.2 hplain)
  rw [hsame, impliedNotices_eq_nil_iff]
  exact forall_congr' fun name => imp_congr_left mem_serviceKeys

def IsExpansion (f : Json → Json) (v : Json) : Prop := ∃ w : Json, w.ordered = true ∧ v = f w

theorem expand_eq_self_iff {v : Json} (h : IsExpansion expand v) :
    expand v = v ↔ closed v = true := by
  obtain ⟨w, hw, rfl⟩ := h
  exact settles_expand w hw

theorem expandActor_eq_self_iff {v : Json} (h : IsExpansion expandActor v) :
    expandActor v = v ↔ closed v = true := by
  obtain ⟨w, hw, rfl⟩ := h
  exact expandActor_expandActor_iff w hw

theorem map_expand_eq_self_iff {d : Dict Json}
    (h : ∀ p ∈ d.entries, IsExpansion expand p.2) :
    d.map expand = d ↔ ∀ p ∈ d.entries, closed p.2 = true :=
  Dict.map_eq_self_iff.trans (forall₂_congr fun p hp => expand_eq_self_iff (h p hp))

theorem map_again_eq_self_iff {d : Dict Action}
    (h : ∀ p ∈ d.entries, IsExpansion expand p.2.response) :
    d.map Action.again = d ↔ ∀ p ∈ d.entries, closed p.2.response = true := by
  refine Dict.map_eq_self_iff.trans (forall₂_congr fun p hp => ?_)
  rw [← expand_eq_self_iff (h p hp)]
  constructor
  · exact congrArg Action.response
  · intro hresponse
    rw [Action.again, hresponse]

theorem isExpansion_getD {f : Json → Json} {v : Option Json}
    (h : ∀ w, v = some w → w.ordered = true) : IsExpansion f (f (v.getD .null)) := by
  cases v with
  | none => exact ⟨.null, rfl, rfl⟩
  | some w => exact ⟨w, h w rfl, rfl⟩

theorem isExpansion_map {f : Json → Json} {fields : Fields} (h : (obj fields).ordered = true) :
    ∀ p ∈ ((Dict.ofList fields).map f).entries, IsExpansion f p.2 := by
  intro p hp
  obtain ⟨q, hq, rfl⟩ := List.mem_map.1 hp
  have hmem := Dict.mem_of_get?_ofList (Dict.mem_entries_iff.1 hq)
  exact ⟨q.2, (ordered_obj_iff.1 h).2 _ hmem, rfl⟩

theorem ordered_of_fieldsOrEmpty {path : String} {v : Option Json} {fields : Fields}
    (hv : ∀ w, v = some w → w.ordered = true)
    (h : Authored.fieldsOrEmpty path v = .ok fields) : (obj fields).ordered = true := by
  unfold Authored.fieldsOrEmpty at h
  split at h
  · cases h
    rfl
  · cases h
    rfl
  · cases h
    exact hv _ rfl
  · cases h

theorem schemas_isExpansion {path : String} {v : Option Json} {d : Dict Json}
    (hv : ∀ w, v = some w → w.ordered = true) (h : Authored.schemas path v = .ok d) :
    ∀ p ∈ d.entries, IsExpansion expand p.2 := by
  obtain ⟨fields, hfields, heq⟩ := bind_eq_ok_iff.1 h
  cases heq
  exact isExpansion_map (ordered_of_fieldsOrEmpty hv hfields)

theorem actors_isExpansion {v : Option Json} {d : Dict Json}
    (hv : ∀ w, v = some w → w.ordered = true) (h : Authored.actors v = .ok d) :
    ∀ p ∈ d.entries, IsExpansion expandActor p.2 := by
  have hdefault : ∀ p ∈ (Dict.ofList [("actor", expandActor .null)]).entries,
      IsExpansion expandActor p.2 := by
    intro p hp
    obtain rfl := List.mem_singleton.1 hp
    exact ⟨.null, rfl, rfl⟩
  unfold Authored.actors at h
  split at h
  · cases h
    exact hdefault
  · cases h
    exact hdefault
  · cases h
    exact isExpansion_map (hv _ rfl)
  · cases h

theorem action_isExpansion {v : Json} {a : Action} (hv : v.ordered = true)
    (h : Authored.action key v = .ok a) : IsExpansion expand a.response := by
  obtain ⟨fields, hfields, h⟩ := bind_eq_ok_iff.1 h
  obtain ⟨title, -, h⟩ := bind_eq_ok_iff.1 h
  obtain ⟨description, -, h⟩ := bind_eq_ok_iff.1 h
  obtain ⟨actors, -, h⟩ := bind_eq_ok_iff.1 h
  obtain ⟨updates, -, heq⟩ := bind_eq_ok_iff.1 h
  cases heq
  have hordered : (obj fields).ordered = true := by
    apply ordered_of_fieldsOrEmpty _ hfields
    rintro w ⟨⟩
    exact hv
  exact isExpansion_getD fun w hw => (ordered_obj_iff.1 hordered).2 _ (Assoc.mem_of_get? hw)

theorem mem_of_entriesOf {α : Type} {read : String → Json → Result α} {fields : Fields}
    {entries : List (String × α)} (h : Authored.entriesOf read fields = .ok entries) :
    ∀ p ∈ entries, ∃ v, (p.1, v) ∈ fields ∧ read p.1 v = .ok p.2 := by
  induction fields generalizing entries with
  | nil =>
    cases h
    exact List.forall_mem_nil _
  | cons q rest ih =>
    obtain ⟨first, hfirst, h⟩ := bind_eq_ok_iff.1 h
    obtain ⟨others, hothers, heq⟩ := bind_eq_ok_iff.1 h
    cases heq
    refine List.forall_mem_cons.2 ⟨⟨q.2, List.mem_cons_self, hfirst⟩, ?_⟩
    intro p hp
    obtain ⟨v, hv, hread⟩ := ih hothers p hp
    exact ⟨v, List.mem_cons_of_mem _ hv, hread⟩

theorem actions_isExpansion {v : Option Json} {d : Dict Action}
    (hv : ∀ w, v = some w → w.ordered = true) (h : Authored.actions v = .ok d) :
    ∀ p ∈ d.entries, IsExpansion expand p.2.response := by
  obtain ⟨fields, hfields, h⟩ := bind_eq_ok_iff.1 h
  obtain ⟨entries, hentries, heq⟩ := bind_eq_ok_iff.1 h
  cases heq
  intro p hp
  have hmem := Dict.mem_of_get?_ofList (Dict.mem_entries_iff.1 hp)
  obtain ⟨w, hw, hread⟩ := mem_of_entriesOf hentries _ hmem
  have hordered := ordered_of_fieldsOrEmpty hv hfields
  exact action_isExpansion ((ordered_obj_iff.1 hordered).2 _ hw) hread

theorem addImplied_isExpansion {implied : Implied}
    (h : ∀ p ∈ actions.entries, IsExpansion expand p.2.response) :
    ∀ p ∈ (addImplied key implied actions).entries, IsExpansion expand p.2.response := by
  have step (entries : List (String × List String)) (d : Dict Action)
      (h : ∀ p ∈ d.entries, IsExpansion expand p.2.response) :
      ∀ p ∈ (entries.foldl (fun acc p => acc.insert p.1 (impliedAction key p.1 p.2)) d).entries,
        IsExpansion expand p.2.response := by
    induction entries generalizing d with
    | nil => exact h
    | cons q rest ih =>
      apply ih
      intro p hp
      obtain rfl | hold := Assoc.mem_insert hp
      · exact ⟨.null, rfl, rfl⟩
      · exact h p hold
  exact step implied.entries actions h

theorem normalizeStates_isExpansion {authored : List (String × AuthoredState)}
    {settled : List (String × State)}
    (h : normalizeStates declared explicit actions authored = .ok (settled, after))
    (hactions : ∀ p ∈ actions.entries, IsExpansion expand p.2.response) :
    ∀ p ∈ after.entries, IsExpansion expand p.2.response := by
  induction authored generalizing actions settled with
  | nil =>
    cases h
    exact hactions
  | cons a rest ih =>
    obtain ⟨⟨state, more⟩, hstate, h⟩ := bind_eq_ok_iff.1 h
    obtain ⟨⟨others, all⟩, hothers, h⟩ := bind_eq_ok_iff.1 h
    cases h
    obtain ⟨t⟩ := normalizeState_eq_ok_iff.1 hstate
    apply ih hothers
    rw [t.after_eq]
    exact addImplied_isExpansion hactions

/-- What a scenario has to say for itself if normalizing it again is to change nothing. -/
structure Stable (s : Scenario) : Prop where
  actors : ∀ p ∈ s.actors.entries, closed p.2 = true
  responses : ∀ p ∈ s.actions.entries, closed p.2.response = true
  vars : ∀ p ∈ s.vars.entries, closed p.2 = true
  definitions : ∀ p ∈ s.definitions.entries, closed p.2 = true
  result : closed s.result = true
  plain : ∀ p ∈ s.states.entries, ∀ n ∈ p.2.notices, serviceName? n.service = none
  notified : ∀ p ∈ s.states.entries, ∀ service ∈ p.2.services s.actions,
    ∃ n ∈ p.2.notices, n.service = service

instance (s : Scenario) : Decidable s.Stable :=
  decidable_of_iff
    ((∀ p ∈ s.actors.entries, closed p.2 = true) ∧
      (∀ p ∈ s.actions.entries, closed p.2.response = true) ∧
      (∀ p ∈ s.vars.entries, closed p.2 = true) ∧
      (∀ p ∈ s.definitions.entries, closed p.2 = true) ∧ closed s.result = true ∧
      (∀ p ∈ s.states.entries, ∀ n ∈ p.2.notices, serviceName? n.service = none) ∧
      ∀ p ∈ s.states.entries, ∀ service ∈ p.2.services s.actions,
        ∃ n ∈ p.2.notices, n.service = service)
    ⟨fun ⟨ha, hb, hc, hd, he, hf, hg⟩ => ⟨ha, hb, hc, hd, he, hf, hg⟩,
      fun ⟨ha, hb, hc, hd, he, hf, hg⟩ => ⟨ha, hb, hc, hd, he, hf, hg⟩⟩

theorem again_eq_self_iff_parts : s.again = s ↔
    s.actors.map expandActor = s.actors ∧ s.actions.map Action.again = s.actions ∧
      s.vars.map expand = s.vars ∧ s.definitions.map expand = s.definitions ∧
      expand s.result = s.result ∧
      s.states.mapWithKey (fun key state => state.again key s.actions) = s.states := by
  constructor
  · intro h
    exact ⟨congrArg Scenario.actors h, congrArg Scenario.actions h, congrArg Scenario.vars h,
      congrArg Scenario.definitions h, congrArg Scenario.result h, congrArg Scenario.states h⟩
  · rintro ⟨hactors, hactions, hvars, hdefinitions, hresult, hstates⟩
    rw [again, hactors, hactions, hvars, hdefinitions, hresult, hstates]

theorem Normalization.again_eq_self_iff (n : Normalization doc s)
    (ho : (obj doc).ordered = true) : s.again = s ↔ s.Stable := by
  have hfield (name : String) (w : Json) (hw : Assoc.get? name doc = some w) : w.ordered = true :=
    (ordered_obj_iff.1 ho).2 _ (Assoc.mem_of_get? hw)
  have hresult : IsExpansion expand s.result := by
    rw [n.result_eq]
    exact isExpansion_getD (hfield "result")
  have hresponses := normalizeStates_isExpansion n.states_settled
    (actions_isExpansion (hfield "actions") n.actions_read)
  rw [again_eq_self_iff_parts, map_again_eq_self_iff hresponses, expand_eq_self_iff hresult,
    map_expand_eq_self_iff (schemas_isExpansion (hfield "vars") n.vars_read),
    map_expand_eq_self_iff (schemas_isExpansion (hfield "$defs") n.definitions_read),
    Dict.mapWithKey_eq_self_iff,
    Dict.map_eq_self_iff.trans (forall₂_congr fun p hp =>
      expandActor_eq_self_iff (actors_isExpansion (hfield "actors") n.actors_read p hp)),
    forall₂_congr fun (p : String × State) (_ : p ∈ s.states.entries) =>
      p.2.again_eq_self_iff]
  constructor
  · rintro ⟨hactors, hactions, hvars, hdefinitions, hclosed, hstates⟩
    exact ⟨hactors, hactions, hvars, hdefinitions, hclosed, fun p hp => (hstates p hp).1,
      fun p hp => (hstates p hp).2⟩
  · intro h
    exact ⟨h.actors, h.responses, h.vars, h.definitions, h.result, fun p hp =>
      ⟨h.plain p hp, h.notified p hp⟩⟩

/-- The written form of a result is normalized again, to the same scenario exactly if that is
stable. Every document that is read from a text is ordered. -/
theorem normalize_normalized (ho : document.ordered = true) (h : normalize document = .ok s) :
    normalize s.encode = .ok s.again ∧ (s.again = s ↔ s.Stable) := by
  refine ⟨normalize_encode (legible_of_normalize h), ?_⟩
  obtain ⟨doc, rfl, ⟨n⟩⟩ := normalize_eq_ok_iff.1 h
  exact n.again_eq_self_iff ho

/-- A manager or a service approves within a day; the request can be withdrawn in every state. -/
def approvalDocument : Json := .obj [
  ("actions", .obj [("approve", .obj [
    ("actor", .arr [.str "manager", .str "service:registry"]),
    ("response", .obj [("properties", .obj [("grade", .str "integer")]), ("type", .str "object")]),
    ("update", .str "grade")])]),
  ("actors", .obj [("client", .null), ("manager", .null)]),
  ("states", .obj [
    ("*", .obj [("goto", .str "(withdrawn)"), ("on", .str "withdraw")]),
    ("initial", .obj [("transitions", .arr [
      .obj [("goto", .str "(approved)"), ("on", .str "approve")],
      .obj [("after", .str "1 day"), ("goto", .str "(late)")]])])]),
  ("vars", .obj [("grade", .str "integer")])]

theorem approval_stable :
    ((normalize approvalDocument).toOption.map fun s => decide s.Stable) = some true := by
  decide +kernel

/-- The scenario of the approval is normalized to itself. -/
theorem approval_normalized :
    ∃ s, normalize approvalDocument = .ok s ∧ normalize s.encode = .ok s := by
  obtain ⟨s, hs, hstable⟩ := Option.map_eq_some_iff.1 approval_stable
  rw [toOption_eq_some_iff] at hs
  obtain ⟨hagain, hsame⟩ := normalize_normalized (by decide) hs
  rw [hsame.2 (of_decide_eq_true hstable)] at hagain
  exact ⟨s, hs, hagain⟩

def normalizesAgain? (document : Json) : Option Bool := do
  let s ← (normalize document).toOption
  let t ← (normalize s.encode).toOption
  return decide (t = s)

theorem ne_of_normalizesAgain? (h : normalizesAgain? document = some false) :
    ∃ s, normalize document = .ok s ∧ normalize s.encode ≠ .ok s := by
  obtain ⟨s, hs, h⟩ := Option.bind_eq_some_iff.1 h
  obtain ⟨t, ht, h⟩ := Option.bind_eq_some_iff.1 h
  rw [toOption_eq_some_iff] at hs ht
  refine ⟨s, hs, ?_⟩
  intro hsame
  cases ht.symm.trans hsame
  simp at h

/-- A variable is declared by the name of a type alone. -/
def recordDocument : Json := .obj [
  ("states", .obj [("initial", .obj [("goto", .str "(done)"), ("on", .str "complete")])]),
  ("vars", .obj [("data", .str "object")])]

/-- The schema that the name of a type stands for is open at first and closed the second time. -/
theorem record_changed :
    recordDocument.ordered = true ∧
      ∃ s, normalize recordDocument = .ok s ∧ normalize s.encode ≠ .ok s :=
  ⟨by decide, ne_of_normalizesAgain? (by decide +kernel)⟩

/-- A service that is marked twice loses one mark each time. -/
example : normalizesAgain? (.obj [("states", .obj [("initial", .obj [
    ("goto", .str "(done)"), ("notify", .str "service:service:mailer"),
    ("on", .str "complete")])])]) = some false := by
  decide +kernel

/-- Two states imply one action for different actors, and only the later one notifies its own. -/
example : normalizesAgain? (.obj [("states", .obj [
    ("a", .obj [("goto", .str "(done)"), ("on", .str "b.c")]),
    ("a.b", .obj [("by", .str "service:mailer"), ("goto", .str "(done)"), ("on", .str "c")]),
    ("initial", .obj [("goto", .str "a"), ("on", .str "go")])])]) = some false := by
  decide +kernel

end Caseflow.Scenario
