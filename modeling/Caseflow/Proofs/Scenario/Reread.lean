import Caseflow.Proofs.Json.Record
import Caseflow.Proofs.Scenario.Linked

/-!
# Scenarios read as authored documents

The written form of a scenario is an authored document as well. Each part of it is read as the part
itself, except that schemas are expanded once more, that services lose the word that marks them, and
that services which are not notified are.
-/
namespace Caseflow.Scenario

open Json

variable {α β : Type} {s : Scenario} {key path : String} {declared explicit : List String}
  {actions : Dict Action} {implied : Implied} {state : State}

theorem fieldsOrEmpty_ofDict (path : String) (d : Dict Json) :
    Authored.fieldsOrEmpty path (some (ofDict id d)) = .ok d.entries := by
  rw [ofDict_id, Authored.fieldsOrEmpty]

theorem textItems_map_str (path : String) (ss : List String) :
    Authored.textItems path (ss.map .str) = .ok ss := by
  induction ss with
  | nil => rfl
  | cons s rest ih =>
    rw [List.map_cons, Authored.textItems, ih]
    rfl

theorem textList?_ofStrings (path : String) (ss : List String) :
    Authored.textList? path (some (ofStrings ss)) = .ok (some ss) := by
  rw [ofStrings, Authored.textList?, textItems_map_str]
  rfl

theorem update_encode (name : String) (u : Update) : Authored.update name u.encode = .ok u := by
  obtain ⟨target, value, stub, mode, guard⟩ := u
  cases mode <;> cases stub <;> rfl

theorem updateItems_encode (name : String) (us : List Update) :
    Authored.updateItems name (us.map (·.encode)) = .ok us := by
  induction us with
  | nil => rfl
  | cons u rest ih =>
    rw [List.map_cons, Authored.updateItems, update_encode, ih]
    rfl

def Action.again (a : Action) : Action := { a with response := Schema.Shorthand.expand a.response }

theorem action_encode (key : String) (a : Action) : Authored.action key a.encode = .ok a.again := by
  have hactors := textList?_ofStrings ("actions." ++ key ++ ".actor") a.actors
  have hupdates := updateItems_encode key a.updates
  refine bind_eq_ok_iff.2 ⟨_, rfl, bind_eq_ok_iff.2 ⟨_, rfl, bind_eq_ok_iff.2 ⟨_, rfl, ?_⟩⟩⟩
  exact bind_eq_ok_iff.2 ⟨_, hactors, bind_eq_ok_iff.2 ⟨_, hupdates, rfl⟩⟩

theorem entriesOf_ofDict {read : String → Json → Result β} {encode : α → Json}
    {after : String → α → β} (h : ∀ key a, read key (encode a) = .ok (after key a)) (d : Dict α) :
    Authored.entriesOf read (d.entries.map fun p => (p.1, encode p.2)) =
      .ok (d.mapWithKey after).entries := by
  have step (entries : List (String × α)) :
      Authored.entriesOf read (entries.map fun p => (p.1, encode p.2)) =
        .ok (entries.map fun p => (p.1, after p.1 p.2)) := by
    induction entries with
    | nil => rfl
    | cons p rest ih =>
      rw [List.map_cons, Authored.entriesOf, h, ih]
      rfl
  exact step d.entries

theorem actions_encode (d : Dict Action) :
    Authored.actions (some (ofDict Action.encode d)) = .ok (d.map Action.again) := by
  refine bind_eq_ok_iff.2 ⟨_, rfl, bind_eq_ok_iff.2 ⟨_, entriesOf_ofDict action_encode d, ?_⟩⟩
  rw [pure_eq_ok_iff]
  exact Dict.ofList_entries (d.map Action.again)

def Transition.draft : Transition → Draft
  | .action t => ⟨.on t.action t.actors, t.goto, t.guard, some t.log.encode⟩
  | .timeout t => ⟨.after t.after, t.goto, t.guard, some t.log.encode⟩

theorem readGoto_ofOption (path : String) (goto : Option String) (fields : Fields)
    (h : Assoc.get? "goto" fields = some (ofOption .str goto)) :
    Draft.readGoto path (Authored.present? "goto" fields) = .ok goto := by
  unfold Authored.present?
  rw [h]
  cases goto <;> rfl

theorem read_action_encode (key : String) (index : Nat) (t : ActionTransition) :
    Draft.read key index t.encode = .ok (Transition.action t).draft := by
  obtain ⟨action, actors, goto, guard, log⟩ := t
  cases actors with
  | none =>
    refine bind_eq_ok_iff.2 ⟨_, readGoto_ofOption _ goto _ rfl, ?_⟩
    exact bind_eq_ok_iff.2 ⟨.on action none, rfl, rfl⟩
  | some names =>
    refine bind_eq_ok_iff.2 ⟨_, readGoto_ofOption _ goto _ rfl, ?_⟩
    refine bind_eq_ok_iff.2 ⟨.on action (some names), ?_, rfl⟩
    exact bind_eq_ok_iff.2 ⟨_, textList?_ofStrings _ names, rfl⟩

theorem toUnsigned?_int {n : Nat} (h : n ≤ Number.maxUnsigned) :
    (Number.int n).toUnsigned? = some n := by
  rw [Number.toUnsigned?, if_pos ⟨Int.natCast_nonneg n, Int.ofNat_le.2 h⟩, Int.toNat_natCast]

theorem read_timeout_encode (key : String) (index : Nat) {t : TimeoutTransition}
    (h : t.after ≤ Number.maxUnsigned) :
    Draft.read key index t.encode = .ok (Transition.timeout t).draft := by
  have hperiod : Period.ofJson (.ofNat t.after) = .ok t.after := by
    rw [Json.ofNat, Period.ofJson, toUnsigned?_int h]
    rfl
  refine bind_eq_ok_iff.2 ⟨_, readGoto_ofOption _ t.goto _ rfl, ?_⟩
  refine bind_eq_ok_iff.2 ⟨.after t.after, ?_, rfl⟩
  have hread (fields : Fields) (hon : Assoc.get? "on" fields = none)
      (hafter : Assoc.get? "after" fields = some (.ofNat t.after)) (path : String) :
      Draft.readTrigger key index path fields = .ok (.after t.after) := by
    simp only [Draft.readTrigger, hon, hafter, hperiod]
    rfl
  exact hread _ rfl rfl _

theorem log_encode (default log : LogRule) : Authored.log default (some log.encode) = .ok log := rfl

theorem finish_draft (actions : Dict Action) (t : Transition) : t.draft.finish actions = .ok t := by
  cases t with
  | action t => exact bind_eq_ok_iff.2 ⟨_, log_encode _ t.log, rfl⟩
  | timeout t => exact bind_eq_ok_iff.2 ⟨_, log_encode _ t.log, rfl⟩

theorem finishAll_draft (actions : Dict Action) (ts : List Transition) :
    finishAll actions (ts.map (·.draft)) = .ok ts := by
  induction ts with
  | nil => rfl
  | cons t rest ih =>
    rw [List.map_cons, finishAll, finish_draft, ih]
    rfl

/-- What keeps the written form of a state an authored one: an end state has no transitions, actions
are there, periods fit, and a message is more than `null`. -/
structure State.Legible (key : String) (actions : Dict Action) (state : State) : Prop where
  ending : isEndState key = true → state.transitions = []
  action : ∀ t ∈ state.actionTransitions, actions.contains t.action = true
  after : ∀ t ∈ state.timeoutTransitions, t.after ≤ Number.maxUnsigned
  message : ∀ n ∈ state.notices, n.message ≠ some .null

def State.authored (s : State) : AuthoredState where
  fields := [("description", s.description), ("instructions", ofDict id s.instructions),
    ("notify", .arr (s.notices.map (·.encode))), ("title", s.title)]
  transitions := s.transitions.map (·.encode)

theorem read_encode (key : String) (s : State) : AuthoredState.read key s.encode = .ok s.authored :=
  rfl

theorem settleAll_encode {ts : List Transition} (index : Nat)
    (haction : ∀ t, .action t ∈ ts → actions.contains t.action = true)
    (hafter : ∀ t, .timeout t ∈ ts → t.after ≤ Number.maxUnsigned) :
    settleAll key declared explicit actions index implied (ts.map (·.encode)) =
      .ok (ts.map (·.draft), implied) := by
  induction ts generalizing index with
  | nil => rfl
  | cons t rest ih =>
    have hrest := ih (index + 1) (fun u hu => haction u (List.mem_cons_of_mem _ hu))
      (fun u hu => hafter u (List.mem_cons_of_mem _ hu))
    have hread : Draft.read key index t.encode = .ok t.draft := by
      cases t with
      | action t => exact read_action_encode key index t
      | timeout t => exact read_timeout_encode key index (hafter t List.mem_cons_self)
    have hsettle : settle key declared explicit actions implied t.draft =
        .ok (t.draft, implied) := by
      cases t with
      | action t => exact if_pos (haction t List.mem_cons_self)
      | timeout t => rfl
    refine bind_eq_ok_iff.2 ⟨_, hread, bind_eq_ok_iff.2 ⟨_, hsettle, ?_⟩⟩
    exact bind_eq_ok_iff.2 ⟨_, hrest, rfl⟩

def Notice.again (n : Notice) : Notice := { n with service := Authored.serviceOf n.service }

theorem notice_encode {n : Notice} (h : n.message ≠ some .null) :
    Authored.notice path n.encode = .ok n.again := by
  obtain ⟨service, trigger, guard, message⟩ := n
  cases message with
  | none => cases trigger <;> rfl
  | some v =>
    cases v with
    | null => exact absurd rfl h
    | bool _ | num _ | str _ | arr _ | obj _ => cases trigger <;> rfl

theorem noticeItems_encode {ns : List Notice} (h : ∀ n ∈ ns, n.message ≠ some .null) :
    Authored.noticeItems path (ns.map (·.encode)) = .ok (ns.map (·.again)) := by
  induction ns with
  | nil => rfl
  | cons n rest ih =>
    obtain ⟨hn, hrest⟩ := List.forall_mem_cons.1 h
    rw [List.map_cons, Authored.noticeItems, notice_encode hn, ih hrest]
    rfl

def State.again (key : String) (actions : Dict Action) (s : State) : State :=
  let notices := s.notices.map (·.again)
  { s with
    notices := notices ++ impliedNotices notices (serviceKeys key actions s.actionTransitions) }

theorem normalizeState_authored (h : state.Legible key actions) :
    normalizeState key declared explicit actions state.authored =
      .ok (state.again key actions, actions) := by
  have haction (t : ActionTransition) (ht : .action t ∈ state.transitions) :
      actions.contains t.action = true := h.action t (mem_actionTransitions.2 ht)
  have hafter (t : TimeoutTransition) (ht : .timeout t ∈ state.transitions) :
      t.after ≤ Number.maxUnsigned := h.after t (mem_timeoutTransitions.2 ht)
  have hnotices : Authored.notices key (some (.arr (state.notices.map (·.encode)))) =
      .ok (state.notices.map (·.again)) := noticeItems_encode h.message
  refine normalizeState_eq_ok_iff.2 ⟨{
    drafts := state.transitions.map Transition.draft
    implied := .empty
    instructions := state.instructions.entries
    notices := state.notices.map Notice.again
    drafted := settleAll_encode 0 haction hafter
    after_eq := rfl
    finished := finishAll_draft actions state.transitions
    notices_read := hnotices
    instructions_read := fieldsOrEmpty_ofDict _ state.instructions
    ending := fun hend => congrArg (List.map Transition.encode) (h.ending hend)
    title_eq := rfl
    description_eq := rfl
    instructions_eq := (Dict.ofList_entries state.instructions).symm
    notices_eq := rfl }⟩

theorem normalizeStates_authored {entries : List (String × State)}
    (h : ∀ p ∈ entries, p.2.Legible p.1 actions) :
    normalizeStates declared explicit actions (entries.map fun p => (p.1, p.2.authored)) =
      .ok (entries.map fun p => (p.1, p.2.again p.1 actions), actions) := by
  induction entries with
  | nil => rfl
  | cons p rest ih =>
    obtain ⟨hp, hrest⟩ := List.forall_mem_cons.1 h
    refine bind_eq_ok_iff.2 ⟨_, normalizeState_authored hp, ?_⟩
    exact bind_eq_ok_iff.2 ⟨_, ih hrest, rfl⟩

theorem readAll_encode {states : Dict State}
    (h : states.contains AuthoredState.wildcardKey = false) :
    AuthoredState.readAll (some (ofDict State.encode states)) = .ok (states.map (·.authored)) := by
  refine bind_eq_ok_iff.2 ⟨_, rfl, bind_eq_ok_iff.2 ⟨_, entriesOf_ofDict read_encode states, ?_⟩⟩
  have hentries : Dict.ofList (states.map (·.authored)).entries = states.map (·.authored) :=
    Dict.ofList_entries _
  rw [pure_eq_ok_iff]
  refine (congrArg AuthoredState.spread hentries).trans (spread_of_not_contains ?_)
  exact (Dict.contains_mapWithKey _ _ _).trans h

theorem addEndStates_of_contains {states : Dict State} {pairs : List (String × String)}
    (h : ∀ p ∈ pairs, states.contains p.2 = true) : addEndStates states pairs = .ok states := by
  induction pairs with
  | nil => rfl
  | cons p rest ih =>
    obtain ⟨hp, hrest⟩ := List.forall_mem_cons.1 h
    rw [addEndStates, if_pos hp, ih hrest]

/-- What keeps the written form of a scenario an authored document. -/
structure Legible (s : Scenario) : Prop where
  format : s.format = formatUri
  linked : s.Linked
  state : ∀ key state, s.states.get? key = some state → state.Legible key s.actions

theorem again_actions (key : String) (actions : Dict Action) (s : State) :
    s.again key (actions.map Action.again) = s.again key actions := by
  have hkeys (ts : List ActionTransition) :
      serviceKeys key (actions.map Action.again) ts = serviceKeys key actions ts := by
    unfold serviceKeys
    congr 1
    funext acc t
    rw [Dict.get?_map]
    cases actions.get? t.action <;> rfl
  rw [State.again, hkeys, State.again]

theorem State.Legible.again (h : state.Legible key actions) :
    state.Legible key (actions.map Action.again) where
  ending := h.ending
  action t ht := (Dict.contains_mapWithKey _ actions t.action).trans (h.action t ht)
  after := h.after
  message := h.message

/-- The scenario that the written form of a scenario is normalized to. -/
def again (s : Scenario) : Scenario :=
  { s with
    actors := s.actors.map Schema.Shorthand.expandActor
    actions := s.actions.map (·.again)
    states := s.states.mapWithKey fun key state => state.again key s.actions
    vars := s.vars.map Schema.Shorthand.expand
    result := Schema.Shorthand.expand s.result
    definitions := s.definitions.map Schema.Shorthand.expand }

theorem schemas_encode (path : String) (d : Dict Json) :
    Authored.schemas path (some (ofDict id d)) = .ok (d.map Schema.Shorthand.expand) := by
  refine bind_eq_ok_iff.2 ⟨_, fieldsOrEmpty_ofDict path d, ?_⟩
  rw [Dict.ofList_entries, pure_eq_ok_iff]

theorem actors_encode (d : Dict Json) :
    Authored.actors (some (ofDict id d)) = .ok (d.map Schema.Shorthand.expandActor) := by
  rw [ofDict_id, Authored.actors, Dict.ofList_entries]

theorem definitions_encode (d : Dict Json) {fields : Fields}
    (h : Assoc.get? "$defs" fields = none) :
    Authored.schemas "$defs"
      (Assoc.get? "$defs" (fieldIf (!d.isEmpty) "$defs" (ofDict id d) ++ fields)) =
        .ok (d.map Schema.Shorthand.expand) := by
  cases hempty : d.isEmpty with
  | false => exact schemas_encode "$defs" d
  | true =>
    have hd : d = .empty := Dict.ext_entries (List.isEmpty_iff.1 hempty)
    have hnone : Assoc.get? "$defs" (fieldIf (!true) "$defs" (ofDict id d) ++ fields) = none := h
    rw [hnone, hd]
    rfl

theorem get?_fieldIf {c : Bool} {name other : String} {v : Json} {fields : Fields}
    (h : name ≠ other) :
    Assoc.get? other (fieldIf c name v ++ fields) = Assoc.get? other fields := by
  cases c with
  | false => rfl
  | true => exact if_neg h

theorem present?_fieldIf {c : Bool} {name other : String} {v : Json} {fields : Fields}
    (h : name ≠ other) :
    Authored.present? other (fieldIf c name v ++ fields) = Authored.present? other fields := by
  rw [Authored.present?, get?_fieldIf h, Authored.present?]

theorem textOr_fieldIf {c : Bool} {name other : String} {v : Json} {fields : Fields}
    (h : name ≠ other) (default : String) :
    Authored.textOr other default (fieldIf c name v ++ fields) =
      Authored.textOr other default fields := by
  rw [Authored.textOr, present?_fieldIf h, Authored.textOr]

theorem format_encode (h : s.format = formatUri) :
    Authored.format (some (.str s.format)) = .ok s.format := by
  rw [Authored.format, if_pos (.inl h), h]

theorem settled_again (h : s.Legible) (declared explicit : List String) :
    normalizeStates declared explicit s.again.actions (s.states.map State.authored).entries =
      .ok (s.again.states.entries, s.again.actions) := by
  have hentries (p : String × State) (hp : p ∈ s.states.entries) :
      p.2.Legible p.1 s.again.actions := (h.state p.1 p.2 (Dict.mem_entries_iff.1 hp)).again
  have hstates : s.again.states = s.states.mapWithKey fun key state =>
      state.again key s.again.actions :=
    congrArg s.states.mapWithKey (funext fun key => funext fun state =>
      (again_actions key s.actions state).symm)
  rw [hstates]
  exact normalizeStates_authored hentries

theorem ended_again (h : s.Linked) :
    addEndStates (Dict.ofList s.again.states.entries)
      (targets (Dict.ofList s.again.states.entries)) = .ok s.again.states := by
  rw [Dict.ofList_entries]
  apply addEndStates_of_contains
  intro p hp
  obtain ⟨state, hstate, t, ht, hgoto⟩ := exists_of_mem_targets hp
  rw [again, Dict.get?_mapWithKey, Option.map_eq_some_iff] at hstate
  obtain ⟨before, hbefore, rfl⟩ := hstate
  exact (Dict.contains_mapWithKey _ s.states p.2).trans (h.goto p.1 before hbefore t ht p.2 hgoto)

/-- The written form of a scenario is an authored document. -/
theorem normalize_encode (h : s.Legible) : normalize s.encode = .ok s.again := by
  refine normalize_eq_ok_iff.2 ⟨_, rfl, ⟨{
    tags := some s.tags
    declared := s.again.actions
    authored := s.states.map State.authored
    settled := s.again.states.entries
    format_read := ?format
    title_read := textOr_fieldIf (by decide) ""
    description_read := textOr_fieldIf (by decide) ""
    tags_read := ?tags
    tags_eq := rfl
    actors_read := ?actors
    actions_read := ?actions
    states_read := ?states
    states_settled := settled_again h _ _
    states_ended := ended_again h.linked
    initial := (Dict.contains_mapWithKey _ s.states initialKey).trans h.linked.initial
    vars_read := ?vars
    definitions_read := definitions_encode s.definitions rfl
    result_eq := ?result }⟩⟩
  case format =>
    rw [get?_fieldIf (by decide)]
    exact format_encode h.format
  case tags =>
    rw [present?_fieldIf (by decide)]
    exact textList?_ofStrings "tags" s.tags
  case actors =>
    rw [get?_fieldIf (by decide)]
    exact actors_encode s.actors
  case actions =>
    rw [get?_fieldIf (by decide)]
    exact actions_encode s.actions
  case states =>
    rw [get?_fieldIf (by decide)]
    exact readAll_encode h.linked.unshared
  case vars =>
    rw [get?_fieldIf (by decide)]
    exact schemas_encode "vars" s.vars
  case result =>
    rw [get?_fieldIf (by decide)]
    rfl

end Caseflow.Scenario
