import Caseflow.Proofs.Scenario.Legible

/-!
# Scenarios that are stored

A stored case holds the written form of its scenario, which is then read as what it is and not
normalized again. Whatever a document is normalized to is read as itself, up to the stubs of its
updates: a stub of `null` stands in for the value of an update as long as the scenario is kept, and
is read as no stub.
-/
namespace Caseflow.Scenario

open Json

variable {α : Type} {s : Scenario} {document : Json} {state : State}

def Update.stored (u : Update) : Update :=
  if u.stub = some .null then { u with stub := none } else u

theorem Update.stored_eq_self_iff {u : Update} : u.stored = u ↔ u.stub ≠ some .null := by
  unfold Update.stored
  split
  · rename_i hnull
    refine iff_of_false ?_ (not_not_intro hnull)
    intro h
    cases (congrArg Update.stub h).trans hnull
  · rename_i hstub
    exact iff_of_true rfl hstub

theorem Update.decode?_encode (u : Update) : decode? u.encode = some u.stored := by
  obtain ⟨target, value, stub, mode, guard⟩ := u
  cases stub with
  | none => cases mode <;> rfl
  | some v =>
    cases v with
    | null => cases mode <;> rfl
    | bool _ | num _ | str _ | arr _ | obj _ => cases mode <;> rfl

def Action.stored (a : Action) : Action := { a with updates := a.updates.map (·.stored) }

theorem Action.stored_eq_self_iff {a : Action} :
    a.stored = a ↔ ∀ u ∈ a.updates, u.stub ≠ some .null := by
  have hupdates : a.stored = a ↔ a.updates.map (·.stored) = a.updates := by
    constructor
    · exact congrArg Action.updates
    · intro h
      rw [Action.stored, h]
  rw [hupdates, map_eq_self_iff]
  exact forall₂_congr fun _ _ => Update.stored_eq_self_iff

theorem Action.decode?_encode (a : Action) : decode? a.encode = some a.stored := by
  have hactors : required? strings? "actor" a.encode = some a.actors := strings?_ofStrings a.actors
  have hupdates : required? (listOf? Update.decode?) "update" a.encode =
      some (a.updates.map (·.stored)) := listOf?_map fun u _ => u.decode?_encode
  rw [decode?, hactors, hupdates]
  rfl

theorem ActionTransition.decode?_encode (t : ActionTransition) : decode? t.encode = some t := by
  obtain ⟨action, actors, goto, guard, log⟩ := t
  cases actors with
  | none => cases goto <;> rfl
  | some names =>
    have hactors : optional? strings? "by" (encode ⟨action, some names, goto, guard, log⟩) =
        some (some names) := congrArg (Option.map some) (strings?_ofStrings names)
    rw [decode?, hactors]
    cases goto <;> rfl

theorem TimeoutTransition.decode?_encode {t : TimeoutTransition}
    (h : t.after ≤ Number.maxUnsigned) : decode? t.encode = some t := by
  have hafter : required? unsigned? "after" t.encode = some t.after := toUnsigned?_int h
  rw [decode?, hafter]
  obtain ⟨after, goto, guard, log⟩ := t
  cases goto <;> rfl

/-- A transition that time takes is not read as one that an action takes, as it has no action. -/
theorem Transition.decode?_encode {t : Transition}
    (h : ∀ u, t = .timeout u → u.after ≤ Number.maxUnsigned) : decode? t.encode = some t := by
  cases t with
  | action t =>
    rw [decode?, encode, t.decode?_encode]
    rfl
  | timeout t =>
    have hnone : ActionTransition.decode? t.encode = none := rfl
    rw [decode?, encode, hnone, TimeoutTransition.decode?_encode (h t rfl)]
    rfl

def Notice.stored (n : Notice) : Notice := { n with message := n.message.filter (!·.isNull) }

theorem Notice.stored_eq_self_iff {n : Notice} : n.stored = n ↔ n.message ≠ some .null := by
  rw [← filter_isNull_eq_self_iff]
  constructor
  · exact congrArg Notice.message
  · intro h
    rw [Notice.stored, h]

theorem Notice.decode?_encode (n : Notice) : decode? n.encode = some n.stored := by
  obtain ⟨service, trigger, guard, message⟩ := n
  cases message with
  | none => cases trigger <;> rfl
  | some v => cases v <;> cases trigger <;> rfl

def State.stored (s : State) : State := { s with notices := s.notices.map (·.stored) }

theorem State.stored_eq_self_iff :
    state.stored = state ↔ ∀ n ∈ state.notices, n.message ≠ some .null := by
  have hnotices : state.stored = state ↔ state.notices.map (·.stored) = state.notices := by
    constructor
    · exact congrArg State.notices
    · intro h
      rw [State.stored, h]
  rw [hnotices, map_eq_self_iff]
  exact forall₂_congr fun _ _ => Notice.stored_eq_self_iff

theorem State.decode?_encode (h : ∀ t ∈ state.timeoutTransitions, t.after ≤ Number.maxUnsigned) :
    decode? state.encode = some state.stored := by
  have hinstructions : required? (dictOf? some) "instructions" state.encode =
      some state.instructions := dictOf?_ofDict_id state.instructions
  have hnotices : required? (listOf? Notice.decode?) "notify" state.encode =
      some (state.notices.map (·.stored)) := listOf?_map fun n _ => n.decode?_encode
  have htransitions : required? (listOf? Transition.decode?) "transitions" state.encode =
      some state.transitions := by
    refine listOf?_map_self fun t ht => Transition.decode?_encode ?_
    rintro u rfl
    exact h u (mem_timeoutTransitions.2 ht)
  rw [decode?, hinstructions, hnotices, htransitions]
  rfl

/-- The scenario that the written form of a scenario is read as. -/
def stored (s : Scenario) : Scenario := { s with actions := s.actions.map (·.stored) }

/-- A scenario without a stub of `null`. -/
def Storable (s : Scenario) : Prop :=
  ∀ p ∈ s.actions.entries, ∀ u ∈ p.2.updates, u.stub ≠ some .null

instance (s : Scenario) : Decidable s.Storable :=
  inferInstanceAs (Decidable (∀ p ∈ s.actions.entries, ∀ u ∈ p.2.updates, u.stub ≠ some .null))

theorem stored_eq_self_iff : s.stored = s ↔ s.Storable := by
  have hactions : s.stored = s ↔ s.actions.map (·.stored) = s.actions := by
    constructor
    · exact congrArg Scenario.actions
    · intro h
      rw [stored, h]
  rw [hactions, Dict.map_eq_self_iff]
  exact forall₂_congr fun _ _ => Action.stored_eq_self_iff

theorem required?_encode {decode : Json → Option α} {name : String} (h : "$defs" ≠ name) :
    required? decode name s.encode = required? decode name (.obj
      [("$schema", .str s.format), ("actions", ofDict Action.encode s.actions),
        ("actors", ofDict id s.actors), ("description", .str s.description), ("result", s.result),
        ("states", ofDict State.encode s.states), ("tags", ofStrings s.tags),
        ("title", .str s.title), ("vars", ofDict id s.vars)]) :=
  congrArg (Option.bind · decode) (get?_fieldIf h)

theorem defaulted?_definitions :
    defaulted? (dictOf? some) .empty "$defs" s.encode = some s.definitions := by
  cases hempty : s.definitions.isEmpty with
  | false =>
    have hfield : s.encode.field? "$defs" = some (ofDict id s.definitions) := by
      rw [encode, hempty]
      rfl
    rw [defaulted?, hfield]
    exact dictOf?_ofDict_id s.definitions
  | true =>
    have hfield : s.encode.field? "$defs" = none := by
      rw [encode, hempty]
      rfl
    have hnone : s.definitions = .empty := Dict.ext_entries (List.isEmpty_iff.1 hempty)
    rw [defaulted?, hfield, hnone]

/-- A scenario whose periods fit 64 bits. -/
def Bounded (s : Scenario) : Prop :=
  ∀ p ∈ s.states.entries, ∀ t ∈ p.2.timeoutTransitions, t.after ≤ Number.maxUnsigned

instance (s : Scenario) : Decidable s.Bounded :=
  inferInstanceAs (Decidable (∀ p ∈ s.states.entries, ∀ t ∈ p.2.timeoutTransitions,
    t.after ≤ Number.maxUnsigned))

/-- What the written form of a scenario is read as if its notices may have `null` as a message. -/
def reread (s : Scenario) : Scenario := { s.stored with states := s.states.map (·.stored) }

theorem reread_eq_stored_iff : s.reread = s.stored ↔
    ∀ p ∈ s.states.entries, ∀ n ∈ p.2.notices, n.message ≠ some .null := by
  have hstates : s.reread = s.stored ↔ s.states.map (·.stored) = s.states := by
    constructor
    · exact congrArg Scenario.states
    · intro h
      rw [reread, h]
      rfl
  rw [hstates, Dict.map_eq_self_iff]
  exact forall₂_congr fun _ _ => State.stored_eq_self_iff

theorem reread_eq_self_iff : s.reread = s ↔
    s.Storable ∧ ∀ p ∈ s.states.entries, ∀ n ∈ p.2.notices, n.message ≠ some .null := by
  rw [← stored_eq_self_iff, ← reread_eq_stored_iff]
  constructor
  · intro h
    have hactions : s.actions.map (·.stored) = s.actions := congrArg Scenario.actions h
    have hstored : s.stored = s := by rw [stored, hactions]
    exact ⟨hstored, h.trans hstored.symm⟩
  · rintro ⟨hstored, h⟩
    exact h.trans hstored

theorem decode?_encode (h : s.Bounded) : decode? s.encode = some s.reread := by
  have htags : required? strings? "tags" s.encode = some s.tags :=
    (required?_encode (by decide)).trans (strings?_ofStrings s.tags)
  have hactors : required? (dictOf? some) "actors" s.encode = some s.actors :=
    (required?_encode (by decide)).trans (dictOf?_ofDict_id s.actors)
  have hactions : required? (dictOf? Action.decode?) "actions" s.encode =
      some (s.actions.map (·.stored)) :=
    (required?_encode (by decide)).trans (dictOf?_ofDict fun p _ => p.2.decode?_encode)
  have hstates : required? (dictOf? State.decode?) "states" s.encode =
      some (s.states.map (·.stored)) :=
    (required?_encode (by decide)).trans
      (dictOf?_ofDict fun p hp => State.decode?_encode (h p hp))
  have hvars : required? (dictOf? some) "vars" s.encode = some s.vars :=
    (required?_encode (by decide)).trans (dictOf?_ofDict_id s.vars)
  unfold decode?
  refine Option.bind_eq_some_iff.2 ⟨_, required?_encode (by decide), ?_⟩
  refine Option.bind_eq_some_iff.2 ⟨_, required?_encode (by decide), ?_⟩
  refine Option.bind_eq_some_iff.2 ⟨_, required?_encode (by decide), ?_⟩
  refine Option.bind_eq_some_iff.2 ⟨_, htags, Option.bind_eq_some_iff.2 ⟨_, hactors, ?_⟩⟩
  refine Option.bind_eq_some_iff.2 ⟨_, hactions, Option.bind_eq_some_iff.2 ⟨_, hstates, ?_⟩⟩
  refine Option.bind_eq_some_iff.2 ⟨_, hvars, ?_⟩
  refine Option.bind_eq_some_iff.2 ⟨_, required?_encode (by decide), ?_⟩
  exact Option.bind_eq_some_iff.2 ⟨_, defaulted?_definitions, rfl⟩

theorem Legible.bounded (h : s.Legible) : s.Bounded :=
  fun p hp => (h.state p.1 p.2 (Dict.mem_entries_iff.1 hp)).after

theorem Legible.decode?_encode (h : s.Legible) : decode? s.encode = some s.stored := by
  rw [Scenario.decode?_encode h.bounded, reread_eq_stored_iff.2]
  intro p hp
  exact (h.state p.1 p.2 (Dict.mem_entries_iff.1 hp)).message

/-- A client files a note; while predicting, the note has a stub. -/
def filingDocument (stub : Json) : Json := .obj [
  ("actions", .obj [("file", .obj [("update", .obj [
    ("set", .str "vars.note"), ("stub", stub), ("value", .str "x")])])]),
  ("actors", .obj [("client", .null)]),
  ("states", .obj [("initial", .obj [("goto", .str "(done)"), ("on", .str "file")])]),
  ("vars", .obj [("note", .obj [("type", .arr [.str "null", .str "string"])])])]

theorem filing_shown :
    ([.str "draft", .null].map fun stub =>
      (normalize (filingDocument stub)).toOption.map fun s => decide s.Storable) =
        [some true, some false] := by
  decide +kernel

/-- The written form of a result is read, and as the result itself exactly if no stub is `null`. -/
theorem decode_normalized (h : normalize document = .ok s) :
    decode? s.encode = some s.stored ∧ (s.stored = s ↔ s.Storable) :=
  ⟨(legible_of_normalize h).decode?_encode, stored_eq_self_iff⟩

/-- The filing of a note with a draft as its stub is read as itself. -/
theorem draft_decoded :
    ∃ s, normalize (filingDocument (.str "draft")) = .ok s ∧ decode? s.encode = some s := by
  obtain ⟨hdraft, -⟩ := List.cons.inj filing_shown
  obtain ⟨s, hs, hstorable⟩ := Option.map_eq_some_iff.1 hdraft
  rw [toOption_eq_some_iff] at hs
  obtain ⟨hread, hsame⟩ := decode_normalized hs
  rw [hsame.2 (of_decide_eq_true hstorable)] at hread
  exact ⟨s, hs, hread⟩

/-- The filing of a note with `null` as its stub is read as one without a stub. -/
theorem null_stub_lost :
    ∃ s t, normalize (filingDocument .null) = .ok s ∧ decode? s.encode = some t ∧ t ≠ s := by
  obtain ⟨-, hnull⟩ := List.cons.inj filing_shown
  obtain ⟨s, hs, hstorable⟩ := Option.map_eq_some_iff.1 (List.cons.inj hnull).1
  rw [toOption_eq_some_iff] at hs
  refine ⟨s, s.stored, hs, (legible_of_normalize hs).decode?_encode, ?_⟩
  rw [Ne, stored_eq_self_iff]
  exact of_decide_eq_false hstorable

end Caseflow.Scenario
