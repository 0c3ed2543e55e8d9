import Caseflow.Proofs.Scenario.Normalization

/-!
# References of a scenario

In a scenario that a document is normalized to, the initial state is there and the shared one is
not, end states lead nowhere, every transition leads to a state and takes an action that there is.
-/
namespace Caseflow.Scenario

variable {s : Scenario} {document : Json} {key : String} {declared explicit : List String}
  {actions after : Dict Action}

/-- All that a scenario refers to is there. -/
structure Linked (s : Scenario) : Prop where
  initial : s.states.contains initialKey = true
  unshared : s.states.contains AuthoredState.wildcardKey = false
  ending : ∀ key state, s.states.get? key = some state → isEndState key = true →
    state.transitions = []
  goto : ∀ key state, s.states.get? key = some state → ∀ t ∈ state.transitions,
    ∀ target, t.goto = some target → s.states.contains target = true
  action : ∀ key state, s.states.get? key = some state → ∀ t ∈ state.actionTransitions,
    s.actions.contains t.action = true

theorem mem_actionTransitions {state : State} {t : ActionTransition} :
    t ∈ state.actionTransitions ↔ .action t ∈ state.transitions := by
  unfold State.actionTransitions
  rw [List.mem_filterMap]
  constructor
  · rintro ⟨u, hu, heq⟩
    cases u with
    | action a =>
      cases heq
      exact hu
    | timeout a => cases heq
  · intro h
    exact ⟨_, h, rfl⟩

theorem mem_timeoutTransitions {state : State} {t : TimeoutTransition} :
    t ∈ state.timeoutTransitions ↔ .timeout t ∈ state.transitions := by
  unfold State.timeoutTransitions
  rw [List.mem_filterMap]
  constructor
  · rintro ⟨u, hu, heq⟩
    cases u with
    | action a => cases heq
    | timeout a =>
      cases heq
      exact hu
  · intro h
    exact ⟨_, h, rfl⟩

theorem settle_covers {implied implied' : Implied} {draft draft' : Draft}
    (h : settle key declared explicit actions implied draft = .ok (draft', implied')) :
    (∀ k, implied.contains k = true → implied'.contains k = true) ∧
      ∀ action actors, draft'.trigger = .on action actors →
        actions.contains action = true ∨ implied'.contains action = true := by
  unfold settle at h
  split at h
  · rename_i htrigger
    cases h
    refine ⟨fun _ hk => hk, ?_⟩
    intro action actors hon
    rw [htrigger] at hon
    cases hon
  · rename_i name filter htrigger
    split at h
    · rename_i hknown
      cases h
      refine ⟨fun _ hk => hk, ?_⟩
      intro action actors hon
      rw [htrigger] at hon
      cases hon
      exact .inl hknown
    · simp only at h
      split at h
      · cases h
      · cases h
        refine ⟨fun _ hk => Dict.contains_insert_iff.2 (.inr hk), ?_⟩
        intro action actors hon
        cases hon
        exact .inr (Dict.contains_insert_iff.2 (.inl rfl))

/-- Every action that a settled draft waits for is declared or implied. -/
theorem settleAll_covers {index : Nat} {implied implied' : Implied} {drafts : List Draft}
    {vs : List Json}
    (h : settleAll key declared explicit actions index implied vs = .ok (drafts, implied')) :
    (∀ k, implied.contains k = true → implied'.contains k = true) ∧
      ∀ d ∈ drafts, ∀ action actors, d.trigger = .on action actors →
        actions.contains action = true ∨ implied'.contains action = true := by
  induction vs generalizing index implied drafts implied' with
  | nil =>
    cases h
    exact ⟨fun _ hk => hk, fun _ hd => nomatch hd⟩
  | cons v rest ih =>
    obtain ⟨draft, -, h⟩ := bind_eq_ok_iff.1 h
    obtain ⟨⟨first, more⟩, hfirst, h⟩ := bind_eq_ok_iff.1 h
    obtain ⟨⟨others, all⟩, hothers, h⟩ := bind_eq_ok_iff.1 h
    cases h
    obtain ⟨hgrow, hon⟩ := settle_covers hfirst
    obtain ⟨hgrows, hons⟩ := ih hothers
    refine ⟨fun k hk => hgrows k (hgrow k hk), List.forall_mem_cons.2 ⟨?_, hons⟩⟩
    intro action actors htrigger
    exact (hon action actors htrigger).imp_right (hgrows action)

theorem contains_addImplied {implied : Implied} {k : String}
    (h : actions.contains k = true ∨ implied.contains k = true) :
    (addImplied key implied actions).contains k = true := by
  have step (entries : List (String × List String)) (actions : Dict Action)
      (h : actions.contains k = true ∨ ∃ actors, (k, actors) ∈ entries) :
      (entries.foldl (fun acc p => acc.insert p.1 (impliedAction key p.1 p.2)) actions).contains k
        = true := by
    induction entries generalizing actions with
    | nil => simpa using h
    | cons p rest ih =>
      apply ih
      rw [Dict.contains_insert_iff]
      obtain hold | ⟨actors, hmem⟩ := h
      · exact .inl (.inr hold)
      · obtain heq | hrest := List.mem_cons.1 hmem
        · exact .inl (.inl (congrArg Prod.fst heq).symm)
        · exact .inr ⟨actors, hrest⟩
  refine step _ _ (h.imp_right ?_)
  intro himplied
  obtain ⟨actors, hactors⟩ := Dict.contains_iff.1 himplied
  exact ⟨actors, Dict.mem_entries_iff.2 hactors⟩

/-- Every finished transition is a draft that was finished. -/
theorem exists_of_mem_finishAll {drafts : List Draft} {ts : List Transition}
    (h : finishAll actions drafts = .ok ts) {t : Transition} (ht : t ∈ ts) :
    ∃ d ∈ drafts, d.finish actions = .ok t := by
  induction drafts generalizing ts with
  | nil =>
    cases h
    cases ht
  | cons d rest ih =>
    obtain ⟨first, hfirst, h⟩ := bind_eq_ok_iff.1 h
    obtain ⟨others, hothers, h⟩ := bind_eq_ok_iff.1 h
    cases h
    obtain heq | hmem := List.mem_cons.1 ht
    · cases heq
      exact ⟨d, List.mem_cons_self, hfirst⟩
    · obtain ⟨d, hd, hfinish⟩ := ih hothers hmem
      exact ⟨d, List.mem_cons_of_mem _ hd, hfinish⟩

def Transition.trigger : Transition → Trigger
  | action t => .on t.action t.actors
  | timeout t => .after t.after

theorem trigger_of_finish {d : Draft} {t : Transition} (h : d.finish actions = .ok t) :
    d.trigger = t.trigger := by
  unfold Draft.finish at h
  split at h
  · rename_i htrigger
    obtain ⟨log, -, heq⟩ := bind_eq_ok_iff.1 h
    cases heq
    exact htrigger
  · rename_i htrigger
    obtain ⟨log, -, heq⟩ := bind_eq_ok_iff.1 h
    cases heq
    exact htrigger

theorem finishAll_nil {ts : List Transition} (h : finishAll actions [] = .ok ts) : ts = [] := by
  cases h
  rfl

namespace Settlement

variable {authored : AuthoredState} {state : State}

theorem grows (t : Settlement key declared explicit actions authored state after) {k : String}
    (h : actions.contains k = true) : after.contains k = true := by
  rw [t.after_eq]
  exact contains_addImplied (.inl h)

theorem action_mem (t : Settlement key declared explicit actions authored state after)
    {u : ActionTransition} (hu : u ∈ state.actionTransitions) :
    after.contains u.action = true := by
  obtain ⟨d, hd, hfinish⟩ := exists_of_mem_finishAll t.finished (mem_actionTransitions.1 hu)
  have hcovered := (settleAll_covers t.drafted).2 d hd _ _ (trigger_of_finish hfinish)
  rw [t.after_eq]
  exact contains_addImplied hcovered

theorem ends (t : Settlement key declared explicit actions authored state after)
    (h : isEndState key = true) : state.transitions = [] := by
  have hdrafted := t.drafted
  rw [t.ending h] at hdrafted
  cases hdrafts : t.drafts with
  | nil =>
    have hfinished := t.finished
    rw [hdrafts] at hfinished
    exact finishAll_nil hfinished
  | cons d rest =>
    rw [hdrafts] at hdrafted
    cases hdrafted

end Settlement

/-- States are settled one by one, and actions are only added on the way. -/
theorem normalizeStates_settled {authored : List (String × AuthoredState)}
    {settled : List (String × State)}
    (h : normalizeStates declared explicit actions authored = .ok (settled, after)) :
    (∀ k, actions.contains k = true → after.contains k = true) ∧
      ∀ p ∈ settled, ∃ a before between, (p.1, a) ∈ authored ∧
        Nonempty (Settlement p.1 declared explicit before a p.2 between) ∧
        ∀ k, between.contains k = true → after.contains k = true := by
  induction authored generalizing actions settled after with
  | nil =>
    cases h
    exact ⟨fun _ hk => hk, List.forall_mem_nil _⟩
  | cons a rest ih =>
    obtain ⟨name, authored⟩ := a
    obtain ⟨⟨state, more⟩, hstate, h⟩ := bind_eq_ok_iff.1 h
    obtain ⟨⟨others, all⟩, hothers, h⟩ := bind_eq_ok_iff.1 h
    cases h
    obtain ⟨t⟩ := normalizeState_eq_ok_iff.1 hstate
    obtain ⟨hgrow, hsettled⟩ := ih hothers
    refine ⟨fun k hk => hgrow k (t.grows hk), List.forall_mem_cons.2 ⟨?_, ?_⟩⟩
    · exact ⟨authored, actions, more, List.mem_cons_self, ⟨t⟩, hgrow⟩
    · intro p hp
      obtain ⟨b, before, between, hb, hsettlement, hmore⟩ := hsettled p hp
      exact ⟨b, before, between, List.mem_cons_of_mem _ hb, hsettlement, hmore⟩

theorem spread_of_not_contains {states : Dict AuthoredState}
    (h : states.contains AuthoredState.wildcardKey = false) :
    AuthoredState.spread states = states := by
  rw [Dict.contains, Option.isSome_eq_false_iff, Option.isNone_iff_eq_none] at h
  rw [AuthoredState.spread, h]

theorem not_contains_spread (states : Dict AuthoredState) :
    (AuthoredState.spread states).contains AuthoredState.wildcardKey = false := by
  rw [Bool.eq_false_iff]
  intro hcontains
  obtain ⟨state, hstate⟩ := Dict.contains_iff.1 hcontains
  unfold AuthoredState.spread at hstate
  split at hstate
  · rename_i hnone
    rw [hnone] at hstate
    cases hstate
  · have hmem := Dict.mem_entries_iff.2 hstate
    simp only [Dict.mapWithKey, Dict.erase, List.mem_map, List.mem_filter, bne_iff_ne] at hmem
    obtain ⟨p, ⟨-, hne⟩, heq⟩ := hmem
    exact hne (congrArg Prod.fst heq)

/-- Adding end states keeps the states that there are, gives every target a state, and adds nothing
but end states. -/
theorem addEndStates_spec {states ended : Dict State} {pairs : List (String × String)}
    (h : addEndStates states pairs = .ok ended) :
    (∀ k, states.contains k = true → ended.contains k = true) ∧
      (∀ p ∈ pairs, ended.contains p.2 = true) ∧
      ∀ k state, ended.get? k = some state →
        states.get? k = some state ∨ isEndState k = true ∧ state = .ending k := by
  induction pairs generalizing states with
  | nil =>
    cases h
    refine ⟨fun _ hk => hk, ?_, fun _ _ hk => .inl hk⟩
    intro p hp
    cases hp
  | cons p rest ih =>
    obtain ⟨source, target⟩ := p
    unfold addEndStates at h
    split at h
    · rename_i hthere
      obtain ⟨hkeep, htargets, hnew⟩ := ih h
      exact ⟨hkeep, List.forall_mem_cons.2 ⟨hkeep _ hthere, htargets⟩, hnew⟩
    · split at h
      · rename_i hend
        obtain ⟨hkeep, htargets, hnew⟩ := ih h
        refine ⟨fun k hk => hkeep k (Dict.contains_insert_iff.2 (.inr hk)),
          List.forall_mem_cons.2 ⟨hkeep _ (Dict.contains_insert_iff.2 (.inl rfl)), htargets⟩, ?_⟩
        intro k state hk
        obtain hold | hadded := hnew k state hk
        · rw [Dict.get?_insert] at hold
          split at hold
          · rename_i hkey
            cases hold
            cases hkey
            exact .inr ⟨hend, rfl⟩
          · exact .inl hold
        · exact .inr hadded
      · cases h

theorem mem_targets {states : Dict State} {key target : String} {state : State} {t : Transition}
    (hstate : states.get? key = some state) (ht : t ∈ state.transitions)
    (hgoto : t.goto = some target) : (key, target) ∈ targets states := by
  unfold targets
  rw [List.mem_flatMap]
  refine ⟨(key, state), Dict.mem_entries_iff.2 hstate, List.mem_map.2 ⟨target, ?_, rfl⟩⟩
  exact List.mem_filterMap.2 ⟨t, ht, hgoto⟩

theorem exists_of_mem_targets {states : Dict State} {p : String × String} (h : p ∈ targets states) :
    ∃ state, states.get? p.1 = some state ∧ ∃ t ∈ state.transitions, t.goto = some p.2 := by
  unfold targets at h
  obtain ⟨⟨key, state⟩, hstate, hp⟩ := List.mem_flatMap.1 h
  obtain ⟨target, htarget, rfl⟩ := List.mem_map.1 hp
  exact ⟨state, Dict.mem_entries_iff.1 hstate, List.mem_filterMap.1 htarget⟩

/-- A state of the result is a settled one, or an end state without anything. -/
theorem Normalization.origin {doc : Fields} (n : Normalization doc s) {state : State}
    (h : s.states.get? key = some state) :
    (∃ a before between, n.authored.get? key = some a ∧
      Nonempty (Settlement key s.actors.keys n.declared.keys before a state between) ∧
      ∀ k, between.contains k = true → s.actions.contains k = true) ∨
    isEndState key = true ∧ state = .ending key := by
  obtain ⟨-, -, hnew⟩ := addEndStates_spec n.states_ended
  obtain hold | hadded := hnew key state h
  · obtain ⟨a, before, between, ha, hsettlement, hmore⟩ :=
      (normalizeStates_settled n.states_settled).2 _ (Dict.mem_of_get?_ofList hold)
    exact .inl ⟨a, before, between, Dict.mem_entries_iff.1 ha, hsettlement, hmore⟩
  · exact .inr hadded

/-- All that the result of normalizing refers to is there. -/
theorem linked_of_normalize (h : normalize document = .ok s) : s.Linked := by
  obtain ⟨doc, -, ⟨n⟩⟩ := normalize_eq_ok_iff.1 h
  refine ⟨n.initial, ?_, ?_, ?_, ?_⟩
  · rw [Bool.eq_false_iff]
    intro hcontains
    obtain ⟨state, hstate⟩ := Dict.contains_iff.1 hcontains
    obtain ⟨a, _, _, ha, -⟩ | ⟨hend, -⟩ := n.origin hstate
    · obtain ⟨fields, -, hread⟩ := bind_eq_ok_iff.1 n.states_read
      obtain ⟨entries, -, hspread⟩ := bind_eq_ok_iff.1 hread
      rw [pure_eq_ok_iff] at hspread
      have hnone := not_contains_spread (Dict.ofList entries)
      rw [hspread, Bool.eq_false_iff] at hnone
      exact hnone (Dict.contains_iff.2 ⟨a, ha⟩)
    · exact absurd hend (by decide)
  · intro key state hstate hend
    obtain ⟨_, _, _, -, ⟨t⟩, -⟩ | ⟨-, rfl⟩ := n.origin hstate
    · exact t.ends hend
    · rfl
  · intro key state hstate t ht target hgoto
    obtain ⟨-, htargets, hnew⟩ := addEndStates_spec n.states_ended
    obtain hold | ⟨-, rfl⟩ := hnew key state hstate
    · exact htargets _ (mem_targets hold ht hgoto)
    · cases ht
  · intro key state hstate u hu
    obtain ⟨_, _, _, -, ⟨t⟩, hmore⟩ | ⟨-, rfl⟩ := n.origin hstate
    · exact hmore _ (t.action_mem hu)
    · cases hu

end Caseflow.Scenario
