import Caseflow.Proofs.Scenario.Settled
import Caseflow.Proofs.Schema.Walk
import Mathlib.Data.List.Nodup

/-!
# The services that can act in a state

Which services can act in a state, and with which actions, is gathered in a table while its
transitions are walked. The table has each service once, in order of first mention, with the short
keys of the actions it can perform, each once.
-/
namespace Caseflow.Scenario

open Schema

variable {key service short : String} {actions : Dict Action} {state : State}

def ActionTransition.services (actions : Dict Action) (t : ActionTransition) : List String :=
  ((actions.get? t.action).elim [] (·.actors)).filterMap serviceName?

def State.services (actions : Dict Action) (s : State) : List String :=
  s.actionTransitions.flatMap (·.services actions)

/-- Each mention of a service that can act in a state, with the short key of its action. -/
def State.mentions (key : String) (actions : Dict Action) (s : State) : List (String × String) :=
  s.actionTransitions.flatMap fun t => (t.services actions).map (·, shortKey key t.action)

def keysOf (service : String) (mentions : List (String × String)) : List String :=
  (mentions.filter (·.1 == service)).map (·.2)

theorem nodup_eraseDups (names : List String) : names.eraseDups.Nodup := by
  obtain ⟨added, heq, hnodup, -⟩ := Shorthand.exists_addNames [] names
  rw [← addNames_nil, heq]
  exact hnodup

theorem eraseDups_eq_singleton_iff {names : List String} {name : String} :
    names.eraseDups = [name] ↔ ∀ other, other ∈ names ↔ other = name := by
  constructor
  · intro h other
    rw [← List.mem_eraseDups, h, List.mem_singleton]
  · intro h
    rw [← List.perm_singleton,
      List.perm_ext_iff_of_nodup (nodup_eraseDups names) (List.nodup_singleton name)]
    intro other
    rw [List.mem_eraseDups, h, List.mem_singleton]

def gather (mentions : List (String × String)) : ServiceKeys :=
  mentions.foldl (fun table p => addServiceKey p.1 p.2 table) []

theorem serviceKeys_eq_gather :
    serviceKeys key actions state.actionTransitions = gather (state.mentions key actions) := by
  rw [gather, State.mentions, List.foldl_flatMap]
  unfold serviceKeys
  congr 1
  funext table t
  rw [List.foldl_map, ActionTransition.services]
  cases actions.get? t.action with
  | none => rfl
  | some action => rfl

theorem names_addServiceKey (service short : String) (table : ServiceKeys) :
    (addServiceKey service short table).map (·.1) =
      Shorthand.addNames (table.map (·.1)) [service] := by
  induction table with
  | nil => rfl
  | cons p rest ih =>
    obtain ⟨name, keys⟩ := p
    unfold addServiceKey
    split
    · rename_i hname
      simp [Shorthand.addNames, hname]
    · rename_i hname
      rw [List.map_cons, ih]
      by_cases hrest : service ∈ rest.map (·.1)
      · simp [Shorthand.addNames, hrest]
      · simp [Shorthand.addNames, hrest, Ne.symm hname]

theorem get?_addServiceKey (service short other : String) (table : ServiceKeys) :
    Assoc.get? other (addServiceKey service short table) =
      if service = other then
        some (Shorthand.addNames ((Assoc.get? service table).getD []) [short])
      else Assoc.get? other table := by
  induction table with
  | nil => rfl
  | cons p rest ih =>
    obtain ⟨name, keys⟩ := p
    unfold addServiceKey
    split
    · rename_i hname
      subst hname
      by_cases hother : name = other
      · simp [Assoc.get?, hother]
      · simp [Assoc.get?, hother]
    · rename_i hname
      by_cases hother : name = other
      · subst hother
        simp [Assoc.get?, Ne.symm hname]
      · simp [Assoc.get?, hname, hother, ih]

theorem gather_append (mentions : List (String × String)) (p : String × String) :
    gather (mentions ++ [p]) = addServiceKey p.1 p.2 (gather mentions) := List.foldl_append

theorem keysOf_append (service : String) (mentions : List (String × String))
    (p : String × String) : keysOf service (mentions ++ [p]) =
      keysOf service mentions ++ if p.1 = service then [p.2] else [] := by
  by_cases hname : p.1 = service
  · simp [keysOf, hname]
  · simp [keysOf, hname]

theorem names_gather (mentions : List (String × String)) :
    (gather mentions).map (·.1) = (mentions.map (·.1)).eraseDups := by
  induction mentions using List.reverseRecOn with
  | nil => rfl
  | append_singleton rest p ih =>
    rw [gather_append, names_addServiceKey, ih, ← addNames_nil, ← addNames_nil, ← addNames_append,
      List.map_append, List.map_singleton]

theorem keys_gather (service : String) (mentions : List (String × String)) :
    (Assoc.get? service (gather mentions)).getD [] = (keysOf service mentions).eraseDups := by
  induction mentions using List.reverseRecOn with
  | nil => rfl
  | append_singleton rest p ih =>
    rw [gather_append, get?_addServiceKey, keysOf_append]
    by_cases hname : p.1 = service
    · rw [if_pos hname, if_pos hname, hname, ih, Option.getD_some, ← addNames_nil, ← addNames_nil,
        ← addNames_append]
    · rw [if_neg hname, if_neg hname, ih, List.append_nil]

theorem eq_map_get? {table : ServiceKeys} (h : (table.map (·.1)).Nodup) :
    table = (table.map (·.1)).map fun name => (name, (Assoc.get? name table).getD []) := by
  induction table with
  | nil => rfl
  | cons p rest ih =>
    obtain ⟨hnew, hrest⟩ := List.nodup_cons.1 h
    rw [List.map_cons, List.map_cons]
    congr 1
    · simp [Assoc.get?]
    · refine (ih hrest).trans (List.map_congr_left fun name hname => ?_)
      rw [Assoc.get?, if_neg]
      rintro rfl
      exact hnew hname

/-- What is gathered: each service that is mentioned, with the keys it is mentioned with. -/
theorem gather_eq (mentions : List (String × String)) :
    gather mentions = (mentions.map (·.1)).eraseDups.map fun service =>
      (service, (keysOf service mentions).eraseDups) := by
  have hnodup : ((gather mentions).map (·.1)).Nodup := by
    rw [names_gather]
    exact nodup_eraseDups _
  rw [eq_map_get? hnodup, names_gather]
  exact List.map_congr_left fun service _ => by rw [keys_gather]

theorem names_mentions : (state.mentions key actions).map (·.1) = state.services actions := by
  rw [State.mentions, List.map_flatMap, State.services]
  congr 1
  funext t
  exact (List.map_map ..).trans (List.map_id _)

theorem mem_serviceKeys : service ∈ (serviceKeys key actions state.actionTransitions).map (·.1) ↔
    service ∈ state.services actions := by
  rw [serviceKeys_eq_gather, names_gather, List.mem_eraseDups, names_mentions]

/-- A service is an actor of an action that some transition of a state takes, with a short key. -/
def State.Serves (key : String) (actions : Dict Action) (s : State) (service short : String) :
    Prop :=
  ∃ t ∈ s.actionTransitions, ∃ action, actions.get? t.action = some action ∧
    "service:" ++ service ∈ action.actors ∧ shortKey key t.action = short

theorem mem_services {t : ActionTransition} : service ∈ t.services actions ↔
    ∃ action, actions.get? t.action = some action ∧ "service:" ++ service ∈ action.actors := by
  rw [ActionTransition.services]
  cases actions.get? t.action with
  | none => simp
  | some action => simp [serviceName?, Text.after?_eq_some_iff]

theorem mem_keysOf_mentions :
    short ∈ keysOf service (state.mentions key actions) ↔
      state.Serves key actions service short := by
  simp only [keysOf, State.mentions, State.Serves, List.mem_map, List.mem_filter, List.mem_flatMap,
    mem_services]
  constructor
  · rintro ⟨_, ⟨⟨t, ht, name, hname, rfl⟩, heq⟩, rfl⟩
    obtain rfl := eq_of_beq heq
    obtain ⟨action, haction, hactor⟩ := hname
    exact ⟨t, ht, action, haction, hactor, rfl⟩
  · rintro ⟨t, ht, action, haction, hactor, rfl⟩
    exact ⟨_, ⟨⟨t, ht, service, ⟨action, haction, hactor⟩, rfl⟩, beq_self_eq_true _⟩, rfl⟩

theorem mem_services_iff (key : String) :
    service ∈ state.services actions ↔ ∃ short, state.Serves key actions service short := by
  simp only [State.services, List.mem_flatMap, mem_services, State.Serves]
  constructor
  · rintro ⟨t, ht, action, haction, hactor⟩
    exact ⟨_, t, ht, action, haction, hactor, rfl⟩
  · rintro ⟨_, t, ht, action, haction, hactor, -⟩
    exact ⟨t, ht, action, haction, hactor⟩

end Caseflow.Scenario
