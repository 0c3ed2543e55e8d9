import Caseflow.Proofs.Json.Fields
import Caseflow.Proofs.Scenario.Keys
import Caseflow.Proofs.Scenario.Linked
import Mathlib.Data.List.Induction

/-!
# What settling a state makes

A transition whose target is an action that there is takes it. For any other target the state coins
an action of its own, which all its transitions with this target take, and which whoever they admit
may perform. Besides the actions that a state coins, settling it leaves the actions as they are.
-/
namespace Caseflow.Scenario

open Schema

variable {key k target : String} {declared explicit names more : List String}
  {actions before after : Dict Action} {implied implied' : Implied} {ts : List Trigger}
  {written : List Draft} {authored : AuthoredState} {state : State} {vs : List Json}

theorem addNames_append (names more others : List String) :
    Shorthand.addNames names (more ++ others) =
      Shorthand.addNames (Shorthand.addNames names more) others := List.foldl_append

theorem addNames_nil (names : List String) : Shorthand.addNames [] names = names.eraseDups := by
  induction names using List.reverseRecOn with
  | nil => rfl
  | append_singleton rest name ih =>
    rw [addNames_append, ih, List.eraseDups_append]
    by_cases hname : name ∈ rest
    · simp [Shorthand.addNames, List.removeAll, hname]
    · simp [Shorthand.addNames, List.removeAll, List.eraseDups_cons, hname]

def Draft.readAll (state : String) : Nat → List Json → Result (List Draft)
  | _, [] => .ok []
  | index, v :: vs => do return (← read state index v) :: (← readAll state (index + 1) vs)

def Trigger.settled (key : String) (actions : Dict Action) : Trigger → Trigger
  | .on action filter =>
    .on (if actions.contains action then action else scopedKey key action) filter
  | .after seconds => .after seconds

/-- Note whom a trigger admits to an action that is coined for it. -/
def admitting (key : String) (declared : List String) (actions : Dict Action) (implied : Implied) :
    Trigger → Implied
  | .on action filter =>
    if actions.contains action then implied
    else implied.insert (scopedKey key action)
      (Shorthand.addNames ((implied.get? (scopedKey key action)).getD [])
        (admittedActors declared filter))
  | .after _ => implied

theorem settle_eq_ok {d d' : Draft}
    (h : settle key declared explicit actions implied d = .ok (d', implied')) :
    d'.trigger = d.trigger.settled key actions ∧
      implied' = admitting key declared actions implied d.trigger ∧
      ∀ action filter, d.trigger = .on action filter → actions.contains action = false →
        explicit.contains (scopedKey key action) = false := by
  unfold settle at h
  split at h
  · rename_i htrigger
    cases h
    rw [htrigger]
    exact ⟨rfl, rfl, nofun⟩
  · rename_i htrigger
    rw [htrigger, Trigger.settled, admitting]
    split at h
    · rename_i hknown
      cases h
      rw [if_pos hknown, if_pos hknown, htrigger]
      refine ⟨rfl, rfl, ?_⟩
      rintro _ _ ⟨⟩ hnew
      rw [hknown] at hnew
      cases hnew
    · rename_i hnew
      simp only at h
      split at h
      · cases h
      · rename_i hfree
        cases h
        rw [if_neg hnew, if_neg hnew]
        refine ⟨rfl, rfl, ?_⟩
        rintro _ _ ⟨⟩ -
        simpa using hfree

theorem settleAll_eq_ok {index : Nat} {drafts : List Draft}
    (h : settleAll key declared explicit actions index implied vs = .ok (drafts, implied')) :
    ∃ written, Draft.readAll key index vs = .ok written ∧
      drafts.map (·.trigger) = (written.map (·.trigger)).map (·.settled key actions) ∧
      implied' = (written.map (·.trigger)).foldl (admitting key declared actions) implied ∧
      ∀ action filter, .on action filter ∈ written.map (·.trigger) →
        actions.contains action = false → explicit.contains (scopedKey key action) = false := by
  induction vs generalizing index implied drafts with
  | nil =>
    cases h
    exact ⟨[], rfl, rfl, rfl, nofun⟩
  | cons v rest ih =>
    obtain ⟨draft, hread, h⟩ := bind_eq_ok_iff.1 h
    obtain ⟨⟨first, more⟩, hfirst, h⟩ := bind_eq_ok_iff.1 h
    obtain ⟨⟨others, all⟩, hothers, h⟩ := bind_eq_ok_iff.1 h
    cases h
    obtain ⟨htrigger, rfl, hfree⟩ := settle_eq_ok hfirst
    obtain ⟨written, hwritten, htriggers, rfl, hfrees⟩ := ih hothers
    refine ⟨draft :: written, ?_, ?_, rfl, ?_⟩
    · exact bind_eq_ok_iff.2 ⟨draft, hread, bind_eq_ok_iff.2 ⟨written, hwritten, rfl⟩⟩
    · simp only [List.map_cons, htrigger, htriggers]
    · intro action filter hmem
      obtain heq | hmem := List.mem_cons.1 hmem
      · exact hfree action filter heq.symm
      · exact hfrees action filter hmem

def filtersOn (target : String) (ts : List Trigger) : List (Option (List String)) :=
  ts.filterMap fun
    | .on action filter => if action = target then some filter else none
    | .after _ => none

theorem filtersOn_eq_nil_iff :
    filtersOn target ts = [] ↔ ∀ filter, .on target filter ∉ ts := by
  rw [filtersOn, List.filterMap_eq_nil_iff]
  constructor
  · intro h filter hmem
    have hnone := h _ hmem
    simp at hnone
  · rintro h (⟨action, filter⟩ | seconds) hmem
    · refine if_neg ?_
      rintro rfl
      exact h filter hmem
    · rfl

/-- An action that is coined is open to all that the filters on its target admit together. -/
theorem get?_foldl_admitting (hnew : actions.contains target = false) (implied : Implied) :
    (ts.foldl (admitting key declared actions) implied).get? (scopedKey key target) =
      if filtersOn target ts = [] then implied.get? (scopedKey key target)
      else some (Shorthand.addNames ((implied.get? (scopedKey key target)).getD [])
        ((filtersOn target ts).flatMap (admittedActors declared))) := by
  induction ts generalizing implied with
  | nil => rfl
  | cons t rest ih =>
    rw [List.foldl_cons, ih]
    cases t with
    | after seconds => rfl
    | on action filter =>
      by_cases haction : action = target
      · subst haction
        have hfilters : filtersOn action (.on action filter :: rest) =
            filter :: filtersOn action rest := by
          simp [filtersOn]
        have hadmitting : (admitting key declared actions implied (.on action filter)).get?
            (scopedKey key action) =
              some (Shorthand.addNames ((implied.get? (scopedKey key action)).getD [])
                (admittedActors declared filter)) := by
          rw [admitting, if_neg (by simp [hnew]), Dict.get?_insert, if_pos rfl]
        rw [hfilters, hadmitting, if_neg (List.cons_ne_nil _ _), List.flatMap_cons, addNames_append,
          Option.getD_some]
        split
        · rename_i hnone
          rw [hnone]
          rfl
        · rfl
      · have hrest : filtersOn target (.on action filter :: rest) = filtersOn target rest := by
          simp [filtersOn, haction]
        have hsame : (admitting key declared actions implied (.on action filter)).get?
            (scopedKey key target) = implied.get? (scopedKey key target) := by
          rw [admitting]
          split
          · rfl
          · rw [Dict.get?_insert, if_neg (mt scopedKey_inj.1 haction)]
        rw [hrest, hsame]

theorem get?_foldl_admitting_of_ne
    (h : ∀ target filter, .on target filter ∈ ts → actions.contains target = false →
      scopedKey key target ≠ k) (implied : Implied) :
    (ts.foldl (admitting key declared actions) implied).get? k = implied.get? k := by
  induction ts generalizing implied with
  | nil => rfl
  | cons t rest ih =>
    rw [List.foldl_cons, ih fun target filter hmem => h target filter (List.mem_cons_of_mem _ hmem)]
    cases t with
    | after seconds => rfl
    | on action filter =>
      rw [admitting]
      split
      · rfl
      · rename_i hnew
        rw [Dict.get?_insert,
          if_neg (h action filter List.mem_cons_self (Bool.eq_false_iff.2 hnew))]

theorem get?_addImplied : (addImplied key implied actions).get? k =
    ((implied.get? k).map (impliedAction key k)).or (actions.get? k) := by
  have step (entries : List (String × List String)) (hentries : KeysAscend entries)
      (actions : Dict Action) :
      (entries.foldl (fun acc p => acc.insert p.1 (impliedAction key p.1 p.2)) actions).get? k =
        ((Assoc.get? k entries).map (impliedAction key k)).or (actions.get? k) := by
    induction entries generalizing actions with
    | nil => rfl
    | cons p rest ih =>
      obtain ⟨hhead, hrest⟩ := List.pairwise_cons.1 hentries
      rw [List.foldl_cons, ih hrest, Dict.get?_insert, Assoc.get?]
      by_cases hk : p.1 = k
      · rw [if_pos hk, if_pos hk, Assoc.get?_of_below (hk ▸ hhead), hk]
        rfl
      · rw [if_neg hk, if_neg hk]
  exact step implied.entries implied.ascend actions

theorem triggers_of_finishAll {drafts : List Draft} {ts : List Transition}
    (h : finishAll actions drafts = .ok ts) : ts.map (·.trigger) = drafts.map (·.trigger) := by
  induction drafts generalizing ts with
  | nil =>
    cases h
    rfl
  | cons d rest ih =>
    obtain ⟨first, hfirst, h⟩ := bind_eq_ok_iff.1 h
    obtain ⟨others, hothers, h⟩ := bind_eq_ok_iff.1 h
    cases h
    rw [List.map_cons, List.map_cons, ih hothers, trigger_of_finish hfirst]

def AuthoredState.triggers (key : String) (authored : AuthoredState) : Result (List Trigger) := do
  return (← Draft.readAll key 0 authored.transitions).map Draft.trigger

def State.triggers (s : State) : List Trigger := s.transitions.map Transition.trigger

/-- In place of a target that it is written with, a state takes an action of its own. -/
def State.Coins (key : String) (authored : AuthoredState) (state : State) (target : String) :
    Prop :=
  ∃ (ts : List Trigger) (i : Nat) (filter : Option (List String)),
    authored.triggers key = .ok ts ∧ ts[i]? = some (.on target filter) ∧
      state.triggers[i]? = some (.on (scopedKey key target) filter)

/-- The transitions that a state is written with on a target take an action, each with its filter.
-/
def State.Takes (state : State) (ts : List Trigger) (target action : String) : Prop :=
  ∀ (i : Nat) (filter : Option (List String)), ts[i]? = some (.on target filter) →
    state.triggers[i]? = some (.on action filter)

/-- What is coined for a target: an action for all that the filters on it admit, each named once in
order of first mention. -/
def coinedAction (declared : List String) (target : String) (ts : List Trigger) : Action where
  title := target
  description := ""
  actors := ((filtersOn target ts).flatMap (admittedActors declared)).eraseDups
  guard := .bool true
  response := .obj []
  updates := []

namespace Settlement

variable (t : Settlement key declared explicit before authored state after)

include t

/-- What the transitions of a state are written with settles all that settling the state makes. -/
theorem exists_triggers : ∃ ts, authored.triggers key = .ok ts ∧
    state.triggers = ts.map (·.settled key before) ∧
    t.implied = ts.foldl (admitting key declared before) .empty ∧
    ∀ action filter, .on action filter ∈ ts → before.contains action = false →
      explicit.contains (scopedKey key action) = false := by
  obtain ⟨written, hwritten, htriggers, himplied, hfree⟩ := settleAll_eq_ok t.drafted
  refine ⟨written.map Draft.trigger, bind_eq_ok_iff.2 ⟨written, hwritten, rfl⟩, ?_, himplied, hfree⟩
  exact (triggers_of_finishAll t.finished).trans htriggers

theorem triggers_eq (hread : authored.triggers key = .ok ts) :
    state.triggers = ts.map (·.settled key before) := by
  obtain ⟨_, hwritten, htriggers, -⟩ := t.exists_triggers
  cases hread.symm.trans hwritten
  exact htriggers

/-- All transitions on a target take the same action. -/
theorem takes (hread : authored.triggers key = .ok ts) (target : String) :
    state.Takes ts target (if before.contains target then target else scopedKey key target) := by
  intro i filter hi
  rw [t.triggers_eq hread, List.getElem?_map, hi]
  rfl

/-- A state coins an action for each target that it names and there is no action for. -/
theorem coins_iff (hread : authored.triggers key = .ok ts) :
    State.Coins key authored state target ↔
      (∃ filter, .on target filter ∈ ts) ∧ before.contains target = false := by
  constructor
  · rintro ⟨_, i, filter, hwritten, hon, hown⟩
    cases hread.symm.trans hwritten
    refine ⟨⟨filter, List.mem_of_getElem? hon⟩, ?_⟩
    rw [t.triggers_eq hread, List.getElem?_map, hon, Option.map_some, Trigger.settled,
      Option.some.injEq, Trigger.on.injEq] at hown
    rw [Bool.eq_false_iff]
    intro hknown
    rw [if_pos hknown] at hown
    exact ne_scopedKey key target hown.1
  · rintro ⟨⟨filter, hmem⟩, hnew⟩
    obtain ⟨i, hi⟩ := List.mem_iff_getElem?.1 hmem
    refine ⟨ts, i, filter, hread, hi, ?_⟩
    rw [t.triggers_eq hread, List.getElem?_map, hi, Option.map_some, Trigger.settled,
      if_neg (by simp [hnew])]

theorem get?_of_coins (hread : authored.triggers key = .ok ts)
    (h : State.Coins key authored state target) :
    after.get? (scopedKey key target) = some (coinedAction declared target ts) := by
  obtain ⟨_, hwritten, -, himplied, -⟩ := t.exists_triggers
  cases hread.symm.trans hwritten
  obtain ⟨⟨filter, hmem⟩, hnew⟩ := (t.coins_iff hread).1 h
  have hsome : filtersOn target ts ≠ [] := fun hnil => filtersOn_eq_nil_iff.1 hnil filter hmem
  have hadmitted :
      (ts.foldl (admitting key declared before) .empty).get? (scopedKey key target) = _ :=
    get?_foldl_admitting hnew .empty
  rw [if_neg hsome, Dict.get?_empty, Option.getD_none, addNames_nil, ← himplied] at hadmitted
  rw [t.after_eq, get?_addImplied, hadmitted, Option.map_some, Option.some_or, impliedAction,
    shortKey_scopedKey, coinedAction]

theorem get?_of_not_coins
    (h : ∀ target, State.Coins key authored state target → scopedKey key target ≠ k) :
    after.get? k = before.get? k := by
  obtain ⟨ts, hread, -, himplied, -⟩ := t.exists_triggers
  have hnone : t.implied.get? k = none := by
    rw [himplied, get?_foldl_admitting_of_ne, Dict.get?_empty]
    intro target filter hmem hnew
    exact h target ((t.coins_iff hread).2 ⟨⟨filter, hmem⟩, hnew⟩)
  rw [t.after_eq, get?_addImplied, hnone, Option.map_none, Option.none_or]

theorem contains_after_iff : after.contains k = true ↔ before.contains k = true ∨
    ∃ target, State.Coins key authored state target ∧ k = scopedKey key target := by
  by_cases hcoined : ∃ target, State.Coins key authored state target ∧ k = scopedKey key target
  · refine iff_of_true ?_ (.inr hcoined)
    obtain ⟨target, hcoins, rfl⟩ := hcoined
    obtain ⟨ts, hread, -⟩ := t.exists_triggers
    exact Dict.contains_iff.2 ⟨_, t.get?_of_coins hread hcoins⟩
  · have hsame := t.get?_of_not_coins fun target hcoins heq => hcoined ⟨target, hcoins, heq.symm⟩
    rw [Dict.contains, hsame, ← Dict.contains, or_iff_left hcoined]

end Settlement

end Caseflow.Scenario
