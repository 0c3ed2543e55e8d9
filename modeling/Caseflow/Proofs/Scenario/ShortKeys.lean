import Caseflow.Proofs.Scenario.Coined
import Caseflow.Scenario.Actor

/-!
# Short keys lead back

A state shows its actions by their short keys, and what a short key stands for is looked up under
the state's name first. This leads back to the action except if another one is there under that
name, which then hides it. What hides an action that a state takes is declared, or some other state
coins it.
-/
namespace Caseflow.Scenario

variable {s : Scenario} {doc : Fields} {key action : String} {actions : Dict Action}
  {state : State} {t : ActionTransition}

/-- An action that is none of a state's own is hidden by one that is. -/
def Hidden (s : Scenario) (key action : String) : Prop :=
  Text.after? (key ++ ".") action = none ∧ s.actions.contains (scopedKey key action) = true

instance (s : Scenario) (key action : String) : Decidable (s.Hidden key action) :=
  inferInstanceAs (Decidable (_ ∧ _))

theorem actionKey_shortKey_iff (h : s.actions.contains action = true) :
    s.actionKey key (shortKey key action) = action ↔ ¬ s.Hidden key action := by
  cases hown : Text.after? (key ++ ".") action with
  | none =>
    have hshort : shortKey key action = action := by rw [shortKey, hown, Option.getD_none]
    have hhidden : s.Hidden key action ↔ s.actions.contains (scopedKey key action) = true :=
      and_iff_right hown
    rw [hshort, hhidden, actionKey]
    split
    · rename_i hthere
      exact iff_of_false (ne_scopedKey key action).symm (not_not_intro hthere)
    · rename_i hnone
      exact iff_of_true rfl hnone
  | some rest =>
    have hkey : action = scopedKey key rest := Text.after?_eq_some_iff.1 hown
    have hshort : shortKey key action = rest := by rw [shortKey, hown, Option.getD_some]
    have hhidden : ¬ s.Hidden key action := by
      rintro ⟨hnone, -⟩
      rw [hown] at hnone
      cases hnone
    rw [hshort, actionKey, ← hkey, if_pos h]
    exact iff_of_true rfl hhidden

theorem trigger_mem (ht : t ∈ state.actionTransitions) : .on t.action t.actors ∈ state.triggers :=
  List.mem_map.2 ⟨.action t, mem_actionTransitions.1 ht, rfl⟩

/-- A state does not itself coin what hides an action that it takes. -/
theorem Settlement.not_coins {declared explicit : List String} {before after : Dict Action}
    {authored : AuthoredState}
    (r : Settlement key declared explicit before authored state after)
    (ht : t ∈ state.actionTransitions) (hother : Text.after? (key ++ ".") t.action = none) :
    ¬ State.Coins key authored state t.action := by
  intro hcoins
  obtain ⟨ts, hread, htriggers, -⟩ := r.exists_triggers
  obtain ⟨-, hnew⟩ := (r.coins_iff hread).1 hcoins
  have hmem := trigger_mem ht
  rw [htriggers, List.mem_map] at hmem
  obtain ⟨⟨target, filter⟩ | seconds, -, heq⟩ := hmem
  · obtain ⟨haction, -⟩ := Trigger.on.inj heq
    by_cases hknown : before.contains target = true
    · rw [if_pos hknown] at haction
      rw [← haction, hknown] at hnew
      cases hnew
    · rw [if_neg hknown] at haction
      rw [← haction, after?_scopedKey] at hother
      cases hother
  · cases heq

/-- What hides an action that a state takes is declared or coined by some other state. -/
theorem Normalization.hider (n : Normalization doc s) (hstate : s.states.get? key = some state)
    (ht : t ∈ state.actionTransitions) (h : s.Hidden key t.action) :
    n.declared.contains (scopedKey key t.action) = true ∨
      ∃ other named, other ≠ key ∧ Coins doc s other named ∧
        scopedKey key t.action = scopedKey other named := by
  obtain hdeclared | ⟨other, named, hcoins, hsame⟩ := n.contains_actions_iff.1 h.2
  · exact .inl hdeclared
  · refine .inr ⟨other, named, ?_, hcoins, hsame⟩
    rintro rfl
    cases scopedKey_inj.1 hsame
    obtain ⟨authored, _, _, hauthored, ⟨r⟩, -⟩ | ⟨-, rfl⟩ := n.origin hstate
    · exact r.not_coins ht h.1 ((n.coins_iff hauthored hstate).1 hcoins)
    · cases ht

/-- The initial state sends; the actions are declared. -/
def sendingDocument (declared : List String) : Fields := [
  ("actions", .obj (declared.map (·, .obj []))),
  ("states", .obj [("initial", .obj [("goto", .str "(done)"), ("on", .str "send")])])]

theorem sending_shown :
    ([["send"], ["initial.send", "send"]].map fun declared => do
      let s ← (normalize (.obj (sendingDocument declared))).toOption
      let state ← s.states.get? "initial"
      let t ← state.actionTransitions.head?
      return (t.action, decide (s.Hidden "initial" t.action))) =
        [some ("send", false), some ("send", true)] := by
  decide +kernel

/-- The short key of an action that a state takes leads back to it exactly if no other action hides
it, and of two actions that lead back neither has the short key of the other. An action that hides
one is declared or coined by some other state. -/
theorem short_keys_lead_back (h : normalize (.obj doc) = .ok s)
    (hdeclared : Authored.actions (Assoc.get? "actions" doc) = .ok actions)
    (hstate : s.states.get? key = some state) (ht : t ∈ state.actionTransitions) :
    (s.actionKey key (shortKey key t.action) = t.action ↔ ¬ s.Hidden key t.action) ∧
      (∀ u ∈ state.actionTransitions, ¬ s.Hidden key t.action → ¬ s.Hidden key u.action →
        shortKey key t.action = shortKey key u.action → t.action = u.action) ∧
      (s.Hidden key t.action → actions.contains (scopedKey key t.action) = true ∨
        ∃ other named, other ≠ key ∧ Coins doc s other named ∧
          scopedKey key t.action = scopedKey other named) := by
  have hlinked := linked_of_normalize h
  have hback (u : ActionTransition) (hu : u ∈ state.actionTransitions) :
      s.actionKey key (shortKey key u.action) = u.action ↔ ¬ s.Hidden key u.action :=
    actionKey_shortKey_iff (hlinked.action key state hstate u hu)
  refine ⟨hback t ht, ?_, ?_⟩
  · intro u hu hshown hshown' hshort
    rw [← (hback t ht).2 hshown, hshort, (hback u hu).2 hshown']
  · obtain ⟨_, heq, ⟨n⟩⟩ := normalize_eq_ok_iff.1 h
    cases heq
    cases hdeclared.symm.trans n.actions_read
    exact n.hider hstate ht

/-- The name of the only way to send leads back to it. -/
theorem sending_leads_back :
    ∃ s, normalize (.obj (sendingDocument ["send"])) = .ok s ∧
      s.actionKey "initial" (shortKey "initial" "send") = "send" := by
  obtain ⟨hshown, -⟩ := List.cons.inj sending_shown
  simp only [Option.bind_eq_bind, Option.bind_eq_some_iff, toOption_eq_some_iff] at hshown
  obtain ⟨s, hs, state, hstate, t, ht, heq⟩ := hshown
  obtain ⟨haction, hfree⟩ := Prod.mk.inj (Option.some.inj heq)
  obtain ⟨hback, -⟩ := short_keys_lead_back hs rfl hstate (List.mem_of_head? ht)
  have hsend := hback.2 (of_decide_eq_false hfree)
  rw [haction] at hsend
  exact ⟨s, hs, hsend⟩

/-- Of two ways to send, the name of the shared one, which the state takes, leads to the other. -/
theorem sending_leads_astray :
    ∃ s state, normalize (.obj (sendingDocument ["initial.send", "send"])) = .ok s ∧
      s.states.get? "initial" = some state ∧ ∃ t ∈ state.actionTransitions,
        s.actionKey "initial" (shortKey "initial" t.action) ≠ t.action := by
  obtain ⟨-, hrest⟩ := List.cons.inj sending_shown
  have hshown := (List.cons.inj hrest).1
  simp only [Option.bind_eq_bind, Option.bind_eq_some_iff, toOption_eq_some_iff] at hshown
  obtain ⟨s, hs, state, hstate, t, ht, heq⟩ := hshown
  obtain ⟨-, hhidden⟩ := Prod.mk.inj (Option.some.inj heq)
  have hmem := List.mem_of_head? ht
  have hthere := (linked_of_normalize hs).action _ _ hstate t hmem
  refine ⟨s, state, hs, hstate, t, hmem, ?_⟩
  rw [Ne, actionKey_shortKey_iff hthere, not_not]
  exact of_decide_eq_true hhidden

end Caseflow.Scenario
