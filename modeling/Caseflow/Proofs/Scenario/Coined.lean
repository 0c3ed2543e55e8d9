import Caseflow.Proofs.Scenario.Settled
import Mathlib.Data.List.Basic

/-!
# Which actions are coined

States are settled in the order of their keys, and an action that one of them coins is there for all
after it. So a state coins an action for a target unless the target is declared or is the key of an
action that an earlier state coins; and of states that coin the same key, the last one makes the
action. Under the key of a declared action nothing is coined, so this one stays as it is declared.
-/
namespace Caseflow.Scenario

variable {s : Scenario} {document : Json} {doc : Fields} {key k target : String}
  {declared explicit : List String} {actions after : Dict Action} {ended : Dict State}
  {entries more : List (String × AuthoredState)} {settled : List (String × State)}
  {authored : AuthoredState} {ts : List Trigger}

theorem keys_settled
    (h : normalizeStates declared explicit actions entries = .ok (settled, after)) :
    settled.map Prod.fst = entries.map Prod.fst := by
  induction entries generalizing actions settled with
  | nil =>
    cases h
    rfl
  | cons p rest ih =>
    obtain ⟨⟨state, between⟩, -, h⟩ := bind_eq_ok_iff.1 h
    obtain ⟨⟨others, last⟩, hothers, h⟩ := bind_eq_ok_iff.1 h
    cases h
    rw [List.map_cons, List.map_cons, ih hothers]

theorem normalizeStates_append
    (h : normalizeStates declared explicit actions (entries ++ more) = .ok (settled, after)) :
    ∃ first last between, normalizeStates declared explicit actions entries = .ok (first, between) ∧
      normalizeStates declared explicit between more = .ok (last, after) ∧
      settled = first ++ last := by
  induction entries generalizing actions settled with
  | nil => exact ⟨[], settled, actions, rfl, h, rfl⟩
  | cons p rest ih =>
    obtain ⟨⟨state, next⟩, hstate, h⟩ := bind_eq_ok_iff.1 h
    obtain ⟨⟨others, _⟩, hothers, h⟩ := bind_eq_ok_iff.1 h
    cases h
    obtain ⟨first, last, between, hfirst, hlast, rfl⟩ := ih hothers
    refine ⟨(p.1, state) :: first, last, between, ?_, hlast, rfl⟩
    exact bind_eq_ok_iff.2 ⟨_, hstate, bind_eq_ok_iff.2 ⟨_, hfirst, rfl⟩⟩

/-- An authored state coins an action in what it becomes among the states at the end. -/
def CoinsIn (ended : Dict State) (p : String × AuthoredState) (target : String) : Prop :=
  ∃ state, ended.get? p.1 = some state ∧ State.Coins p.1 p.2 state target

/-- After a run over states there are the actions from before it and those that the states coin. -/
theorem contains_settled_iff
    (h : normalizeStates declared explicit actions entries = .ok (settled, after))
    (hended : ∀ p ∈ settled, ended.get? p.1 = some p.2) :
    after.contains k = true ↔ actions.contains k = true ∨
      ∃ p ∈ entries, ∃ target, CoinsIn ended p target ∧ k = scopedKey p.1 target := by
  induction entries generalizing actions settled with
  | nil =>
    cases h
    simp
  | cons p rest ih =>
    obtain ⟨⟨state, between⟩, hstate, h⟩ := bind_eq_ok_iff.1 h
    obtain ⟨⟨others, _⟩, hothers, h⟩ := bind_eq_ok_iff.1 h
    cases h
    obtain ⟨t⟩ := normalizeState_eq_ok_iff.1 hstate
    obtain ⟨hfirst, hrest⟩ := List.forall_mem_cons.1 hended
    have hcoins (target : String) : CoinsIn ended p target ↔ State.Coins p.1 p.2 state target := by
      simp [CoinsIn, hfirst]
    rw [ih hothers hrest, t.contains_after_iff, List.exists_mem_cons_iff, or_assoc]
    simp only [hcoins]

theorem get?_settled
    (h : normalizeStates declared explicit actions entries = .ok (settled, after))
    (hended : ∀ p ∈ settled, ended.get? p.1 = some p.2)
    (hk : ∀ p ∈ entries, ∀ target, CoinsIn ended p target → scopedKey p.1 target ≠ k) :
    after.get? k = actions.get? k := by
  induction entries generalizing actions settled with
  | nil =>
    cases h
    rfl
  | cons p rest ih =>
    obtain ⟨⟨state, between⟩, hstate, h⟩ := bind_eq_ok_iff.1 h
    obtain ⟨⟨others, _⟩, hothers, h⟩ := bind_eq_ok_iff.1 h
    cases h
    obtain ⟨t⟩ := normalizeState_eq_ok_iff.1 hstate
    obtain ⟨hfirst, hrest⟩ := List.forall_mem_cons.1 hended
    obtain ⟨hkfirst, hkrest⟩ := List.forall_mem_cons.1 hk
    rw [ih hothers hrest hkrest, t.get?_of_not_coins]
    intro target hcoins
    exact hkfirst target ⟨state, hfirst, hcoins⟩

theorem get?_addEndStates {states : Dict State} {pairs : List (String × String)} {state : State}
    (h : addEndStates states pairs = .ok ended) (hstate : states.get? k = some state) :
    ended.get? k = some state := by
  induction pairs generalizing states with
  | nil =>
    cases h
    exact hstate
  | cons p rest ih =>
    unfold addEndStates at h
    split at h
    · exact ih h hstate
    · rename_i hnew
      split at h
      · refine ih h ?_
        rw [Dict.get?_insert, if_neg, hstate]
        rintro rfl
        exact hnew (Dict.contains_iff.2 ⟨state, hstate⟩)
      · cases h

/-- In place of a target that it names, a state of a document takes an action of its own. -/
def Coins (doc : Fields) (s : Scenario) (key target : String) : Prop :=
  ∃ states authored, AuthoredState.readAll (Assoc.get? "states" doc) = .ok states ∧
    states.get? key = some authored ∧ CoinsIn s.states (key, authored) target

/-- A state before one, in the order of keys, coins an action under a key. -/
def CoinedBefore (doc : Fields) (s : Scenario) (key k : String) : Prop :=
  ∃ other named, other < key ∧ Coins doc s other named ∧ k = scopedKey other named

/-- A state after one coins an action under a key. -/
def CoinedAfter (doc : Fields) (s : Scenario) (key k : String) : Prop :=
  ∃ other named, key < other ∧ Coins doc s other named ∧ k = scopedKey other named

namespace Normalization

variable (n : Normalization doc s)

include n

theorem get?_of_mem_settled : ∀ p ∈ n.settled, s.states.get? p.1 = some p.2 := by
  have hascend : KeysAscend n.settled :=
    Assoc.keysAscend_of_keys (keys_settled n.states_settled) n.authored.ascend
  intro p hp
  apply get?_addEndStates n.states_ended
  rw [Dict.get?, Dict.entries_ofList hascend]
  exact (Assoc.get?_eq_some_iff_mem hascend).2 hp

theorem coins_iff_mem : Coins doc s key target ↔
    ∃ authored, (key, authored) ∈ n.authored.entries ∧ CoinsIn s.states (key, authored) target := by
  unfold Coins
  simp only [n.states_read, Except.ok.injEq, exists_and_left, exists_eq_left', Dict.mem_entries_iff]

theorem coins_iff {state : State} (hauthored : n.authored.get? key = some authored)
    (hstate : s.states.get? key = some state) :
    Coins doc s key target ↔ State.Coins key authored state target := by
  simp only [n.coins_iff_mem, CoinsIn, Dict.mem_entries_iff, hauthored, hstate, Option.some.injEq,
    exists_eq_left']

/-- The states before one are those that are settled before it. -/
theorem coinedBefore_iff
    (hentries : n.authored.entries = entries ++ (key, authored) :: more) :
    CoinedBefore doc s key k ↔
      ∃ p ∈ entries, ∃ named, CoinsIn s.states p named ∧ k = scopedKey p.1 named := by
  have hascend := n.authored.ascend
  rw [hentries] at hascend
  obtain ⟨hbelow, habove⟩ := Assoc.ascend_split hascend
  simp only [CoinedBefore, n.coins_iff_mem, hentries, List.mem_append, List.mem_cons]
  constructor
  · rintro ⟨other, named, hless, ⟨a, hmem | heq | hmem, hcoins⟩, hk⟩
    · exact ⟨_, hmem, named, hcoins, hk⟩
    · rw [(Prod.mk.inj heq).1] at hless
      exact absurd hless Std.lt_irrefl
    · exact absurd (String.lt_trans hless (habove _ hmem)) Std.lt_irrefl
  · rintro ⟨p, hmem, named, hcoins, hk⟩
    exact ⟨p.1, named, hbelow p hmem, ⟨p.2, .inl hmem, hcoins⟩, hk⟩

/-- How normalizing comes to a state, and how it goes on from there. -/
theorem exists_settlement (h : n.authored.get? key = some authored) :
    ∃ state before between, s.states.get? key = some state ∧
      Nonempty (Settlement key s.actors.keys n.declared.keys before authored state between) ∧
      (∀ k, before.contains k = true ↔
        n.declared.contains k = true ∨ CoinedBefore doc s key k) ∧
      ∀ k, ¬ CoinedAfter doc s key k → s.actions.get? k = between.get? k := by
  obtain ⟨earlier, later, hentries⟩ := List.mem_iff_append.1 (Dict.mem_entries_iff.2 h)
  have hrun := n.states_settled
  rw [hentries] at hrun
  obtain ⟨first, rest, before, hfirst, hrest, hsettled⟩ := normalizeStates_append hrun
  obtain ⟨⟨state, between⟩, hstate, hlast⟩ := bind_eq_ok_iff.1 hrest
  obtain ⟨⟨last, _⟩, hlast, heq⟩ := bind_eq_ok_iff.1 hlast
  cases heq
  obtain ⟨t⟩ := normalizeState_eq_ok_iff.1 hstate
  have hends := n.get?_of_mem_settled
  rw [hsettled, List.forall_mem_append, List.forall_mem_cons] at hends
  obtain ⟨hended, hthis, hlater⟩ := hends
  have hascend := n.authored.ascend
  rw [hentries] at hascend
  obtain ⟨-, habove⟩ := Assoc.ascend_split hascend
  refine ⟨state, before, between, hthis, ⟨t⟩, ?_, ?_⟩
  · intro k
    rw [contains_settled_iff hfirst hended, n.coinedBefore_iff hentries]
  · intro k hk
    refine get?_settled hlast hlater ?_
    intro q hq named hcoins
    rintro rfl
    have hmem : (q.1, q.2) ∈ n.authored.entries := by
      rw [hentries]
      exact List.mem_append_right _ (List.mem_cons_of_mem _ hq)
    exact hk ⟨q.1, named, habove q hq, n.coins_iff_mem.2 ⟨q.2, hmem, hcoins⟩, rfl⟩

/-- The actions of the result are the declared ones and those that states coin. -/
theorem contains_actions_iff : s.actions.contains k = true ↔ n.declared.contains k = true ∨
    ∃ key target, Coins doc s key target ∧ k = scopedKey key target := by
  rw [contains_settled_iff n.states_settled n.get?_of_mem_settled]
  refine or_congr_right ⟨?_, ?_⟩
  · rintro ⟨q, hq, target, hcoins, hk⟩
    exact ⟨q.1, target, n.coins_iff_mem.2 ⟨q.2, hq, hcoins⟩, hk⟩
  · rintro ⟨key, target, hcoins, hk⟩
    obtain ⟨authored, hmem, hcoins⟩ := n.coins_iff_mem.1 hcoins
    exact ⟨_, hmem, target, hcoins, hk⟩

end Normalization

theorem mem_keys_of_coins {states : Dict AuthoredState}
    (hstates : AuthoredState.readAll (Assoc.get? "states" doc) = .ok states)
    (h : Coins doc s key target) : key ∈ states.keys := by
  obtain ⟨_, authored, hread, hauthored, -⟩ := h
  cases hstates.symm.trans hread
  exact List.mem_map_of_mem (Dict.mem_entries_iff.2 hauthored)

/-- A client signs alone, or together with a service. -/
def signingDocument : Fields := [
  ("actors", .obj [("client", .null), ("supplier", .null)]),
  ("states", .obj [("initial", .obj [("transitions", .arr [
    .obj [("by", .str "client"), ("goto", .str "(signed)"), ("on", .str "sign")],
    .obj [("by", .arr [.str "service:docs", .str "client"]), ("goto", .str "(signed)"),
      ("on", .str "sign")]])])])]

theorem signing_shown : (do
    let s ← (normalize (.obj signingDocument)).toOption
    let states ← (AuthoredState.readAll (Assoc.get? "states" signingDocument)).toOption
    let authored ← states.get? "initial"
    let ts ← (authored.triggers "initial").toOption
    return (states.keys, ts, s.actors.keys)) =
      some (["initial"], [.on "sign" (some ["client"]),
        .on "sign" (some ["service:docs", "client"])], ["client", "supplier"]) := by
  decide +kernel

/-- The second of two states names the action that the first one coins. -/
def chainedDocument : Fields := [("states", .obj [
  ("initial", .obj [("goto", .str "second"), ("on", .str "complete")]),
  ("second", .obj [("goto", .str "(done)"), ("on", .str "initial.complete")])])]

theorem chained_shown : (do
    let s ← (normalize (.obj chainedDocument)).toOption
    let state ← s.states.get? "second"
    return (state.triggers, s.actions.contains (scopedKey "second" "initial.complete"))) =
      some ([.on "initial.complete" none], false) := by
  decide +kernel

/-- On a target that is not declared, a state takes an action that it coins, unless the target is
the key of an action that a state before it coins; then it takes that. What it coins is open to all
that its transitions on the target admit together, unless a state after it coins an action under the
same key. Two states do so only if the name of one goes on where that of the other ends. -/
theorem coined_actions {states : Dict AuthoredState} (h : normalize (.obj doc) = .ok s)
    (hdeclared : Authored.actions (Assoc.get? "actions" doc) = .ok actions)
    (hstates : AuthoredState.readAll (Assoc.get? "states" doc) = .ok states)
    (hauthored : states.get? key = some authored) :
    ∃ (ts : List Trigger) (state : State), authored.triggers key = .ok ts ∧
      s.states.get? key = some state ∧
      ∀ target filter, .on target filter ∈ ts → actions.contains target = false →
        (CoinedBefore doc s key target → ¬ Coins doc s key target ∧ state.Takes ts target target) ∧
        (¬ CoinedBefore doc s key target →
          Coins doc s key target ∧ state.Takes ts target (scopedKey key target) ∧
          (¬ CoinedAfter doc s key (scopedKey key target) →
            s.actions.get? (scopedKey key target) =
              some (coinedAction s.actors.keys target ts)) ∧
          ∀ other named, Coins doc s other named → scopedKey key target = scopedKey other named →
            key = other ∧ target = named ∨
              (∃ rest, other = scopedKey key rest ∧ target = scopedKey rest named) ∨
              ∃ rest, key = scopedKey other rest ∧ named = scopedKey rest target) := by
  obtain ⟨_, heq, ⟨n⟩⟩ := normalize_eq_ok_iff.1 h
  cases heq
  cases hdeclared.symm.trans n.actions_read
  cases hstates.symm.trans n.states_read
  obtain ⟨state, before, between, hstate, ⟨t⟩, hbefore, hlater⟩ := n.exists_settlement hauthored
  obtain ⟨ts, hread, -⟩ := t.exists_triggers
  refine ⟨ts, state, hread, hstate, ?_⟩
  intro target filter hnamed hnew
  have hknown : before.contains target = true ↔ CoinedBefore doc s key target := by
    rw [hbefore, or_iff_right (by simp [hnew])]
  have hcoins : Coins doc s key target ↔ ¬ CoinedBefore doc s key target := by
    rw [← hknown, Bool.not_eq_true, n.coins_iff hauthored hstate, t.coins_iff hread]
    exact and_iff_right ⟨filter, hnamed⟩
  have htakes := t.takes hread target
  constructor
  · intro hcoined
    rw [if_pos (hknown.2 hcoined)] at htakes
    exact ⟨fun h => hcoins.1 h hcoined, htakes⟩
  · intro hfree
    rw [if_neg (mt hknown.1 hfree)] at htakes
    refine ⟨hcoins.2 hfree, htakes, ?_, ?_⟩
    · intro hlast
      rw [hlater _ hlast]
      exact t.get?_of_coins hread ((n.coins_iff hauthored hstate).1 (hcoins.2 hfree))
    · intro other named _ hsame
      exact scopedKey_eq_scopedKey_iff.1 hsame

/-- The action that is coined for signing is open to the client and the service, once each. -/
theorem signing_coined :
    ∃ s, normalize (.obj signingDocument) = .ok s ∧ s.actions.get? "initial.sign" =
      some ⟨"sign", "", ["client", "service:docs"], .bool true, .obj [], []⟩ := by
  have hshown := signing_shown
  simp only [Option.bind_eq_bind, Option.bind_eq_some_iff, toOption_eq_some_iff] at hshown
  obtain ⟨s, hs, states, hstates, authored, hauthored, ts, hread, heq⟩ := hshown
  obtain ⟨hkeys, hrest⟩ := Prod.mk.inj (Option.some.inj heq)
  obtain ⟨rfl, hactors⟩ := Prod.mk.inj hrest
  obtain ⟨_, state, hwritten, -, hall⟩ := coined_actions hs rfl hstates hauthored
  cases hread.symm.trans hwritten
  have hsole {other named : String} (h : Coins signingDocument s other named) :
      other = "initial" := by
    have hmem := mem_keys_of_coins hstates h
    rwa [hkeys, List.mem_singleton] at hmem
  have hfirst : ¬ CoinedBefore signingDocument s "initial" "sign" := by
    rintro ⟨other, named, hless, hcoins, -⟩
    exact Std.lt_irrefl (hsole hcoins ▸ hless)
  have hlast : ¬ CoinedAfter signingDocument s "initial" (scopedKey "initial" "sign") := by
    rintro ⟨other, named, hless, hcoins, -⟩
    exact Std.lt_irrefl (hsole hcoins ▸ hless)
  obtain ⟨-, hcoined⟩ := hall "sign" (some ["client"]) List.mem_cons_self rfl
  obtain ⟨-, -, hget, -⟩ := hcoined hfirst
  have hget := hget hlast
  rw [hactors] at hget
  exact ⟨s, hs, hget⟩

/-- The second state takes the action of the first one and coins none, though its target is not
declared. -/
theorem chained_not_coined :
    ∃ s state, normalize (.obj chainedDocument) = .ok s ∧
      Authored.actions (Assoc.get? "actions" chainedDocument) = .ok .empty ∧
      s.states.get? "second" = some state ∧ state.triggers = [.on "initial.complete" none] ∧
      s.actions.contains (scopedKey "second" "initial.complete") = false := by
  have hshown := chained_shown
  simp only [Option.bind_eq_bind, Option.bind_eq_some_iff, toOption_eq_some_iff] at hshown
  obtain ⟨s, hs, state, hstate, heq⟩ := hshown
  obtain ⟨htriggers, hnone⟩ := Prod.mk.inj (Option.some.inj heq)
  exact ⟨s, state, hs, rfl, hstate, htriggers, hnone⟩

end Caseflow.Scenario
