import Caseflow.Proofs.Case.Reachable

/-!
# The order of offers

Several transitions of a state may take one action, under guards of their own. A closed one does not
hide the action from a later one that is open, and of several open ones the first decides where the
action is listed.
-/
namespace Caseflow.Case

open Scenario Time

variable {regex : Regex.Engine} {s : Scenario} {ctx : Json} {key : String}
  {past rest : List ActionTransition} {offers shown : List Offer}

/-- The transition at position `i` is the first open one of those with the short key. -/
structure FirstOpen (regex : Regex.Engine) (s : Scenario) (key : String) (ctx : Json)
    (ts : List ActionTransition) (action : String) (i : Nat) : Prop where
  is_open : ∃ t, ts[i]? = some t ∧ shortKey key t.action = action ∧ Opens regex s ctx t
  none_before : ∀ j < i, ∀ t, ts[j]? = some t → shortKey key t.action = action →
    ¬ Opens regex s ctx t

theorem FirstOpen.append {action : String} {i : Nat} (h : FirstOpen regex s key ctx past action i)
    (rest : List ActionTransition) : FirstOpen regex s key ctx (past ++ rest) action i := by
  obtain ⟨t, ht, hopen⟩ := h.is_open
  have hi : i < past.length := (List.getElem?_eq_some_iff.1 ht).1
  refine ⟨⟨t, by rw [List.getElem?_append_left hi, ht], hopen⟩, fun j hj u hu => ?_⟩
  rw [List.getElem?_append_left (Nat.lt_trans hj hi)] at hu
  exact h.none_before j hj u hu

/-- What has been passed shows in the offers: all that is open is listed, each action where its
first open transition stands. -/
structure Listing (regex : Regex.Engine) (s : Scenario) (key : String) (ctx : Json)
    (past : List ActionTransition) (offers : List Offer) : Prop where
  lists : ∀ t ∈ past, Opens regex s ctx t → shortKey key t.action ∈ offers.map (·.key)
  placed : ∀ offer ∈ offers, ∃ i, FirstOpen regex s key ctx past offer.key i
  ordered : offers.Pairwise fun a b => ∃ i j, i < j ∧ FirstOpen regex s key ctx past a.key i ∧
    FirstOpen regex s key ctx past b.key j

theorem Listing.pass {t : ActionTransition} (h : Listing regex s key ctx past offers)
    (ht : Opens regex s ctx t → shortKey key t.action ∈ offers.map (·.key)) :
    Listing regex s key ctx (past ++ [t]) offers := by
  refine ⟨fun u hu => ?_, fun offer hoffer => ?_, h.ordered.imp ?_⟩
  · obtain hold | hnew := List.mem_append.1 hu
    · exact h.lists u hold
    · obtain rfl := List.mem_singleton.1 hnew
      exact ht
  · obtain ⟨i, hi⟩ := h.placed offer hoffer
    exact ⟨i, hi.append [t]⟩
  · rintro a b ⟨i, j, hlt, hi, hj⟩
    exact ⟨i, j, hlt, hi.append [t], hj.append [t]⟩

/-- The first open transition on an action lists it last. -/
theorem Listing.add {t : ActionTransition} {offer : Offer} (h : Listing regex s key ctx past offers)
    (hoffer : offerOf? regex s key ctx t = .ok (some offer))
    (hnew : shortKey key t.action ∉ offers.map (·.key)) :
    Listing regex s key ctx (past ++ [t]) (offers ++ [offer]) := by
  have hkey := key_of_offerOf? hoffer
  have hfirst : FirstOpen regex s key ctx (past ++ [t]) offer.key past.length := by
    refine ⟨⟨t, List.getElem?_concat_length, hkey.symm, (opens_iff_offerOf? key).2 ⟨offer, hoffer⟩⟩,
      fun j hj u hu hsame hopen => hnew ?_⟩
    rw [List.getElem?_append_left hj] at hu
    rw [← hkey, ← hsame]
    exact h.lists u (List.mem_of_getElem? hu) hopen
  refine ⟨fun u hu hopen => ?_, fun a ha => ?_, ?_⟩
  · rw [List.map_append, List.mem_append]
    obtain hold | hlast := List.mem_append.1 hu
    · exact .inl (h.lists u hold hopen)
    · obtain rfl := List.mem_singleton.1 hlast
      exact .inr (List.mem_singleton.2 hkey.symm)
  · obtain hold | hlast := List.mem_append.1 ha
    · obtain ⟨i, hi⟩ := h.placed a hold
      exact ⟨i, hi.append [t]⟩
    · obtain rfl := List.mem_singleton.1 hlast
      exact ⟨past.length, hfirst⟩
  · refine List.pairwise_append.2
      ⟨h.ordered.imp ?_, List.pairwise_singleton _ _, fun a ha b hb => ?_⟩
    · rintro a b ⟨i, j, hlt, hi, hj⟩
      exact ⟨i, j, hlt, hi.append [t], hj.append [t]⟩
    · obtain rfl := List.mem_singleton.1 hb
      obtain ⟨i, hi⟩ := h.placed a ha
      obtain ⟨u, hu, -⟩ := hi.is_open
      exact ⟨i, past.length, (List.getElem?_eq_some_iff.1 hu).1, hi.append [t], hfirst⟩

/-- By induction on the transitions ahead. -/
theorem Listing.offersFrom (h : Listing regex s key ctx past offers)
    (hshown : offersFrom regex s key ctx offers rest = .ok shown) :
    Listing regex s key ctx (past ++ rest) shown := by
  induction rest generalizing past offers with
  | nil =>
    cases hshown
    rw [List.append_nil]
    exact h
  | cons t rest ih =>
    rw [List.append_cons]
    obtain ⟨hthere, hshown⟩ | ⟨hnew, found, hfound, hshown⟩ := offersFrom_cons_eq_ok hshown
    · exact ih (h.pass fun _ => hthere) hshown
    · cases found with
      | none =>
        refine ih (h.pass fun hopen => ?_) (by simpa using hshown)
        obtain ⟨offer, hoffer⟩ := (opens_iff_offerOf? key).1 hopen
        cases hfound.symm.trans hoffer
      | some offer => exact ih (h.add hfound hnew) hshown

theorem listing_nil (regex : Regex.Engine) (s : Scenario) (key : String) (ctx : Json) :
    Listing regex s key ctx [] [] :=
  ⟨nofun, nofun, .nil⟩

/-- Approval is closed at first, open later on, and stands between two ways to reject. -/
def weighingDocument : Json := .obj [("states", .obj [
  ("initial", .obj [("transitions", .arr [
    .obj [("goto", .str "(early)"), ("if", .bool false), ("on", .str "approve")],
    .obj [("goto", .str "(rejected)"), ("on", .str "reject")],
    .obj [("goto", .str "(approved)"), ("on", .str "approve")],
    .obj [("goto", .str "(late)"), ("on", .str "reject")]])])])]

def weighingEntry : Option (Scenario × Stage) := do
  let s ← (normalize weighingDocument).toOption
  let stage ← (Stage.enter Regex.linear s initialKey (.obj []) .epoch).toOption
  return (s, stage)

theorem weighing_entered :
    weighingEntry.map (fun entry => entry.2.offers.map (·.key)) = some ["reject", "approve"] := by
  decide +kernel

/-- The keys of the offers of an entered state are distinct, are those of its open transitions, and
come in the order of the first open transitions on them. -/
theorem offers_in_order {timestamp : Timestamp} {stage : Stage}
    (h : Stage.enter regex s key ctx timestamp = .ok stage) :
    ∃ state, s.states.get? key = some state ∧
      (stage.offers.map (·.key)).Nodup ∧
      (∀ action, action ∈ stage.offers.map (·.key) ↔
        ∃ t ∈ state.actionTransitions, shortKey key t.action = action ∧ Opens regex s ctx t) ∧
      stage.offers.Pairwise fun a b => ∃ i j, i < j ∧
        FirstOpen regex s key ctx state.actionTransitions a.key i ∧
        FirstOpen regex s key ctx state.actionTransitions b.key j := by
  obtain ⟨state, _, offers, _, _, _, hstate, -, hoffers, -, -, -, rfl⟩ := enter_eq_ok_iff.1 h
  have hlisting : Listing regex s key ctx state.actionTransitions offers :=
    (listing_nil regex s key ctx).offersFrom hoffers
  exact ⟨state, hstate, nodup_keys_of_enter h, fun _ => mem_keys_of_enter h hstate,
    hlisting.ordered⟩

/-- Rejection is listed before approval, whose first transition is closed. -/
theorem weighing_in_order :
    ∃ s stage state, normalize weighingDocument = .ok s ∧
      Stage.enter Regex.linear s initialKey (.obj []) .epoch = .ok stage ∧
      s.states.get? initialKey = some state ∧
      stage.offers.map (·.key) = ["reject", "approve"] ∧
      ∃ i j, i < j ∧
        FirstOpen Regex.linear s initialKey (.obj []) state.actionTransitions "reject" i ∧
        FirstOpen Regex.linear s initialKey (.obj []) state.actionTransitions "approve" j := by
  obtain ⟨⟨s, stage⟩, hentry, hkeys⟩ := Option.map_eq_some_iff.1 weighing_entered
  simp only [weighingEntry, Option.bind_eq_bind, Option.bind_eq_some_iff, toOption_eq_some_iff]
    at hentry
  obtain ⟨s, hs, stage, hstage, heq⟩ := hentry
  cases heq
  obtain ⟨state, hstate, -, -, hordered⟩ := offers_in_order hstage
  refine ⟨s, stage, state, hs, hstage, hstate, hkeys, ?_⟩
  obtain ⟨reject, others, hreject, hkey, hothers⟩ := List.map_eq_cons_iff.1 hkeys
  obtain ⟨approve, _, happrove, hkey', -⟩ := List.map_eq_cons_iff.1 hothers
  rw [hreject, happrove] at hordered
  have hfirst := List.rel_of_pairwise_cons hordered List.mem_cons_self
  rw [← hkey, ← hkey']
  exact hfirst

end Caseflow.Case
