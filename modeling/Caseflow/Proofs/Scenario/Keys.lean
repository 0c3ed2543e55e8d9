import Caseflow.Scenario.Basic

/-!
# Keys of actions

A state names an action of its own without the state's name. Names of states may have dots in them
too, so the same key can be read as that of two states; then the name of one begins with the name of
the other and a dot.
-/
namespace Caseflow.Scenario

theorem eq_or_eq_scopedKey (state key : String) :
    key = shortKey state key ∨ key = scopedKey state (shortKey state key) := by
  unfold shortKey
  cases h : Text.after? (state ++ ".") key with
  | none => exact .inl rfl
  | some rest => exact .inr (Text.after?_eq_some_iff.1 h)

theorem after?_scopedKey (state action : String) :
    Text.after? (state ++ ".") (scopedKey state action) = some action :=
  Text.after?_eq_some_iff.2 rfl

theorem shortKey_scopedKey (state action : String) :
    shortKey state (scopedKey state action) = action := by
  rw [shortKey, after?_scopedKey, Option.getD_some]

theorem scopedKey_inj {state a b : String} : scopedKey state a = scopedKey state b ↔ a = b := by
  constructor
  · intro h
    rw [← shortKey_scopedKey state a, h, shortKey_scopedKey]
  · exact congrArg _

theorem ne_scopedKey (state action : String) : action ≠ scopedKey state action := by
  intro h
  have hlength := congrArg String.length h
  rw [scopedKey, String.length_append, String.length_append] at hlength
  have hdot : ".".length = 1 := rfl
  omega

theorem toList_scopedKey (state action : String) :
    (scopedKey state action).toList = state.toList ++ '.' :: action.toList := by
  rw [scopedKey, String.toList_append, String.toList_append, List.append_assoc]
  rfl

theorem eq_or_exists_rest {k l a b : String} {between : List Char}
    (hl : l.toList = k.toList ++ between) (ha : '.' :: a.toList = between ++ '.' :: b.toList) :
    (k = l ∧ a = b) ∨ ∃ rest, l = scopedKey k rest ∧ a = scopedKey rest b := by
  cases between with
  | nil =>
    rw [List.append_nil] at hl
    exact .inl ⟨String.toList_inj.1 hl.symm, String.toList_inj.1 (List.cons.inj ha).2⟩
  | cons c rest =>
    obtain ⟨rfl, hrest⟩ := List.cons.inj ha
    refine .inr ⟨String.ofList rest, ?_, ?_⟩
    · rw [← String.toList_inj, toList_scopedKey, String.toList_ofList, hl]
    · rw [← String.toList_inj, toList_scopedKey, String.toList_ofList]
      exact hrest

/-- The keys of two states are the same only if they are written the same, or if the name of one
state goes on where that of the other ends. -/
theorem scopedKey_eq_scopedKey_iff {k l a b : String} :
    scopedKey k a = scopedKey l b ↔ (k = l ∧ a = b) ∨
      (∃ rest, l = scopedKey k rest ∧ a = scopedKey rest b) ∨
      ∃ rest, k = scopedKey l rest ∧ b = scopedKey rest a := by
  constructor
  · intro h
    rw [← String.toList_inj, toList_scopedKey, toList_scopedKey, List.append_eq_append_iff] at h
    obtain ⟨between, hl, ha⟩ | ⟨between, hk, hb⟩ := h
    · exact (eq_or_exists_rest hl ha).imp_right .inl
    · obtain ⟨rfl, rfl⟩ | hrest := eq_or_exists_rest hk hb
      · exact .inl ⟨rfl, rfl⟩
      · exact .inr (.inr hrest)
  · rintro (⟨rfl, rfl⟩ | ⟨rest, rfl, rfl⟩ | ⟨rest, rfl, rfl⟩)
    · rfl
    · simp only [scopedKey, String.append_assoc]
    · simp only [scopedKey, String.append_assoc]

end Caseflow.Scenario
