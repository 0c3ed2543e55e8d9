import Caseflow.Text.Split

/-!
# The first occurrence of a mark

A text broken at a mark is broken at its first occurrence: there is none before it, and what stands
behind it has no part in finding it.
-/
namespace Caseflow.Text

variable {mark cs before after : List Char}

theorem isPrefixOf_append (h : mark.length ≤ cs.length) (more : List Char) :
    mark.isPrefixOf (cs ++ more) = mark.isPrefixOf cs := by
  rw [Bool.eq_iff_iff, List.isPrefixOf_iff_prefix, List.isPrefixOf_iff_prefix]
  constructor
  · intro hmark
    exact List.prefix_of_prefix_length_le hmark (List.prefix_append _ _) h
  · intro hmark
    exact hmark.trans (List.prefix_append _ _)

theorem breakAt_cons_of_not {c : Char} (h : mark.isPrefixOf (c :: cs) = false) :
    breakAt mark (c :: cs) = (breakAt mark cs).map fun p => (c :: p.1, p.2) := by
  rw [breakAt, h]
  rfl

theorem breakAt_self_append (mark rest : List Char) (h : mark ≠ []) :
    breakAt mark (mark ++ rest) = some ([], rest) := by
  obtain ⟨c, cs, rfl⟩ := List.exists_cons_of_ne_nil h
  rw [List.cons_append, breakAt, ← List.cons_append, List.drop_left,
    if_pos (List.isPrefixOf_iff_prefix.2 (List.prefix_append _ _))]

theorem breakAt_cons_eq_some {c : Char} (h : breakAt mark (c :: cs) = some (before, after)) :
    (mark <+: c :: cs ∧ before = [] ∧ c :: cs = mark ++ after) ∨
      mark.isPrefixOf (c :: cs) = false ∧
        ∃ front, breakAt mark cs = some (front, after) ∧ before = c :: front := by
  cases hmark : mark.isPrefixOf (c :: cs) with
  | true =>
    have hcs := breakAt_eq_some h
    rw [breakAt, if_pos hmark] at h
    cases h
    exact .inl ⟨List.isPrefixOf_iff_prefix.1 hmark, rfl, hcs⟩
  | false =>
    rw [breakAt_cons_of_not hmark] at h
    obtain ⟨⟨front, back⟩, hfound, heq⟩ := Option.map_eq_some_iff.1 h
    cases heq
    exact .inr ⟨rfl, front, hfound, rfl⟩

/-- What stands behind the first occurrence of a mark does not matter. -/
theorem breakAt_append (h : breakAt mark cs = some (before, after)) (hmark : mark ≠ [])
    (more : List Char) : breakAt mark (cs ++ more) = some (before, after ++ more) := by
  induction cs generalizing before with
  | nil =>
    rw [breakAt, if_neg (by simpa using hmark)] at h
    cases h
  | cons c cs ih =>
    obtain ⟨-, rfl, hcs⟩ | ⟨hnot, front, hfound, rfl⟩ := breakAt_cons_eq_some h
    · rw [hcs, List.append_assoc, breakAt_self_append mark _ hmark]
    · have hlength : mark.length ≤ (c :: cs).length := by
        rw [breakAt_eq_some hfound, List.length_cons, List.length_append, List.length_append]
        omega
      rw [List.cons_append, breakAt_cons_of_not, ih hfound, Option.map_some]
      rw [← List.cons_append, isPrefixOf_append hlength, hnot]

/-- The text up to the first occurrence of a mark, that occurrence included, has no other one. -/
theorem breakAt_before (h : breakAt mark cs = some (before, after)) (hmark : mark ≠ []) :
    breakAt mark (before ++ mark) = some (before, []) := by
  induction cs generalizing before with
  | nil =>
    rw [breakAt, if_neg (by simpa using hmark)] at h
    cases h
  | cons c cs ih =>
    obtain ⟨-, rfl, -⟩ | ⟨hnot, front, hfound, rfl⟩ := breakAt_cons_eq_some h
    · simpa using breakAt_self_append mark [] hmark
    · have hlength : mark.length ≤ (c :: (front ++ mark)).length := by
        rw [List.length_cons, List.length_append]
        omega
      rw [List.cons_append, breakAt_cons_of_not, ih hfound, Option.map_some]
      rw [← isPrefixOf_append hlength after, List.cons_append, List.append_assoc,
        ← breakAt_eq_some hfound, hnot]

/-- Before its first occurrence there is no occurrence. -/
theorem breakAt_front (h : breakAt mark cs = some (before, after)) (hmark : mark ≠ []) :
    breakAt mark before = none := by
  induction cs generalizing before with
  | nil =>
    rw [breakAt, if_neg (by simpa using hmark)] at h
    cases h
  | cons c cs ih =>
    obtain ⟨-, rfl, -⟩ | ⟨hnot, front, hfound, rfl⟩ := breakAt_cons_eq_some h
    · rw [breakAt, if_neg (by simpa using hmark)]
    · rw [breakAt_cons_of_not, ih hfound, Option.map_none]
      rw [Bool.eq_false_iff, ne_eq, List.isPrefixOf_iff_prefix] at hnot ⊢
      intro hfront
      refine hnot (hfront.trans ?_)
      rw [breakAt_eq_some hfound]
      exact ⟨mark ++ after, rfl⟩

theorem breakAt_eq_none (h : ¬ mark <:+: cs) : breakAt mark cs = none := by
  cases hbreak : breakAt mark cs with
  | none => rfl
  | some p => exact absurd ⟨p.1, p.2, by rw [breakAt_eq_some hbreak, List.append_assoc]⟩ h

/-- A mark is found where its first character occurs first. -/
theorem breakAt_of_not_mem {c : Char} (h : c ∉ before) (mark after : List Char) :
    breakAt (c :: mark) (before ++ (c :: mark ++ after)) = some (before, after) := by
  induction before with
  | nil => exact breakAt_self_append _ _ (List.cons_ne_nil _ _)
  | cons d before ih =>
    rw [List.mem_cons, not_or] at h
    have hnot : (c :: mark).isPrefixOf (d :: (before ++ (c :: mark ++ after))) = false := by
      rw [List.isPrefixOf_cons_cons, beq_eq_false_iff_ne.2 h.1, Bool.false_and]
    rw [List.cons_append, breakAt_cons_of_not hnot, ih h.2, Option.map_some]

end Caseflow.Text
