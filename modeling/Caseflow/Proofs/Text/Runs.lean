import Caseflow.Text.Blank

/-!
# Runs of characters

A run goes up to the first character of another class. Cutting the blanks off a text leaves what
stands between the blank runs at its ends.
-/
namespace Caseflow.Text

variable {p : Char → Bool} {run rest lead body trail : List Char}

theorem takeWhile_run (hrun : ∀ c ∈ run, p c = true) (hrest : ∀ c ∈ rest.head?, p c = false) :
    (run ++ rest).takeWhile p = run := by
  have hstop : rest.takeWhile p = [] := by
    cases rest with
    | nil => rfl
    | cons c rest => simp [hrest c rfl]
  rw [List.takeWhile_append_of_pos hrun, hstop, List.append_nil]

theorem dropWhile_run (hrun : ∀ c ∈ run, p c = true) (hrest : ∀ c ∈ rest.head?, p c = false) :
    (run ++ rest).dropWhile p = rest := by
  rw [List.dropWhile_append_of_pos hrun]
  cases rest with
  | nil => rfl
  | cons c rest => simp [hrest c rfl]

theorem exists_run (p : Char → Bool) (cs : List Char) :
    ∃ run rest, cs = run ++ rest ∧ (∀ c ∈ run, p c = true) ∧ ∀ c ∈ rest.head?, p c = false := by
  refine ⟨cs.takeWhile p, cs.dropWhile p, List.takeWhile_append_dropWhile.symm,
    List.all_eq_true.1 List.all_takeWhile, fun c hc => ?_⟩
  have hstop := List.head?_dropWhile_not p cs
  rw [Option.mem_def.1 hc] at hstop
  exact hstop

theorem trimChars_append (hlead : ∀ c ∈ lead, isBlank c = true)
    (htrail : ∀ c ∈ trail, isBlank c = true) (hhead : ∀ c ∈ body.head?, isBlank c = false)
    (hlast : ∀ c ∈ body.getLast?, isBlank c = false) (hbody : body ≠ []) :
    trimChars (lead ++ body ++ trail) = body := by
  have hfront : ∀ c ∈ (body ++ trail).head?, isBlank c = false := by
    obtain ⟨c, cs, rfl⟩ := List.exists_cons_of_ne_nil hbody
    exact hhead
  rw [trimChars, List.append_assoc, dropWhile_run hlead hfront, List.reverse_append,
    dropWhile_run, List.reverse_reverse]
  · exact fun c hc => htrail c (List.mem_reverse.1 hc)
  · rw [List.head?_reverse]
    exact hlast

theorem exists_trimChars (cs : List Char) :
    ∃ lead trail, cs = lead ++ trimChars cs ++ trail ∧ (∀ c ∈ lead, isBlank c = true) ∧
      ∀ c ∈ trail, isBlank c = true := by
  obtain ⟨lead, body, rfl, hlead, hbody⟩ := exists_run isBlank cs
  obtain ⟨trail, kept, hkept, htrail, hrest⟩ := exists_run isBlank body.reverse
  refine ⟨lead, trail.reverse, ?_, hlead, fun c hc => htrail c (List.mem_reverse.1 hc)⟩
  rw [trimChars, dropWhile_run hlead hbody, hkept, dropWhile_run htrail hrest, List.append_assoc,
    ← List.reverse_append, ← hkept, List.reverse_reverse]

theorem trimChars_append_of_blank (hlead : ∀ c ∈ lead, isBlank c = true) (cs : List Char) :
    trimChars (lead ++ cs) = trimChars cs := by
  rw [trimChars, List.dropWhile_append_of_pos hlead, trimChars]

/-- A trimmed text does not end with a blank. -/
theorem isBlank_getLast?_trimChars (cs : List Char) :
    ∀ c ∈ (trimChars cs).getLast?, isBlank c = false := by
  intro c hc
  have hstop := List.head?_dropWhile_not isBlank (cs.dropWhile isBlank).reverse
  rw [trimChars, List.getLast?_reverse, Option.mem_def] at hc
  rw [hc] at hstop
  exact hstop

/-- A text is trimmed if it begins with no blank and ends with a trimmed text. -/
theorem trimChars_cons_append {c : Char} (hc : isBlank c = false) (cs : List Char)
    (hbody : trimChars body = body) (hne : body ≠ []) :
    trimChars (c :: (cs ++ body)) = c :: (cs ++ body) := by
  have hlast : ∀ d ∈ (c :: (cs ++ body)).getLast?, isBlank d = false := by
    intro d hd
    rw [Option.mem_def, ← List.cons_append, List.getLast?_append,
      List.getLast?_eq_some_getLast hne, Option.some_or, ← List.getLast?_eq_some_getLast hne,
      ← hbody] at hd
    exact isBlank_getLast?_trimChars body d hd
  have hhead : ∀ d ∈ (c :: (cs ++ body)).head?, isBlank d = false := by
    rintro d ⟨⟩
    exact hc
  simpa using @trimChars_append [] (c :: (cs ++ body)) [] nofun nofun hhead hlast
    (List.cons_ne_nil _ _)

end Caseflow.Text
