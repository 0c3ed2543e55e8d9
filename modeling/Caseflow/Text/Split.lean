/-!
# Cutting texts at separators

Cutting at every occurrence of a character, which always leaves at least one piece, and at the first
occurrence of a text.
-/
namespace Caseflow.Text

def splitChars (separator : Char) : List Char → List (List Char)
  | [] => [[]]
  | c :: cs =>
    if c = separator then [] :: splitChars separator cs
    else
      match splitChars separator cs with
      | [] => [[c]]
      | piece :: pieces => (c :: piece) :: pieces

def split (separator : Char) (s : String) : List String :=
  (splitChars separator s.toList).map String.ofList

theorem splitChars_ne_nil (separator : Char) (cs : List Char) : splitChars separator cs ≠ [] := by
  cases cs with
  | nil => simp [splitChars]
  | cons c cs =>
    simp only [splitChars]
    split
    · simp
    · split <;> simp

/-- A separator is a cut, whatever stands before it. -/
theorem splitChars_append_cons (separator : Char) (lead rest : List Char) :
    splitChars separator (lead ++ separator :: rest) =
      splitChars separator lead ++ splitChars separator rest := by
  induction lead with
  | nil => exact if_pos rfl
  | cons c lead ih =>
    rw [List.cons_append, splitChars, splitChars, ih]
    split
    · rfl
    · cases hlead : splitChars separator lead with
      | nil => exact absurd hlead (splitChars_ne_nil separator lead)
      | cons piece pieces => rfl

/-- What follows a leading text, if the text starts with it. -/
def after? (lead s : String) : Option String :=
  if lead.toList.isPrefixOf s.toList then some (String.ofList (s.toList.drop lead.length)) else none

theorem after?_eq_some_iff {lead s rest : String} :
    after? lead s = some rest ↔ s = lead ++ rest := by
  rw [after?, Option.ite_none_right_eq_some, List.isPrefixOf_iff_prefix, Option.some.injEq]
  constructor
  · rintro ⟨⟨tail, htail⟩, hrest⟩
    rw [← htail, ← String.length_toList, List.drop_left] at hrest
    rw [← String.toList_inj, String.toList_append, ← hrest, String.toList_ofList, htail]
  · rintro rfl
    rw [String.toList_append, ← String.length_toList, List.drop_left, String.ofList_toList]
    exact ⟨List.prefix_append _ _, rfl⟩

theorem isSome_after?_iff {lead s : String} :
    (after? lead s).isSome = true ↔ lead.toList <+: s.toList := by
  rw [after?, Option.isSome_ite, List.isPrefixOf_iff_prefix]

def startsWith (lead s : String) : Bool := lead.toList.isPrefixOf s.toList

def endsWith (tail s : String) : Bool := tail.toList.isSuffixOf s.toList

/-- The text before the first occurrence of `mark` and the text after it. -/
def breakAt (mark : List Char) : List Char → Option (List Char × List Char)
  | [] => if mark.isEmpty then some ([], []) else none
  | c :: cs =>
    if mark.isPrefixOf (c :: cs) then some ([], (c :: cs).drop mark.length)
    else (breakAt mark cs).map fun p => (c :: p.1, p.2)

theorem breakAt_eq_some {mark cs before after : List Char}
    (h : breakAt mark cs = some (before, after)) : cs = before ++ (mark ++ after) := by
  induction cs generalizing before with
  | nil =>
    simp only [breakAt] at h
    split at h
    · rename_i hm
      simp only [Option.some.injEq, Prod.mk.injEq] at h
      obtain ⟨rfl, rfl⟩ := h
      simp [List.isEmpty_iff.1 hm]
    · simp at h
  | cons c cs ih =>
    simp only [breakAt] at h
    split at h
    · rename_i hm
      simp only [Option.some.injEq, Prod.mk.injEq] at h
      obtain ⟨rfl, rfl⟩ := h
      obtain ⟨t, ht⟩ := List.isPrefixOf_iff_prefix.1 hm
      simp [← ht]
    · obtain ⟨p, hp, heq⟩ := Option.map_eq_some_iff.1 h
      simp only [Prod.mk.injEq] at heq
      obtain ⟨rfl, rfl⟩ := heq
      simp [ih hp]

end Caseflow.Text
