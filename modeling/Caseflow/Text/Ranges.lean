import Caseflow.Text.Split

/-!
# Sets of characters as ranges

A set of character numbers as a list of closed ranges. Long lists are written as texts of
hexadecimal numbers: `A-B` is a range, and `A-B/2` is every second number of one.
-/
namespace Caseflow.Text

def inRanges (n : Nat) (ranges : List (Nat × Nat)) : Bool :=
  ranges.any fun r => r.1 ≤ n && n ≤ r.2

theorem inRanges_iff (n : Nat) (ranges : List (Nat × Nat)) :
    inRanges n ranges = true ↔ ∃ r ∈ ranges, r.1 ≤ n ∧ n ≤ r.2 := by
  simp [inRanges]

/-- A number between two others is in no range apart from these. -/
theorem not_inRanges {low high n : Nat} {ranges : List (Nat × Nat)} (hlow : low ≤ n)
    (hhigh : n ≤ high)
    (hapart : ∀ r ∈ ranges, r.2 < low ∨ high < r.1) : inRanges n ranges = false := by
  rw [Bool.eq_false_iff, ne_eq, inRanges_iff]
  rintro ⟨r, hr, hle, hge⟩
  obtain hbelow | habove := hapart r hr
  · omega
  · omega

def hexNumber (digits : List Char) : Nat :=
  digits.foldl (fun n c => n * 16 + (if c ≤ '9' then c.toNat - 48 else c.toNat - 55)) 0

def itemRanges (item : List Char) : List (Nat × Nat) :=
  let first := hexNumber (item.takeWhile Char.isAlphanum)
  match item.dropWhile Char.isAlphanum with
  | '-' :: rest =>
    let last := hexNumber (rest.takeWhile Char.isAlphanum)
    if rest.contains '/' then
      (List.range ((last - first) / 2 + 1)).map fun i => (first + 2 * i, first + 2 * i)
    else [(first, last)]
  | _ => [(first, first)]

def rangesOf (texts : List String) : List (Nat × Nat) :=
  texts.flatMap fun text => (splitChars ' ' text.toList).flatMap itemRanges

end Caseflow.Text
