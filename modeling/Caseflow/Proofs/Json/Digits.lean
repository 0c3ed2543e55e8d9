import Caseflow.Json.Reading
import Caseflow.Proofs.Text.Runs

/-!
# Decimal digits

The digits that a number is written with read back as the number, and a reader of digits stops where
they end.
-/
namespace Caseflow.Json

variable {n : Nat} {c : Char} {ds rest : List Char}

theorem toNat_of_isDigit (h : isDigit c = true) : 48 ≤ c.toNat ∧ c.toNat ≤ 57 := by
  simpa [isDigit, Char.le_def, UInt32.le_iff_toNat_le] using h

theorem isBlank_of_isDigit (h : isDigit c = true) : Text.isBlank c = false :=
  Text.not_inRanges (toNat_of_isDigit h).1 (toNat_of_isDigit h).2 (by decide)

theorem isDigit_of_mem_toDigits (h : c ∈ Nat.toDigits 10 n) : isDigit c = true :=
  Nat.isDigit_of_mem_toDigits (by decide) (by decide) h

theorem natOfDigits_map_digitValue (cs : List Char) :
    natOfDigits (cs.map digitValue) = Nat.ofDigitChars 10 cs 0 := by
  simp only [natOfDigits, List.foldl_map, Nat.ofDigitChars_eq_foldl, digitValue, Nat.mul_comm]
  rfl

theorem natOfDigits_toDigits (n : Nat) :
    natOfDigits ((Nat.toDigits 10 n).map digitValue) = n := by
  rw [natOfDigits_map_digitValue, Nat.ofDigitChars_ten_toDigits]

theorem readDigits_append (hds : ∀ c ∈ ds, isDigit c = true)
    (hrest : ∀ c ∈ rest.head?, isDigit c = false) :
    readDigits (ds ++ rest) = (ds.map digitValue, rest) := by
  rw [readDigits, Text.takeWhile_run hds hrest, Text.dropWhile_run hds hrest]

/-- Digits that no digit follows can be told from what follows. -/
theorem digits_append_inj {es tail : List Char} (hds : ∀ c ∈ ds, isDigit c = true)
    (hes : ∀ c ∈ es, isDigit c = true) (hrest : ∀ c ∈ rest.head?, isDigit c = false)
    (htail : ∀ c ∈ tail.head?, isDigit c = false) (h : ds ++ rest = es ++ tail) :
    ds = es ∧ rest = tail := by
  have hprefix := congrArg (List.takeWhile isDigit) h
  rw [Text.takeWhile_run hds hrest, Text.takeWhile_run hes htail] at hprefix
  subst hprefix
  exact ⟨rfl, List.append_cancel_left h⟩

end Caseflow.Json
