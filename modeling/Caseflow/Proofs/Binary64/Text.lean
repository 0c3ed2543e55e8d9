import Caseflow.Binary64.Reading
import Caseflow.Proofs.Binary64.Nearest
import Caseflow.Proofs.Json.Digits

/-!
# Texts of doubles read back

The text of a double denotes a decimal whose nearest double has the magnitude and the sign of the
one that was written. So no two doubles have the same text.
-/
namespace Caseflow.Binary64

open Json

variable {whole fraction rest : List Char}

/-- Digits before and after a point, and an exponent: the decimal they are read as. -/
theorem decimalOfChars?_append (hne : whole ≠ []) (hwhole : ∀ c ∈ whole, isDigit c = true)
    (hfraction : ∀ c ∈ fraction, isDigit c = true)
    (hrest : ∀ c ∈ rest.head?, c ≠ '.' ∧ isDigit c = false) :
    decimalOfChars? (whole ++ (pointed fraction ++ rest)) = (exponentAfter? rest).map fun e =>
      ⟨Nat.ofDigitChars 10 (whole ++ fraction) 0, e - fraction.length⟩ := by
  have hdigit : ∀ c ∈ rest.head?, isDigit c = false := fun c hc => (hrest c hc).2
  have hempty : whole.isEmpty = false := by simp [hne]
  have hvalue (digits : List Char) : natOfDigits (whole.map digitValue ++ digits.map digitValue) =
      Nat.ofDigitChars 10 (whole ++ digits) 0 := by
    rw [← List.map_append, natOfDigits_map_digitValue]
  cases fraction with
  | nil =>
    have hread : readDigits (whole ++ (pointed [] ++ rest)) = (whole.map digitValue, rest) :=
      readDigits_append hwhole hdigit
    have hpoint : readFraction rest = ([].map digitValue, rest) := by
      unfold readFraction
      split
      · exact absurd rfl (hrest '.' rfl).1
      · rfl
    simp only [decimalOfChars?, hread, hpoint, hvalue]
    simp [hempty]
  | cons d ds =>
    have hread : readDigits (whole ++ (pointed (d :: ds) ++ rest)) =
        (whole.map digitValue, '.' :: (d :: ds ++ rest)) :=
      readDigits_append hwhole (by rintro c ⟨⟩; decide)
    have hpoint : readFraction ('.' :: (d :: ds ++ rest)) = ((d :: ds).map digitValue, rest) :=
      readDigits_append hfraction hdigit
    simp only [decimalOfChars?, hread, hpoint, hvalue]
    simp

theorem exponentOf?_signed {sign : Char} {negative : Bool} {ds : List Char}
    (hsign : splitSign (sign :: ds) = (negative, ds)) (hne : ds ≠ [])
    (hds : ∀ c ∈ ds, isDigit c = true) :
    exponentOf? (sign :: ds) = some (if negative then -(Nat.ofDigitChars 10 ds 0 : Int)
      else Nat.ofDigitChars 10 ds 0) := by
  have hempty : ds.isEmpty = false := by simp [hne]
  have hall : ds.all isDigit = true := List.all_eq_true.2 hds
  simp only [exponentOf?, hsign, hempty, hall, natOfDigits_map_digitValue]
  rfl

theorem exponentAfter?_written (exponent : Int) :
    exponentAfter? ('e' :: (if exponent < 0 then '-' else '+') ::
      Nat.toDigits 10 exponent.natAbs) = some exponent := by
  have hdigits : ∀ c ∈ Nat.toDigits 10 exponent.natAbs, isDigit c = true :=
    fun c => isDigit_of_mem_toDigits
  rw [exponentAfter?, if_pos (.inl rfl)]
  split
  · rw [exponentOf?_signed rfl Nat.toDigits_ne_nil hdigits, Nat.ofDigitChars_ten_toDigits,
      if_pos rfl]
    congr 1
    omega
  · rw [exponentOf?_signed rfl Nat.toDigits_ne_nil hdigits, Nat.ofDigitChars_ten_toDigits,
      if_neg Bool.false_ne_true]
    congr 1
    omega

theorem decimalOfChars?_positional (hne : whole ≠ []) (hwhole : ∀ c ∈ whole, isDigit c = true)
    (hfraction : ∀ c ∈ fraction, isDigit c = true) :
    decimalOfChars? (whole ++ pointed fraction) =
      some ⟨Nat.ofDigitChars 10 (whole ++ fraction) 0, -fraction.length⟩ := by
  have hend : ∀ c ∈ ([] : List Char).head?, c ≠ '.' ∧ isDigit c = false := by simp
  have h := decimalOfChars?_append hne hwhole hfraction hend
  rw [List.append_nil] at h
  rw [h, exponentAfter?, Option.map_some, Int.zero_sub]

/-- The characters of a decimal are read as its digits and exponent, up to zeros at the end of the
digits. -/
theorem decimalOfChars?_chars (d : Decimal) : ∃ zeros : Nat,
    decimalOfChars? d.chars = some ⟨d.digits * Nat.pow 10 zeros, d.exponent - zeros⟩ := by
  have hdigits : ∀ c ∈ Nat.toDigits 10 d.digits, isDigit c = true :=
    fun c => isDigit_of_mem_toDigits
  have hvalue : Nat.ofDigitChars 10 (Nat.toDigits 10 d.digits) 0 = d.digits :=
    Nat.ofDigitChars_ten_toDigits
  have hpos : 0 < (Nat.toDigits 10 d.digits).length := Nat.length_toDigits_pos
  have hzeros : ∀ n, ∀ c ∈ List.replicate n '0', isDigit c = true := by
    intro n c hc
    rw [List.eq_of_mem_replicate hc]
    rfl
  have hzero : ∀ c ∈ ['0'], isDigit c = true := hzeros 1
  simp only [Decimal.chars]
  generalize Nat.toDigits 10 d.digits = ds at *
  have hsplit (n : Nat) (hn : 0 < n) : ds.take n ≠ [] ∧ (∀ c ∈ ds.take n, isDigit c = true) ∧
      ∀ c ∈ ds.drop n, isDigit c = true := by
    refine ⟨?_, fun c hc => hdigits c (List.mem_of_mem_take hc),
      fun c hc => hdigits c (List.mem_of_mem_drop hc)⟩
    rw [← List.length_pos_iff, List.length_take]
    omega
  split
  · obtain ⟨hne, hwhole, hfraction⟩ := hsplit 1 Nat.one_pos
    refine ⟨0, ?_⟩
    rw [decimalOfChars?_append hne hwhole hfraction (by rintro c ⟨⟩; decide),
      exponentAfter?_written, Option.map_some, List.take_append_drop, hvalue, List.length_drop,
      Nat.pow_eq, Nat.pow_zero, Nat.mul_one]
    congr 2
    omega
  · rename_i hplace
    have hrange : -5 ≤ d.exponent + ds.length - 1 ∧ d.exponent + ds.length - 1 ≤ 15 := by
      simpa using hplace
    split
    · -- zeros between the point and the digits count for nothing
      have hskip (n : Nat) : Nat.ofDigitChars 10 (['0'] ++ (List.replicate n '0' ++ ds)) 0 =
          d.digits := by
        rw [← hvalue, Nat.ofDigitChars_append, Nat.ofDigitChars_append,
          Nat.ofDigitChars_replicate_zero]
        rfl
      refine ⟨0, ?_⟩
      rw [decimalOfChars?_positional (by simp) hzero
        (List.forall_mem_append.2 ⟨hzeros _, hdigits⟩), hskip, List.length_append,
        List.length_replicate, Nat.pow_eq, Nat.pow_zero, Nat.mul_one]
      congr 2
      omega
    · split
      · obtain ⟨hne, hwhole, hfraction⟩ := hsplit _ (Nat.succ_pos _)
        refine ⟨0, ?_⟩
        rw [decimalOfChars?_positional hne hwhole hfraction, List.take_append_drop, hvalue,
          List.length_drop, Nat.pow_eq, Nat.pow_zero, Nat.mul_one]
        congr 2
        omega
      · -- zeros up to the point and the one after it are all zeros at the end
        have hfill (n : Nat) : Nat.ofDigitChars 10 (ds ++ List.replicate n '0' ++ ['0']) 0 =
            d.digits * Nat.pow 10 (n + 1) := by
          have hlast : ['0'] = List.replicate 1 '0' := rfl
          rw [List.append_assoc, hlast, List.replicate_append_replicate, Nat.ofDigitChars_append,
            hvalue, Nat.ofDigitChars_replicate_zero, Nat.pow_eq, Nat.mul_comm]
        have hne : ∀ n, ds ++ List.replicate n '0' ≠ [] :=
          fun n => List.append_ne_nil_of_left_ne_nil (List.length_pos_iff.1 hpos) _
        refine ⟨(d.exponent + ds.length - 1).natAbs + 1 - ds.length + 1, ?_⟩
        rw [decimalOfChars?_positional (hne _) (List.forall_mem_append.2 ⟨hdigits, hzeros _⟩)
          hzero, hfill]
        congr 2
        simp only [List.length_singleton]
        omega

/-- What is read as a decimal has no sign in front. -/
theorem splitSign_of_decimal {cs : List Char} {d : Decimal} (h : decimalOfChars? cs = some d) :
    splitSign cs = (false, cs) := by
  unfold splitSign
  split
  · cases h
  · cases h
  · rfl

/-- The text of a double is read as its sign and a decimal nearest to its absolute value. -/
theorem decimalOfText?_text (x : Binary64) :
    ∃ d : Decimal, decimalOfText? x.text = some (x.negative, d) ∧ d.magnitude = x.magnitude := by
  obtain ⟨zeros, hread⟩ := decimalOfChars?_chars x.shortest
  refine ⟨⟨x.shortest.digits * Nat.pow 10 zeros, x.shortest.exponent - zeros⟩, ?_, ?_⟩
  · have hsplit : splitSign x.text.toList = (x.negative, x.shortest.chars) := by
      rw [text, String.toList_ofList]
      cases x.negative with
      | false => exact splitSign_of_decimal hread
      | true => rfl
    simp only [decimalOfText?, hsplit, hread, Option.map_some]
  · rw [Decimal.magnitude_mul_pow, Int.sub_add_cancel]
    exact magnitude_shortest x

/-- Doubles with the same text are the same. -/
theorem text_injective {x y : Binary64} (h : x.text = y.text) : x = y := by
  obtain ⟨d, hx, hdx⟩ := decimalOfText?_text x
  obtain ⟨e, hy, hey⟩ := decimalOfText?_text y
  rw [h, hy, Option.some.injEq, Prod.mk.injEq] at hx
  obtain ⟨hsign, rfl⟩ := hx
  obtain ⟨negative, magnitude, hfinite⟩ := x
  obtain ⟨negative', magnitude', hfinite'⟩ := y
  simp only at hsign hdx hey
  subst hsign hdx hey
  rfl

end Caseflow.Binary64
