import Caseflow.Proofs.Json.Digits
import Caseflow.Proofs.Time.Calendar
import Caseflow.Time.Timestamp

/-!
# Texts of timestamps

Every field of a written timestamp ends where its digits end, and the fields tell the instant: the
day by its date, a leap second by the sixtieth second, and the fraction by its digits. So no two
timestamps have the same text.
-/
namespace Caseflow.Time.Timestamp

open Json

variable {width m n : Nat}

theorem isDigit_of_mem_padded : ∀ c ∈ padded width n, isDigit c = true :=
  List.forall_mem_append.2
    ⟨fun _ hc => List.eq_of_mem_replicate hc ▸ by decide, fun _ => isDigit_of_mem_toDigits⟩

theorem ofDigitChars_padded (width n : Nat) : Nat.ofDigitChars 10 (padded width n) 0 = n := by
  simp [padded, Nat.ofDigitChars_append]

theorem padded_injective (h : padded width m = padded width n) : m = n := by
  rw [← ofDigitChars_padded width m, h, ofDigitChars_padded]

theorem length_padded (hpos : 0 < width) (h : n < Nat.pow 10 width) :
    (padded width n).length = width := by
  have hle := (Nat.length_toDigits_le_iff (by decide) hpos).2 h
  rw [padded, List.length_append, List.length_replicate]
  omega

/-- A padded number that no digit follows can be told from what follows. -/
theorem padded_append_inj {r u : List Char} (hr : ∀ c ∈ r.head?, isDigit c = false)
    (hu : ∀ c ∈ u.head?, isDigit c = false) (h : padded width m ++ r = padded width n ++ u) :
    m = n ∧ r = u := by
  obtain ⟨hdigits, hrest⟩ :=
    digits_append_inj isDigit_of_mem_padded isDigit_of_mem_padded hr hu h
  exact ⟨padded_injective hdigits, hrest⟩

theorem exists_padded (width n : Nat) : ∃ d ds, padded width n = d :: ds ∧ isDigit d = true := by
  cases hp : padded width n with
  | nil => exact absurd hp (List.append_ne_nil_of_right_ne_nil _ Nat.toDigits_ne_nil)
  | cons d ds => exact ⟨d, ds, rfl, isDigit_of_mem_padded d (hp ▸ List.mem_cons_self)⟩

theorem padded_ne_cons {c : Char} {r u : List Char} (hc : isDigit c = false) :
    padded width n ++ u ≠ c :: r := by
  intro h
  obtain ⟨d, ds, hp, hd⟩ := exists_padded width n
  rw [hp, List.cons_append, List.cons.injEq] at h
  rw [h.1, hc] at hd
  cases hd

/-- A fraction is nothing, or a point and up to nine digits; zeros that are left out stand after
them. -/
theorem fractionChars_cases (hn : n < nanosPerSecond) :
    n = 0 ∧ fractionChars n = [] ∨
      ∃ width shown, 0 < width ∧ width ≤ 9 ∧ shown < Nat.pow 10 width ∧
        shown * Nat.pow 10 (9 - width) = n ∧ fractionChars n = '.' :: padded width shown := by
  simp only [nanosPerSecond] at hn
  unfold fractionChars
  split
  · rename_i hzero
    exact .inl ⟨hzero, rfl⟩
  · split
    · rename_i hmillis
      refine .inr ⟨3, n / 1000000, by decide, by decide, ?_, ?_, rfl⟩
      · simp only [Nat.pow_eq]
        omega
      · exact Nat.div_mul_cancel (Nat.dvd_of_mod_eq_zero hmillis)
    · split
      · rename_i hmicros
        refine .inr ⟨6, n / 1000, by decide, by decide, ?_, ?_, rfl⟩
        · simp only [Nat.pow_eq]
          omega
        · exact Nat.div_mul_cancel (Nat.dvd_of_mod_eq_zero hmicros)
      · exact .inr ⟨9, n, by decide, by decide, hn, Nat.mul_one n, rfl⟩

/-- The nanoseconds of a written fraction are its digits filled up to nine. -/
theorem nanos_of_fractionChars (hn : n < nanosPerSecond) :
    Nat.ofDigitChars 10 ((fractionChars n).drop 1) 0 *
      Nat.pow 10 (9 - ((fractionChars n).drop 1).length) = n := by
  obtain ⟨rfl, hnone⟩ | ⟨width, shown, hpos, -, hshown, hvalue, hsome⟩ := fractionChars_cases hn
  · rw [hnone]
    rfl
  · rw [hsome, List.drop_one, List.tail_cons, ofDigitChars_padded, length_padded hpos hshown,
      hvalue]

theorem fractionChars_injective (hm : m < nanosPerSecond) (hn : n < nanosPerSecond)
    (h : fractionChars m = fractionChars n) : m = n := by
  rw [← nanos_of_fractionChars hm, h, nanos_of_fractionChars hn]

/-- No digit follows the seconds. -/
theorem isDigit_head_fractionChars {rest : List Char}
    (hrest : ∀ c ∈ rest.head?, isDigit c = false) :
    ∀ c ∈ (fractionChars n ++ rest).head?, isDigit c = false := by
  unfold fractionChars
  split
  · exact hrest
  · repeat' split
    all_goals
      rintro _ ⟨⟩
      decide

def yearSign (year : Int) : List Char :=
  if 0 ≤ year ∧ year ≤ 9999 then [] else if year < 0 then ['-'] else ['+']

theorem yearChars_eq (year : Int) : yearChars year = yearSign year ++ padded 4 year.natAbs := by
  unfold yearChars yearSign
  split
  · have habs : year.toNat = year.natAbs := by omega
    rw [habs, List.nil_append]
  · split
    · rfl
    · rfl

theorem yearSign_cases (year : Int) :
    yearSign year = [] ∨ ∃ c, yearSign year = [c] ∧ isDigit c = false := by
  unfold yearSign
  split
  · exact .inl rfl
  · split
    · exact .inr ⟨'-', rfl, by decide⟩
    · exact .inr ⟨'+', rfl, by decide⟩

theorem yearSign_eq_minus_iff (year : Int) : yearSign year = ['-'] ↔ year < 0 := by
  unfold yearSign
  split
  · simp
    omega
  · split
    · simp_all
    · simp_all

theorem eq_of_yearSign {y z : Int} (hsign : yearSign y = yearSign z)
    (habs : y.natAbs = z.natAbs) : y = z := by
  have hy := yearSign_eq_minus_iff y
  rw [hsign, yearSign_eq_minus_iff z] at hy
  omega

theorem yearChars_append_inj {y z : Int} {r u : List Char}
    (h : yearChars y ++ '-' :: r = yearChars z ++ '-' :: u) : y = z ∧ r = u := by
  rw [yearChars_eq, yearChars_eq, List.append_assoc, List.append_assoc] at h
  have hparts : yearSign y = yearSign z ∧
      padded 4 y.natAbs ++ '-' :: r = padded 4 z.natAbs ++ '-' :: u := by
    obtain hy | ⟨c, hy, hc⟩ := yearSign_cases y
    · obtain hz | ⟨d, hz, hd⟩ := yearSign_cases z
      · rw [hy, hz] at h
        exact ⟨hy.trans hz.symm, h⟩
      · rw [hy, hz] at h
        exact absurd h (padded_ne_cons hd)
    · obtain hz | ⟨d, hz, hd⟩ := yearSign_cases z
      · rw [hy, hz] at h
        exact absurd h.symm (padded_ne_cons hc)
      · rw [hy, hz, List.singleton_append, List.singleton_append, List.cons.injEq] at h
        exact ⟨by rw [hy, hz, h.1], h.2⟩
  have hstop {cs : List Char} : ∀ c ∈ ('-' :: cs).head?, isDigit c = false := by
    rintro _ ⟨⟩
    decide
  obtain ⟨habs, hrest⟩ := padded_append_inj hstop hstop hparts.2
  exact ⟨eq_of_yearSign hparts.1 habs, (List.cons.inj hrest).2⟩

/-- Timestamps with the same text are the same. -/
theorem text_injective {t t' : Timestamp} (h : t.text = t'.text) : t = t' := by
  have hstop {c : Char} {cs : List Char} (hc : isDigit c = false) :
      ∀ d ∈ (c :: cs).head?, isDigit d = false := by
    rintro _ ⟨⟩
    exact hc
  have hfraction {n : Nat} : ∀ c ∈ (fractionChars n ++ ['Z']).head?, isDigit c = false :=
    isDigit_head_fractionChars (hstop (by decide))
  have hlist := congrArg String.toList h
  simp only [text, dateChars, timeChars, String.toList_ofList, List.append_assoc,
    List.cons_append] at hlist
  obtain ⟨hyear, hlist⟩ := yearChars_append_inj hlist
  obtain ⟨hmonth, hlist⟩ := padded_append_inj (hstop (by decide)) (hstop (by decide)) hlist
  obtain ⟨hday, hlist⟩ := padded_append_inj (hstop (by decide)) (hstop (by decide))
    (List.cons.inj hlist).2
  obtain ⟨hhour, hlist⟩ := padded_append_inj (hstop (by decide)) (hstop (by decide))
    (List.cons.inj hlist).2
  obtain ⟨hminute, hlist⟩ := padded_append_inj (hstop (by decide)) (hstop (by decide))
    (List.cons.inj hlist).2
  obtain ⟨hsecond, hlist⟩ := padded_append_inj hfraction hfraction (List.cons.inj hlist).2
  have hnanos := fractionChars_injective (Nat.mod_lt _ (by decide)) (Nat.mod_lt _ (by decide))
    (List.append_cancel_right hlist)
  have hdate : t.day = t'.day := by
    apply Date.ofNumber_injective
    cases hd : Date.ofNumber t.day
    cases hd' : Date.ofNumber t'.day
    simp_all
  have hinvariant := t.nanos_lt
  have hinvariant' := t'.nanos_lt
  obtain ⟨seconds, nanos, hlt⟩ := t
  obtain ⟨seconds', nanos', hlt'⟩ := t'
  simp only [day, secondOfDay, secondsPerDay, nanosPerSecond] at *
  have hs : seconds = seconds' ∧ nanos = nanos' := by omega
  obtain ⟨rfl, rfl⟩ := hs
  rfl

end Caseflow.Time.Timestamp
