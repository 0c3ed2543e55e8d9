import Caseflow.Proofs.Time.Timestamp
import Caseflow.Time.Reading
import Mathlib.Data.Option.Basic

/-!
# Timestamps read back

Each part of a written timestamp is read as what it was written for, up to the mark that follows it.
So the text of a timestamp reads back as the timestamp, if its year is one that timestamps may fall
in.
-/
namespace Caseflow.Time.Timestamp

open Json

variable {width n : Nat} {c : Char} {rest : List Char}

theorem skipBlanks_cons (h : Text.isBlank c = false) : skipBlanks (c :: rest) = c :: rest :=
  List.dropWhile_cons_of_neg (by simp [h])

theorem readNumber?_padded {limit : Option Nat} (hrest : ∀ c ∈ rest.head?, isDigit c = false)
    (hlimit : ∀ most ∈ limit, (padded width n).length ≤ most) :
    readNumber? limit (padded width n ++ rest) = some (n, rest) := by
  obtain ⟨d, ds, hp, hd⟩ := exists_padded width n
  have hskip : skipBlanks (padded width n ++ rest) = padded width n ++ rest := by
    rw [hp, List.cons_append, skipBlanks_cons (isBlank_of_isDigit hd)]
  have hdigits : (padded width n ++ rest).takeWhile isDigit = padded width n :=
    Text.takeWhile_run isDigit_of_mem_padded hrest
  have hkept : (limit.map (padded width n).take).getD (padded width n) = padded width n := by
    cases limit with
    | none => rfl
    | some most => exact List.take_of_length_le (hlimit most rfl)
  have hsome : (padded width n).isEmpty = false := by rw [hp, List.isEmpty_cons]
  simp only [readNumber?, hskip, hdigits, hkept, hsome]
  rw [natOfDigits_map_digitValue, ofDigitChars_padded, List.drop_left]
  rfl

theorem readNumber?_field (hpos : 0 < width) (hn : n < Nat.pow 10 width)
    (hrest : ∀ c ∈ rest.head?, isDigit c = false) :
    readNumber? (some width) (padded width n ++ rest) = some (n, rest) := by
  apply readNumber?_padded hrest
  rintro _ ⟨⟩
  exact Nat.le_of_eq (length_padded hpos hn)

theorem readMark?_cons (h : Text.isBlank c = false) : readMark? c (c :: rest) = some rest := by
  rw [readMark?, skipBlanks_cons h]
  exact if_pos rfl

theorem ne_of_isDigit {mark : Char} (h : isDigit c = true) (hmark : isDigit mark = false) :
    c ≠ mark := by
  rintro rfl
  rw [h] at hmark
  cases hmark

theorem readYear?_yearChars (year : Int) (hrest : ∀ c ∈ rest.head?, isDigit c = false) :
    readYear? (yearChars year ++ rest) = some (year, rest) := by
  obtain ⟨d, ds, hp, hd⟩ := exists_padded 4 year.natAbs
  rw [yearChars_eq, yearSign]
  split
  · rename_i hfour
    have hlimit : year.natAbs < Nat.pow 10 4 := by
      simp only [Nat.pow_eq]
      omega
    have hread := readNumber?_field (by decide) hlimit hrest
    rw [List.nil_append]
    rw [hp, List.cons_append] at hread ⊢
    unfold readYear?
    rw [skipBlanks_cons (isBlank_of_isDigit hd)]
    split
    · rename_i heq
      exact absurd (List.cons.inj heq).1 (ne_of_isDigit hd (by decide))
    · rename_i heq
      exact absurd (List.cons.inj heq).1 (ne_of_isDigit hd (by decide))
    · rw [hread]
      exact congrArg (fun y => some (y, rest)) (Int.natAbs_of_nonneg hfour.1)
  · have hread : readNumber? none (d :: (ds ++ rest)) = some (year.natAbs, rest) := by
      rw [← List.cons_append, ← hp]
      exact readNumber?_padded hrest nofun
    split
    · have hminus : -(year.natAbs : Int) = year := by omega
      rw [hp, List.singleton_append, List.cons_append, List.cons_append, readYear?,
        skipBlanks_cons (by decide)]
      simp only [hd, hread, if_true, Option.map_some, hminus]
    · have hplus : (year.natAbs : Int) = year := by omega
      rw [hp, List.singleton_append, List.cons_append, List.cons_append, readYear?,
        skipBlanks_cons (by decide)]
      simp only [hd, hread, if_true, Option.map_some, hplus]

theorem readDate?_dateChars {date : Date} (hvalid : date.isValid = true)
    (hrange : date.inRange = true) (hrest : ∀ c ∈ rest.head?, isDigit c = false) :
    readDate? (dateChars date ++ rest) = some (date, rest) := by
  have hbounds : date.month < Nat.pow 10 2 ∧ date.day < Nat.pow 10 2 := by
    have hdays := Date.daysInMonth_le date.year date.month
    simp only [Date.isValid, Bool.and_eq_true, decide_eq_true_eq] at hvalid
    simp only [Nat.pow_eq]
    omega
  have hdash {cs : List Char} : ∀ c ∈ ('-' :: cs).head?, isDigit c = false := by
    rintro _ ⟨⟩
    decide
  simp only [dateChars, List.append_assoc, List.cons_append]
  unfold readDate?
  refine Option.bind_eq_some_iff.2 ⟨_, readYear?_yearChars _ hdash, ?_⟩
  refine Option.bind_eq_some_iff.2 ⟨_, readMark?_cons (by decide), ?_⟩
  refine Option.bind_eq_some_iff.2 ⟨_, readNumber?_field (by decide) hbounds.1 hdash, ?_⟩
  refine Option.bind_eq_some_iff.2 ⟨_, readMark?_cons (by decide), ?_⟩
  refine Option.bind_eq_some_iff.2 ⟨_, readNumber?_field (by decide) hbounds.2 hrest, ?_⟩
  refine Option.bind_eq_some_iff.2 ⟨(), (Option.guard_eq_some' ()).2 ?_, rfl⟩
  rw [hvalid, hrange, Bool.and_self]

theorem readFraction?_fractionChars (hn : n < nanosPerSecond)
    (hrest : ∀ c ∈ rest.head?, isDigit c = false ∧ c ≠ '.') :
    readFraction? (fractionChars n ++ rest) = some (⟨n, hn⟩, rest) := by
  obtain ⟨rfl, hnone⟩ | ⟨width, shown, hpos, hle, hshown, hvalue, hsome⟩ := fractionChars_cases hn
  · rw [hnone, List.nil_append]
    unfold readFraction?
    split
    · exact absurd rfl (hrest '.' rfl).2
    · rfl
  · have hdigits : (padded width shown ++ rest).takeWhile isDigit = padded width shown :=
      Text.takeWhile_run isDigit_of_mem_padded fun c hc => (hrest c hc).1
    have hlength : (padded width shown).length = width := length_padded hpos hshown
    have hfew : (padded width shown).isEmpty = false := by
      rw [List.isEmpty_eq_false_iff, ← List.length_pos_iff, hlength]
      exact hpos
    have hnanos : nanosOfDigits ((padded width shown).map digitValue) = n := by
      have hkept : ((padded width shown).map digitValue).take 9 =
          (padded width shown).map digitValue := by
        rw [List.take_of_length_le]
        rwa [List.length_map, hlength]
      rw [nanosOfDigits, hkept, natOfDigits_map_digitValue, ofDigitChars_padded, List.length_map,
        hlength, hvalue]
    rw [hsome, List.cons_append]
    simp only [readFraction?, hdigits, hfew, hnanos, List.drop_left]
    rfl

/-- The clock of a second of a day; the nanoseconds of a leap second count as a second more. -/
def clockOf (secondOfDay nanos : Nat) : Clock :=
  ⟨secondOfDay / 3600, secondOfDay / 60 % 60, secondOfDay % 60 + nanos / nanosPerSecond,
    nanos % nanosPerSecond, Nat.mod_lt _ (by decide)⟩

theorem readClock?_timeChars {second nanos : Nat} (hsecond : second < 86400)
    (hnanos : nanos < 2 * nanosPerSecond) (hrest : ∀ c ∈ rest.head?, isDigit c = false ∧ c ≠ '.') :
    readClock? (timeChars second nanos ++ rest) = some (clockOf second nanos, rest) := by
  have hcolon {cs : List Char} : ∀ c ∈ (':' :: cs).head?, isDigit c = false := by
    rintro _ ⟨⟩
    decide
  have hfraction : ∀ c ∈ (fractionChars (nanos % nanosPerSecond) ++ rest).head?,
      isDigit c = false := isDigit_head_fractionChars fun c hc => (hrest c hc).1
  have hbounds : second / 3600 ≤ 23 ∧ second / 60 % 60 ≤ 59 ∧
      second % 60 + nanos / nanosPerSecond ≤ 60 := by
    simp only [nanosPerSecond] at *
    omega
  simp only [timeChars, List.append_assoc, List.cons_append]
  unfold readClock?
  refine Option.bind_eq_some_iff.2 ⟨_, readNumber?_field (by decide) ?_ hcolon, ?_⟩
  · exact Nat.lt_of_le_of_lt hbounds.1 (by decide)
  refine Option.bind_eq_some_iff.2 ⟨_, readMark?_cons (by decide), ?_⟩
  refine Option.bind_eq_some_iff.2 ⟨_, readNumber?_field (by decide) ?_ hcolon, ?_⟩
  · exact Nat.lt_of_le_of_lt hbounds.2.1 (by decide)
  refine Option.bind_eq_some_iff.2 ⟨_, readMark?_cons (by decide), ?_⟩
  refine Option.bind_eq_some_iff.2 ⟨_, readNumber?_field (by decide) ?_ hfraction, ?_⟩
  · exact Nat.lt_of_le_of_lt hbounds.2.2 (by decide)
  have hread := readFraction?_fractionChars (Nat.mod_lt nanos (by decide)) hrest
  refine Option.bind_eq_some_iff.2 ⟨_, hread, Option.bind_eq_some_iff.2 ⟨(), ?_, rfl⟩⟩
  simp only [Option.guard_eq_some', hbounds, decide_true, Bool.and_true]

/-- A timestamp whose year is one that timestamps may fall in. -/
def InRange (t : Timestamp) : Prop := (Date.ofNumber t.day).inRange = true

instance (t : Timestamp) : Decidable t.InRange :=
  inferInstanceAs (Decidable ((Date.ofNumber t.day).inRange = true))

/-- The clock of a timestamp on its date is the timestamp. -/
theorem ofClock_clockOf (t : Timestamp) :
    ofClock (Date.ofNumber t.day) (clockOf t.secondOfDay.toNat t.nanos) 0 = t := by
  have hnanos := t.nanos_lt
  obtain ⟨seconds, nanos, hlt⟩ := t
  simp only [ofClock, clockOf, Date.number_ofNumber, day, secondOfDay, secondsPerDay,
    nanosPerSecond] at *
  split
  · rw [mk.injEq]
    omega
  · rw [mk.injEq]
    omega

/-- What is read is in range, whatever the text. -/
theorem inRange_of_ofText? {s : String} {t : Timestamp} (h : ofText? s = some t) : t.InRange := by
  obtain ⟨⟨date, cs⟩, -, h⟩ := Option.bind_eq_some_iff.1 h
  simp only at h
  split at h
  case h_4 => cases h
  all_goals
    obtain ⟨cs, -, h⟩ := Option.bind_eq_some_iff.1 h
    obtain ⟨⟨clock, cs⟩, -, h⟩ := Option.bind_eq_some_iff.1 h
    obtain ⟨⟨offset, cs⟩, -, h⟩ := Option.bind_eq_some_iff.1 h
    obtain ⟨⟨⟩, -, h⟩ := Option.bind_eq_some_iff.1 h
    obtain ⟨⟨⟩, hguard, h⟩ := Option.bind_eq_some_iff.1 h
    cases h
    exact (Option.guard_eq_some' _).1 hguard

theorem ofText?_text {t : Timestamp} (h : t.InRange) : ofText? t.text = some t := by
  have htail : ∀ c ∈ ['Z'].head?, isDigit c = false ∧ c ≠ '.' := by
    rintro _ ⟨⟩
    decide
  have hmark : ∀ c ∈ ('T' :: (timeChars t.secondOfDay.toNat t.nanos ++ ['Z'])).head?,
      isDigit c = false := by
    rintro _ ⟨⟩
    decide
  have hsecond : t.secondOfDay.toNat < 86400 := by
    simp only [secondOfDay, secondsPerDay]
    omega
  have hnanos : t.nanos < 2 * nanosPerSecond := by
    have hlt := t.nanos_lt
    omega
  have hdate := readDate?_dateChars (Date.isValid_ofNumber t.day) h hmark
  have hclock := readClock?_timeChars hsecond hnanos htail
  rw [text, ofText?, String.toList_ofList, List.append_assoc, List.cons_append]
  refine Option.bind_eq_some_iff.2 ⟨_, hdate, Option.bind_eq_some_iff.2 ⟨_, rfl, ?_⟩⟩
  refine Option.bind_eq_some_iff.2 ⟨_, hclock, Option.bind_eq_some_iff.2 ⟨(0, []), rfl, ?_⟩⟩
  refine Option.bind_eq_some_iff.2 ⟨(), rfl, ?_⟩
  rw [ofClock_clockOf]
  exact Option.bind_eq_some_iff.2 ⟨(), (Option.guard_eq_some' ()).2 h, rfl⟩

/-- The text of a timestamp reads back as the timestamp exactly if its year is in range. -/
theorem ofText?_text_iff (t : Timestamp) : ofText? t.text = some t ↔ t.InRange :=
  ⟨inRange_of_ofText?, ofText?_text⟩

end Caseflow.Time.Timestamp
