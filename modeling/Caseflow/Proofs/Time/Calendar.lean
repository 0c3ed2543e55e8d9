import Caseflow.Time.Calendar

/-!
# Dates and days

The date of a day is one that the calendar has, and it has that day's number, so that no two days
have the same date. Later days fall in no earlier years.
-/
namespace Caseflow.Time.Date

/-- A day of an era is a day of a four-year cycle of a century of the era; the last day of the era
is left over. -/
theorem yearOfEra_cycle {century cycle day : Nat} (hcentury : century < 4) (hcycle : cycle < 25)
    (hday : day < 1461) (hlast : cycle = 24 → day < 1460) {dayOfEra : Nat}
    (hera : dayOfEra = 36524 * century + 1461 * cycle + day) :
    ∃ year < 4, 365 * year ≤ day ∧ day < 365 * year + 366 ∧ (day = 365 * year + 365 → year = 3) ∧
      (dayOfEra - dayOfEra / 1460 + dayOfEra / 36524 - dayOfEra / 146096) / 365 =
        100 * century + 4 * cycle + year := by
  have hcenturies : dayOfEra / 36524 = century := by omega
  have heras : dayOfEra / 146096 = 0 := by omega
  have hleaps : ∃ leap ≤ 1, dayOfEra / 1460 = 25 * century + cycle + leap ∧
      (leap = 1 → 24 * century + cycle + day ≥ 1460) ∧
      (leap = 0 → 24 * century + cycle + day < 1460) := by
    refine ⟨(24 * century + cycle + day) / 1460, ?_, ?_, ?_, ?_⟩
    all_goals omega
  obtain ⟨leap, hle, hleap, hover, hunder⟩ := hleaps
  refine ⟨(day - leap) / 365, ?_, ?_, ?_, ?_, ?_⟩
  · omega
  · omega
  · omega
  · omega
  · rw [hcenturies, heras, hleap]
    omega

/-- The year of a day of an era begins not after the day and at most a year before it. Only before
a leap year does it have a day more than 365. -/
theorem yearOfEra_spec {dayOfEra : Nat} (hera : dayOfEra < 146097) :
    ∃ year < 400,
      (dayOfEra - dayOfEra / 1460 + dayOfEra / 36524 - dayOfEra / 146096) / 365 = year ∧
        365 * year + year / 4 - year / 100 ≤ dayOfEra ∧
        dayOfEra < 365 * year + year / 4 - year / 100 + 366 ∧
        (dayOfEra = 365 * year + year / 4 - year / 100 + 365 →
          year % 4 = 3 ∧ (year % 100 = 99 → year = 399)) := by
  by_cases hlast : dayOfEra = 146096
  · subst hlast
    exact ⟨399, by decide⟩
  · obtain ⟨century, cycle, day, hcentury, hcycle, hday, hend, hsplit⟩ :
        ∃ century cycle day, century < 4 ∧ cycle < 25 ∧ day < 1461 ∧ (cycle = 24 → day < 1460) ∧
          dayOfEra = 36524 * century + 1461 * cycle + day :=
      ⟨dayOfEra / 36524, dayOfEra % 36524 / 1461, dayOfEra % 36524 % 1461, by omega⟩
    obtain ⟨year, hyear, hle, hlt, hlong, heq⟩ :=
      yearOfEra_cycle hcentury hcycle hday hend hsplit
    have hquarter : (100 * century + 4 * cycle + year) / 4 = 25 * century + cycle := by omega
    have hhundredth : (100 * century + 4 * cycle + year) / 100 = century := by omega
    refine ⟨_, ?_, heq, ?_, ?_, ?_⟩
    all_goals clear heq
    · omega
    · rw [hquarter, hhundredth]
      omega
    · rw [hquarter, hhundredth]
      omega
    · rw [hquarter, hhundredth]
      omega

/-- The month of a day of a year, both counted from March, begins not after the day. -/
theorem month_spec {dayOfYear : Nat} (hyear : dayOfYear < 366) :
    (5 * dayOfYear + 2) / 153 < 12 ∧ (153 * ((5 * dayOfYear + 2) / 153) + 2) / 5 ≤ dayOfYear := by
  omega

/-- The number of a date whose year and month are counted from March. -/
theorem number_march (era : Int) {year month : Nat} (day : Nat) (hyear : year < 400)
    (hmonth : month < 12) :
    let civil := if month < 10 then month + 3 else month - 9
    let since := era * 400 + year
    number ⟨if civil ≤ 2 then since + 1 else since, civil, day⟩ =
      era * daysInEra +
        ((year : Int) * 365 + (year : Int) / 4 - (year : Int) / 100 +
          ((153 * month + 2) / 5 + day - 1 : Nat)) - epochOffset := by
  intro civil since
  have hback : (civil + 9) % 12 = month := by
    simp only [civil]
    split
    · omega
    · omega
  have hsince : (if civil ≤ 2 then (if civil ≤ 2 then since + 1 else since) - 1
      else if civil ≤ 2 then since + 1 else since) = since := by
    split
    · omega
    · rfl
  have hera : since / 400 = era ∧ since % 400 = year := by
    simp only [since]
    omega
  simp only [number, hback, hsince, hera.1, hera.2]

theorem number_ofNumber (n : Int) : (ofNumber n).number = n := by
  have hera : ((n + epochOffset) % daysInEra).toNat < 146097 := by
    simp only [daysInEra]
    omega
  obtain ⟨year, hyear, heq, hle, hlt, -⟩ := yearOfEra_spec hera
  have hyearDay : ((n + epochOffset) % daysInEra).toNat -
      (365 * year + year / 4 - year / 100) < 366 := by omega
  obtain ⟨hmonth, hday⟩ := month_spec hyearDay
  simp only [ofNumber, heq, number_march _ _ hyear hmonth]
  have hsplit := Int.mul_ediv_add_emod (n + epochOffset) daysInEra
  have hnonneg : 0 ≤ (n + epochOffset) % daysInEra := Int.emod_nonneg _ (by decide)
  simp only [daysInEra, epochOffset] at *
  omega

theorem daysInMonth_le (year : Int) (month : Nat) : daysInMonth year month ≤ 31 := by
  unfold daysInMonth
  repeat' split
  all_goals decide

/-- A month counted from March has its days up to the next one, but for the last. -/
theorem daysInMonth_march {month : Nat} (h : month < 11) (year : Int) :
    daysInMonth year (if month < 10 then month + 3 else month - 9) =
      (153 * (month + 1) + 2) / 5 - (153 * month + 2) / 5 := by
  have hlengths : ∀ m < 11, (if m < 10 then m + 3 else m - 9) ≠ 2 ∧
      (if (if m < 10 then m + 3 else m - 9) ∈ [4, 6, 9, 11] then 30 else 31) =
        (153 * (m + 1) + 2) / 5 - (153 * m + 2) / 5 := by decide
  obtain ⟨hfebruary, hlength⟩ := hlengths month h
  rw [daysInMonth, if_neg hfebruary, hlength]

theorem day_le_daysInMonth {dayOfYear : Nat} {year : Int} (hyear : dayOfYear < 366)
    (hleap : dayOfYear = 365 → isLeapYear year = true) :
    let month := (5 * dayOfYear + 2) / 153
    dayOfYear - (153 * month + 2) / 5 + 1 ≤
      daysInMonth year (if month < 10 then month + 3 else month - 9) := by
  intro month
  obtain ⟨hmonth, -⟩ := month_spec hyear
  by_cases hlast : month = 11
  · rw [hlast]
    by_cases hlong : dayOfYear = 365
    · rw [hlong, daysInMonth, hleap hlong]
      decide
    · have hshort : 28 ≤ daysInMonth year 2 := by
        rw [daysInMonth]
        cases isLeapYear year <;> decide
      have hday : dayOfYear - (153 * 11 + 2) / 5 + 1 ≤ 28 := by omega
      exact Nat.le_trans hday hshort
  · rw [daysInMonth_march (by omega)]
    omega

theorem isValid_march {since : Int} {dayOfYear : Nat} (hyear : dayOfYear < 366)
    (hleap : dayOfYear = 365 → isLeapYear (since + 1) = true) :
    let month := (5 * dayOfYear + 2) / 153
    let civil := if month < 10 then month + 3 else month - 9
    isValid ⟨if civil ≤ 2 then since + 1 else since, civil,
      dayOfYear - (153 * month + 2) / 5 + 1⟩ = true := by
  intro month civil
  obtain ⟨hmonth, -⟩ := month_spec hyear
  have hcivil : 1 ≤ civil ∧ civil ≤ 12 := by
    simp only [civil]
    split
    · omega
    · omega
  have hlast : dayOfYear = 365 → isLeapYear (if civil ≤ 2 then since + 1 else since) = true := by
    intro hlong
    have hfebruary : civil ≤ 2 := by
      simp only [civil, month, hlong]
      decide
    rw [if_pos hfebruary, hleap hlong]
  simp only [isValid, Bool.and_eq_true, decide_eq_true_eq]
  exact ⟨⟨hcivil, Nat.succ_pos _⟩, day_le_daysInMonth hyear hlast⟩

/-- The date of a day is one that the calendar has. -/
theorem isValid_ofNumber (n : Int) : (ofNumber n).isValid = true := by
  have hera : ((n + epochOffset) % daysInEra).toNat < 146097 := by
    simp only [daysInEra]
    omega
  obtain ⟨year, hyear, heq, hle, hlt, hlong⟩ := yearOfEra_spec hera
  simp only [ofNumber, heq]
  apply isValid_march
  · omega
  · intro hlast
    obtain ⟨hfourth, hcentury⟩ := hlong (by omega)
    simp only [isLeapYear, Bool.and_eq_true, Bool.or_eq_true, beq_iff_eq, bne_iff_ne]
    omega

theorem ofNumber_injective {m n : Int} (h : ofNumber m = ofNumber n) : m = n := by
  rw [← number_ofNumber m, h, number_ofNumber]

def daysBefore (year : Int) : Int := 365 * year + year / 4 - year / 100 + year / 400

theorem daysBefore_eq (year : Int) :
    year / 400 * daysInEra + (year % 400 * 365 + year % 400 / 4 - year % 400 / 100) =
      daysBefore year := by
  simp only [daysInEra, daysBefore]
  have hfourths : year % 400 / 4 = year / 4 - 100 * (year / 400) := by omega
  have hhundredths : year % 400 / 100 = year / 100 - 4 * (year / 400) := by omega
  rw [hfourths, hhundredths]
  omega

theorem daysBefore_add (year : Int) (more : Nat) :
    daysBefore year + 365 * more ≤ daysBefore (year + more) := by
  induction more with
  | zero => simp
  | succ more ih =>
    have hnext : daysBefore (year + more) + 365 ≤ daysBefore (year + more + 1) := by
      simp only [daysBefore]
      omega
    rw [Int.natCast_succ, ← Int.add_assoc]
    omega

/-- A day of a year that begins in March. Up to December it is one of the first 306. -/
theorem number_eq_daysBefore {d : Date} (h : d.isValid = true) :
    ∃ year day, d.number = daysBefore year + day - epochOffset ∧
      (year = d.year ∧ 0 ≤ day ∧ day < 306 ∨ year = d.year - 1 ∧ 306 ≤ day ∧ day < 368) := by
  simp only [isValid, Bool.and_eq_true, decide_eq_true_eq] at h
  have hdays := daysInMonth_le d.year d.month
  refine ⟨if d.month ≤ 2 then d.year - 1 else d.year,
    ((153 * ((d.month + 9) % 12) + 2) / 5 + d.day - 1 : Nat), ?_, ?_⟩
  · rw [number, ← daysBefore_eq]
    omega
  · split
    · omega
    · omega

theorem number_lt_number {d e : Date} (hd : d.isValid = true) (he : e.isValid = true)
    (h : d.year < e.year) : d.number < e.number := by
  obtain ⟨year, day, hnumber, hday⟩ := number_eq_daysBefore hd
  obtain ⟨later, other, hother, hlater⟩ := number_eq_daysBefore he
  have hyears := daysBefore_add year (later - year).toNat
  by_cases hsame : later = year
  · subst hsame
    omega
  · rw [show year + ((later - year).toNat : Int) = later by omega] at hyears
    omega

theorem year_mono {m n : Int} (h : m ≤ n) : (ofNumber m).year ≤ (ofNumber n).year := by
  refine Int.not_lt.1 fun hlt => ?_
  have hless := number_lt_number (isValid_ofNumber n) (isValid_ofNumber m) hlt
  rw [number_ofNumber, number_ofNumber] at hless
  omega

end Caseflow.Time.Date
