/-!
# The calendar

Days are counted from the first of January 1970, and every day has a date in the Gregorian calendar
extended without end in both directions. Years of the computation begin in March, so that a leap day
is the last of its year.
-/
namespace Caseflow.Time

structure Date where
  year : Int
  month : Nat
  day : Nat
deriving DecidableEq, Repr

namespace Date

def isLeapYear (year : Int) : Bool := year % 4 == 0 && (year % 100 != 0 || year % 400 == 0)

def daysInMonth (year : Int) (month : Nat) : Nat :=
  if month = 2 then (if isLeapYear year then 29 else 28)
  else if month ∈ [4, 6, 9, 11] then 30
  else 31

def isValid (d : Date) : Bool :=
  1 ≤ d.month && d.month ≤ 12 && 1 ≤ d.day && d.day ≤ daysInMonth d.year d.month

/-- Days from the first of March of year 0 to the first of January 1970. -/
def epochOffset : Int := 719468

/-- Days in four centuries. -/
def daysInEra : Int := 146097

/-- The number of a date's day; the first of January 1970 is day 0. -/
def number (d : Date) : Int :=
  let year := if d.month ≤ 2 then d.year - 1 else d.year
  let era := year / 400
  let yearOfEra := year % 400
  let dayOfYear := (153 * ((d.month + 9) % 12 : Nat) + 2) / 5 + d.day - 1
  let dayOfEra := yearOfEra * 365 + yearOfEra / 4 - yearOfEra / 100 + dayOfYear
  era * daysInEra + dayOfEra - epochOffset

def ofNumber (n : Int) : Date :=
  let shifted := n + epochOffset
  let era := shifted / daysInEra
  let dayOfEra := (shifted % daysInEra).toNat
  let yearOfEra := (dayOfEra - dayOfEra / 1460 + dayOfEra / 36524 - dayOfEra / 146096) / 365
  let dayOfYear := dayOfEra - (365 * yearOfEra + yearOfEra / 4 - yearOfEra / 100)
  let month := (5 * dayOfYear + 2) / 153
  let day := dayOfYear - (153 * month + 2) / 5 + 1
  let month := if month < 10 then month + 3 else month - 9
  let year := era * 400 + yearOfEra
  ⟨if month ≤ 2 then year + 1 else year, month, day⟩

/-- The years that timestamps may fall in. -/
def firstYear : Int := -262143
def lastYear : Int := 262142

def inRange (d : Date) : Bool := firstYear ≤ d.year && d.year ≤ lastYear

example : (Date.mk 1970 1 1).number = 0 := by decide
example : (Date.mk 2000 2 29).number = 11016 := by decide
example : ofNumber 11016 = ⟨2000, 2, 29⟩ := by decide
example : ofNumber (-719529) = ⟨-1, 12, 31⟩ := by decide

end Date
end Caseflow.Time
