import Caseflow.Time.Calendar

/-!
# Timestamps

An instant in universal time, down to the nanosecond. The last second of a minute may be a leap
second: it has the number of the second before it and a thousand million nanoseconds more. The
written form has as few of none, three, six or nine digits of a second as are exact.
-/
namespace Caseflow.Time

def secondsPerDay : Int := 86400
def nanosPerSecond : Nat := 1000000000

structure Timestamp where
  /-- Seconds from the first of January 1970. -/
  seconds : Int
  nanos : Nat
  nanos_lt : nanos < nanosPerSecond ∨ (nanos < 2 * nanosPerSecond ∧ seconds % 60 = 59)
deriving DecidableEq, Repr

namespace Timestamp

def epoch : Timestamp := ⟨0, 0, by decide⟩

instance : Inhabited Timestamp := ⟨epoch⟩

def day (t : Timestamp) : Int := t.seconds / secondsPerDay

def secondOfDay (t : Timestamp) : Int := t.seconds % secondsPerDay

def isLeapSecond (t : Timestamp) : Bool := nanosPerSecond ≤ t.nanos

def padded (width n : Nat) : List Char :=
  let digits := Nat.toDigits 10 n
  List.replicate (width - digits.length) '0' ++ digits

def yearChars (year : Int) : List Char :=
  if 0 ≤ year ∧ year ≤ 9999 then padded 4 year.toNat
  else (if year < 0 then '-' else '+') :: padded 4 year.natAbs

def fractionChars (nanos : Nat) : List Char :=
  if nanos = 0 then []
  else if nanos % 1000000 = 0 then '.' :: padded 3 (nanos / 1000000)
  else if nanos % 1000 = 0 then '.' :: padded 6 (nanos / 1000)
  else '.' :: padded 9 nanos

def dateChars (d : Date) : List Char :=
  yearChars d.year ++ '-' :: padded 2 d.month ++ '-' :: padded 2 d.day

def timeChars (secondOfDay nanos : Nat) : List Char :=
  let second := secondOfDay % 60 + nanos / nanosPerSecond
  padded 2 (secondOfDay / 3600) ++ ':' :: padded 2 (secondOfDay / 60 % 60) ++ ':' ::
    padded 2 second ++ fractionChars (nanos % nanosPerSecond)

def text (t : Timestamp) : String :=
  String.ofList (dateChars (Date.ofNumber t.day) ++ 'T' ::
    timeChars t.secondOfDay.toNat t.nanos ++ ['Z'])

/-- The nanoseconds from one instant to another. Within a day a leap second that lies between them
counts; from day to day all days are equally long. -/
def nanosBetween (earlier later : Timestamp) : Int :=
  let leap : Int :=
    if earlier.secondOfDay < later.secondOfDay ∧ earlier.isLeapSecond then 1
    else if later.secondOfDay < earlier.secondOfDay ∧ later.isLeapSecond then -1
    else 0
  (later.seconds - earlier.seconds + leap) * nanosPerSecond + (later.nanos - earlier.nanos)

/-- The whole seconds from one instant to another, toward zero. -/
def secondsBetween (earlier later : Timestamp) : Int :=
  (nanosBetween earlier later).tdiv nanosPerSecond

/-- The instant so many seconds later; none past the last year. Seconds are added to a leap second
as to the first instant after it. -/
def addSeconds? (t : Timestamp) (seconds : Nat) : Option Timestamp :=
  let later : Timestamp :=
    if h : seconds = 0 ∨ t.nanos < nanosPerSecond then
      if h0 : seconds = 0 then t else ⟨t.seconds + seconds, t.nanos, .inl (h.resolve_left h0)⟩
    else
      ⟨t.seconds + seconds, t.nanos - nanosPerSecond, by
        have := t.nanos_lt
        simp only [nanosPerSecond] at *
        omega⟩
  if (Date.ofNumber later.day).year ≤ Date.lastYear then some later else none

example : epoch.text = "1970-01-01T00:00:00Z" := by decide +kernel

end Timestamp
end Caseflow.Time
