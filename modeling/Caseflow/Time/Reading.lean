import Caseflow.Json.Reading
import Caseflow.Text.Blank
import Caseflow.Time.Timestamp

/-!
# Reading timestamps

A date, a letter `T` or a blank, a time of day and an offset from universal time. Numbers may be
shorter than their usual width, and blanks may stand between the parts.
-/
namespace Caseflow.Time.Timestamp

def skipBlanks (cs : List Char) : List Char := cs.dropWhile Text.isBlank

/-- A number of one to `width` digits after blanks; of any width if there is no limit. -/
def readNumber? (width : Option Nat) (cs : List Char) : Option (Nat × List Char) :=
  let cs := skipBlanks cs
  let digits := cs.takeWhile Json.isDigit
  let digits := (width.map digits.take).getD digits
  if digits.isEmpty then none
  else some (Json.natOfDigits (digits.map Json.digitValue), cs.drop digits.length)

/-- A year of up to four digits, or of any number of digits after a sign. -/
def readYear? (cs : List Char) : Option (Int × List Char) :=
  match skipBlanks cs with
  | '-' :: d :: rest =>
    if Json.isDigit d then (readNumber? none (d :: rest)).map fun (n, rest) => (-n, rest) else none
  | '+' :: d :: rest =>
    if Json.isDigit d then (readNumber? none (d :: rest)).map fun (n, rest) => (n, rest) else none
  | cs => (readNumber? (some 4) cs).map fun (n, rest) => (n, rest)

def readMark? (mark : Char) (cs : List Char) : Option (List Char) :=
  match skipBlanks cs with
  | c :: rest => if c = mark then some rest else none
  | [] => none

def readDate? (cs : List Char) : Option (Date × List Char) := do
  let (year, cs) ← readYear? cs
  let cs ← readMark? '-' cs
  let (month, cs) ← readNumber? (some 2) cs
  let cs ← readMark? '-' cs
  let (day, cs) ← readNumber? (some 2) cs
  let date : Date := ⟨year, month, day⟩
  guard (date.isValid && date.inRange)
  return (date, cs)

/-- The nanoseconds that a fraction's digits give; digits past the ninth are dropped. -/
def nanosOfDigits (digits : List Nat) : Nat :=
  let kept := digits.take 9
  Json.natOfDigits kept * Nat.pow 10 (9 - kept.length)

theorem natOfDigits_lt {digits : List Nat} (h : ∀ d ∈ digits, d < 10) :
    Json.natOfDigits digits < Nat.pow 10 digits.length := by
  have step : ∀ (ds : List Nat) (n : Nat), (∀ d ∈ ds, d < 10) →
      ds.foldl (fun n d => n * 10 + d) n < (n + 1) * 10 ^ ds.length := by
    intro ds
    induction ds with
    | nil => intro n _; simp
    | cons d ds ih =>
      intro n hd
      have hd10 : d < 10 := hd d (by simp)
      refine Nat.lt_of_lt_of_le (ih (n * 10 + d) fun e he => hd e (by simp [he])) ?_
      calc (n * 10 + d + 1) * 10 ^ ds.length ≤ ((n + 1) * 10) * 10 ^ ds.length :=
            Nat.mul_le_mul_right _ (by omega)
        _ = (n + 1) * 10 ^ (d :: ds).length := by
            rw [List.length_cons, Nat.pow_succ, Nat.mul_assoc, Nat.mul_comm 10]
  simpa [Json.natOfDigits] using step digits 0 h

theorem nanosOfDigits_lt {digits : List Nat} (h : ∀ d ∈ digits, d < 10) :
    nanosOfDigits digits < nanosPerSecond := by
  have hkept : ∀ d ∈ digits.take 9, d < 10 := fun d hd => h d (List.mem_of_mem_take hd)
  have hlen : (digits.take 9).length ≤ 9 := List.length_take_le 9 digits
  have hlt := natOfDigits_lt hkept
  rw [Nat.pow_eq] at hlt
  unfold nanosOfDigits
  simp only [Nat.pow_eq]
  have hpow : 10 ^ (digits.take 9).length * 10 ^ (9 - (digits.take 9).length) = 10 ^ 9 := by
    rw [← Nat.pow_add]; congr 1; omega
  calc Json.natOfDigits (digits.take 9) * 10 ^ (9 - (digits.take 9).length)
      < 10 ^ (digits.take 9).length * 10 ^ (9 - (digits.take 9).length) :=
        Nat.mul_lt_mul_of_pos_right hlt (Nat.pow_pos (by decide))
    _ = nanosPerSecond := by rw [hpow]; rfl

theorem digitValue_lt {c : Char} (h : Json.isDigit c = true) : Json.digitValue c < 10 := by
  simp only [Json.isDigit, Bool.and_eq_true, decide_eq_true_eq, Char.le_def, UInt32.le_iff_toNat_le]
    at h
  have h9 : c.toNat ≤ 57 := h.2
  simp only [Json.digitValue]
  omega

theorem nanos_of_takeWhile_lt (cs : List Char) :
    nanosOfDigits ((cs.takeWhile Json.isDigit).map Json.digitValue) < nanosPerSecond := by
  refine nanosOfDigits_lt fun d hd => ?_
  obtain ⟨c, hc, rfl⟩ := List.mem_map.1 hd
  exact digitValue_lt (List.all_eq_true.1 List.all_takeWhile c hc)

def readFraction? : List Char → Option ({ n : Nat // n < nanosPerSecond } × List Char)
  | '.' :: rest =>
    let digits := rest.takeWhile Json.isDigit
    if digits.isEmpty then none
    else some (⟨nanosOfDigits (digits.map Json.digitValue), nanos_of_takeWhile_lt rest⟩,
      rest.drop digits.length)
  | cs => some (⟨0, by decide⟩, cs)

/-- A time of day: hours, minutes, seconds up to 60, and the fraction. -/
structure Clock where
  hour : Nat
  minute : Nat
  second : Nat
  nanos : Nat
  nanos_lt : nanos < nanosPerSecond

def readClock? (cs : List Char) : Option (Clock × List Char) := do
  let (hour, cs) ← readNumber? (some 2) cs
  let cs ← readMark? ':' cs
  let (minute, cs) ← readNumber? (some 2) cs
  let cs ← readMark? ':' cs
  let (second, cs) ← readNumber? (some 2) cs
  let (nanos, cs) ← readFraction? cs
  guard (hour ≤ 23 && minute ≤ 59 && second ≤ 60)
  return (⟨hour, minute, second, nanos.1, nanos.2⟩, cs)

def readTwoDigits? : List Char → Option (Nat × List Char)
  | a :: b :: rest =>
    if Json.isDigit a && Json.isDigit b then
      some (Json.digitValue a * 10 + Json.digitValue b, rest)
    else none
  | _ => none

/-- The minutes of an offset whose sign has been read: two digits for the hours, colons or blanks,
and two digits for the minutes. -/
def readOffsetMinutes? (cs : List Char) : Option (Nat × List Char) := do
  let (hours, cs) ← readTwoDigits? cs
  let cs := cs.dropWhile fun c => c == ':' || Text.isBlank c
  let (minutes, cs) ← readTwoDigits? cs
  guard (hours ≤ 23 && minutes ≤ 59)
  return (hours * 60 + minutes, cs)

/-- The offset in minutes: `Z`, `UTC`, or a signed number of hours and minutes. -/
def readOffset? (cs : List Char) : Option (Int × List Char) :=
  match cs with
  | 'Z' :: rest | 'z' :: rest => some (0, rest)
  | '+' :: rest => (readOffsetMinutes? rest).map fun (n, rest) => (n, rest)
  | '-' :: rest | '\u2212' :: rest => (readOffsetMinutes? rest).map fun (n, rest) => (-n, rest)
  | _ => if (cs.take 3).map Char.toUpper = ['U', 'T', 'C'] then some (0, cs.drop 3) else none

/-- The instant of a date and a clock at an offset; second 60 is a leap second. -/
def ofClock (date : Date) (clock : Clock) (offset : Int) : Timestamp :=
  let minutes := date.number * 1440 + (clock.hour * 60 + clock.minute : Nat) - offset
  if h : clock.second = 60 then
    ⟨minutes * 60 + 59, clock.nanos + nanosPerSecond, .inr ⟨by
      have := clock.nanos_lt
      omega, by omega⟩⟩
  else ⟨minutes * 60 + clock.second, clock.nanos, .inl clock.nanos_lt⟩

/-- Read a timestamp with an offset; the date must exist, here and in universal time. -/
def ofText? (s : String) : Option Timestamp := do
  let (date, cs) ← readDate? s.toList
  let cs ←
    match cs with
    | 'T' :: rest | 't' :: rest | ' ' :: rest => some rest
    | _ => none
  let (clock, cs) ← readClock? cs
  let (offset, cs) ← readOffset? (skipBlanks cs)
  guard (skipBlanks cs).isEmpty
  let t := ofClock date clock offset
  guard (Date.ofNumber t.day).inRange
  return t

end Caseflow.Time.Timestamp
