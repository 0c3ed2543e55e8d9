import Caseflow.Json.Text
import Caseflow.Json.Reading
import Caseflow.Text.Blank
import Caseflow.Text.Digit

/-!
# Time periods

A period is a number of seconds, or components of an amount and a unit such as `1h 30m` that add up.
Units are written in any letter case. Nothing wraps: a period beyond 64 bits is no period.
-/
namespace Caseflow.Scenario.Period

def unitSeconds? : String → Option Nat
  | "s" | "second" | "seconds" => some 1
  | "m" | "minute" | "minutes" => some 60
  | "h" | "hour" | "hours" => some 3600
  | "d" | "day" | "days" => some 86400
  | "w" | "week" | "weeks" => some 604800
  | _ => none

def isLetter (c : Char) : Bool := ('a' ≤ c && c ≤ 'z') || ('A' ≤ c && c ≤ 'Z')

def lowered (cs : List Char) : String := String.ofList (cs.map Char.toLower)

def bounded? (n : Nat) : Option Nat := if n ≤ Number.maxUnsigned then some n else none

def number? (digits : List Char) : Option Nat :=
  if digits.isEmpty || !digits.all Json.isDigit then none
  else bounded? (Json.natOfDigits (digits.map Json.digitValue))

/-- The seconds of one component at the head of a text, and what follows it and its blanks. Its
amount goes as far as there are digits of any script, but those of others are no number. -/
def component? (cs : List Char) : Option (Nat × List Char) := do
  let amount ← number? (cs.takeWhile Text.isDecimalDigit)
  let cs := (cs.dropWhile Text.isDecimalDigit).dropWhile Text.isBlank
  let unit ← unitSeconds? (lowered (cs.takeWhile isLetter))
  let seconds ← bounded? (amount * unit)
  return (seconds, (cs.dropWhile isLetter).dropWhile Text.isBlank)

def sum? : Nat → Nat → List Char → Option Nat
  | _, total, [] => some total
  | 0, _, _ => none
  | fuel + 1, total, cs => do
    let (seconds, rest) ← component? cs
    sum? fuel (← bounded? (total + seconds)) rest

def ofText? (text : String) : Option Nat :=
  let cs := Text.trimChars text.toList
  if cs.isEmpty then none
  else if cs.all Json.isDigit then number? cs
  else sum? cs.length 0 cs

/-- The seconds a value means, or the text of the value if it means none. -/
def ofJson : Json → Except String Nat
  | .num n => n.toUnsigned?.elim (.error n.text) .ok
  | .str s => (ofText? s).elim (.error s) .ok
  | v => .error v.text

end Caseflow.Scenario.Period
