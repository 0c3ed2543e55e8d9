import Caseflow.Regex.Extended.Reading

/-!
# Patterns in schemas

In a schema the classes of digits, of word characters and of blanks are of few characters: digits
and words in ASCII, and blanks of a short list. A pattern is respelled with these classes before it
is read, and so are the escapes of control characters. A pattern that looks around or refers to its
groups is taken as it is.
-/
namespace Caseflow.Schema.Standard

def patternBlanks : String := "\t\n\x0b\x0c\r \u00a0\u2003\u2029\ufeff"

/-- The members of the class that an escape stands for, and whether the class is of all others. -/
def classMembers? : Char → Option (String × Bool)
  | 'd' => some ("0-9", false)
  | 'D' => some ("0-9", true)
  | 'w' => some ("A-Za-z0-9_", false)
  | 'W' => some ("A-Za-z0-9_", true)
  | 's' => some (patternBlanks, false)
  | 'S' => some (patternBlanks, true)
  | _ => none

def withClasses : List Char → List Char
  | [] => []
  | '\\' :: c :: cs =>
    let spelled :=
      match classMembers? c with
      | some (members, negated) =>
        ['['] ++ (if negated then ['^'] else []) ++ members.toList ++ [']']
      | none => ['\\', c]
    spelled ++ withClasses cs
  | c :: cs => c :: withClasses cs

/-- Whether a pattern has the escape of the bell, which patterns in schemas do not know. -/
def hasBell : List Char → Bool
  | [] => false
  | '\\' :: c :: cs => c == 'a' || hasBell cs
  | _ :: cs => hasBell cs

def controlOf (letter : Char) : Char := Char.ofNat (letter.toUpper.toNat - 64)

/-- The text of a pattern in the spelling that is read, if it is a pattern. The fuel bounds the
escapes of control characters. -/
def respell? : Nat → List Char → Option (List Char)
  | 0, _ => none
  | fuel + 1, cs =>
    match Regex.parse cs with
    | .ok _ => if hasBell cs then none else some (withClasses cs)
    | .error .lookAround | .error .reference => some cs
    | .error (.control letter rest) =>
      respell? fuel (cs.take (cs.length - (rest.length + 3)) ++ controlOf letter :: rest)
    | .error .malformed => none

def matcher? (pattern : String) : Option Regex.Matcher :=
  let cs := pattern.toList
  (respell? (cs.length + 1) cs).bind Regex.Matcher.compile?

end Caseflow.Schema.Standard
