import Caseflow.Json.Reading
import Caseflow.Text.Split

/-!
# Pointers into documents

A pointer is empty or a slash before each step: a field name with `~1` for a slash and `~0` for a
tilde, or the position of an item without sign and leading zeros.
-/
namespace Caseflow.Json.Pointer

def escapeChars (cs : List Char) : List Char :=
  cs.flatMap fun
    | '~' => ['~', '0']
    | '/' => ['~', '1']
    | c => [c]

/-- Replace every occurrence of a tilde and a digit. -/
def replaceMark (digit replacement : Char) : List Char → List Char
  | '~' :: c :: rest =>
    if c = digit then replacement :: replaceMark digit replacement rest
    else '~' :: replaceMark digit replacement (c :: rest)
  | c :: rest => c :: replaceMark digit replacement rest
  | [] => []

def unescapeChars (cs : List Char) : List Char := replaceMark '0' '~' (replaceMark '1' '/' cs)

def text (steps : List String) : String :=
  String.ofList (steps.flatMap fun s => '/' :: escapeChars s.toList)

def steps? (pointer : String) : Option (List String) :=
  match pointer.toList with
  | [] => some []
  | '/' :: rest =>
    some ((Text.splitChars '/' rest).map fun cs => String.ofList (unescapeChars cs))
  | _ => none

/-- The position an item step means. -/
def position? (step : String) : Option Nat :=
  match step.toList with
  | [] => none
  | '0' :: _ :: _ => none
  | cs => if cs.all Json.isDigit then some (Json.natOfDigits (cs.map Json.digitValue)) else none

def child? (v : Json) (step : String) : Option Json :=
  match v with
  | .obj fields => Assoc.get? step fields
  | .arr items => (position? step).bind (items[·]?)
  | _ => none

def follow? : Json → List String → Option Json
  | v, [] => some v
  | v, step :: steps => (child? v step).bind (follow? · steps)

def get? (pointer : String) (v : Json) : Option Json := (steps? pointer).bind (follow? v)

end Caseflow.Json.Pointer
