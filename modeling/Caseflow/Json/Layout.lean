import Caseflow.Json.Text

/-!
# Indented text of documents

A document written over several lines: every item and field on a line of its own, two spaces deeper
than what holds it. Empty arrays and objects stay on one line.
-/
namespace Caseflow.Json

def newLine (depth : Nat) : List Char := '\n' :: List.replicate (2 * depth) ' '

mutual

def layoutChars (depth : Nat) : Json → List Char
  | arr (v :: vs) =>
    '[' :: newLine (depth + 1) ++ layoutChars (depth + 1) v ++ layoutItems depth vs
  | obj ((k, v) :: fs) =>
    '\x7b' :: newLine (depth + 1) ++ quoteChars k ++ [':', ' '] ++ layoutChars (depth + 1) v ++
      layoutFields depth fs
  | arr [] => ['[', ']']
  | obj [] => ['\x7b', '\x7d']
  | null => chars null
  | bool b => chars (bool b)
  | num n => chars (num n)
  | str s => chars (str s)

/-- The items of an array after its first one, with the closing bracket. -/
def layoutItems (depth : Nat) : List Json → List Char
  | [] => newLine depth ++ [']']
  | v :: vs => ',' :: newLine (depth + 1) ++ layoutChars (depth + 1) v ++ layoutItems depth vs

def layoutFields (depth : Nat) : List (String × Json) → List Char
  | [] => newLine depth ++ ['\x7d']
  | (k, v) :: fs =>
    ',' :: newLine (depth + 1) ++ quoteChars k ++ [':', ' '] ++ layoutChars (depth + 1) v ++
      layoutFields depth fs

end

def layout (v : Json) : String := String.ofList (v.layoutChars 0)

example : (Json.arr [.null, .obj [("a", .arr [])]]).layout =
    "[\n  null,\n  \x7b\n    \"a\": []\n  \x7d\n]" := by decide +kernel

end Caseflow.Json
