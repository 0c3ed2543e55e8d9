import Caseflow.Json.Text
import Caseflow.Text.Unprintable

/-!
# Quoted texts in messages

How messages quote a string: between double quotes, with the quote, the backslash and the usual
control characters escaped, and unprintable characters given by number.
-/
namespace Caseflow.Text

def hexDigits (n : Nat) : List Char := Nat.toDigits 16 n

def quotedChar (c : Char) : List Char :=
  match c with
  | '"' => ['\\', '"']
  | '\\' => ['\\', '\\']
  | '\n' => ['\\', 'n']
  | '\r' => ['\\', 'r']
  | '\t' => ['\\', 't']
  | '\x00' => ['\\', '0']
  | c =>
    if isUnprintable c then ['\\', 'u', '\x7b'] ++ hexDigits c.toNat ++ ['\x7d'] else [c]

def quoted (s : String) : String :=
  String.ofList ('"' :: (s.toList.flatMap quotedChar ++ ['"']))

def listed (texts : List String) : String := String.intercalate ", " texts

end Caseflow.Text
