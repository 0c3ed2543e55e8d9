import Caseflow.Json.Basic

/-!
# Compact text of documents

The one written form of a document: no spaces, fields in their stored order, and in strings only
the quote, the backslash and control characters escaped. `canonicalText` of a document is this text;
two documents with the same text are the same document.
-/
namespace Caseflow

def hexDigit (n : Nat) : Char :=
  if n < 10 then Char.ofNat (48 + n) else Char.ofNat (87 + n)

namespace Json

def escapeChar (c : Char) : List Char :=
  match c with
  | '"' => ['\\', '"']
  | '\\' => ['\\', '\\']
  | '\n' => ['\\', 'n']
  | '\r' => ['\\', 'r']
  | '\t' => ['\\', 't']
  | '\x08' => ['\\', 'b']
  | '\x0c' => ['\\', 'f']
  | c =>
    if c.toNat < 0x20 then
      ['\\', 'u', '0', '0', hexDigit (c.toNat / 16), hexDigit (c.toNat % 16)]
    else [c]

def quoteChars (s : String) : List Char := '"' :: (s.toList.flatMap escapeChar ++ ['"'])

mutual

def chars : Json → List Char
  | null => ['n', 'u', 'l', 'l']
  | bool true => ['t', 'r', 'u', 'e']
  | bool false => ['f', 'a', 'l', 's', 'e']
  | num n => n.text.toList
  | str s => quoteChars s
  | arr [] => ['[', ']']
  | arr (v :: vs) => '[' :: (chars v ++ itemChars vs)
  | obj [] => ['\x7b', '\x7d']
  | obj ((k, v) :: fs) => '\x7b' :: (quoteChars k ++ ':' :: (chars v ++ fieldChars fs))

/-- The items of an array after its first one, with the closing bracket. -/
def itemChars : List Json → List Char
  | [] => [']']
  | v :: vs => ',' :: (chars v ++ itemChars vs)

def fieldChars : List (String × Json) → List Char
  | [] => ['\x7d']
  | (k, v) :: fs => ',' :: (quoteChars k ++ ':' :: (chars v ++ fieldChars fs))

end

def text (v : Json) : String := String.ofList v.chars

/-- The text that identifies a document: it is hashed, named by and compared through. -/
def canonicalText (v : Json) : String := v.text

def quote (s : String) : String := String.ofList (quoteChars s)

end Json
end Caseflow
