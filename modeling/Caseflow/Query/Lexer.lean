import Caseflow.Query.Token
import Caseflow.Json.Reading

/-!
# Splitting a query into tokens

`scan` finds the longest token at the head of a text; `tokens` goes through a text from token to
token and skips the blanks between them. Both count what they consume in characters, and `tokens`
turns the counts into byte offsets.
-/
namespace Caseflow.Query

/-- What the head of a text is: a token of some length in characters, or input that is no token. -/
inductive Scan
  | found (token : Token) (length : Nat)
  | unexpected (length : Nat)

def isSeparator (c : Char) : Bool := c == ' ' || c == '\t' || c == '\r' || c == '\n'

def isNameStart (c : Char) : Bool :=
  ('A' ≤ c && c ≤ 'Z') || ('a' ≤ c && c ≤ 'z') || c == '_'

def isNameChar (c : Char) : Bool := isNameStart c || Json.isDigit c

/-- How a quoted run ends: at its quote, at the end of the text, or at a backslash that escapes
nothing because a line feed or the end of the text follows. -/
inductive Closing
  | closed
  | unclosed
  | dangling
deriving DecidableEq

def closing (quote : Char) : List Char → Nat × Closing
  | [] => (0, .unclosed)
  | ['\\'] => (0, .dangling)
  | '\\' :: c :: rest =>
    if c = '\n' then (0, .dangling)
    else let (n, how) := closing quote rest; (n + 2, how)
  | c :: rest =>
    if c = quote then (1, .closed)
    else let (n, how) := closing quote rest; (n + 1, how)

def unescapeQuote (quote : Char) : List Char → List Char
  | '\\' :: c :: rest =>
    if c = quote then quote :: unescapeQuote quote rest
    else '\\' :: unescapeQuote quote (c :: rest)
  | c :: rest => c :: unescapeQuote quote rest
  | [] => []

def quotedToken? (quote : Char) (content : List Char) : Option Token :=
  if quote = '"' then
    (Json.parseString? (String.ofList ('"' :: (content ++ ['"'])))).map .quotedIdentifier
  else if quote = '\'' then
    some (.rawString (String.ofList (unescapeQuote quote content)))
  else
    (Json.parse? (String.ofList (unescapeQuote quote content))).map .literal

/-- The token at an opening quote, `rest` being what follows the quote. -/
def scanQuoted (quote : Char) (rest : List Char) : Scan :=
  match closing quote rest with
  | (n, .closed) =>
    match quotedToken? quote (rest.take (n - 1)) with
    | some t => .found t (n + 1)
    | none => .unexpected (n + 1)
  | (n, _) => .unexpected (n + 1)

/-- The integer token of some digits, if the integer has 64 bits. -/
def scanInteger (negative : Bool) (cs : List Char) : Scan :=
  let digits := cs.takeWhile Json.isDigit
  let n := (Json.natOfDigits (digits.map Json.digitValue) : Int)
  let value := if negative then -n else n
  let length := digits.length + (if negative then 1 else 0)
  if Number.minSigned ≤ value ∧ value ≤ Number.maxSigned then .found (.number value) length
  else .unexpected length

def scan : List Char → Scan
  | [] => .unexpected 0
  | '.' :: _ => .found .dot 1
  | '*' :: _ => .found .star 1
  | '[' :: ']' :: _ => .found .flatten 2
  | '[' :: '?' :: _ => .found .filter 2
  | '[' :: _ => .found .lbracket 1
  | ']' :: _ => .found .rbracket 1
  | '\x7b' :: _ => .found .lbrace 1
  | '\x7d' :: _ => .found .rbrace 1
  | '(' :: _ => .found .lparen 1
  | ')' :: _ => .found .rparen 1
  | ',' :: _ => .found .comma 1
  | ':' :: _ => .found .colon 1
  | '@' :: _ => .found .current 1
  | '&' :: '&' :: _ => .found .and 2
  | '&' :: _ => .found .ampersand 1
  | '|' :: '|' :: _ => .found .or 2
  | '|' :: _ => .found .pipe 1
  | '!' :: '=' :: _ => .found (.comparison .ne) 2
  | '!' :: _ => .found .not 1
  | '=' :: '=' :: _ => .found (.comparison .eq) 2
  | '<' :: '=' :: _ => .found (.comparison .lte) 2
  | '<' :: _ => .found (.comparison .lt) 1
  | '>' :: '=' :: _ => .found (.comparison .gte) 2
  | '>' :: _ => .found (.comparison .gt) 1
  | '-' :: d :: rest => if Json.isDigit d then scanInteger true (d :: rest) else .unexpected 1
  | '"' :: rest => scanQuoted '"' rest
  | '\'' :: rest => scanQuoted '\'' rest
  | '\x60' :: rest => scanQuoted '\x60' rest
  | c :: rest =>
    if Json.isDigit c then scanInteger false (c :: rest)
    else if isNameStart c then
      let name := (c :: rest).takeWhile isNameChar
      .found (.identifier (String.ofList name)) name.length
    else .unexpected 1

structure Unexpected where
  offset : Nat
  text : String
deriving DecidableEq

/-- The tokens of a text that starts at a byte offset, after `skip` characters. -/
def tokensFrom (offset : Nat) : Nat → List Char → Except Unexpected (List Located)
  | _, [] => .ok []
  | skip + 1, c :: rest => tokensFrom (offset + c.utf8Size) skip rest
  | 0, c :: rest =>
    if isSeparator c then tokensFrom (offset + c.utf8Size) 0 rest
    else
      match scan (c :: rest) with
      | .found t n =>
        match tokensFrom (offset + c.utf8Size) (n - 1) rest with
        | .ok ts => .ok (⟨offset, t⟩ :: ts)
        | .error e => .error e
      | .unexpected n => .error ⟨offset, String.ofList ((c :: rest).take n)⟩

def tokens (query : String) : Except Unexpected (List Located) := tokensFrom 0 0 query.toList

end Caseflow.Query
