import Caseflow.Query.Expr
import Caseflow.Query.Lexer

/-!
# Reading query expressions

An operator-precedence reader. `operand` reads what can start an expression, `extension` what can
follow one, and `expression` goes on while the next operator binds tighter than the power it was
given. Every step consumes a token, so fuel above the number of tokens is never used up.
-/
namespace Caseflow.Query

/-- Why reading stops: the fuel is used up, or the tokens from `rest` on are wrong. -/
inductive Stop
  | depleted
  | fault (rest : List Located) (message : String)
deriving DecidableEq

abbrev Reader := StateT (List Located) (Except Stop)

namespace Reader

variable {α : Type}

def depleted : Reader α := fun _ => .error .depleted

def fail (message : String) : Reader α := fun ts => .error (.fault ts message)

/-- Fail at a token that has just been read. -/
def failBefore (token : Located) (message : String) : Reader α :=
  fun ts => .error (.fault (token :: ts) message)

def peek : Reader (Option Token) := fun ts => .ok (ts.head?.map (·.token), ts)

def peekTwo : Reader (Option Token × Option Token) :=
  fun ts => .ok ((ts.head?.map (·.token), (ts.drop 1).head?.map (·.token)), ts)

/-- The binding power of the token ahead, 0 at the end. -/
def peekPower : Reader Nat := fun ts => .ok ((ts.head?.map (·.token.power)).getD 0, ts)

def next : Reader Located
  | [] => .error (.fault [] "unexpected end of expression")
  | t :: ts => .ok (t, ts)

def drop (n : Nat) : Reader Unit := fun ts => .ok ((), ts.drop n)

def expect (token : Token) : Reader Unit := do
  let found ← next
  if found.token = token then pure ()
  else fail s!"expected {token.describe}, found {found.token.describe}"

end Reader

open Reader

/-- Operators that bind less tightly than this end the right side of a projection. -/
def projectionStop : Nat := 10

/-- The numbers and colons of an index up to its bracket; `parts` are those read so far, latest
first. -/
def indexParts (parts : List (Option Int)) :
    List Located → Except Stop (List (Option Int) × List Located)
  | [] => .error (.fault [] "unexpected end of expression")
  | t :: rest =>
    match t.token, parts with
    | .number _, some _ :: _ => .error (.fault rest "expected ':' or ']'")
    | .number n, _ :: before => indexParts (some n :: before) rest
    | .colon, parts =>
      if parts.length < 3 then indexParts (none :: parts) rest
      else .error (.fault rest s!"unexpected token {t.token.describe} in index")
    | .rbracket, parts => .ok (parts.reverse, rest)
    | other, _ => .error (.fault rest s!"unexpected token {other.describe} in index")

section Productions

-- `sub` reads an expression whose operators bind tighter than a power
variable (sub : Nat → Reader Expr)

def itemsUntil (close : Token) (fault : Token → String) : Nat → List Expr → Reader (List Expr)
  | 0, _ => depleted
  | fuel + 1, acc => do
    let item ← sub 0
    let t ← next
    if t.token = .comma then itemsUntil close fault fuel (item :: acc)
    else if t.token = close then pure (item :: acc).reverse
    else fail (fault t.token)

def listItems (fuel : Nat) : Reader Expr := do
  return .list (← itemsUntil sub .rbracket
    (fun t => s!"expected ',' or ']', found {t.describe}") fuel [])

def hashPairs : Nat → List (String × Expr) → Reader Expr
  | 0, _ => depleted
  | fuel + 1, acc => do
    let t ← next
    match t.token with
    | .identifier key | .quotedIdentifier key =>
      expect .colon
      let value ← sub 0
      let t ← next
      match t.token with
      | .comma => hashPairs fuel ((key, value) :: acc)
      | .rbrace => pure (.hash ((key, value) :: acc).reverse)
      | other => fail s!"expected ',' or '\x7d', found {other.describe}"
    | other => fail s!"expected a key, found {other.describe}"

def afterDot (fuel power : Nat) : Reader Expr := do
  match ← peek with
  | some (.identifier _) | some (.quotedIdentifier _) | some .star | some .lbrace
  | some .ampersand => sub power
  | some .lbracket => drop 1; listItems sub fuel
  | _ => fail "expected an identifier, '*', '[' or '\x7b' after '.'"

def projected (fuel power : Nat) : Reader Expr := do
  match ← peek with
  | none => pure .identity
  | some t =>
    if t.power < projectionStop then pure .identity
    else
      match t with
      | .dot => drop 1; afterDot sub fuel power
      | .lbracket | .filter | .flatten => sub power
      | t => fail s!"unexpected token {t.describe} after projection"

def valuesOf (fuel : Nat) (left : Expr) : Reader Expr := do
  return .projection (.objectValues left) (← projected sub fuel Token.star.power)

def eachOf (fuel : Nat) (left : Expr) : Reader Expr := do
  return .projection left (← projected sub fuel Token.star.power)

def flattened (fuel : Nat) (left : Expr) : Reader Expr := do
  return .projection (.flatten left) (← projected sub fuel Token.flatten.power)

def filtered (fuel : Nat) (left : Expr) : Reader Expr := do
  let test ← sub 0
  expect .rbracket
  return .projection left (.condition test (← projected sub fuel Token.filter.power))

def indexed (fuel : Nat) (left : Expr) : Reader Expr := do
  match ← indexParts [none] with
  | [some i] => pure (.chain left (.index i))
  | start :: stop :: rest =>
    let step := rest.head?.join
    if step = some 0 then fail "slice step cannot be 0"
    else eachOf sub fuel (.chain left (.slice ⟨start, stop, step⟩))
  | _ => fail "empty index"

def callArguments (fuel : Nat) : Expr → Reader Expr
  | .field name => do
    if (← peek) = some .rparen then
      drop 1
      pure (.call name [])
    else
      return .call name (← itemsUntil sub .rparen
        (fun t => s!"expected ',' or ')', found {t.describe}") fuel [])
  | _ => fail "only named functions can be called"

def operand (fuel : Nat) : Reader Expr := do
  let t ← next
  match t.token with
  | .current => pure .identity
  | .identifier name => pure (.field name)
  | .quotedIdentifier name =>
    if (← peek) = some .lparen then fail "quoted identifiers cannot be called"
    else pure (.field name)
  | .literal v => pure (.literal v)
  | .rawString s => pure (.literal (.str s))
  | .star => valuesOf sub fuel .identity
  | .flatten => flattened sub fuel .identity
  | .filter => filtered sub fuel .identity
  | .lbrace => hashPairs sub fuel []
  | .lbracket =>
    match ← peekTwo with
    | (some (.number _), _) | (some .colon, _) => indexed sub fuel .identity
    | (some .star, some .rbracket) => drop 2; eachOf sub fuel .identity
    | _ => listItems sub fuel
  | .ampersand => return .reference (← sub 0)
  | .not => return .not (← sub Token.not.power)
  | .lparen =>
    let inner ← sub 0
    expect .rparen
    pure inner
  | other => failBefore t s!"unexpected token {other.describe}"

def extension (fuel : Nat) (left : Expr) : Reader Expr := do
  let t ← next
  match t.token with
  | .dot => return .chain left (← afterDot sub fuel Token.dot.power)
  | .lbracket =>
    match ← peekTwo with
    | (some (.number _), _) | (some .colon, _) => indexed sub fuel left
    | (some .star, some .rbracket) => drop 2; eachOf sub fuel left
    | _ => fail "expected an index, a slice or '*'"
  | .flatten => flattened sub fuel left
  | .filter => filtered sub fuel left
  | .pipe => return .chain left (← sub Token.pipe.power)
  | .or => return .or left (← sub Token.or.power)
  | .and => return .and left (← sub Token.and.power)
  | .lparen => callArguments sub fuel left
  | .comparison op => return .comparison op left (← sub t.token.power)
  | other => failBefore t s!"unexpected token {other.describe}"

/-- Extend an expression while the operator ahead binds tighter than `power`. -/
def extend (power : Nat) : Nat → Expr → Reader Expr
  | 0, _ => depleted
  | fuel + 1, left => do
    if power < (← peekPower) then extend power fuel (← extension sub fuel left) else pure left

end Productions

def expression : Nat → Nat → Reader Expr
  | 0, _ => depleted
  | fuel + 1, power => do extend (expression fuel) power fuel (← operand (expression fuel) fuel)

def ofTokens (ts : List Located) : Except Stop Expr :=
  match expression (ts.length + 1) 0 ts with
  | .ok (e, []) => .ok e
  | .ok (_, t :: rest) =>
    .error (.fault (t :: rest) s!"unexpected trailing token {t.token.describe}")
  | .error stop => .error stop

/-- Why a text is no query, and at which byte offset. -/
structure SyntaxFault where
  query : String
  offset : Nat
  message : String
deriving DecidableEq

def parse (query : String) : Except SyntaxFault Expr :=
  match tokens query with
  | .error e => .error ⟨query, e.offset, s!"unexpected input '{e.text}'"⟩
  | .ok ts =>
    match ofTokens ts with
    | .ok e => .ok e
    | .error .depleted => .error ⟨query, 0, "expression too long"⟩
    | .error (.fault rest message) =>
      .error ⟨query, (rest.head?.map (·.offset)).getD query.utf8ByteSize, message⟩

end Caseflow.Query
