import Caseflow.Regex.Property
import Caseflow.Json.Reading

/-!
# Reading patterns

The reader of pattern texts: groups with names and flags, bracketed classes with set operations,
counted and lazy repetitions, and escapes. Look-around and references to groups are refused; the
first thing that is refused decides the reason.
-/
namespace Caseflow.Regex

structure Flags where
  ignoreCase : Bool := false
  multiLine : Bool := false
  dotAll : Bool := false
  swapGreed : Bool := false
  ascii : Bool := false
  verbose : Bool := false
deriving DecidableEq

/-- Where a reader stands: the text ahead, the flags, and the groups opened so far. -/
structure Cursor where
  rest : List Char
  flags : Flags
  groups : Nat
  names : List (String × Nat)

inductive Refusal
  | malformed
  | lookAround
  | reference
  /-- An escape that asks for the control character of a letter, and the text after it. -/
  | control (letter : Char) (rest : List Char)
deriving DecidableEq

abbrev PatternReader := StateT Cursor (Except Refusal)

namespace PatternReader

def refuse {α : Type} (r : Refusal) : PatternReader α := fun _ => .error r

def fail {α : Type} : PatternReader α := refuse .malformed

def rest : PatternReader (List Char) := fun s => .ok (s.rest, s)

def flags : PatternReader Flags := fun s => .ok (s.flags, s)

def moveTo (rest : List Char) : PatternReader Unit := fun s => .ok ((), { s with rest })

def setFlags (flags : Flags) : PatternReader Unit := fun s => .ok ((), { s with flags })

def openGroup : PatternReader Nat := fun s =>
  .ok (s.groups + 1, { s with groups := s.groups + 1 })

def nameGroup (name : String) (index : Nat) : PatternReader Unit := fun s =>
  if s.names.any (·.1 == name) then .error .malformed
  else .ok ((), { s with names := (name, index) :: s.names })

end PatternReader

open PatternReader

/-- The text behind a comment, which ends with its line. -/
def skipComment : List Char → List Char
  | [] => []
  | c :: rest => if c = '\n' then rest else skipComment rest

def skipVerbose : Nat → List Char → List Char
  | 0, cs => cs
  | fuel + 1, cs =>
    match cs.dropWhile Text.isBlank with
    | '#' :: rest => skipVerbose fuel (skipComment rest)
    | cs => cs

def skipSpace : PatternReader Unit := do
  if (← flags).verbose then
    let cs ← rest
    moveTo (skipVerbose cs.length cs)

/-- Characters that stand for something else unless escaped. -/
def isMeta (c : Char) : Bool :=
  ['\\', '.', '+', '*', '?', '(', ')', '|', '[', ']', '\x7b', '\x7d', '^', '$', '#', '&', '-',
    '~'].contains c

def isAsciiLetter (c : Char) : Bool := ('a' ≤ c && c ≤ 'z') || ('A' ≤ c && c ≤ 'Z')

def isAsciiAlphanumeric (c : Char) : Bool := Json.isDigit c || isAsciiLetter c

def isEscapable (c : Char) : Bool :=
  isMeta c || (c.toNat < 128 && !isAsciiAlphanumeric c && c != '<' && c != '>')

inductive Atom
  | literal (c : Char)
  | set (s : CharSet)
  | look (l : Look)

def charOfNat? (n : Nat) : Option Char :=
  if n < 0xD800 ∨ (0xDFFF < n ∧ n < 0x110000) then some (Char.ofNat n) else none

def hexNat? (cs : List Char) : Option Nat :=
  if cs.isEmpty then none
  else (cs.mapM Json.hexValue?).map fun ds => ds.foldl (fun n d => n * 16 + d) 0

def hexEscape (count : Nat) : List Char → PatternReader Atom
  | '\x7b' :: cs =>
    let digits := cs.takeWhile (· != '\x7d')
    match cs.dropWhile (· != '\x7d'), (hexNat? digits).bind charOfNat? with
    | '\x7d' :: rest, some c => do moveTo rest; pure (.literal c)
    | _, _ => fail
  | cs =>
    if cs.length < count then fail
    else
      match (hexNat? (cs.take count)).bind charOfNat? with
      | some c => do moveTo (cs.drop count); pure (.literal c)
      | none => fail

def asciiDigits : CharSet := .ranges [(48, 57)]

def asciiWord : CharSet := .ranges [(48, 57), (65, 90), (95, 95), (97, 122)]

def asciiBlank : CharSet := .ranges [(9, 13), (32, 32)]

/-- The boundary named in braces after `\b`, if the braces hold a name at all. -/
def namedBoundary? : List Char → Option (Option Look × List Char)
  | '\x7b' :: cs =>
    let isNamePart (c : Char) := isAsciiLetter c || c == '-'
    let name := cs.takeWhile isNamePart
    if name.isEmpty then none
    else
      match cs.dropWhile isNamePart with
      | '\x7d' :: rest =>
        match String.ofList name with
        | "start" => some (some .wordStart, rest)
        | "end" => some (some .wordEnd, rest)
        | "start-half" => some (some .wordStartHalf, rest)
        | "end-half" => some (some .wordEndHalf, rest)
        | _ => some (none, rest)
      | rest => some (none, rest)
  | _ => none

def readNamedClass (negated : Bool) (cs : List Char) : PatternReader Atom := do
  let f ← flags
  let named? :=
    match cs with
    | '\x7b' :: cs =>
      match cs.dropWhile (· != '\x7d') with
      | _ :: rest => (classOfName? (cs.takeWhile (· != '\x7d'))).map fun s => (s, rest)
      | [] => none
    | c :: rest => (classOfName? [c]).map fun s => (s, rest)
    | [] => none
  match named? with
  | some (s, rest) => do
    moveTo rest
    pure (.set ((if f.ignoreCase then .folded s else s).negatedIf negated))
  | none => fail

def readEscape : PatternReader Atom := do
  let ascii := (← flags).ascii
  let letter (s : CharSet) (rest : List Char) : PatternReader Atom := do moveTo rest; pure (.set s)
  let plain (c : Char) (rest : List Char) : PatternReader Atom := do moveTo rest; pure (.literal c)
  let at_ (l : Look) (rest : List Char) : PatternReader Atom := do moveTo rest; pure (.look l)
  match ← rest with
  | [] => fail
  | 'd' :: rest => letter (if ascii then asciiDigits else .digit) rest
  | 'D' :: rest => letter (.complement (if ascii then asciiDigits else .digit)) rest
  | 'w' :: rest => letter (if ascii then asciiWord else .word) rest
  | 'W' :: rest => letter (.complement (if ascii then asciiWord else .word)) rest
  | 's' :: rest => letter (if ascii then asciiBlank else .blank) rest
  | 'S' :: rest => letter (.complement (if ascii then asciiBlank else .blank)) rest
  | 'p' :: rest => readNamedClass false rest
  | 'P' :: rest => readNamedClass true rest
  | 'x' :: rest => hexEscape 2 rest
  | 'u' :: rest => hexEscape 4 rest
  | 'U' :: rest => hexEscape 8 rest
  | 'a' :: rest => plain '\x07' rest
  | 'f' :: rest => plain '\x0c' rest
  | 't' :: rest => plain '\t' rest
  | 'n' :: rest => plain '\n' rest
  | 'r' :: rest => plain '\r' rest
  | 'v' :: rest => plain '\x0b' rest
  | 'A' :: rest => at_ .textStart rest
  | 'z' :: rest => at_ .textEnd rest
  | 'B' :: rest => at_ .notBoundary rest
  | '<' :: rest => at_ .wordStart rest
  | '>' :: rest => at_ .wordEnd rest
  | 'b' :: rest =>
    match namedBoundary? rest with
    | none => at_ .boundary rest
    | some (some l, rest) => at_ l rest
    | some (none, _) => fail
  | 'c' :: letter :: rest => if isAsciiLetter letter then refuse (.control letter rest) else fail
  | c :: rest =>
    if Json.isDigit c then refuse .reference
    else if isEscapable c then plain c rest
    else fail

/-- The set of a class between `[:` and `:]`, by name. -/
def asciiClass? : String → Option CharSet
  | "alnum" => some (.ranges [(48, 57), (65, 90), (97, 122)])
  | "alpha" => some (.ranges [(65, 90), (97, 122)])
  | "ascii" => some (.ranges [(0, 127)])
  | "blank" => some (.ranges [(9, 9), (32, 32)])
  | "cntrl" => some (.ranges [(0, 31), (127, 127)])
  | "digit" => some asciiDigits
  | "graph" => some (.ranges [(33, 126)])
  | "lower" => some (.ranges [(97, 122)])
  | "print" => some (.ranges [(32, 126)])
  | "punct" => some (.ranges [(33, 47), (58, 64), (91, 96), (123, 126)])
  | "space" => some asciiBlank
  | "upper" => some (.ranges [(65, 90)])
  | "word" => some asciiWord
  | "xdigit" => some (.ranges [(48, 57), (65, 70), (97, 102)])
  | _ => none

def namedClass? : List Char → Option (CharSet × List Char)
  | '[' :: ':' :: cs =>
    let (negated, cs) :=
      match cs with
      | '^' :: cs => (true, cs)
      | cs => (false, cs)
    let name := cs.takeWhile (· != ':')
    match cs.dropWhile (· != ':'), asciiClass? (String.ofList name) with
    | ':' :: ']' :: rest, some s => some (s.negatedIf negated, rest)
    | _, _ => none
  | _ => none

def readClassAtom : PatternReader Atom := do
  match ← rest with
  | [] => fail
  | '\\' :: rest => do moveTo rest; readEscape
  | c :: rest => do moveTo rest; pure (.literal c)

def Atom.set? : Atom → Option CharSet
  | literal c => some (.single c)
  | set s => some s
  | look _ => none

def readClassItem : PatternReader CharSet := do
  let first ← readClassAtom
  skipSpace
  let single : PatternReader CharSet :=
    match first.set? with
    | some s => pure s
    | none => fail
  match ← rest with
  | [] => fail
  | '-' :: after =>
    let spaced := if (← flags).verbose then skipVerbose after.length after else after
    match spaced with
    | ']' :: _ | '-' :: _ => single
    | _ => do
      moveTo spaced
      let last ← readClassAtom
      match first, last with
      | .literal a, .literal b => if a ≤ b then pure (.ranges [(a.toNat, b.toNat)]) else fail
      | _, _ => fail
  | _ => single

inductive SetOperation
  | inter
  | difference
  | symmetricDifference

def SetOperation.apply : SetOperation → CharSet → CharSet → CharSet
  | inter, a, b => .inter a b
  | difference, a, b => .difference a b
  | symmetricDifference, a, b => .symmetricDifference a b

/-- An operation still waiting for its right side. -/
def combined (pending : Option (CharSet × SetOperation)) (right : CharSet) : CharSet :=
  match pending with
  | some (left, op) => op.apply left right
  | none => right

/-- Members taken literally at the start of brackets: hyphens, or else a closing bracket. -/
def leadingMembers (cs : List Char) : CharSet × List Char :=
  let hyphens := cs.takeWhile (· == '-')
  let rest := cs.dropWhile (· == '-')
  match hyphens, rest with
  | [], ']' :: rest => (.single ']', rest)
  | [], rest => (.empty, rest)
  | _, rest => (.single '-', rest)

mutual

def readClass : Nat → PatternReader CharSet
  | 0 => fail
  | fuel + 1 => do
    skipSpace
    let (negated, cs) :=
      match ← rest with
      | '^' :: cs => (true, cs)
      | cs => (false, cs)
    moveTo cs
    skipSpace
    let (members, cs) := leadingMembers (← rest)
    moveTo cs
    let s ← readMembers fuel none members
    let s := if (← flags).ignoreCase then .folded s else s
    pure (s.negatedIf negated)

def readMembers : Nat → Option (CharSet × SetOperation) → CharSet → PatternReader CharSet
  | 0, _, _ => fail
  | fuel + 1, pending, members => do
    skipSpace
    let operation (op : SetOperation) (rest : List Char) : PatternReader CharSet := do
      moveTo rest
      readMembers fuel (some (combined pending members, op)) .empty
    match ← rest with
    | [] => fail
    | ']' :: rest => moveTo rest; pure (combined pending members)
    | '&' :: '&' :: rest => operation .inter rest
    | '-' :: '-' :: rest => operation .difference rest
    | '~' :: '~' :: rest => operation .symmetricDifference rest
    | '[' :: after =>
      match namedClass? ('[' :: after) with
      | some (s, after) => moveTo after; readMembers fuel pending (.union members s)
      | none =>
        moveTo after
        let s ← readClass fuel
        readMembers fuel pending (.union members s)
    | _ =>
      let s ← readClassItem
      readMembers fuel pending (.union members s)

end

def readCount (cs : List Char) : Option (Nat × List Char) :=
  match Json.readDigits (cs.dropWhile Text.isBlank) with
  | ([], _) => none
  | (ds, rest) =>
    let n := Json.natOfDigits ds
    if n < Nat.pow 2 32 then some (n, rest.dropWhile Text.isBlank) else none

def readBounds (cs : List Char) : Option ((Nat × Option Nat) × List Char) :=
  match readCount cs with
  | none => none
  | some (least, ',' :: '\x7d' :: rest) => some ((least, none), rest)
  | some (least, ',' :: rest) =>
    match readCount rest with
    | some (most, '\x7d' :: rest) => if least ≤ most then some ((least, some most), rest) else none
    | _ => none
  | some (n, '\x7d' :: rest) => some ((n, some n), rest)
  | some _ => none

/-- Apply a repetition to the last item; a question mark after it asks for fewer copies. -/
def repeatLast (least : Nat) (most : Option Nat) (items : List (Option Pattern)) :
    PatternReader (List (Option Pattern)) := do
  match items with
  | some p :: before =>
    let swap := (← flags).swapGreed
    match ← rest with
    | '?' :: rest => do
      moveTo rest
      pure (some (.repeated least most swap p) :: before)
    | _ => pure (some (.repeated least most (!swap) p) :: before)
  | _ => fail

def isGroupNameChar (first : Bool) (c : Char) : Bool :=
  if first then c == '_' || (Text.isWord c && !Text.isDecimalDigit c)
  else c == '.' || c == '[' || c == ']' || Text.isWord c

def readGroupName (cs : List Char) : Option (String × List Char) :=
  match cs.takeWhile (· != '>'), cs.dropWhile (· != '>') with
  | first :: others, '>' :: rest =>
    if isGroupNameChar true first && others.all (isGroupNameChar false) then
      some (String.ofList (first :: others), rest)
    else none
  | _, _ => none

def Flags.set? (f : Flags) (on : Bool) : Char → Option Flags
  | 'i' => some { f with ignoreCase := on }
  | 'm' => some { f with multiLine := on }
  | 's' => some { f with dotAll := on }
  | 'U' => some { f with swapGreed := on }
  | 'u' => some { f with ascii := !on }
  | 'x' => some { f with verbose := on }
  | 'R' => some f
  | _ => none

/-- The flags up to a colon or a closing parenthesis. `seen` holds the letters used so far. -/
def readFlags (on : Bool) (seen : List Char) (f : Flags) :
    List Char → Option (Flags × List Char × List Char)
  | [] => none
  | ':' :: rest => if seen.head? = some '-' then none else some (f, seen, ':' :: rest)
  | ')' :: rest => if seen.head? = some '-' then none else some (f, seen, ')' :: rest)
  | '-' :: rest => if on then readFlags false ('-' :: seen) f rest else none
  | c :: rest =>
    match seen.contains c, f.set? on c with
    | false, some f => readFlags on (c :: seen) f rest
    | _, _ => none

/-- A sequence from its items, latest first; flag items stand for nothing. -/
def sequenceOf (items : List (Option Pattern)) : Pattern :=
  items.foldl (fun acc item =>
    match item, acc with
    | none, acc => acc
    | some p, .empty => p
    | some p, acc => .seq p acc) .empty

def alternativesOf : List Pattern → Pattern
  | [] => .empty
  | last :: before => before.foldl (fun acc p => .alt p acc) last

def literalPattern (f : Flags) (c : Char) : Pattern :=
  if f.ignoreCase then .chars (.folded (.single c)) else .chars (.single c)

/-- A pattern up to the end of the text or the closing parenthesis of its group. `branches` are the
alternatives before the last bar and `items` the items after it, both latest first. -/
def readPattern : Nat → List Pattern → List (Option Pattern) → PatternReader Pattern
  | 0, _, _ => fail
  | fuel + 1, branches, items => do
    skipSpace
    let f ← flags
    let continueWith (p : Pattern) : PatternReader Pattern :=
      readPattern fuel branches (some p :: items)
    let body (rest : List Char) (inner : Flags) (wrap : Pattern → Pattern) :
        PatternReader Pattern := do
      moveTo rest
      setFlags inner
      let p ← readPattern fuel [] []
      match ← PatternReader.rest with
      | ')' :: rest =>
        moveTo rest
        setFlags f
        continueWith (wrap p)
      | _ => fail
    let counted (least : Nat) (most : Option Nat) (rest : List Char) : PatternReader Pattern := do
      moveTo rest
      readPattern fuel branches (← repeatLast least most items)
    match ← rest with
    | [] => pure (alternativesOf (sequenceOf items :: branches))
    | ')' :: _ => pure (alternativesOf (sequenceOf items :: branches))
    | '|' :: rest => do
      moveTo rest
      readPattern fuel (sequenceOf items :: branches) []
    | '*' :: rest => counted 0 none rest
    | '+' :: rest => counted 1 none rest
    | '?' :: rest => counted 0 (some 1) rest
    | '\x7b' :: rest =>
      match readBounds rest with
      | some ((least, most), rest) => counted least most rest
      | none => fail
    | '[' :: rest => do
      moveTo rest
      continueWith (.chars (← readClass fuel))
    | '(' :: '?' :: '=' :: _ | '(' :: '?' :: '!' :: _ => refuse .lookAround
    | '(' :: '?' :: '<' :: '=' :: _ | '(' :: '?' :: '<' :: '!' :: _ => refuse .lookAround
    | '(' :: '?' :: 'P' :: '<' :: rest | '(' :: '?' :: '<' :: rest =>
      match readGroupName rest with
      | some (name, rest) => do
        let index ← openGroup
        nameGroup name index
        body rest f (.group index)
      | none => fail
    | '(' :: '?' :: rest =>
      match readFlags true [] f rest with
      | some (inner, _, ':' :: rest) => body rest inner id
      | some (inner, _ :: _, ')' :: rest) => do
        moveTo rest
        setFlags inner
        readPattern fuel branches (none :: items)
      | _ => fail
    | '(' :: rest => do
      let index ← openGroup
      body rest f (.group index)
    | '.' :: rest => do
      moveTo rest
      continueWith (.chars (.complement (if f.dotAll then .empty else .single '\n')))
    | '^' :: rest => do
      moveTo rest
      continueWith (.look (if f.multiLine then .lineStart else .textStart))
    | '$' :: rest => do
      moveTo rest
      continueWith (.look (if f.multiLine then .lineEnd else .textEnd))
    | '\\' :: rest => do
      moveTo rest
      match ← readEscape with
      | .literal c => continueWith (literalPattern f c)
      | .set s => continueWith (.chars s)
      | .look l => continueWith (.look l)
    | c :: rest => do
      moveTo rest
      continueWith (literalPattern f c)

/-- The pattern a text denotes and the names of its groups, or why it denotes none. -/
def parse (cs : List Char) : Except Refusal (Pattern × List (String × Nat)) :=
  match readPattern (cs.length + 1) [] [] ⟨cs, {}, 0, []⟩ with
  | .ok (p, ⟨[], _, _, names⟩) => .ok (p, names)
  | .ok _ => .error .malformed
  | .error r => .error r

end Caseflow.Regex
