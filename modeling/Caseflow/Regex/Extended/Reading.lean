import Caseflow.Regex.Extended.Search
import Caseflow.Regex.Reading

/-!
# Reading extended patterns

The reader of patterns with look-around, atomic groups and references, by number or by name. A
repetition takes a plus sign to commit to its first match; a brace that begins no repetition stands
for itself.
-/
namespace Caseflow.Regex

/-- Where a reader stands, with the groups that references name so far. -/
structure ExtendedCursor extends Cursor where
  references : List Nat
  /-- Some reference is by number. -/
  numbered : Bool

abbrev ExtendedReader := StateT ExtendedCursor Option

namespace ExtendedReader

def plainly {α : Type} (r : PatternReader α) : ExtendedReader α := fun s =>
  match r s.toCursor with
  | .ok (a, c) => some (a, { s with toCursor := c })
  | .error _ => none

def rest : ExtendedReader (List Char) := plainly PatternReader.rest

def flags : ExtendedReader Flags := plainly PatternReader.flags

def moveTo (rest : List Char) : ExtendedReader Unit := plainly (PatternReader.moveTo rest)

def setFlags (flags : Flags) : ExtendedReader Unit := plainly (PatternReader.setFlags flags)

def refer (index : Nat) (numbered : Bool) : ExtendedReader Extended := fun s =>
  some (.reference index,
    { s with references := index :: s.references, numbered := s.numbered || numbered })

/-- References by number do not go with groups that have names. -/
def oneKindOfReference : ExtendedReader Unit := fun s =>
  if s.numbered && !s.names.isEmpty then none else some ((), s)

end ExtendedReader

open ExtendedReader

/-- What follows a remark in parentheses; a backslash takes the next character with it. -/
def afterRemark? : List Char → Option (List Char)
  | [] => none
  | '\\' :: _ :: cs => afterRemark? cs
  | c :: cs => if c = ')' then some cs else afterRemark? cs

/-- A text without the remarks it begins with, and the blanks and comments if they mean nothing. -/
def skipRemarks (verbose : Bool) : Nat → List Char → Option (List Char)
  | 0, cs => some cs
  | fuel + 1, cs =>
    match cs with
    | '(' :: '?' :: '#' :: rest => (afterRemark? rest).bind (skipRemarks verbose fuel)
    | c :: rest =>
      if !verbose then some (c :: rest)
      else if c = '#' then skipRemarks verbose fuel (skipComment rest)
      else if c = ' ' ∨ c = '\r' ∨ c = '\n' ∨ c = '\t' then skipRemarks verbose fuel rest
      else some (c :: rest)
    | [] => some []

def skipMeaningless : ExtendedReader Unit := do
  let cs ← rest
  match skipRemarks (← flags).verbose cs.length cs with
  | some cs => moveTo cs
  | none => failure

def extendedLiteral (f : Flags) (c : Char) : Extended :=
  if f.ignoreCase then .chars (.folded (.single c)) else .chars (.single c)

def hexDigits : CharSet := .ranges [(48, 57), (65, 70), (97, 102)]

/-- The group a name in a reference stands for: by name, by number, or by how many groups before. -/
def groupNamed? (s : ExtendedCursor) (name : List Char) : Option Nat :=
  let number? (ds : List Char) : Option Nat :=
    if ds.isEmpty || !ds.all Json.isDigit then none
    else some (Json.natOfDigits (ds.map Json.digitValue))
  match s.names.find? (·.1 == String.ofList name), name with
  | some (_, i), _ => some i
  | none, '-' :: ds =>
    (number? ds).bind fun n => if n ≤ s.groups then some (s.groups + 1 - n) else none
  | none, ds => number? ds

def readNamedReference (close : Char) (cs : List Char) : ExtendedReader Extended := do
  match cs.dropWhile (· != close), groupNamed? (← get) (cs.takeWhile (· != close)) with
  | _ :: rest, some i => do
    moveTo rest
    refer i false
  | _, _ => failure

def readExtendedEscape : ExtendedReader Extended := do
  let f ← flags
  let pass (rest : List Char) (p : Extended) : ExtendedReader Extended := do moveTo rest; pure p
  match ← rest with
  | [] => failure
  | 'k' :: '<' :: rest => readNamedReference '>' rest
  | 'k' :: '\'' :: rest => readNamedReference '\'' rest
  | 'Z' :: rest =>
    let lines : Extended := .repeat 0 none true (.chars (.single '\n'))
    pass rest (.ahead false (.seq lines (.look .textEnd)))
  | 'G' :: rest => pass rest (.look .textStart)
  | 'K' :: rest => pass rest (.atomic .empty)
  | 'e' :: rest => pass rest (.chars (.single '\x1b'))
  | 'h' :: rest => pass rest (.chars hexDigits)
  | 'H' :: rest => pass rest (.chars (.complement hexDigits))
  | c :: rest =>
    if Json.isDigit c then do
      let (digits, rest) := Json.readDigits (c :: rest)
      moveTo rest
      refer (Json.natOfDigits digits) true
    else if isAsciiLetter c || c = '<' || c = '>' then do
      match ← plainly readEscape with
      | .literal c => pure (extendedLiteral f c)
      | .set s => pure (.chars s)
      | .look l => pure (.look l)
    else pass rest (extendedLiteral f c)

/-- An escape inside brackets as a plain class spells it. -/
def classEscape? (c : Char) : Option (List Char) :=
  let kept := ['d', 'D', 's', 'S', 'w', 'W', 'p', 'P', 'x', 'u', 'U', 'a', 'f', 'n', 'r', 't', 'v']
  if kept.contains c then some ['\\', c]
  else if c = 'b' then some ['\x08']
  else if c = 'e' then some ['\x1b']
  else if c = 'h' then some "[0-9A-Fa-f]".toList
  else if c = 'H' then some "[^0-9A-Fa-f]".toList
  else if ['k', 'A', 'z', 'B', 'K', 'G'].contains c then some [c]
  else if isAsciiAlphanumeric c then none
  else if isMeta c then some ['\\', c]
  else some [c]

/-- The text of a class up to the bracket that closes it, with the escapes of plain classes.
Brackets inside nest. -/
def classText : Nat → List Char → Option (List Char × List Char)
  | _, [] => none
  | nested, '\\' :: c :: cs =>
    (classEscape? c).bind fun t => (classText nested cs).map fun r => (t ++ r.1, r.2)
  | nested, '[' :: cs => (classText (nested + 1) cs).map fun r => ('[' :: r.1, r.2)
  | 0, ']' :: cs => some ([']'], cs)
  | nested + 1, ']' :: cs => (classText nested cs).map fun r => (']' :: r.1, r.2)
  | nested, c :: cs => (classText nested cs).map fun r => (c :: r.1, r.2)

def classOpening (cs : List Char) : List Char × List Char :=
  match cs with
  | '^' :: ']' :: rest => (['^', ']'], rest)
  | '^' :: rest => (['^'], rest)
  | ']' :: rest => ([']'], rest)
  | rest => ([], rest)

def readExtendedClass : ExtendedReader Extended := do
  let f ← flags
  let (opening, cs) := classOpening (← rest)
  match classText 0 cs with
  | none => failure
  | some (text, rest) =>
    let text := opening ++ text
    match readClass (text.length + 1) ⟨text, { ignoreCase := f.ignoreCase }, 0, []⟩ with
    | .ok (s, ⟨[], _, _, _⟩) => do
      moveTo rest
      pure (.chars s)
    | _ => failure

def extendedBounds? (cs : List Char) : Option ((Nat × Option Nat) × List Char) :=
  let least? :=
    match Json.readDigits cs with
    | ([], ',' :: rest) => some (0, ',' :: rest)
    | ([], _) => none
    | (ds, rest) => some (Json.natOfDigits ds, rest)
  match least? with
  | some (n, '\x7d' :: rest) => some ((n, some n), rest)
  | some (n, ',' :: rest) =>
    match Json.readDigits rest with
    | ([], '\x7d' :: rest) => some ((n, none), rest)
    | (ds, '\x7d' :: rest) => some ((n, some (Json.natOfDigits ds)), rest)
    | _ => none
  | _ => none

def repetition? : List Char → Option ((Nat × Option Nat) × List Char)
  | '*' :: rest => some ((0, none), rest)
  | '+' :: rest => some ((1, none), rest)
  | '?' :: rest => some ((0, some 1), rest)
  | '\x7b' :: rest => extendedBounds? rest
  | _ => none

/-- A pattern with the repetition that follows it, if any: a question mark asks for fewer copies
and a plus sign commits to the first match. -/
def readRepetition (p : Extended) (repeatable : Bool) : ExtendedReader Extended := do
  skipMeaningless
  match repetition? (← rest) with
  | none => pure p
  | some ((least, most), after) =>
    if !repeatable then failure
    else do
      moveTo after
      skipMeaningless
      let (lazy, after) :=
        match ← rest with
        | '?' :: after => (true, after)
        | after => (false, after)
      let copies : Extended := .repeat least most (lazy == (← flags).swapGreed) p
      match after with
      | '+' :: after => do
        moveTo after
        pure (.atomic copies)
      | after => do
        moveTo after
        pure copies

def nestingLimit : Nat := 64

mutual

/-- Alternatives up to the end of the text or the parenthesis that closes their group. `first` is
set unless a bar stands before them. -/
def readAlternatives : Nat → Nat → Bool → ExtendedReader Extended
  | 0, _, _ => failure
  | fuel + 1, depth, first => do
    let p ← readBranch fuel depth
    match ← rest with
    | '|' :: rest => do
      moveTo rest
      let q ← readAlternatives fuel depth false
      pure (.alt p q)
    | _ => do
      if first then oneKindOfReference
      pure p

def readBranch : Nat → Nat → ExtendedReader Extended
  | 0, _ => failure
  | fuel + 1, depth => do
    skipMeaningless
    match ← rest with
    | [] | ')' :: _ | '|' :: _ => pure .empty
    | '*' :: _ | '+' :: _ | '?' :: _ => failure
    | _ => do
      let (p, repeatable) ← readItem fuel depth
      let p ← readRepetition p repeatable
      let q ← readBranch fuel depth
      pure (.join p q)

def readItem : Nat → Nat → ExtendedReader (Extended × Bool)
  | 0, _ => failure
  | fuel + 1, depth => do
    let f ← flags
    let item (rest : List Char) (p : Extended) : ExtendedReader (Extended × Bool) := do
      moveTo rest
      pure (p, p.isRepeatable)
    let body (rest : List Char) (inner : Flags) : ExtendedReader Extended := do
      if nestingLimit ≤ depth + 1 then failure
      moveTo rest
      setFlags inner
      let p ← readAlternatives fuel (depth + 1) true
      match ← ExtendedReader.rest with
      | ')' :: rest => do
        moveTo rest
        setFlags f
        pure p
      | _ => failure
    let group (rest : List Char) (name : Option String) :
        ExtendedReader (Extended × Bool) := do
      let index ← plainly PatternReader.openGroup
      if let some name := name then plainly (PatternReader.nameGroup name index)
      pure (.group index (← body rest f), true)
    match ← rest with
    | '(' :: '?' :: '=' :: rest => return (.ahead false (← body rest f), false)
    | '(' :: '?' :: '!' :: rest => return (.ahead true (← body rest f), false)
    | '(' :: '?' :: '<' :: '=' :: rest => return (.lookBehind false (← body rest f), false)
    | '(' :: '?' :: '<' :: '!' :: rest => return (.lookBehind true (← body rest f), false)
    | '(' :: '?' :: '>' :: rest => return (.atomic (← body rest f), true)
    | '(' :: '?' :: 'P' :: '=' :: rest => return (← readNamedReference ')' rest, true)
    | '(' :: '?' :: 'P' :: '<' :: rest | '(' :: '?' :: '<' :: rest =>
      match readGroupName rest with
      | some (name, rest) =>
        if name.toList.all Text.isWord then group rest (some name) else failure
      | none => failure
    | '(' :: '?' :: rest =>
      match readFlags true [] f rest with
      | some (inner, seen, after) =>
        if inner.ascii || seen.contains 'R' then failure
        else
          match after with
          | ':' :: rest => do
            let p ← body rest inner
            pure (p, p.isRepeatable)
          | _ :: rest =>
            if seen.isEmpty then failure
            else do
              moveTo rest
              setFlags inner
              pure (.empty, false)
          | [] => failure
      | none => failure
    | '(' :: rest => group rest none
    | '.' :: rest =>
      item rest (.chars (.complement (if f.dotAll then .empty else .single '\n')))
    | '^' :: rest => item rest (.look (if f.multiLine then .lineStart else .textStart))
    | '$' :: rest => item rest (.look (if f.multiLine then .lineEnd else .textEnd))
    | '[' :: rest => do
      moveTo rest
      pure (← readExtendedClass, true)
    | '\\' :: rest => do
      moveTo rest
      let p ← readExtendedEscape
      pure (p, p.isRepeatable)
    | c :: rest => item rest (extendedLiteral f c)
    | [] => failure

end

/-- The pattern a text denotes and the groups it refers to. Every reference is to a group. -/
def parseExtended? (cs : List Char) : Option (Extended × List Nat) :=
  let start : ExtendedCursor := ⟨⟨cs, {}, 0, []⟩, [], false⟩
  match readAlternatives (8 * (cs.length + 1)) 0 true start with
  | some (p, s) =>
    if s.rest.isEmpty && s.references.all fun i => 0 < i && i ≤ s.groups then
      some (p, s.references)
    else none
  | none => none

/-- Make a pattern text ready to be searched for. Only a pattern that needs it goes back over what
it matched. -/
def Matcher.compile? (cs : List Char) : Option Matcher := do
  let (p, references) ← parseExtended? cs
  match p.plain? references with
  | some q => (q.program? []).map .stepwise
  | none => (p.plan? references true).map .backtracking

end Caseflow.Regex
