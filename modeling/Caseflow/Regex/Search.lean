import Caseflow.Regex.Engine
import Caseflow.Regex.Program
import Caseflow.Regex.Reading

/-!
# Searching with a program

All runs of a program advance together over the text, in order of preference, each step visited at
most once at a position; so a search takes time linear in the text. The first run in that order that
accepts wins over all later ones.
-/
namespace Caseflow.Regex

/-- The places recorded so far: start and end of each group. -/
abbrev Slots := Array (Option Nat)

structure Run where
  address : Nat
  slots : Slots

/-- Follow the steps that consume nothing, depth first in order of preference. `visited` marks the
steps seen at this position; the fuel bounds the runs taken from the stack. -/
def explore (prog : Program) (before after : Option Char) (pos : Nat) :
    Nat → List Run → Array Bool → Array Run → Array Run
  | 0, _, _, found => found
  | _, [], _, found => found
  | fuel + 1, run :: stack, visited, found =>
    if visited.getD run.address true then explore prog before after pos fuel stack visited found
    else
      let visited := visited.setIfInBounds run.address true
      match prog.steps[run.address]? with
      | none => explore prog before after pos fuel stack visited found
      | some (.chars _ _) | some .accept =>
        explore prog before after pos fuel stack visited (found.push run)
      | some (.look l next) =>
        let stack := if l.holds before after then { run with address := next } :: stack else stack
        explore prog before after pos fuel stack visited found
      | some (.save slot next) =>
        let moved : Run := ⟨next, run.slots.setIfInBounds slot (some pos)⟩
        explore prog before after pos fuel (moved :: stack) visited found
      | some (.fork first second) =>
        explore prog before after pos fuel
          ({ run with address := first } :: { run with address := second } :: stack) visited found

/-- Runs that can start or go on at a position, in order of preference. -/
def runsAt (prog : Program) (before after : Option Char) (pos : Nat) (seeds : List Run) :
    List Run :=
  (explore prog before after pos (2 * prog.steps.size + seeds.length + 1) seeds
    (Array.replicate prog.steps.size false) #[]).toList

/-- Let runs consume a character. Returns the runs after it, and the slots of the first run that
accepts; runs behind that one are dropped. -/
def advance (prog : Program) (pos : Nat) (c : Option Char) :
    List Run → List Run → List Run × Option Slots
  | [], moved => (moved.reverse, none)
  | run :: runs, moved =>
    match prog.steps[run.address]? with
    | some .accept => (moved.reverse, some (run.slots.setIfInBounds 1 (some pos)))
    | some (.chars s next) =>
      if c.any s.contains then advance prog pos c runs ({ run with address := next } :: moved)
      else advance prog pos c runs moved
    | _ => advance prog pos c runs moved

def Program.freshRun (prog : Program) (pos : Nat) : Run :=
  ⟨prog.start, (Array.replicate (2 * prog.groups) none).setIfInBounds 0 (some pos)⟩

/-- One position of a search: the runs consume the character after the position. Returns the runs
after it and the match preferred so far. -/
def turn (prog : Program) (before after : Option Char) (pos : Nat) (seeds : List Run)
    (best : Option Slots) : List Run × Option Slots :=
  let (moved, accepted) := advance prog pos after (runsAt prog before after pos seeds) []
  (moved, accepted.or best)

/-- Search from a position on; `best` is the match of the run preferred so far. Unless the match has
to start where the search does, a fresh run joins last at each position while there is no match. -/
def searchFrom (prog : Program) (anchored : Bool) (before : Option Char) (pos : Nat)
    (seeds : List Run) (best : Option Slots) : List Char → Option Slots
  | [] => (turn prog before none pos seeds best).2
  | c :: rest =>
    let (moved, best) := turn prog before (some c) pos seeds best
    if moved.isEmpty && (anchored || best.isSome) then best
    else
      let joined :=
        if anchored || best.isSome then moved else moved ++ [prog.freshRun (pos + 1)]
      searchFrom prog anchored (some c) (pos + 1) joined best rest

/-- The slots of the leftmost match, or of the match right at the start. -/
def slotsFrom (prog : Program) (anchored : Bool) (before : Option Char) (pos : Nat)
    (cs : List Char) : Option Slots :=
  searchFrom prog anchored before pos [prog.freshRun pos] none cs

/-- A match: where it starts and ends, and its groups, counted in characters. -/
structure Match where
  start : Nat
  stop : Nat
  groups : List (Option (Nat × Nat))

def groupsOf (slots : Slots) : Nat → Nat → List (Option (Nat × Nat))
  | 0, _ => []
  | count + 1, i =>
    let pair :=
      match slots.getD (2 * i) none, slots.getD (2 * i + 1) none with
      | some a, some b => some (a, b)
      | _, _ => none
    pair :: groupsOf slots count (i + 1)

def findFrom (prog : Program) (text : Array Char) (pos : Nat) : Option Match :=
  let before := if pos = 0 then none else text[pos - 1]?
  match slotsFrom prog false before pos (text.toList.drop pos) with
  | none => none
  | some slots =>
    match slots.getD 0 none, slots.getD 1 none with
    | some start, some stop => some ⟨start, stop, groupsOf slots prog.groups 0⟩
    | _, _ => none

def Program.extent? (prog : Program) (before : Option Char) (cs : List Char) : Option Nat :=
  (slotsFrom prog true before 0 cs).bind fun slots => slots.getD 1 none

/-- Successive matches. An empty match right at the end of the one before is passed over by going
on one character later. -/
def findAllFrom (prog : Program) (text : Array Char) :
    Nat → Nat → Option Nat → List Match
  | 0, _, _ => []
  | fuel + 1, pos, lastStop =>
    if text.size < pos then []
    else
      match findFrom prog text pos with
      | none => []
      | some m =>
        if m.start = m.stop ∧ lastStop = some m.stop then
          if text.size < pos + 1 then []
          else
            match findFrom prog text (pos + 1) with
            | none => []
            | some m => m :: findAllFrom prog text fuel m.stop (some m.stop)
        else m :: findAllFrom prog text fuel m.stop (some m.stop)

/-- The program of a pattern text; none if the text is no pattern or unfolds to too many steps. -/
def compile? (pattern : String) : Option Program :=
  match parse pattern.toList with
  | .error _ => none
  | .ok (p, names) => p.program? names

namespace Program

def isMatch (prog : Program) (text : String) : Bool :=
  (findFrom prog text.toList.toArray 0).isSome

def piece (text : Array Char) (range : Nat × Nat) : List Char :=
  (text.toList.drop range.1).take (range.2 - range.1)

def texts (text : Array Char) (m : Match) : Groups :=
  m.groups.map fun g => g.map fun range => String.ofList (piece text range)

def find? (prog : Program) (text : String) : Option Groups :=
  let cs := text.toList.toArray
  (findFrom prog cs 0).map (texts cs)

def allMatches (prog : Program) (cs : Array Char) : List Match :=
  findAllFrom prog cs (cs.size + 2) 0 none

def findAll (prog : Program) (text : String) : List Groups :=
  let cs := text.toList.toArray
  (allMatches prog cs).map (texts cs)

def referenced (prog : Program) (groups : Groups) (name : List Char) : List Char :=
  let digits :=
    match name with
    | '+' :: ds => ds
    | ds => ds
  let index : Option Nat :=
    if !digits.isEmpty && digits.all Json.isDigit &&
        Json.natOfDigits (digits.map Json.digitValue) < Nat.pow 2 64 then
      some (Json.natOfDigits (digits.map Json.digitValue))
    else (prog.names.find? (·.1 == String.ofList name)).map (·.2)
  match index with
  | some i => ((groups[i]?.join).getD "").toList
  | none => []

def isReferenceChar (c : Char) : Bool := isAsciiAlphanumeric c || c == '_'

/-- A replacement text with its references filled in. The fuel is the length of the text. -/
def expand (prog : Program) (groups : Groups) : Nat → List Char → List Char
  | 0, _ => []
  | fuel + 1, cs =>
    match cs with
    | [] => []
    | '$' :: '$' :: rest => '$' :: expand prog groups fuel rest
    | '$' :: '\x7b' :: rest =>
      match rest.dropWhile (· != '\x7d') with
      | '\x7d' :: after =>
        referenced prog groups (rest.takeWhile (· != '\x7d')) ++ expand prog groups fuel after
      | _ => '$' :: expand prog groups fuel ('\x7b' :: rest)
    | '$' :: rest =>
      match rest.takeWhile isReferenceChar with
      | [] => '$' :: expand prog groups fuel rest
      | name =>
        referenced prog groups name ++ expand prog groups fuel (rest.dropWhile isReferenceChar)
    | c :: rest => c :: expand prog groups fuel rest

def replaced (prog : Program) (cs : Array Char) (replacement : List Char) :
    Nat → List Match → List Char
  | pos, [] => cs.toList.drop pos
  | pos, m :: ms =>
    piece cs (pos, m.start) ++
      expand prog (texts cs m) (replacement.length + 1) replacement ++
      replaced prog cs replacement m.stop ms

def replaceAll (prog : Program) (text replacement : String) : String :=
  let cs := text.toList.toArray
  String.ofList (replaced prog cs replacement.toList 0 (allMatches prog cs))

def expression (prog : Program) : Expression :=
  ⟨prog.isMatch, prog.find?, prog.findAll, prog.replaceAll⟩

end Program

/-- The engine whose searches take time linear in the text. -/
def linear : Engine := fun pattern => (compile? pattern).map Program.expression

end Caseflow.Regex
