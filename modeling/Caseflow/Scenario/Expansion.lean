import Caseflow.Scenario.Authored

/-!
# Authored states

A state may write one transition directly among its own fields; it becomes the first of its
transitions. The state named by a star is no state: what it holds is shared by every state that is
no end state, after and below what the state says itself.
-/
namespace Caseflow.Scenario

/-- A state whose transitions are all in one list. -/
structure AuthoredState where
  fields : Fields
  transitions : List Json
deriving DecidableEq

namespace AuthoredState

def transitionKeys : List String := ["on", "by", "after", "goto", "if", "log"]

def splitDirect (fields : Fields) : Fields × Fields :=
  (fields.filter (transitionKeys.contains ·.1), fields.filter (!transitionKeys.contains ·.1))

def listed (key : String) : Option Json → Result (List Json)
  | none => .ok []
  | some (.arr items) => .ok items
  | some _ => .error (.invalidField s!"states.{key}.transitions" "a list of transitions")

def read (key : String) (v : Json) : Result AuthoredState := do
  let fields ← Authored.fieldsOrEmpty ("states." ++ key) (some v)
  let transitions ← listed key (Authored.present? "transitions" fields)
  let fields := Assoc.erase "transitions" fields
  if Assoc.contains "on" fields || Assoc.contains "after" fields then
    let (direct, others) := splitDirect fields
    return ⟨others, .obj direct :: transitions⟩
  else if Assoc.contains "goto" fields then .error (.gotoWithoutTrigger key)
  else return ⟨fields, transitions⟩

/-- The value a field has after sharing: a state's own value, but two sets of instructions are
joined entry by entry. -/
def sharedValue (key : String) (own : Option Json) (shared : Json) : Json :=
  match own, shared with
  | none, shared => shared
  | some (.obj own), .obj shared =>
    if key = "instructions" then .obj (Schema.Shorthand.addMissing shared own) else .obj own
  | some own, _ => own

/-- What a state is with the shared transitions after its own, and shared fields where it has
none. -/
def share (wildcard state : AuthoredState) : AuthoredState :=
  { fields := wildcard.fields.foldl
      (fun acc p => Assoc.insert p.1 (sharedValue p.1 (Assoc.get? p.1 acc) p.2) acc) state.fields
    transitions := state.transitions ++ wildcard.transitions }

def wildcardKey : String := "*"

/-- Share the wildcard among all states that are no end states, and drop it. -/
def spread (states : Dict AuthoredState) : Dict AuthoredState :=
  match states.get? wildcardKey with
  | none => states
  | some wildcard =>
    (states.erase wildcardKey).mapWithKey fun key state =>
      if isEndState key then state else share wildcard state

def readAll (v : Option Json) : Result (Dict AuthoredState) := do
  return spread (Dict.ofList (← Authored.entriesOf read (← Authored.fieldsOrEmpty "states" v)))

end AuthoredState
end Caseflow.Scenario
