import Caseflow.Dict
import Caseflow.Text.Split

/-!
# Scenarios

A scenario in its explicit form: who acts, which actions there are, and the states with their
transitions. Values that may hold markers are kept as documents and resolved when the scenario runs.
-/
namespace Caseflow

namespace Scenario

def formatUri : String := "https://schemas.procession.dev/v1.0/scenario"

/-- How an update combines its value with the one that is there: replace it, join lists and objects,
or push onto a list. -/
inductive UpdateMode
  | replace
  | merge
  | append
deriving DecidableEq, Repr

/-- One update of an action: what to write where, if the guard holds. The stub stands in for the
value while predicting. -/
structure Update where
  target : String
  value : Json
  stub : Option Json
  mode : UpdateMode
  guard : Json
deriving DecidableEq

/-- Something an actor can do: who may do it and when, the schema of the response, and the updates
it makes. -/
structure Action where
  title : String
  description : String
  actors : List String
  guard : Json
  response : Json
  updates : List Update
deriving DecidableEq

structure LogRule where
  title : Json
  description : Json
  guard : Json
deriving DecidableEq

/-- An edge taken when an action is performed, by its full key. -/
structure ActionTransition where
  action : String
  actors : Option (List String)
  goto : Option String
  guard : Json
  log : LogRule
deriving DecidableEq

/-- An edge taken once the state has been current for so many seconds. -/
structure TimeoutTransition where
  after : Nat
  goto : Option String
  guard : Json
  log : LogRule
deriving DecidableEq

inductive Transition
  | action (t : ActionTransition)
  | timeout (t : TimeoutTransition)
deriving DecidableEq

/-- A service to be told about a state, and the action it is expected to perform, if there is just
one. -/
structure Notice where
  service : String
  trigger : Option String
  guard : Json
  message : Option Json
deriving DecidableEq

structure State where
  title : Json
  description : Json
  instructions : Dict Json
  notices : List Notice
  transitions : List Transition
deriving DecidableEq

end Scenario

structure Scenario where
  format : String
  title : String
  description : String
  tags : List String
  actors : Dict Json
  actions : Dict Scenario.Action
  states : Dict Scenario.State
  vars : Dict Json
  result : Json
  definitions : Dict Json
deriving DecidableEq

namespace Scenario

namespace Transition

def goto : Transition → Option String
  | action t => t.goto
  | timeout t => t.goto

def guard : Transition → Json
  | action t => t.guard
  | timeout t => t.guard

def asAction? : Transition → Option ActionTransition
  | action t => some t
  | timeout _ => none

def asTimeout? : Transition → Option TimeoutTransition
  | action _ => none
  | timeout t => some t

end Transition

def State.actionTransitions (s : State) : List ActionTransition :=
  s.transitions.filterMap Transition.asAction?

def State.timeoutTransitions (s : State) : List TimeoutTransition :=
  s.transitions.filterMap Transition.asTimeout?

def State.hasActions (s : State) : Bool := s.transitions.any (·.asAction?.isSome)

def State.ending (title : String) : State :=
  ⟨.str title, .str "", .empty, [], []⟩

def initialKey : String := "initial"

/-- End states are named in parentheses, with at least one character inside. -/
def isEndState (key : String) : Bool :=
  2 < key.length && Text.startsWith "(" key && Text.endsWith ")" key

def scopedKey (state action : String) : String := state ++ "." ++ action

/-- An action's key as its state shows it: without the state's name and the dot after it. -/
def shortKey (state key : String) : String := (Text.after? (state ++ ".") key).getD key

end Scenario
end Caseflow
