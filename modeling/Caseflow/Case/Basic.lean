import Caseflow.Case.Event
import Caseflow.Scenario.Codec

/-!
# Cases

A case is a running scenario. No operation changes a case: each gives a new one. All that a
case is follows from its scenario and its log of events.
-/
namespace Caseflow

open Json Time

namespace Case

/-- An action that can be performed in the current state, by its short key. -/
structure Offer where
  key : String
  title : String
  description : String
  actors : List String
  response : Json
deriving DecidableEq

/-- A service to be told about the current state. -/
structure Alert where
  service : String
  trigger : Option String
  message : Option Json
deriving DecidableEq

/-- The state that a case is in, with every marker resolved. The actor and the response are those
of the step that entered it. -/
structure Stage where
  key : String
  timestamp : Timestamp
  title : String
  description : String
  instructions : Dict String
  alerts : List Alert
  offers : List Offer
  actor : Option Performer
  response : Option Json
deriving DecidableEq

def Stage.nowhere : Stage := ⟨"", .epoch, "", "", .empty, [], [], none, none⟩

def Stage.offer? (s : Stage) (key : String) : Option Offer := s.offers.find? (·.key == key)

/-- A line of the log that people read. -/
structure LogEntry where
  timestamp : Timestamp
  title : String
  description : String
  actor : Option Performer
deriving DecidableEq

structure Start where
  id : Uuid
  timestamp : Timestamp
  actors : Dict Json
  vars : Dict Json
deriving DecidableEq

end Case

structure Case where
  id : Uuid
  title : String
  tags : List String
  scenarioId : Uuid
  scenario : Scenario
  actors : Dict Json
  vars : Dict Json
  result : Json
  current : Case.Stage
  events : List Case.Event
  log : List Case.LogEntry
deriving DecidableEq

namespace Case

/-- The hash of the last event, which the next one carries. -/
def tailHash? (c : Case) : Option String := c.events.getLast?.map Event.hash

def tailHash (c : Case) : String := c.tailHash?.getD ""

/-- Whether nothing can happen any more: no transition leads out of the current state. -/
def isFinished (c : Case) : Bool :=
  match c.scenario.states.get? c.current.key with
  | some state => state.transitions.isEmpty
  | none => true

def append (c : Case) (e : Event) : Case := { c with events := c.events ++ [e] }

end Case
end Caseflow
