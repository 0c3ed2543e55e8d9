import Caseflow.Case.Codec
import Caseflow.Case.Error

/-!
# Contexts

Markers are resolved in a context: an object that shows a case, its scenario and the state it is
in. Guards are documents that resolve to a value that counts as true or false.
-/
namespace Caseflow.Case

open Json

/-- The context of a case whose current state is shown as `current`. -/
def context (c : Case) (current : Json) : Json :=
  .obj [("actors", .obj c.actors.entries), ("current", current),
    ("events", .arr (c.events.map (·.encode))), ("result", c.result),
    ("scenario", c.scenario.encode), ("tags", ofStrings c.tags), ("title", .str c.title),
    ("vars", .obj c.vars.entries)]

variable (regex : Regex.Engine)

def evaluate (ctx node : Json) : Result Json := (Marker.resolve regex ctx node).mapError .evaluation

def holds (ctx guard : Json) : Result Bool := (evaluate regex ctx guard).map Json.isTruthy

/-- A value as text to show: nothing for `null`, texts as they are, all else in its written form. -/
def displayText : Json → String
  | .null => ""
  | .str s => s
  | v => v.text

def display (ctx node : Json) : Result String := (evaluate regex ctx node).map displayText

end Caseflow.Case
