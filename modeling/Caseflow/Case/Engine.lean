import Caseflow.Case.Basic
import Caseflow.Case.Error
import Caseflow.Regex.Engine
import Caseflow.Scenario.Actor
import Caseflow.Schema.Scope

/-!
# Engines

An engine runs the cases of one scenario. It holds the scope of the scenario's schemas, and the
number of states that a prediction may have. How it checks instances and how it searches for regular
expressions are given to it.
-/
namespace Caseflow.Case

structure Engine where
  validation : Schema.Validation
  regex : Regex.Engine
  scope : Schema.Scope
  predictionLimit : Nat

namespace Engine

def defaultLimit : Nat := 100

/-- The engine of a scenario without other documents. -/
def ofScenario (validation : Schema.Validation) (regex : Regex.Engine) (s : Scenario) : Engine :=
  ⟨validation, regex, .alone s.encode, defaultLimit⟩

/-- The engine of a scenario whose schemas may refer to other documents. -/
def compile (validation : Schema.Validation) (regex : Regex.Engine) (s : Scenario)
    (documents : Dict Json) (predictionLimit : Nat) : Engine :=
  ⟨validation, regex, (Schema.Scope.compile s.encode documents).1, predictionLimit⟩

def validate (engine : Engine) (schema value : Json) : List String :=
  engine.scope.validate engine.validation schema value

def actorRefusals (engine : Engine) (s : Scenario) (key : String) (profile : Json) :
    List Refusal :=
  match s.actorSchema? key with
  | some schema => (engine.validate schema profile).map (.actor key)
  | none => [.unknownActor key]

/-- What is wrong with the actors, the variables and the result of a case; a result that is
`null` is not there yet. -/
def refusals (engine : Engine) (c : Case) : List Refusal :=
  (c.actors.entries.flatMap fun a => engine.actorRefusals c.scenario a.1 a.2) ++
    (engine.validate c.scenario.varsSchema (.obj c.vars.entries)).map .vars ++
    if c.result.isNull then []
    else (engine.validate c.scenario.result c.result).map .result

end Engine
end Caseflow.Case
