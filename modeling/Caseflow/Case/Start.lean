import Caseflow.Case.Engine
import Caseflow.Case.Entry
import Caseflow.Scenario.Identity
import Caseflow.Schema.Shorthand

/-!
# Starting a case

A case starts in the initial state. Actors and variables begin with the defaults of their
schemas, and what the start gives is put over them. An actor that is declared by a template exists
only if the start names it.
-/
namespace Caseflow.Case

open Scenario Schema

/-- An actor as its schema declares it: a title and the defaults of its properties. -/
def actorBase (key : String) (schema : Json) : Fields :=
  let title := ((schema.field? "title").bind Json.asString?).getD key
  let properties := ((schema.field? "properties").bind Json.asObject?).getD []
  Assoc.extend [("title", .str title)]
    (properties.filterMap fun p => (Shorthand.default? p.2).map (p.1, ·))

/-- The actors that exist without being named. -/
def declaredActors (s : Scenario) : Dict Json :=
  .ofList ((s.actors.entries.filter fun p => !Text.endsWith "*" p.1).map fun p =>
    (p.1, .obj (actorBase p.1 p.2)))

/-- The actor that a start names: one that exists, or a new one of a declared template. -/
def namedActor? (s : Scenario) (actors : Dict Json) (key : String) : Option Json :=
  (actors.get? key).or
    (((templateName? key).bind s.actors.get?).map fun schema => .obj (actorBase key schema))

def nameActor (s : Scenario) (actors : Dict Json) (key : String) (given : Json) :
    Dict Json × List Refusal :=
  match namedActor? s actors key, given with
  | none, _ => (actors, [.unknownActor key])
  | some (.obj base), .obj given => (actors.insert key (.obj (Assoc.extend base given)), [])
  | some base, .null => (actors.insert key base, [])
  | some base, _ => (actors.insert key base, [.actorNotObject key])

def nameActors (s : Scenario) : Dict Json → List (String × Json) → Dict Json × List Refusal
  | actors, [] => (actors, [])
  | actors, (key, given) :: rest =>
    let (actors, reasons) := nameActor s actors key given
    let (actors, more) := nameActors s actors rest
    (actors, reasons ++ more)

def defaultVars (s : Scenario) : List (String × Json) :=
  s.vars.entries.filterMap fun p => (Shorthand.default? p.2).map (p.1, ·)

/-- The case that a start makes, before it enters its first state. -/
def unentered (s : Scenario) (start : Genesis) (actors : Dict Json) : Case where
  id := start.id
  title := s.title
  tags := s.tags
  scenarioId := start.scenario
  scenario := s
  actors := actors
  vars := .ofList (defaultVars s ++ start.vars.entries)
  result := (Shorthand.default? s.result).getD .null
  current := .nowhere
  events := [.genesis start]
  log := []

namespace Engine

def begin (engine : Engine) (s : Scenario) (start : Genesis) : Result Case := do
  let (actors, reasons) := nameActors s (declaredActors s) start.actors.entries
  let c := unentered s start actors
  let reasons := reasons ++ engine.refusals c
  if reasons.isEmpty then
    let current ← Stage.enter engine.regex s initialKey (c.context .null) start.timestamp
    return { c with current }
  else .error (.invalidStart reasons)

def genesisOf (s : Scenario) (start : Start) : Genesis where
  id := start.id
  timestamp := start.timestamp
  scenario := s.id
  actors := start.actors
  vars := start.vars
  hash := ""

def instantiate (engine : Engine) (s : Scenario) (start : Start) : Result Case :=
  engine.begin s (genesisOf s start).sealed

end Engine
end Caseflow.Case
