import Caseflow.Scenario.Basic
import Caseflow.Json.Record

/-!
# Scenarios as documents

The written form of a scenario and the reader of it. A transition is read as one that an action
takes if it can be, and else as one that time takes.
-/
namespace Caseflow.Scenario

open Json

def UpdateMode.name : UpdateMode → String
  | replace => "replace"
  | merge => "merge"
  | append => "append"

def UpdateMode.ofName? : String → Option UpdateMode
  | "replace" => some replace
  | "merge" => some merge
  | "append" => some append
  | _ => none

/-- A mode is its name, or an object whose only field is the name with `null`. -/
def UpdateMode.decode? : Json → Option UpdateMode
  | .str name => ofName? name
  | .obj [(name, .null)] => ofName? name
  | _ => none

def Update.encode (u : Update) : Json :=
  .obj ([("if", u.guard), ("mode", .str u.mode.name), ("set", .str u.target)] ++
    optionalField "stub" id u.stub ++ [("value", u.value)])

def Update.decode? (v : Json) : Option Update := do
  return {
    target := ← required? asString? "set" v
    value := ← required? some "value" v
    stub := ← optional? some "stub" v
    mode := ← required? UpdateMode.decode? "mode" v
    guard := ← required? some "if" v }

def Action.encode (a : Action) : Json :=
  .obj [("actor", ofStrings a.actors), ("description", .str a.description), ("if", a.guard),
    ("response", a.response), ("title", .str a.title), ("update", .arr (a.updates.map (·.encode)))]

def Action.decode? (v : Json) : Option Action := do
  return {
    title := ← required? asString? "title" v
    description := ← required? asString? "description" v
    actors := ← required? strings? "actor" v
    guard := ← required? some "if" v
    response := ← required? some "response" v
    updates := ← required? (listOf? Update.decode?) "update" v }

def LogRule.encode (l : LogRule) : Json :=
  .obj [("description", l.description), ("if", l.guard), ("title", l.title)]

def LogRule.decode? (v : Json) : Option LogRule := do
  return {
    title := ← required? some "title" v
    description := ← required? some "description" v
    guard := ← required? some "if" v }

def ActionTransition.encode (t : ActionTransition) : Json :=
  .obj (optionalField "by" ofStrings t.actors ++
    [("goto", ofOption .str t.goto), ("if", t.guard), ("log", t.log.encode), ("on", .str t.action)])

def ActionTransition.decode? (v : Json) : Option ActionTransition := do
  return {
    action := ← required? asString? "on" v
    actors := ← optional? strings? "by" v
    goto := ← optional? asString? "goto" v
    guard := ← required? some "if" v
    log := ← required? LogRule.decode? "log" v }

def TimeoutTransition.encode (t : TimeoutTransition) : Json :=
  .obj [("after", .ofNat t.after), ("goto", ofOption .str t.goto), ("if", t.guard),
    ("log", t.log.encode)]

def TimeoutTransition.decode? (v : Json) : Option TimeoutTransition := do
  return {
    after := ← required? unsigned? "after" v
    goto := ← optional? asString? "goto" v
    guard := ← required? some "if" v
    log := ← required? LogRule.decode? "log" v }

def Transition.encode : Transition → Json
  | action t => t.encode
  | timeout t => t.encode

def Transition.decode? (v : Json) : Option Transition :=
  ((ActionTransition.decode? v).map action).or ((TimeoutTransition.decode? v).map timeout)

def Notice.encode (n : Notice) : Json :=
  .obj ([("if", n.guard)] ++ optionalField "message" id n.message ++
    [("service", .str n.service), ("trigger", ofOption .str n.trigger)])

def Notice.decode? (v : Json) : Option Notice := do
  return {
    service := ← required? asString? "service" v
    trigger := ← optional? asString? "trigger" v
    guard := ← required? some "if" v
    message := ← optional? some "message" v }

def State.encode (s : State) : Json :=
  .obj [("description", s.description), ("instructions", ofDict id s.instructions),
    ("notify", .arr (s.notices.map (·.encode))), ("title", s.title),
    ("transitions", .arr (s.transitions.map (·.encode)))]

def State.decode? (v : Json) : Option State := do
  return {
    title := ← required? some "title" v
    description := ← required? some "description" v
    instructions := ← required? (dictOf? some) "instructions" v
    notices := ← required? (listOf? Notice.decode?) "notify" v
    transitions := ← required? (listOf? Transition.decode?) "transitions" v }

/-- The written form of a scenario; shared definitions are left out when there are none. -/
def encode (s : Scenario) : Json :=
  .obj (fieldIf (!s.definitions.isEmpty) "$defs" (ofDict id s.definitions) ++
    [("$schema", .str s.format), ("actions", ofDict Action.encode s.actions),
      ("actors", ofDict id s.actors), ("description", .str s.description), ("result", s.result),
      ("states", ofDict State.encode s.states), ("tags", ofStrings s.tags),
      ("title", .str s.title), ("vars", ofDict id s.vars)])

def decode? (v : Json) : Option Scenario := do
  return {
    format := ← required? asString? "$schema" v
    title := ← required? asString? "title" v
    description := ← required? asString? "description" v
    tags := ← required? strings? "tags" v
    actors := ← required? (dictOf? some) "actors" v
    actions := ← required? (dictOf? Action.decode?) "actions" v
    states := ← required? (dictOf? State.decode?) "states" v
    vars := ← required? (dictOf? some) "vars" v
    result := ← required? some "result" v
    definitions := ← defaulted? (dictOf? some) .empty "$defs" v }

end Caseflow.Scenario
