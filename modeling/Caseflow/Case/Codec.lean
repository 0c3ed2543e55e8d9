import Caseflow.Json.Compare
import Caseflow.Case.Basic

/-!
# Cases as documents

The written form of a case and its parts, and the readers of them.
-/
namespace Caseflow.Case

open Json Time

def Offer.encode (o : Offer) : Json :=
  .obj [("actor", ofStrings o.actors), ("description", .str o.description), ("key", .str o.key),
    ("response", o.response), ("title", .str o.title)]

def Offer.decode? (v : Json) : Option Offer := do
  return {
    key := ← required? asString? "key" v
    title := ← required? asString? "title" v
    description := ← required? asString? "description" v
    actors := ← required? strings? "actor" v
    response := ← required? some "response" v }

def Alert.encode (a : Alert) : Json :=
  .obj (optionalField "message" (fun m => m) a.message ++
    [("service", .str a.service), ("trigger", ofOption .str a.trigger)])

def Alert.decode? (v : Json) : Option Alert := do
  return {
    service := ← required? asString? "service" v
    trigger := ← optional? asString? "trigger" v
    message := ← optional? some "message" v }

def Stage.encode (s : Stage) : Json :=
  .obj ([("actions", .arr (s.offers.map (·.encode)))] ++
    optionalField "actor" Performer.encode s.actor ++
    [("description", .str s.description), ("instructions", ofDict .str s.instructions),
      ("key", .str s.key), ("notify", .arr (s.alerts.map (·.encode)))] ++
    optionalField "response" (fun r => r) s.response ++
    [("timestamp", .str s.timestamp.text), ("title", .str s.title)])

def Stage.decode? (v : Json) : Option Stage := do
  return {
    key := ← required? asString? "key" v
    timestamp := ← required? timestamp? "timestamp" v
    title := ← required? asString? "title" v
    description := ← required? asString? "description" v
    instructions := ← required? (dictOf? asString?) "instructions" v
    alerts := ← required? (listOf? Alert.decode?) "notify" v
    offers := ← required? (listOf? Offer.decode?) "actions" v
    actor := ← optional? Performer.decode? "actor" v
    response := ← optional? some "response" v }

def LogEntry.encode (l : LogEntry) : Json :=
  .obj (optionalField "actor" Performer.encode l.actor ++
    [("description", .str l.description), ("timestamp", .str l.timestamp.text),
      ("title", .str l.title)])

def LogEntry.decode? (v : Json) : Option LogEntry := do
  return {
    timestamp := ← required? timestamp? "timestamp" v
    title := ← required? asString? "title" v
    description := ← required? asString? "description" v
    actor := ← optional? Performer.decode? "actor" v }

/-- Read what a case is started with; the caller gives the id and the time that stand in for
absent ones. -/
def Start.decode? (id : Uuid) (now : Timestamp) (v : Json) : Option Start := do
  guard v.asObject?.isSome
  return {
    id := (← optional? uuid? "id" v).getD id
    timestamp := (← optional? timestamp? "timestamp" v).getD now
    actors := ← defaulted? (dictOf? some) .empty "actors" v
    vars := ← defaulted? (dictOf? some) .empty "vars" v }

def encode (c : Case) : Json :=
  .obj [("actors", .obj c.actors.entries), ("current", c.current.encode),
    ("events", .arr (c.events.map (·.encode))), ("id", .str c.id.text),
    ("log", .arr (c.log.map (·.encode))), ("result", c.result), ("scenario", c.scenario.encode),
    ("scenario_id", .str c.scenarioId.text), ("tags", ofStrings c.tags), ("title", .str c.title),
    ("vars", .obj c.vars.entries)]

def decode? (v : Json) : Option Case := do
  return {
    id := ← required? uuid? "id" v
    title := ← required? asString? "title" v
    tags := ← required? strings? "tags" v
    scenarioId := ← required? uuid? "scenario_id" v
    scenario := ← required? Scenario.decode? "scenario" v
    actors := ← required? (dictOf? some) "actors" v
    vars := ← required? (dictOf? some) "vars" v
    result := ← required? some "result" v
    current := ← required? Stage.decode? "current" v
    events := ← required? (listOf? Event.decode?) "events" v
    log := ← defaulted? (listOf? LogEntry.decode?) [] "log" v }

/-- Whether two cases agree in every field; the two zeros of a number are one. -/
def same (a b : Case) : Bool := a.encode.same b.encode

end Caseflow.Case
