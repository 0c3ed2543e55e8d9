import Caseflow.Json.Hash
import Caseflow.Json.Record
import Caseflow.Time.Reading
import Caseflow.Uuid

/-!
# Events

The log of a case is a chain of events. The first one starts the case; every later one is an
attempt at an action or a transition that time took, and carries the hash of the event before it.
The hash of an event is the content hash of all its other fields.
-/
namespace Caseflow.Case

open Json Time

/-- Who performs an action: an actor's key, and who acts as this actor, if that is said. -/
structure Performer where
  key : String
  id : Option String
deriving DecidableEq

structure Genesis where
  id : Uuid
  timestamp : Timestamp
  scenario : Uuid
  actors : Dict Json
  vars : Dict Json
  hash : String
deriving DecidableEq

/-- An attempt at an action: a step that was taken, or one that was skipped and why. -/
structure Attempt where
  previous : String
  timestamp : Timestamp
  action : String
  actor : Performer
  response : Option Json
  skipped : Bool
  errors : List String
  hash : String
deriving DecidableEq

/-- A transition that time took. -/
structure Expiry where
  previous : String
  timestamp : Timestamp
  hash : String
deriving DecidableEq

inductive Event
  | genesis (e : Genesis)
  | attempt (e : Attempt)
  | expiry (e : Expiry)
deriving DecidableEq

def timestamp? (v : Json) : Option Timestamp := v.asString?.bind Timestamp.ofText?

def uuid? (v : Json) : Option Uuid := v.asString?.bind Uuid.parse?

def Performer.encode (a : Performer) : Json :=
  .obj (optionalField "id" .str a.id ++ [("key", .str a.key)])

def Performer.decode? (v : Json) : Option Performer := do
  return {
    key := ← required? asString? "key" v
    id := ← optional? asString? "id" v }

def Genesis.fields (e : Genesis) : Fields :=
  [("actors", .obj e.actors.entries), ("hash", .str e.hash), ("id", .str e.id.text),
    ("scenario", .str e.scenario.text), ("timestamp", .str e.timestamp.text),
    ("vars", .obj e.vars.entries)]

def Genesis.decode? (v : Json) : Option Genesis := do
  return {
    id := ← required? uuid? "id" v
    timestamp := ← required? timestamp? "timestamp" v
    scenario := ← required? uuid? "scenario" v
    actors := ← defaulted? (dictOf? some) .empty "actors" v
    vars := ← defaulted? (dictOf? some) .empty "vars" v
    hash := ← defaulted? asString? "" "hash" v }

def Attempt.fields (e : Attempt) : Fields :=
  [("action", .str e.action), ("actor", e.actor.encode)] ++
    fieldIf (!e.errors.isEmpty) "errors" (ofStrings e.errors) ++
    [("hash", .str e.hash), ("previous", .str e.previous)] ++
    optionalField "response" (fun r => r) e.response ++
    [("skipped", .bool e.skipped), ("timestamp", .str e.timestamp.text)]

def Attempt.decode? (v : Json) : Option Attempt := do
  return {
    previous := ← required? asString? "previous" v
    timestamp := ← required? timestamp? "timestamp" v
    action := ← required? asString? "action" v
    actor := ← required? Performer.decode? "actor" v
    response := ← optional? some "response" v
    skipped := ← defaulted? asBool? false "skipped" v
    errors := ← defaulted? strings? [] "errors" v
    hash := ← defaulted? asString? "" "hash" v }

def Expiry.fields (e : Expiry) : Fields :=
  [("hash", .str e.hash), ("previous", .str e.previous), ("timestamp", .str e.timestamp.text)]

/-- The only event that may have no other fields. -/
def Expiry.decode? (v : Json) : Option Expiry := do
  guard ((← v.asObject?).all fun p => ["hash", "previous", "timestamp"].contains p.1)
  return {
    previous := ← required? asString? "previous" v
    timestamp := ← required? timestamp? "timestamp" v
    hash := ← defaulted? asString? "" "hash" v }

namespace Event

def fields : Event → Fields
  | genesis e => e.fields
  | attempt e => e.fields
  | expiry e => e.fields

def encode (e : Event) : Json := .obj e.fields

/-- An event is of the first kind whose fields it has. -/
def decode? (v : Json) : Option Event :=
  ((Genesis.decode? v).map genesis).or
    (((Attempt.decode? v).map attempt).or ((Expiry.decode? v).map expiry))

def hash : Event → String
  | genesis e => e.hash
  | attempt e => e.hash
  | expiry e => e.hash

def previous? : Event → Option String
  | genesis _ => none
  | attempt e => some e.previous
  | expiry e => some e.previous

def timestamp : Event → Timestamp
  | genesis e => e.timestamp
  | attempt e => e.timestamp
  | expiry e => e.timestamp

def withPrevious (previous : String) : Event → Event
  | genesis e => genesis e
  | attempt e => attempt { e with previous }
  | expiry e => expiry { e with previous }

def withHash (hash : String) : Event → Event
  | genesis e => genesis { e with hash }
  | attempt e => attempt { e with hash }
  | expiry e => expiry { e with hash }

/-- What the hash of an event is made from: all fields but the hash itself. -/
def content (e : Event) : Json := .obj (Assoc.erase "hash" e.fields)

def digest (e : Event) : String := e.content.contentHash

def sealed (e : Event) : Event := e.withHash e.digest

@[simp] theorem content_withHash (hash : String) (e : Event) :
    (e.withHash hash).content = e.content := by
  cases e with
  | genesis e => simp [withHash, content, fields, Genesis.fields, Assoc.erase]
  | attempt e =>
    cases he : e.errors.isEmpty <;>
      simp [withHash, content, fields, Attempt.fields, Assoc.erase, fieldIf, he]
  | expiry e => simp [withHash, content, fields, Expiry.fields, Assoc.erase]

@[simp] theorem hash_withHash (hash : String) (e : Event) : (e.withHash hash).hash = hash := by
  cases e <;> rfl

theorem hash_sealed (e : Event) : e.sealed.hash = e.sealed.digest := by
  simp [sealed, digest]

@[simp] theorem withHash_withHash (h k : String) (e : Event) :
    (e.withHash h).withHash k = e.withHash k := by cases e <;> rfl

end Event

def Genesis.sealed (e : Genesis) : Genesis := { e with hash := (Event.genesis e).digest }

theorem Event.genesis_sealed (e : Genesis) : (genesis e).sealed = genesis e.sealed := rfl

end Caseflow.Case
