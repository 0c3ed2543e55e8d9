import Caseflow.Case.Start
import Caseflow.Case.Timeout

/-!
# Replay

A case is rebuilt from its log by deciding every event again. Each event must carry the hash of
its content and the hash of the event before it. A log is moved to another scenario by linking it
anew and replaying it there.
-/
namespace Caseflow.Case

def checkHash (index : Nat) (e : Event) : Result Unit :=
  if e.digest = e.hash then .ok () else .error (.hashMismatch index e.hash e.digest)

def checkLink (c : Case) (index : Nat) (e : Event) : Result Unit :=
  if e.previous? = c.tailHash? then .ok () else .error (.brokenChain index)

def Attempt.move (e : Attempt) : Move := ⟨e.action, e.actor, e.response⟩

namespace Engine

/-- Decide an attempt that is said to have succeeded. -/
def redo (engine : Engine) (c : Case) (index : Nat) (e : Attempt) : Result Case :=
  match engine.decide c e.move e.timestamp false with
  | .ok next => .ok next
  | .error (.refused reasons) => .error (.notReplayed index reasons)
  | .error (.fault f) => .error f

/-- Apply an event to a case. A skipped attempt is taken over as it is. -/
def apply (engine : Engine) (c : Case) (e : Event) : Result Case := do
  let index := c.events.length
  checkHash index e
  match e with
  | .genesis _ => .error (.genesisOnExisting index)
  | .attempt a =>
    checkLink c index e
    if a.skipped then return c.append e else engine.redo c index a
  | .expiry t =>
    checkLink c index e
    match ← engine.expire? c t.timestamp with
    | some next => return next
    | none => .error (.notReplayed index [.notDue c.current.key])

def applyAll (engine : Engine) : Case → List Event → Result Case
  | c, [] => .ok c
  | c, e :: rest => do applyAll engine (← engine.apply c e) rest

def replay (engine : Engine) (s : Scenario) : List Event → Result Case
  | .genesis start :: rest => do
    checkHash 0 (.genesis start)
    if start.scenario = s.id then engine.applyAll (← engine.begin s start) rest
    else .error (.scenarioMismatch s.id start.scenario)
  | _ => .error .missingGenesis

/-- The events of a log after those at its front that a case has already. -/
def newEvents (c : Case) (events : List Event) : List Event :=
  events.dropWhile fun e => (c.events.map Event.hash).contains e.hash

def replayOnto (engine : Engine) (c : Case) (events : List Event) : Result Case :=
  engine.applyAll c (newEvents c events)

end Engine

/-- An event of another scenario's log: its start names that scenario. -/
def Event.withScenario (id : Uuid) : Event → Event
  | genesis e => genesis { e with scenario := id }
  | e => e

def Event.follow (previous : Option Event) (e : Event) : Event :=
  match previous with
  | some before => e.withPrevious before.hash
  | none => e

/-- Link a log anew under another scenario, after the event before it, if there is one. -/
def relink (id : Uuid) : Option Event → List Event → List Event
  | _, [] => []
  | previous, e :: rest =>
    let e := ((e.withScenario id).follow previous).sealed
    e :: relink id (some e) rest

def Engine.migrate (engine : Engine) (s : Scenario) (events : List Event) : Result Case :=
  engine.replay s (relink s.id none events)

end Caseflow.Case
