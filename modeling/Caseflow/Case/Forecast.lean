import Caseflow.Case.Timeout

/-!
# Predictions

A prediction plays a case on: in every state the first action that some actor can perform without
a response, or else the first timeout. It ends in a state without a way out, where nothing can be
done, or where the data of the case are as they were before.
-/
namespace Caseflow.Case

open Scenario Time

structure Forecast where
  key : String
  timestamp : Timestamp
  title : String
  description : String
  instructions : Dict String
  actions : List String
deriving DecidableEq

def Forecast.ofStage (s : Stage) : Forecast where
  key := s.key
  timestamp := s.timestamp
  title := s.title
  description := s.description
  instructions := s.instructions
  actions := s.offers.map (·.key)

def Forecast.encode (f : Forecast) : Json :=
  .obj [("actions", Json.ofStrings f.actions), ("description", .str f.description),
    ("instructions", Json.ofDict .str f.instructions), ("key", .str f.key),
    ("timestamp", .str f.timestamp.text), ("title", .str f.title)]

def forecast (c : Case) : Forecast := .ofStage c.current

def addKeys (keys : List String) (more : List String) : List String :=
  more.foldl (fun acc key => if acc.contains key then acc else acc ++ [key]) keys

/-- Whether an actor has a role: its only one, or one in a list of them. -/
def hasRole (profile : Json) (role : String) : Bool :=
  match profile.field? "role" with
  | some (.str own) => own == role
  | some (.arr roles) => roles.any (·.asString? == some role)
  | _ => false

/-- Whether an entry may stand for an actor; a service may for every one. -/
def mayStandFor (entry key : String) (profile : Json) : Bool :=
  matchesActor entry key || hasRole profile entry || isService entry

def actorsOf (c : Case) (entry : String) : List String :=
  (c.actors.entries.filter fun a => mayStandFor entry a.1 a.2).map (·.1)

/-- The actors that a list of entries may stand for, each once, in the order of the list. -/
def candidateActors (c : Case) (allowed : List String) : List String :=
  allowed.foldl (fun keys entry => addKeys keys (c.actorsOf entry)) []

def candidateMoves (c : Case) (state : State) : List Move :=
  state.actionTransitions.flatMap fun t =>
    match c.current.offer? (shortKey c.current.key t.action) with
    | some offer => (c.candidateActors offer.actors).map fun actor =>
        ⟨offer.key, ⟨actor, none⟩, none⟩
    | none => []

/-- When a timeout of the current state is due, if that time can be written. -/
def dueTime? (c : Case) (t : TimeoutTransition) : Option Timestamp :=
  c.current.timestamp.addSeconds? t.after

def Engine.firstAccepted (engine : Engine) (c : Case) : List Move → Result (Option Case)
  | [] => .ok none
  | move :: rest =>
    match engine.decide c move c.current.timestamp true with
    | .ok next => .ok (some next)
    | .error (.refused _) => firstAccepted engine c rest
    | .error (.fault e) => .error e

/-- What happens at the first of some times at which anything does. -/
def Engine.firstExpiry (engine : Engine) (c : Case) : List Timestamp → Result (Option Case)
  | [] => .ok none
  | now :: rest => do
    match ← engine.expire? c now with
    | some next => return some next
    | none => firstExpiry engine c rest

/-- The first thing that can happen, if there is one. -/
def Engine.predictNext (engine : Engine) (c : Case) : Result (Option Case) := do
  let state ← c.state
  match ← engine.firstAccepted c (c.candidateMoves state) with
  | some next => return some next
  | none => engine.firstExpiry c (state.timeoutTransitions.filterMap c.dueTime?)

/-- What tells the situations of a prediction apart: the data and the state, not the events and the
times. -/
def fingerprint (c : Case) : String :=
  (Json.obj [("actors", .obj c.actors.entries), ("current", .str c.current.key),
    ("result", c.result), ("tags", Json.ofStrings c.tags), ("title", .str c.title),
    ("vars", .obj c.vars.entries)]).contentHash

namespace Engine

/-- The states after those that there are already: at most `room` of them, and the last of them ends
the prediction. -/
def predictFrom (engine : Engine) (limit : Nat) :
    Nat → Case → List String → Result (List Forecast)
  | 0, _, _ => .error (.predictionLimit limit)
  | room + 1, c, seen => do
    match ← engine.predictNext c with
    | none => return []
    | some next =>
      if seen.contains next.fingerprint || next.isFinished then return [next.forecast]
      else return next.forecast :: (← predictFrom engine limit room next (next.fingerprint :: seen))

/-- The states that a case will pass through, from the current one on, if they are no more than
`limit`. -/
def predict (engine : Engine) (limit : Nat) (c : Case) : Result (List Forecast) := do
  if c.isFinished then return [c.forecast]
  else return c.forecast :: (← engine.predictFrom limit (limit - 1) c [c.fingerprint])

end Engine
end Caseflow.Case
