import Caseflow.Case.Engine
import Caseflow.Case.Entry
import Caseflow.Case.Update
import Caseflow.Schema.Shorthand

/-!
# Steps

A step is an attempt of an actor at an action. It is admitted if the action is on offer, the actor
may perform it and the response is valid; then the action's updates are made and the first
transition that is open is taken. A step that is refused leaves only an event that says why.
-/
namespace Caseflow.Case

open Scenario Schema Time

structure Move where
  action : String
  actor : Performer
  response : Option Json
deriving DecidableEq

/-- A response of `null` is none. -/
def givenResponse (response : Option Json) : Option Json := response.filter (!·.isNull)

/-- The roles of an actor: one, or a list of them. -/
def rolesOf (profile : Json) : List String :=
  match profile.field? "role" with
  | some (.str role) => [role]
  | some (.arr roles) => roles.filterMap Json.asString?
  | _ => []

/-- Whether an entry of an action's actors covers an actor: by key or template, or by role. While
predicting, a service stands for every actor. -/
def isCovered (entry key : String) (profile : Json) (predicting : Bool) : Bool :=
  matchesActor entry key || (rolesOf profile).contains entry ||
    (predicting && (serviceName? entry).isSome)

def isAuthorized (allowed : List String) (key : String) (profile : Json) (predicting : Bool) :
    Bool :=
  allowed.any (isCovered · key profile predicting)

def boundId? (profile : Json) : Option String := (profile.field? "id").bind Json.asString?

def isService (key : String) : Bool := (serviceName? key).isSome

/-- Whether the party who acts may be this actor: an id that is given must be the one bound, and an
actor without either must at least have a role. -/
def identityRefusals (actor : Performer) (profile : Json) : List Refusal :=
  match actor.id, boundId? profile with
  | some id, some bound => if id = bound then [] else [.otherIdentity actor.key]
  | none, none => if (profile.field "role").isNull then [.notAssigned actor.key] else []
  | _, _ => []

/-- The actor who acts; a service acts without being one of the case. -/
def profile? (c : Case) (key : String) : Option Json :=
  (c.actors.get? key).or (if isService key then some (.obj []) else none)

/-- What an admitted attempt goes on with: the action with its full key, the actor as it was, and
the response with the default in place of none. -/
structure Admission where
  key : String
  action : Action
  profile : Json
  response : Json

def fullKey (c : Case) (action : String) : String := c.scenario.actionKey c.current.key action

def effectiveResponse (action : Action) (response : Option Json) : Json :=
  ((givenResponse response).or (Shorthand.default? action.response)).getD .null

/-- Why an attempt is not admitted. Ids and responses are not looked at while predicting. -/
def Engine.admissionRefusals (engine : Engine) (offer : Offer) (action : Action) (move : Move)
    (profile : Json) (predicting : Bool) : List Refusal :=
  (if predicting || isService move.actor.key then []
    else identityRefusals move.actor profile) ++
  (if isAuthorized offer.actors move.actor.key profile predicting then []
    else [.notAllowed move.actor.key move.action]) ++
  if predicting then []
  else (engine.validate action.response (effectiveResponse action move.response)).map
    .response

def Engine.admission (engine : Engine) (c : Case) (move : Move) (predicting : Bool) :
    Decision Admission := do
  let offer ← orRefuse (.notAvailable move.action c.current.key) (c.current.offer? move.action)
  let key := c.fullKey move.action
  let action ← orFault (orFail (.missingAction key) (c.scenario.actions.get? key))
  let profile ← orRefuse (.unknownActor move.actor.key) (c.profile? move.actor.key)
  refuse (engine.admissionRefusals offer action move profile predicting)
  return ⟨key, action, profile, effectiveResponse action move.response⟩

/-- An actor with its key in it; other values have no room for it. -/
def keyed (key : String) : Json → Json
  | .obj fields => .obj (Assoc.insert "key" (.str key) fields)
  | v => v

/-- The context in which an action's updates are made: the current state shows who acts and the
response. -/
def actingContext (c : Case) (key : String) (admission : Admission) : Json :=
  c.context (.obj (Assoc.insert "response" admission.response
    (Assoc.insert "actor" (keyed key admission.profile) (fieldsOf c.current.encode))))

/-- The entries of an object, or those that are kept if it is none. -/
def entriesOf (v : Json) (kept : Dict Json) : Dict Json :=
  match v with
  | .obj fields => .ofFields fields
  | _ => kept

/-- The actors with the one who acts as a context shows it, but for its key. -/
def withActing (key : String) (acting : Json) (actors : Dict Json) : Dict Json :=
  match acting with
  | .obj fields => actors.insert key (.obj (Assoc.erase "key" fields))
  | _ => actors

def absorb (c : Case) (ctx : Json) (key : String) : Case :=
  let actors := entriesOf (ctx.field "actors") c.actors
  { c with
    title := ((ctx.field "title").asString?).getD c.title
    actors :=
      if isService key then actors
      else withActing key ((ctx.field "current").field "actor") actors
    vars := entriesOf (ctx.field "vars") c.vars
    result := ctx.field "result" }

/-- What is wrong with a context that cannot be taken over as it is. -/
def shapeRefusals (ctx : Json) : List Refusal :=
  (if (ctx.field "title").asString?.isSome then [] else [.titleNotText]) ++
  (if (ctx.field "actors").asObject?.isSome then [] else [.actorsNotObject]) ++
  if (ctx.field "vars").asObject?.isSome then [] else [.varsNotObject]

/-- Take over a context after the updates; the case must be sound then, unless predicting. -/
def Engine.absorb (engine : Engine) (c : Case) (ctx : Json) (key : String)
    (predicting : Bool) : Decision Case := do
  let next := c.absorb ctx key
  refuse (shapeRefusals ctx ++ if predicting then [] else engine.refusals next)
  return next

def candidates (state : State) (key actor : String) : List ActionTransition :=
  state.actionTransitions.filter fun t =>
    t.action == key &&
      ((t.actors.map fun patterns => patterns.any (matchesActor · actor)).getD true)

def firstOpen (regex : Regex.Engine) (ctx : Json) :
    List ActionTransition → Result (Option ActionTransition)
  | [] => .ok none
  | t :: rest => do if ← holds regex ctx t.guard then return some t else firstOpen regex ctx rest

def Engine.transitionOf (engine : Engine) (c : Case) (move : Move) (key : String) (ctx : Json) :
    Decision ActionTransition := do
  let state ←
    orFault (orFail (.missingState c.current.key) (c.scenario.states.get? c.current.key))
  let found ← orFault (firstOpen engine.regex ctx (candidates state key move.actor.key))
  orRefuse (.noTransition move.action c.current.key) found

/-- Bind the id that is given to an actor who has none; services are not bound. -/
def bindActor (c : Case) (actor : Performer) (profile : Json) : Case :=
  match actor.id, boundId? profile, c.actors.get? actor.key with
  | some id, none, some (.obj fields) =>
    if isService actor.key then c
    else { c with actors := c.actors.insert actor.key (.obj (Assoc.insert "id" (.str id) fields)) }
  | _, _, _ => c

def logEntryOf (regex : Regex.Engine) (ctx : Json) (rule : LogRule) (timestamp : Timestamp)
    (actor : Option Performer) : Result (List LogEntry) := do
  if ← holds regex ctx rule.guard then
    let title ← display regex ctx rule.title
    let description ← display regex ctx rule.description
    return [⟨timestamp, title, description, actor⟩]
  else return []

def withEvent (e : Event) (ctx : Json) : Json :=
  match ctx.field "events" with
  | .arr events => .obj (Assoc.insert "events" (.arr (events ++ [e.encode])) (fieldsOf ctx))
  | _ => ctx

/-- Append an event, write the log, and enter the state that a transition leads to; without one, the
current state is entered again. -/
def Engine.advance (engine : Engine) (c : Case) (e : Event) (ctx : Json) (goto : Option String)
    (rule : LogRule) (actor : Option Performer) (entered : Timestamp) : Result Case := do
  let entries ← logEntryOf engine.regex ctx rule e.timestamp actor
  let current ←
    Stage.enter engine.regex c.scenario (goto.getD c.current.key) (withEvent e ctx) entered
  return { c with log := c.log ++ entries, events := c.events ++ [e], current }

def attemptOf (c : Case) (move : Move) (now : Timestamp) (reasons : List Refusal) : Event :=
  (Event.attempt {
    previous := c.tailHash
    timestamp := now
    action := move.action
    actor := move.actor
    response := givenResponse move.response
    skipped := !reasons.isEmpty
    errors := reasons.map Refusal.message
    hash := "" }).sealed

namespace Engine

/-- Decide an attempt. A transition that leads nowhere keeps the time at which the current state was
entered. -/
def decide (engine : Engine) (c : Case) (move : Move) (now : Timestamp) (predicting : Bool) :
    Decision Case := do
  let admission ← engine.admission c move predicting
  let ctx ← orFault (applyUpdates engine.regex predicting
    (c.actingContext move.actor.key admission) admission.action.updates)
  let next ← engine.absorb c ctx move.actor.key predicting
  let t ← engine.transitionOf c move admission.key ctx
  let entered := if t.goto.isSome then now else c.current.timestamp
  let next ← orFault (engine.advance (next.bindActor move.actor admission.profile)
    (c.attemptOf move now []) ctx t.goto t.log (some move.actor) entered)
  return { next with
    current := { next.current with
      actor := some move.actor
      response := some ((ctx.field "current").field "response") } }

/-- Perform an attempt. If it is refused, the case has an event that says why. -/
def step (engine : Engine) (c : Case) (move : Move) (now : Timestamp) : Result Case :=
  match engine.decide c move now false with
  | .ok next => .ok next
  | .error (.refused reasons) => .ok (c.append (c.attemptOf move now reasons))
  | .error (.fault e) => .error e

end Engine
end Caseflow.Case
