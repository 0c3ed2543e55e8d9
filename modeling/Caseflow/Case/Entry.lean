import Caseflow.Case.Context

/-!
# Entering a state

A state is entered by resolving all that it shows in a context. On offer are the actions of the
state's transitions whose own guard and whose action's guard both hold; an action that several
transitions take is offered once.
-/
namespace Caseflow.Case

open Scenario Time

variable (regex : Regex.Engine)

def instructionTexts (ctx : Json) : List (String × Json) → Result (List (String × String))
  | [] => .ok []
  | (actor, node) :: rest => do
    let text ← display regex ctx node
    return (actor, text) :: (← instructionTexts ctx rest)

/-- The action of a transition as an offer, if both guards hold. -/
def offerOf? (s : Scenario) (state : String) (ctx : Json) (t : ActionTransition) :
    Result (Option Offer) := do
  let action ← orFail (.missingAction t.action) (s.actions.get? t.action)
  if ← holds regex ctx t.guard then
    if ← holds regex ctx action.guard then
      return some {
        key := shortKey state t.action
        title := action.title
        description := action.description
        actors := action.actors
        response := action.response }
    else return none
  else return none

/-- The offers of transitions in order, after those that there are already. -/
def offersFrom (s : Scenario) (state : String) (ctx : Json) :
    List Offer → List ActionTransition → Result (List Offer)
  | offers, [] => .ok offers
  | offers, t :: rest =>
    if offers.any (·.key == shortKey state t.action) then offersFrom s state ctx offers rest
    else do
      let offer ← offerOf? regex s state ctx t
      offersFrom s state ctx (offers ++ offer.toList) rest

def alertOf? (ctx : Json) (n : Notice) : Result (Option Alert) := do
  if ← holds regex ctx n.guard then
    let message ←
      match n.message with
      | some node => (evaluate regex ctx node).map some
      | none => .ok none
    return some ⟨n.service, n.trigger, message⟩
  else return none

def alertsOf (ctx : Json) : List Notice → Result (List Alert)
  | [] => .ok []
  | n :: rest => do
    let alert ← alertOf? regex ctx n
    return alert.toList ++ (← alertsOf ctx rest)

def Stage.enter (s : Scenario) (key : String) (ctx : Json) (timestamp : Timestamp) :
    Result Stage := do
  let state ← orFail (.missingState key) (s.states.get? key)
  let instructions ← instructionTexts regex ctx state.instructions.entries
  let offers ← offersFrom regex s key ctx [] state.actionTransitions
  let alerts ← alertsOf regex ctx state.notices
  let title ← display regex ctx state.title
  let description ← display regex ctx state.description
  return {
    key, timestamp, title, description, alerts, offers
    instructions := .ofList instructions
    actor := none
    response := none }

end Caseflow.Case
