import Caseflow.Case.Step

/-!
# Timeouts

A timeout transition is due once the current state has been current for so many whole seconds. The
first one that is due and whose guard holds is taken.
-/
namespace Caseflow.Case

open Scenario Time

def isDue (elapsed : Int) (t : TimeoutTransition) : Bool := (t.after : Int) ≤ elapsed

/-- The first transition that is due and whose guard holds; guards of others are not looked at. -/
def firstDue (regex : Regex.Engine) (ctx : Json) (elapsed : Int) :
    List TimeoutTransition → Result (Option TimeoutTransition)
  | [] => .ok none
  | t :: rest =>
    if isDue elapsed t then do
      if ← holds regex ctx t.guard then return some t else firstDue regex ctx elapsed rest
    else firstDue regex ctx elapsed rest

def ownContext (c : Case) : Json := c.context c.current.encode

def state (c : Case) : Result State :=
  orFail (.missingState c.current.key) (c.scenario.states.get? c.current.key)

def expiryOf (c : Case) (now : Timestamp) : Event :=
  (Event.expiry ⟨c.tailHash, now, ""⟩).sealed

/-- The case after the transition that time takes, if there is one. -/
def Engine.expire? (engine : Engine) (c : Case) (now : Timestamp) : Result (Option Case) := do
  let state ← c.state
  let elapsed := Timestamp.secondsBetween c.current.timestamp now
  match ← firstDue engine.regex c.ownContext elapsed state.timeoutTransitions with
  | none => return none
  | some t => some <$> engine.advance c (c.expiryOf now) c.ownContext t.goto t.log none now

/-- Let time pass; if nothing is due the case stays as it is. -/
def Engine.timeout (engine : Engine) (c : Case) (now : Timestamp) : Result Case := do
  return (← engine.expire? c now).getD c

end Caseflow.Case
