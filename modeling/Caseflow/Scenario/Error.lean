/-!
# Faults of scenario documents

Why a document is no scenario. All of these are faults of its author.
-/
namespace Caseflow.Scenario

inductive Error
  | notAnObject (path : String)
  | unsupportedFormat (uri : String)
  | invalidField (path expected : String)
  | invalidPeriod (text : String)
  | gotoWithoutTrigger (state : String)
  | invalidTransition (state : String) (index : Nat)
  | actionCollision (key : String)
  | unknownState (state target : String)
  | missingInitialState
  | invalidUpdate (action reason : String)
deriving DecidableEq, Repr

def Error.message : Error → String
  | notAnObject path => s!"expected an object at '{path}'"
  | unsupportedFormat uri => s!"unsupported scenario schema '{uri}'"
  | invalidField path expected => s!"invalid value at '{path}': expected {expected}"
  | invalidPeriod text => s!"invalid time period '{text}'"
  | gotoWithoutTrigger state => s!"state '{state}' has a goto but neither 'on' nor 'after'"
  | invalidTransition state index => s!"transition {index} of state '{state}' needs 'on' or 'after'"
  | actionCollision key => s!"implicit action '{key}' collides with an explicitly declared action"
  | unknownState state target => s!"state '{state}' transitions to unknown state '{target}'"
  | missingInitialState => "scenario has no 'initial' state"
  | invalidUpdate action reason => s!"invalid update instruction in action '{action}': {reason}"

abbrev Result := Except Error

end Caseflow.Scenario
