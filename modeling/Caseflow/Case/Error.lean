import Caseflow.Marker
import Caseflow.Uuid

/-!
# Faults and refusals

A fault is a defect of a scenario, a log or a call. A refusal is none: it says why an attempt at an
action was skipped, or what is wrong with the start of a case.
-/
namespace Caseflow.Case

inductive Refusal
  | notAvailable (action state : String)
  | unknownActor (key : String)
  | otherIdentity (key : String)
  | notAssigned (key : String)
  | notAllowed (key action : String)
  | response (violation : String)
  | titleNotText
  | actorsNotObject
  | varsNotObject
  | actor (key violation : String)
  | vars (violation : String)
  | result (violation : String)
  | noTransition (action state : String)
  | actorNotObject (key : String)
  | notDue (state : String)
deriving DecidableEq, Repr

def Refusal.message : Refusal → String
  | notAvailable action state => s!"action '{action}' is not available in state '{state}'"
  | unknownActor key => s!"unknown actor '{key}'"
  | otherIdentity key => s!"actor '{key}' is bound to a different id"
  | notAssigned key => s!"actor '{key}' is not assigned"
  | notAllowed key action => s!"actor '{key}' is not allowed to perform action '{action}'"
  | response violation => s!"response {violation}"
  | titleNotText => "title must be a string"
  | actorsNotObject => "actors must be an object"
  | varsNotObject => "vars must be an object"
  | actor key violation => s!"actor '{key}' {violation}"
  | vars violation => s!"vars {violation}"
  | result violation => s!"result {violation}"
  | noTransition action state => s!"no transition for action '{action}' from state '{state}'"
  | actorNotObject key => s!"actor '{key}' must be an object"
  | notDue state => s!"no timeout transition of state '{state}' is due"

def Refusal.messages (reasons : List Refusal) : String :=
  "; ".intercalate (reasons.map Refusal.message)

inductive Error
  | evaluation (e : ResolveError)
  | missingState (key : String)
  | missingAction (key : String)
  | invalidTarget (path : String)
  | invalidStart (reasons : List Refusal)
  | missingGenesis
  | genesisOnExisting (index : Nat)
  | brokenChain (index : Nat)
  | hashMismatch (index : Nat) (stored computed : String)
  | scenarioMismatch (expected found : Uuid)
  | notReplayed (index : Nat) (reasons : List Refusal)
  | predictionLimit (max : Nat)
deriving DecidableEq

def Error.message : Error → String
  | evaluation e => "evaluation failed: " ++ e.message
  | missingState key => s!"state '{key}' is not defined in the scenario"
  | missingAction key => s!"action '{key}' is not defined in the scenario"
  | invalidTarget path => s!"update target '{path}' is not allowed"
  | invalidStart reasons => "invalid start instructions: " ++ Refusal.messages reasons
  | missingGenesis => "the event log must begin with an instantiate event"
  | genesisOnExisting index =>
    s!"event {index} is an instantiate event but the process already exists"
  | brokenChain index => s!"event {index} does not link to the previous event"
  | hashMismatch index stored computed =>
    s!"event {index} hash mismatch: stored {stored}, computed {computed}"
  | scenarioMismatch expected found =>
    "events belong to scenario " ++ found.text ++ ", expected " ++ expected.text
  | notReplayed index reasons =>
    s!"event {index} does not replay: " ++ Refusal.messages reasons
  | predictionLimit max => s!"prediction did not terminate within {max} states"

abbrev Result := Except Error

inductive Halt
  | fault (e : Error)
  | refused (reasons : List Refusal)
deriving DecidableEq

abbrev Decision := Except Halt

variable {α : Type}

def orFault (r : Result α) : Decision α := r.mapError .fault

def refuse (reasons : List Refusal) : Decision Unit :=
  if reasons.isEmpty then .ok () else .error (.refused reasons)

theorem refuse_eq_ok_iff {reasons : List Refusal} : refuse reasons = .ok () ↔ reasons = [] := by
  cases reasons <;> simp [refuse]

def orRefuse (reason : Refusal) : Option α → Decision α
  | some a => .ok a
  | none => .error (.refused [reason])

def orFail (e : Error) : Option α → Result α
  | some a => .ok a
  | none => .error e

end Caseflow.Case
