import Caseflow.Scenario.Expansion

/-!
# Normalizing scenario documents

From an authored document to a scenario: fields get their defaults, shorthand is written out, and
what a document leaves unsaid is made explicit, that is actions that only a transition names, end
states that only a transition leads to, and notices for services that can act.
-/
namespace Caseflow.Scenario

inductive Trigger
  | on (action : String) (actors : Option (List String))
  | after (seconds : Nat)
deriving DecidableEq

/-- A transition whose log is not settled yet. -/
structure Draft where
  trigger : Trigger
  goto : Option String
  guard : Json
  log : Option Json
deriving DecidableEq

namespace Draft

def readGoto (path : String) : Option Json → Result (Option String)
  | none => .ok none
  | some (.str target) => .ok (some target)
  | some _ => .error (.invalidField (path ++ ".goto") "a state name")

def readTrigger (state : String) (index : Nat) (path : String) (fields : Fields) :
    Result Trigger := do
  match Assoc.get? "on" fields, Assoc.get? "after" fields with
  | some (.str action), _ =>
    return .on action (← Authored.textList? (path ++ ".by") (Authored.present? "by" fields))
  | some _, _ => .error (.invalidField (path ++ ".on") "an action name")
  | none, some period =>
    match Period.ofJson period with
    | .ok seconds => return .after seconds
    | .error text => .error (.invalidPeriod text)
  | none, none => .error (.invalidTransition state index)

def read (state : String) (index : Nat) (v : Json) : Result Draft := do
  let path := s!"states.{state}.transitions[{index}]"
  match v with
  | .obj fields =>
    return {
      goto := ← readGoto path (Authored.present? "goto" fields)
      trigger := ← readTrigger state index path fields
      guard := Authored.guardOf fields
      log := Assoc.get? "log" fields }
  | _ => .error (.notAnObject path)

end Draft

/-- The actors that a filter admits; no filter and a star admit all that are declared. -/
def admittedActors (declared : List String) : Option (List String) → List String
  | none => declared
  | some entries => entries.flatMap fun entry => if entry = "*" then declared else [entry]

/-- Actions that a state names but nobody declares, each with the actors that may perform it. -/
abbrev Implied := Dict (List String)

/-- Point a draft at the action of its state if the action it names does not exist, and admit its
actors there. -/
def settle (state : String) (declared : List String) (explicit : List String)
    (actions : Dict Action) (implied : Implied) (draft : Draft) : Result (Draft × Implied) :=
  match draft.trigger with
  | .after _ => .ok (draft, implied)
  | .on action actors =>
    if actions.contains action then .ok (draft, implied)
    else
      let full := scopedKey state action
      if explicit.contains full then .error (.actionCollision full)
      else
        let allowed := (implied.get? full).getD []
        .ok ({ draft with trigger := .on full actors },
          implied.insert full
            (Schema.Shorthand.addNames allowed (admittedActors declared actors)))

def settleAll (state : String) (declared : List String) (explicit : List String)
    (actions : Dict Action) : Nat → Implied → List Json → Result (List Draft × Implied)
  | _, implied, [] => .ok ([], implied)
  | index, implied, v :: vs => do
    let draft ← Draft.read state index v
    let (draft, implied) ← settle state declared explicit actions implied draft
    let (drafts, implied) ← settleAll state declared explicit actions (index + 1) implied vs
    return (draft :: drafts, implied)

def impliedAction (state full : String) (actors : List String) : Action :=
  ⟨shortKey state full, "", actors, .bool true, .obj [], []⟩

def addImplied (state : String) (implied : Implied) (actions : Dict Action) : Dict Action :=
  implied.entries.foldl (fun acc p => acc.insert p.1 (impliedAction state p.1 p.2)) actions

/-- Settle the log of a draft: an action is shown by default, a timeout is not. -/
def Draft.finish (actions : Dict Action) (d : Draft) : Result Transition := do
  match d.trigger with
  | .on action actors =>
    let default := ((actions.get? action).map Authored.actionLog).getD Authored.silentLog
    return .action ⟨action, actors, d.goto, d.guard, ← Authored.log default d.log⟩
  | .after seconds =>
    return .timeout ⟨seconds, d.goto, d.guard, ← Authored.log Authored.silentLog d.log⟩

def finishAll (actions : Dict Action) : List Draft → Result (List Transition)
  | [] => .ok []
  | d :: ds => do return (← d.finish actions) :: (← finishAll actions ds)

/-- Services that can act, each with the short keys of the actions it can perform. -/
abbrev ServiceKeys := List (String × List String)

def addServiceKey (service key : String) : ServiceKeys → ServiceKeys
  | [] => [(service, [key])]
  | (name, keys) :: rest =>
    if name = service then (name, Schema.Shorthand.addNames keys [key]) :: rest
    else (name, keys) :: addServiceKey service key rest

/-- The services among the actors of a state's actions, in order of first mention. -/
def serviceKeys (state : String) (actions : Dict Action) (transitions : List ActionTransition) :
    ServiceKeys :=
  transitions.foldl (fun acc t =>
    match actions.get? t.action with
    | some action =>
      (action.actors.filterMap serviceName?).foldl
        (fun acc service => addServiceKey service (shortKey state t.action) acc) acc
    | none => acc) []

/-- The trigger of a service is its action, if it has just one. -/
def onlyKey? : List String → Option String
  | [key] => some key
  | _ => none

def impliedNotices (notices : List Notice) (keys : ServiceKeys) : List Notice :=
  (keys.filter fun p => !notices.any (·.service == p.1)).map fun p =>
    ⟨p.1, onlyKey? p.2, .bool true, none⟩

/-- The state of an authored one, and the actions with those it implies. -/
def normalizeState (key : String) (declared : List String) (explicit : List String)
    (actions : Dict Action) (authored : AuthoredState) : Result (State × Dict Action) := do
  if isEndState key && !authored.transitions.isEmpty then
    .error (.invalidField s!"states.{key}.transitions" "no transitions on an end state")
  else
    let (drafts, implied) ← settleAll key declared explicit actions 0 .empty authored.transitions
    let actions := addImplied key implied actions
    let transitions ← finishAll actions drafts
    let notices ← Authored.notices key (Authored.present? "notify" authored.fields)
    let instructions ← Authored.fieldsOrEmpty s!"states.{key}.instructions"
      (Assoc.get? "instructions" authored.fields)
    let keys := serviceKeys key actions (transitions.filterMap Transition.asAction?)
    let state : State := {
      title := (Assoc.get? "title" authored.fields).getD (.str key)
      description := (Assoc.get? "description" authored.fields).getD (.str "")
      instructions := Dict.ofList instructions
      notices := notices ++ impliedNotices notices keys
      transitions }
    return (state, actions)

/-- All states in order of their keys; the actions that earlier ones imply are there for later
ones. -/
def normalizeStates (declared : List String) (explicit : List String) :
    Dict Action → List (String × AuthoredState) → Result (List (String × State) × Dict Action)
  | actions, [] => .ok ([], actions)
  | actions, (key, authored) :: rest => do
    let (state, actions) ← normalizeState key declared explicit actions authored
    let (states, actions) ← normalizeStates declared explicit actions rest
    return ((key, state) :: states, actions)

def targets (states : Dict State) : List (String × String) :=
  states.entries.flatMap fun p => (p.2.transitions.filterMap (·.goto)).map (p.1, ·)

/-- Add the end states that transitions lead to; any other target must be a state. -/
def addEndStates : Dict State → List (String × String) → Result (Dict State)
  | states, [] => .ok states
  | states, (state, target) :: rest =>
    if states.contains target then addEndStates states rest
    else if isEndState target then addEndStates (states.insert target (.ending target)) rest
    else .error (.unknownState state target)

def normalize (document : Json) : Result Scenario := do
  match document with
  | .obj doc =>
    let format ← Authored.format (Assoc.get? "$schema" doc)
    let title ← Authored.textOr "title" "" doc
    let description ← Authored.textOr "description" "" doc
    let tags := (← Authored.textList? "tags" (Authored.present? "tags" doc)).getD []
    let actors ← Authored.actors (Assoc.get? "actors" doc)
    let declared ← Authored.actions (Assoc.get? "actions" doc)
    let authored ← AuthoredState.readAll (Assoc.get? "states" doc)
    let (states, actions) ← normalizeStates actors.keys declared.keys declared authored.entries
    let states := Dict.ofList states
    let states ← addEndStates states (targets states)
    if !states.contains initialKey then .error .missingInitialState
    else
      let vars ← Authored.schemas "vars" (Assoc.get? "vars" doc)
      let definitions ← Authored.schemas "$defs" (Assoc.get? "$defs" doc)
      let result := Schema.Shorthand.expand ((Assoc.get? "result" doc).getD .null)
      return {
        format, title, description, tags, actors, actions, states, vars, result, definitions }
  | _ => .error (.notAnObject "$")

end Caseflow.Scenario
