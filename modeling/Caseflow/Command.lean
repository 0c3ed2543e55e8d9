import Caseflow.Case.Forecast
import Caseflow.Case.Replay
import Caseflow.Case.Standard
import Caseflow.Json.Layout
import Caseflow.Scenario.Normalize
import Caseflow.Schema.Directory

/-!
# Commands

What a command line asks for, and what each command answers once the documents it names have been
read. Reading files, the clock and fresh identifiers are left to the caller.
-/
namespace Caseflow

inductive Command
  | normalize (scenario : String)
  | identify (scenario : String)
  | start (scenario : String) (instructions : Option String)
  | step (file action actor : String) (id response : Option String)
  | timeout (file : String) (now : Option String)
  | predict (file : String) (limit : Option String)
  | replay (scenario events : String)
  | migrate (scenario events : String)
deriving DecidableEq, Repr

namespace Command

def usage : String := "usage: caseflow [--schemas DIR] COMMAND

  normalize SCENARIO                    print the normalized form of a scenario
  id SCENARIO                           print the identifier of a scenario
  instantiate SCENARIO [--start FILE]   start a case and print it
  step CASE ACTION ACTOR [--id ID] [--response JSON]
                                        perform an action and print the case
  timeout CASE [--now TIME]             take a timeout that is due and print the case
  predict CASE [--max N]                print the states a case is expected to pass
  replay SCENARIO EVENTS                rebuild a case from its log
  migrate SCENARIO EVENTS               move a log to a scenario and rebuild the case"

/-- The options of a command line, and its other words. An option stands before its value, with a
blank or an equals sign between. -/
structure Words where
  options : List (String × String)
  others : List String

/-- Split words into options and others; none if an option lacks its value. -/
def splitWords? : List String → Option Words
  | [] => some ⟨[], []⟩
  | word :: rest =>
    match Text.after? "--" word with
    | none => do
      let words ← splitWords? rest
      return { words with others := word :: words.others }
    | some option =>
      match Text.breakAt ['='] option.toList with
      | some (name, value) => do
        let words ← splitWords? rest
        return { words with options := (String.ofList name, String.ofList value) :: words.options }
      | none =>
        match rest with
        | [] => none
        | value :: rest => do
          let words ← splitWords? rest
          return { words with options := (option, value) :: words.options }

def ofWords? (words : Words) : Option Command :=
  let option (name : String) := words.options.lookup name
  match words.others with
  | ["normalize", scenario] => some (.normalize scenario)
  | ["id", scenario] => some (.identify scenario)
  | ["instantiate", scenario] => some (.start scenario (option "start"))
  | ["step", file, action, actor] =>
    some (.step file action actor (option "id") (option "response"))
  | ["timeout", file] => some (.timeout file (option "now"))
  | ["predict", file] => some (.predict file (option "max"))
  | ["replay", scenario, events] => some (.replay scenario events)
  | ["migrate", scenario, events] => some (.migrate scenario events)
  | _ => none

abbrev Answer := Except String

def orElse {α : Type} (message : String) : Option α → Answer α
  | some a => .ok a
  | none => .error message

/-- What a command may use beside the documents it names: files that serve schemas, a fresh
identifier and the time. -/
structure Surroundings where
  files : Dict String
  freshId : Uuid
  now : Time.Timestamp

def document (name text : String) : Answer Json :=
  orElse ("invalid JSON in " ++ name) (Json.parse? text)

def scenarioIn (name text : String) : Answer Scenario := do
  (Scenario.normalize (← document name text)).mapError fun e =>
    "cannot normalize scenario " ++ name ++ ": " ++ e.message

def caseIn (name text : String) : Answer Case := do
  orElse ("no case in " ++ name) (Case.decode? (← document name text))

def eventsIn (name text : String) : Answer (List Case.Event) := do
  orElse ("no events in " ++ name) (Json.listOf? Case.Event.decode? (← document name text))

def engine (around : Surroundings) (s : Scenario) : Case.Engine :=
  .compile (Schema.validate Schema.Standard.compile) Regex.linear s
    (Schema.documentsOf around.files s.encode) Case.Engine.defaultLimit

def run {α : Type} (r : Case.Result α) : Answer α := r.mapError Case.Error.message

/-- What a command prints; `text` is what the files that it names hold. -/
def answer (around : Surroundings) (text : String → Answer String) : Command → Answer String
  | .normalize file => do return (← scenarioIn file (← text file)).encode.layout
  | .identify file => do return (← scenarioIn file (← text file)).id.text
  | .start file instructions => do
    let s ← scenarioIn file (← text file)
    let given ←
      match instructions with
      | some file => document file (← text file)
      | none => .ok (.obj [])
    let start ← orElse "invalid start instructions"
      (Case.Start.decode? around.freshId around.now given)
    return (← run ((engine around s).instantiate s start)).encode.layout
  | .step file action actor id response => do
    let c ← caseIn file (← text file)
    let response ←
      match response with
      | some text => (document "--response" text).map some
      | none => .ok none
    let next ← run ((engine around c.scenario).step c ⟨action, ⟨actor, id⟩, response⟩ around.now)
    return next.encode.layout
  | .timeout file now => do
    let c ← caseIn file (← text file)
    let now ←
      match now with
      | some text => orElse "invalid time" (Time.Timestamp.ofText? text)
      | none => .ok around.now
    return (← run ((engine around c.scenario).timeout c now)).encode.layout
  | .predict file limit => do
    let c ← caseIn file (← text file)
    let limit ←
      match limit with
      | some text => orElse "invalid number of states" text.toNat?
      | none => .ok Case.Engine.defaultLimit
    let states ← run ((engine around c.scenario).predict limit c)
    return (Json.arr (states.map (·.encode))).layout
  | .replay file log => do
    let s ← scenarioIn file (← text file)
    return (← run ((engine around s).replay s (← eventsIn log (← text log)))).encode.layout
  | .migrate file log => do
    let s ← scenarioIn file (← text file)
    let log ← eventsIn log (← text log)
    if log.isEmpty then .error "the event log is empty"
    else return (← run ((engine around s).migrate s log)).encode.layout

end Command
end Caseflow
