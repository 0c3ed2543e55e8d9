import Caseflow.Scenario.Error
import Caseflow.Scenario.Actor
import Caseflow.Scenario.Codec
import Caseflow.Scenario.Period
import Caseflow.Schema.Shorthand

/-!
# Reading authored fields

The parts of an authored document, each brought to its explicit form: a missing field has a default,
a single entry stands for a list of one, and a bare name for an entry with nothing else.
-/
namespace Caseflow.Scenario.Authored

open Schema

def present? (name : String) (fields : Fields) : Option Json :=
  match Assoc.get? name fields with
  | some .null => none
  | v => v

def textOr (name default : String) (fields : Fields) : Result String :=
  match present? name fields with
  | none => .ok default
  | some (.str s) => .ok s
  | some _ => .error (.invalidField name "a string")

/-- The guard of an entry; without one it always holds. -/
def guardOf (fields : Fields) : Json := (Assoc.get? "if" fields).getD (.bool true)

def textItems (path : String) : List Json → Result (List String)
  | [] => .ok []
  | .str s :: rest => do return s :: (← textItems path rest)
  | _ :: _ => .error (.invalidField path "a string or a list of strings")

def textList? (path : String) : Option Json → Result (Option (List String))
  | none => .ok none
  | some (.str s) => .ok (some [s])
  | some (.arr items) => do return some (← textItems path items)
  | some _ => .error (.invalidField path "a string or a list of strings")

def fieldsOrEmpty (path : String) : Option Json → Result Fields
  | none | some .null => .ok []
  | some (.obj fields) => .ok fields
  | some _ => .error (.notAnObject path)

def entriesOf {α : Type} (read : String → Json → Result α) : Fields → Result (List (String × α))
  | [] => .ok []
  | (k, v) :: rest => do return (k, ← read k v) :: (← entriesOf read rest)

/-- The format of a document. Its address may end in a file type. -/
def format : Option Json → Result String
  | none | some .null => .ok formatUri
  | some (.str uri) =>
    if uri = formatUri ∨ uri = formatUri ++ ".json" ∨ uri = formatUri ++ ".yaml" then .ok formatUri
    else .error (.unsupportedFormat uri)
  | some v => .error (.unsupportedFormat v.text)

/-- Without actors there is a single one, named `actor`. -/
def actors : Option Json → Result (Dict Json)
  | none | some .null => .ok (Dict.ofList [("actor", Shorthand.expandActor .null)])
  | some (.obj fields) => .ok ((Dict.ofList fields).map Shorthand.expandActor)
  | some _ => .error (.notAnObject "actors")

def schemas (path : String) (v : Option Json) : Result (Dict Json) := do
  return (Dict.ofList (← fieldsOrEmpty path v)).map Shorthand.expand

/-- An update without a value takes the response. -/
def responseReference : Json := .obj [("<ref>", .str "current.response")]

def updateMode (action : String) : Option Json → Result UpdateMode
  | none => .ok .replace
  | some v =>
    match UpdateMode.decode? v with
    | some mode => .ok mode
    | none => .error (.invalidUpdate action s!"unknown mode {v.text}")

/-- The fields of an update; a bare text is its target. -/
def updateFields (action : String) : Json → Result Fields
  | .str target => .ok [("set", .str target)]
  | .obj fields => .ok fields
  | v => .error (.invalidUpdate action s!"expected a target or an object, got {v.text}")

def update (action : String) (v : Json) : Result Update := do
  let fields ← updateFields action v
  match Assoc.get? "set" fields with
  | some (.str target) =>
    let mode ← updateMode action (present? "mode" fields)
    return {
      target
      value := (Assoc.get? "value" fields).getD responseReference
      stub := Assoc.get? "stub" fields
      mode
      guard := guardOf fields }
  | _ => .error (.invalidUpdate action "missing 'set' target")

def updateItems (action : String) : List Json → Result (List Update)
  | [] => .ok []
  | v :: vs => do return (← update action v) :: (← updateItems action vs)

def updates (action : String) : Option Json → Result (List Update)
  | none => .ok []
  | some (.arr items) => updateItems action items
  | some v => updateItems action [v]

/-- Without a list of actors everyone may act. -/
def action (key : String) (v : Json) : Result Action := do
  let path := "actions." ++ key
  let fields ← fieldsOrEmpty path (some v)
  return {
    title := ← textOr "title" key fields
    description := ← textOr "description" "" fields
    actors := (← textList? (path ++ ".actor") (present? "actor" fields)).getD ["*"]
    guard := guardOf fields
    response := Shorthand.expand ((Assoc.get? "response" fields).getD .null)
    updates := ← updates key (present? "update" fields) }

def actions (v : Option Json) : Result (Dict Action) := do
  return Dict.ofList (← entriesOf action (← fieldsOrEmpty "actions" v))

def silentLog : LogRule := ⟨.str "", .str "", .bool false⟩

def actionLog (a : Action) : LogRule := ⟨.str a.title, .str a.description, .bool true⟩

/-- A log is the default one, switched on or off, or described by its own fields. -/
def log (default : LogRule) : Option Json → Result LogRule
  | none | some .null => .ok default
  | some (.bool enabled) => .ok { default with guard := .bool enabled }
  | some (.obj fields) => .ok {
      title := (Assoc.get? "title" fields).getD default.title
      description := (Assoc.get? "description" fields).getD default.description
      guard := guardOf fields }
  | some _ => .error (.invalidField "log" "false or a log object")

/-- A service named with or without the word that marks services among actors. -/
def serviceOf (name : String) : String := (serviceName? name).getD name

def noticeTrigger (path : String) : Option Json → Result (Option String)
  | none => .ok none
  | some (.str action) => .ok (some action)
  | some _ => .error (.invalidField (path ++ ".trigger") "an action name")

def notice (path : String) : Json → Result Notice
  | .str service => .ok ⟨serviceOf service, none, .bool true, none⟩
  | .obj fields => do
    match Assoc.get? "service" fields with
    | some (.str service) =>
      return {
        service := serviceOf service
        trigger := ← noticeTrigger path (present? "trigger" fields)
        guard := guardOf fields
        message := present? "message" fields }
    | _ => .error (.invalidField (path ++ ".service") "a service name")
  | _ => .error (.invalidField path "a service name or a notify object")

def noticeItems (path : String) : List Json → Result (List Notice)
  | [] => .ok []
  | v :: vs => do return (← notice path v) :: (← noticeItems path vs)

def notices (state : String) (v : Option Json) : Result (List Notice) :=
  let path := s!"states.{state}.notify"
  match v with
  | none => .ok []
  | some (.arr items) => noticeItems path items
  | some v => noticeItems path [v]

end Caseflow.Scenario.Authored
