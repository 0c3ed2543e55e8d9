import Caseflow.Json.Fields
import Caseflow.Text.Split

/-!
# Schema shorthand

A type name stands for a schema of that type, an address or a fragment for a reference, and a
property can say itself that it is required. Object schemas are closed unless their author opens
them.
-/
namespace Caseflow.Schema.Shorthand

/-- The key by which a property says that it is required. -/
def requiredMark : String := "!required"

def ofText (s : String) : Json :=
  if Text.startsWith "http" s || Text.startsWith "#" s then .obj [("$ref", .str s)]
  else .obj [("type", .str s)]

def isObjectType (fields : Fields) : Bool :=
  match Assoc.get? "type" fields with
  | some (.str t) => t == "object"
  | some (.arr ts) => ts.contains (.str "object")
  | _ => false

def requiredNames (fields : Fields) : List String :=
  match Assoc.get? "required" fields with
  | some (.arr names) => names.filterMap Json.asString?
  | _ => []

/-- Whether a property carries the mark with a value other than `false`. -/
def isMarked : Json → Bool
  | .obj fields =>
    match Assoc.get? requiredMark fields with
    | none | some (.bool false) => false
    | some _ => true
  | _ => false

def markedNames : Option Json → List String
  | some (.obj props) => (props.filter fun p => isMarked p.2).map (·.1)
  | _ => []

/-- Add names to a list, each once. -/
def addNames (names : List String) (more : List String) : List String :=
  more.foldl (fun acc name => if acc.contains name then acc else acc ++ [name]) names

/-- The required properties of a schema: those listed, and those marked that are not. -/
def required (fields : Fields) : List String :=
  addNames (requiredNames fields) (markedNames (Assoc.get? "properties" fields))

/-- Keys that are not copied: the list is written anew and the mark is only for the parent. -/
def isRequirement (key : String) : Bool := key == "required" || key == requiredMark

def listed (required : List String) (fields : Fields) : Fields :=
  if required.isEmpty then fields
  else Assoc.insert "required" (.arr (required.map .str)) fields

/-- Whether an object schema does not say what other properties there may be. -/
def isOpen (fields : Fields) : Bool :=
  isObjectType fields && !Assoc.contains "additionalProperties" fields

/-- Complete an object schema: write its list of required names, and close it. -/
def completed (required : List String) (fields : Fields) : Fields :=
  let fields := listed required fields
  if isOpen fields then Assoc.insert "additionalProperties" (.bool false) fields else fields

def holdsEntries (key : String) : Bool :=
  ["properties", "patternProperties", "$defs", "definitions"].contains key

/-- Whether the value of a keyword is a schema, if it is no list. -/
def holdsSchema (key : String) : Bool := ["items", "additionalProperties"].contains key

/-- Whether the value of a keyword is a list of schemas, if it is a list. -/
def holdsItems (key : String) : Bool := ["items", "allOf", "oneOf", "anyOf"].contains key

mutual

def expand : Json → Json
  | .null => .obj []
  | .str s => ofText s
  | .obj fields => .obj (completed (required fields) (expandFields fields))
  | v => v

def expandFields : List (String × Json) → List (String × Json)
  | [] => []
  | (key, value) :: rest =>
    if isRequirement key then expandFields rest
    else (key, expandAt key value) :: expandFields rest

def expandAt (key : String) : Json → Json
  | .obj entries =>
    if holdsEntries key then .obj (expandEntries entries)
    else if holdsSchema key then .obj (completed (required entries) (expandFields entries))
    else .obj entries
  | .arr items => if holdsItems key then .arr (expandItems items) else .arr items
  | .str s => if holdsSchema key then ofText s else .str s
  | .null => if holdsSchema key then .obj [] else .null
  | v => v

def expandItems : List Json → List Json
  | [] => []
  | v :: vs => expand v :: expandItems vs

def expandEntries : List (String × Json) → List (String × Json)
  | [] => []
  | (k, v) :: rest => (k, expand v) :: expandEntries rest

end

/-- The schema of a property that an actor has unless its own schema says otherwise. -/
def actorProperties : Fields :=
  [("title", .obj [("type", .str "string")]),
    ("id", .obj [("type", .str "string")]),
    ("role", .obj [("items", .obj [("type", .str "string")]),
      ("type", .arr [.str "string", .str "array"])])]

def addMissing (missing fields : Fields) : Fields :=
  missing.foldl
    (fun acc p => if Assoc.contains p.1 acc then acc else Assoc.insert p.1 p.2 acc) fields

/-- An actor schema is of type `object` unless it says otherwise or refers elsewhere. -/
def actorBase : Json → Json
  | .null => .obj [("type", .str "object")]
  | .obj fields =>
    if Assoc.contains "type" fields || Assoc.contains "$ref" fields then .obj fields
    else .obj (Assoc.insert "type" (.str "object") fields)
  | v => v

/-- Give an object schema the standard properties of an actor. -/
def withActorProperties : Json → Json
  | .obj fields =>
    if isObjectType fields then
      match Assoc.get? "properties" fields with
      | none => .obj (Assoc.insert "properties" (.obj (addMissing actorProperties [])) fields)
      | some (.obj props) =>
        .obj (Assoc.insert "properties" (.obj (addMissing actorProperties props)) fields)
      | some _ => .obj fields
    else .obj fields
  | v => v

def expandActor (schema : Json) : Json := withActorProperties (expand (actorBase schema))

def default? (schema : Json) : Option Json := schema.field? "default"

end Caseflow.Schema.Shorthand
