import Caseflow.Query.Eval
import Caseflow.Template.Render

/-!
# Markers in documents

A marker is an object with one field whose key says how to compute the value that takes its place: a
query, a template, or a choice among cases. `resolve` replaces every marker in a document; objects
and lists around markers are kept as they are.
-/
namespace Caseflow

inductive ResolveError
  | query (e : Query.Error)
  | template (e : Template.Error)
  | marker (key message : String)
deriving DecidableEq

def ResolveError.message : ResolveError → String
  | query e => e.message
  | template e => "template error: " ++ e.message
  | marker key message => s!"malformed {key} marker: {message}"

namespace Marker

def queryKey : String := "<ref>"
def templateKey : String := "<tpl>"
def choiceKey : String := "<select>"

def isMarker : Json → Bool
  | .obj [(key, _)] => key == queryKey || key == templateKey || key == choiceKey
  | _ => false

abbrev Result := Except ResolveError

/-- The case a discriminant names: scalars by their text, other values none. -/
def caseName? : Json → Option String
  | .bool true => some "true"
  | .bool false => some "false"
  | .num n => some n.text
  | .str s => some s
  | _ => none

/-- The cases of a choice that a discriminant picks: the one it names, or else the default. -/
def pick {α : Type} (discriminant : Json) (cases : List (String × α)) : Option α :=
  (((caseName? discriminant).filter (· != "$")).bind (Assoc.get? · cases)).or (Assoc.get? "*" cases)

variable (regex : Regex.Engine)

def resolveQuery (payload ctx : Json) : Result Json :=
  match payload with
  | .str query => (Query.search regex query ctx).mapError .query
  | _ => .error (.marker queryKey "expected a query string")

def renderText (template : String) (view : Json) (partials : Fields) : Result Json :=
  match Template.render template view partials with
  | .ok s => .ok (.str s)
  | .error e => .error (.template e)

/-- A template with options. `view` is the resolved view, if the options give one. -/
def renderOptions (options : Fields) (view : Option (Result Json)) (ctx : Json) : Result Json :=
  match Assoc.get? "template" options with
  | some (.str template) => do
    let view ← view.getD (.ok ctx)
    match Assoc.get? "partials" options with
    | none | some .null => renderText template view []
    | some (.obj partials) => renderText template view partials
    | some _ => .error (.marker templateKey "'partials' must be an object")
  | _ => .error (.marker templateKey "missing 'template' string")

def choose (cases : List (String × Result Json)) : Result Json := do
  let discriminant ← (Assoc.get? "$" cases).getD (.ok .null)
  (pick discriminant cases).getD (.ok .null)

/-- The fields of an object once all of them have resolved. -/
def collect : List (String × Result Json) → Result Fields
  | [] => .ok []
  | (k, r) :: rest => do return (k, ← r) :: (← collect rest)

mutual

/-- Replace every marker in a document by its value in a context. -/
def resolve (ctx : Json) : Json → Result Json
  | .obj [(key, payload)] =>
    if key = queryKey then resolveQuery regex payload ctx
    else if key = templateKey then
      match payload with
      | .str template => renderText template ctx []
      | .obj options =>
        renderOptions options (Assoc.get? "view" (resolveEach ctx options)) ctx
      | _ => .error (.marker templateKey "expected a template string or object")
    else if key = choiceKey then
      match payload with
      | .obj cases => choose (resolveEach ctx cases)
      | _ => .error (.marker choiceKey "expected an object of cases")
    else do return .obj [(key, ← resolve ctx payload)]
  | .obj fields => do return .obj (← collect (resolveEach ctx fields))
  | .arr items => do return .arr (← resolveItems ctx items)
  | v => .ok v

def resolveItems (ctx : Json) : List Json → Result (List Json)
  | [] => .ok []
  | v :: vs => do return (← resolve ctx v) :: (← resolveItems ctx vs)

def resolveEach (ctx : Json) : List (String × Json) → List (String × Result Json)
  | [] => []
  | (k, v) :: fields => (k, resolve ctx v) :: resolveEach ctx fields

end

end Marker
end Caseflow
