import Caseflow.Case.Context

/-!
# Updates

The updates of an action change a context one after another, and each sees what those before it did.
They may only write at or below the title, the actors, the variables, the result and the acting
actor.
-/
namespace Caseflow.Case

open Scenario

/-- The paths that updates may write at or below. -/
def writableRoots : List String := ["title", "actors", "vars", "result", "current.actor"]

/-- Whether a path is a root or a root followed by a dot and more. -/
def isBelow (root path : String) : Bool :=
  path == root ||
    match Text.after? root path with
    | some rest => Text.startsWith "." rest && 1 < rest.length
    | none => false

def isAllowedTarget (path : String) : Bool := writableRoots.any (isBelow · path)

def fieldsOf (v : Json) : Fields := v.asObject?.getD []

/-- The value at a path of field names, `null` where there is none. -/
def valueAt : List String → Json → Json
  | [], v => v
  | name :: path, v => valueAt path (v.field name)

/-- Change the value at a path of field names. Objects are made on the way where there are none. -/
def modifyAt (change : Json → Json) : List String → Json → Json
  | [], v => change v
  | name :: path, v => .obj (Assoc.insert name (modifyAt change path (v.field name)) (fieldsOf v))

theorem valueAt_modifyAt (change : Json → Json) (path : List String) (v : Json) :
    valueAt path (modifyAt change path v) = change (valueAt path v) := by
  induction path generalizing v with
  | nil => rfl
  | cons name path ih =>
    have hfield : (modifyAt change (name :: path) v).field name
        = modifyAt change path (v.field name) := by
      simp [modifyAt, Json.field, Json.field?, Assoc.get?_insert_self]
    simp only [valueAt, hfield, ih]

def combine (mode : UpdateMode) (existing value : Json) : Json :=
  match mode, existing, value with
  | .replace, _, value => value
  | .merge, .arr a, .arr b => .arr (a ++ b)
  | .merge, .obj a, .obj b => .obj (Assoc.extend a b)
  | .merge, _, value => value
  | .append, .arr items, value => .arr (items ++ [value])
  | .append, .null, value => .arr [value]
  | .append, other, value => .arr [other, value]

/-- What an update writes; its stub while predicting. -/
def sourceOf (predicting : Bool) (u : Update) : Json :=
  if predicting then u.stub.getD u.value else u.value

variable (regex : Regex.Engine)

def applyUpdate (predicting : Bool) (ctx : Json) (u : Update) : Result Json :=
  if isAllowedTarget u.target then do
    if ← holds regex ctx u.guard then
      let value ← evaluate regex ctx (sourceOf predicting u)
      return modifyAt (combine u.mode · value) (Text.split '.' u.target) ctx
    else return ctx
  else .error (.invalidTarget u.target)

def applyUpdates (predicting : Bool) : Json → List Update → Result Json
  | ctx, [] => .ok ctx
  | ctx, u :: rest => do applyUpdates predicting (← applyUpdate regex predicting ctx u) rest

end Caseflow.Case
