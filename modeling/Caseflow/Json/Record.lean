import Caseflow.Dict

/-!
# Records as objects

Reading and writing records with named fields. Fields that a record does not know are passed over; a
required field must be there; an optional one may be missing or `null`.
-/
namespace Caseflow.Json

variable {α : Type}

def required? (decode : Json → Option α) (name : String) (v : Json) : Option α :=
  (v.field? name).bind decode

/-- A field that may be missing or `null`. -/
def optional? (decode : Json → Option α) (name : String) (v : Json) : Option (Option α) :=
  match v.field? name with
  | none | some null => some none
  | some w => (decode w).map some

/-- A field that has a value of its own when it is missing. -/
def defaulted? (decode : Json → Option α) (default : α) (name : String) (v : Json) : Option α :=
  match v.field? name with
  | none => some default
  | some w => decode w

def decodeItems? (decode : Json → Option α) : List Json → Option (List α)
  | [] => some []
  | v :: vs => do return (← decode v) :: (← decodeItems? decode vs)

def listOf? (decode : Json → Option α) (v : Json) : Option (List α) :=
  v.asArray?.bind (decodeItems? decode)

def decodeEntries? (decode : Json → Option α) : Fields → Option (List (String × α))
  | [] => some []
  | (k, v) :: fs => do return (k, ← decode v) :: (← decodeEntries? decode fs)

def dictOf? (decode : Json → Option α) (v : Json) : Option (Dict α) :=
  (v.asObject?.bind (decodeEntries? decode)).map Dict.ofList

def unsigned? : Json → Option Nat
  | num n => n.toUnsigned?
  | _ => none

def strings? : Json → Option (List String) := listOf? asString?

def ofStrings (ss : List String) : Json := arr (ss.map str)

def ofOption (encode : α → Json) : Option α → Json
  | some a => encode a
  | none => null

def ofDict (encode : α → Json) (d : Dict α) : Json :=
  obj (d.entries.map fun p => (p.1, encode p.2))

/-- A field that is written only when there is a value. -/
def optionalField (name : String) (encode : α → Json) : Option α → Fields
  | some a => [(name, encode a)]
  | none => []

def fieldIf (condition : Bool) (name : String) (v : Json) : Fields :=
  if condition then [(name, v)] else []

end Caseflow.Json
