import Caseflow.Query.Error
import Caseflow.Json.Compare

/-!
# Arguments of a call

An argument is a value, or an expression to be applied to items. The accessors fail with the name of
the function and the position of the argument when it is of another kind; a missing value reads as
`null`.
-/
namespace Caseflow.Query

abbrev Result := Except Error

inductive Argument
  | value (v : Json)
  | expression (apply : Json → Result Json)

structure Call where
  name : String
  args : List Argument

namespace Call

def wrong {α : Type} (c : Call) (position : Nat) (wanted : Wanted) (actual : String) : Result α :=
  .error (.argument c.name position wanted actual)

def failure {α : Type} (c : Call) (f : Failure) : Result α := .error (.failed c.name f)

def takes (c : Call) (least most : Nat) (expected : String) : Result Unit :=
  if least ≤ c.args.length ∧ c.args.length ≤ most then .ok ()
  else .error (.arity c.name expected c.args.length)

def value (c : Call) (i : Nat) : Result Json :=
  match c.args[i]? with
  | some (.value v) => .ok v
  | some (.expression _) => c.wrong i .value "expression"
  | none => .ok .null

def expression (c : Call) (i : Nat) : Result (Json → Result Json) :=
  match c.args[i]? with
  | some (.expression f) => .ok f
  | some (.value v) => c.wrong i .expression v.kindName
  | none => c.wrong i .expression "null"

def number (c : Call) (i : Nat) : Result Binary64 := do
  match ← c.value i with
  | .num n => pure n.toBinary64
  | v => c.wrong i .number v.kindName

/-- A whole number, clamped to the signed 64-bit range. -/
def integer (c : Call) (i : Nat) : Result Int := do
  let x ← c.number i
  if x.isIntegral then pure (max Number.minSigned (min Number.maxSigned x.truncate))
  else c.wrong i .integer "number"

def string (c : Call) (i : Nat) : Result String := do
  match ← c.value i with
  | .str s => pure s
  | v => c.wrong i .string v.kindName

def array (c : Call) (i : Nat) : Result (List Json) := do
  match ← c.value i with
  | .arr items => pure items
  | v => c.wrong i .array v.kindName

def object (c : Call) (i : Nat) : Result Fields := do
  match ← c.value i with
  | .obj fields => pure fields
  | v => c.wrong i .object v.kindName

def numbers (c : Call) (i : Nat) : Result (List Binary64) := do
  (← c.array i).mapM fun
    | .num n => pure n.toBinary64
    | v => c.wrong i .numbers v.kindName

end Call
end Caseflow.Query
