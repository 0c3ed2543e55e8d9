import Caseflow.Query.Functions
import Caseflow.Query.Slice

/-!
# Evaluation of queries

A query is evaluated against a document. Where the document does not have the shape a node asks for
the node yields `null`; only calls and stray references fail.
-/
namespace Caseflow.Query

/-- The position an index means in a list of some length; negative ones count from the end. -/
def position? (length : Nat) (i : Int) : Option Nat :=
  let i := if i < 0 then length + i else i
  if 0 ≤ i ∧ i < length then some i.toNat else none

/-- A list with its items that are lists spliced in. -/
def flattenOnce (items : List Json) : List Json :=
  items.flatMap fun
    | .arr nested => nested
    | v => [v]

def Comparator.accepts : Comparator → Ordering → Bool
  | lt, o => o.isLT
  | lte, o => o.isLE
  | gt, o => o.isGT
  | gte, o => o.isGE
  | eq, o => o.isEq
  | ne, o => !o.isEq

/-- Equality is defined for all values; order only between numbers and between strings. -/
def Comparator.apply (op : Comparator) (a b : Json) : Json :=
  match op with
  | eq => .bool (a.equalValue b)
  | ne => .bool (!a.equalValue b)
  | op =>
    match Json.compare? a b with
    | some o => .bool (op.accepts o)
    | none => .null

/-- Apply a function to every item and keep the results that are not null. -/
def project (f : Json → Result Json) : List Json → Result (List Json)
  | [] => .ok []
  | v :: vs => do
    let result ← f v
    let results ← project f vs
    return if result.isNull then results else result :: results

variable (regex : Regex.Engine)

mutual

def Expr.eval : Expr → Json → Result Json
  | .identity, data => .ok data
  | .field name, data => .ok (data.field name)
  | .literal v, _ => .ok v
  | .chain first second, data => do second.eval (← first.eval data)
  | .index i, data =>
    match data with
    | .arr items => .ok (((position? items.length i).bind (items[·]?)).getD .null)
    | _ => .ok .null
  | .slice b, data =>
    match data with
    | .arr items => .ok (.arr (slice b items))
    | _ => .ok .null
  | .projection source item, data => do
    match ← source.eval data with
    | .arr items => return .arr (← project item.eval items)
    | _ => return .null
  | .objectValues source, data => do
    match ← source.eval data with
    | .obj fields => return .arr (fields.map (·.2))
    | _ => return .null
  | .flatten source, data => do
    match ← source.eval data with
    | .arr items => return .arr (flattenOnce items)
    | _ => return .null
  | .condition test result, data => do
    if (← test.eval data).isTruthy then result.eval data else return .null
  | .comparison op left right, data => do
    let a ← left.eval data
    let b ← right.eval data
    return op.apply a b
  | .and left right, data => do
    let a ← left.eval data
    if a.isTruthy then right.eval data else return a
  | .or left right, data => do
    let a ← left.eval data
    if a.isTruthy then return a else right.eval data
  | .not e, data => do return .bool (!(← e.eval data).isTruthy)
  | .list items, data => do
    if data.isNull then return .null
    return .arr (← evalList items data)
  | .hash pairs, data => do
    if data.isNull then return .null
    return .mkObj (← evalPairs pairs data)
  | .call name args, data => do Call.run regex ⟨name, ← evalArguments args data⟩
  | .reference _, _ => .error .strayReference

def evalList : List Expr → Json → Result (List Json)
  | [], _ => .ok []
  | e :: es, data => do return (← e.eval data) :: (← evalList es data)

def evalPairs : List (String × Expr) → Json → Result (List (String × Json))
  | [], _ => .ok []
  | (k, e) :: es, data => do return (k, ← e.eval data) :: (← evalPairs es data)

/-- The arguments of a call: references stay expressions, all else is evaluated. -/
def evalArguments : List Expr → Json → Result (List Argument)
  | [], _ => .ok []
  | .reference e :: es, data => do return .expression e.eval :: (← evalArguments es data)
  | e :: es, data => do return .value (← e.eval data) :: (← evalArguments es data)

end

def search (query : String) (data : Json) : Result Json :=
  match parse query with
  | .ok e => e.eval regex data
  | .error fault => .error (.malformed fault)

end Caseflow.Query
