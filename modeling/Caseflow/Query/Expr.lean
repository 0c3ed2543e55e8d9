import Caseflow.Query.Token

/-!
# Query expressions

The expressions of the query language. A projection is one node: its left side yields a list and its
right side is applied to each item, with null results dropped; a filter is a projection whose right
side is a condition.
-/
namespace Caseflow.Query

structure Bounds where
  start : Option Int
  stop : Option Int
  step : Option Int
deriving DecidableEq, Repr

inductive Expr
  | identity
  | field (name : String)
  | literal (v : Json)
  | chain (first second : Expr)
  | index (i : Int)
  | slice (bounds : Bounds)
  | projection (source item : Expr)
  | objectValues (source : Expr)
  | flatten (source : Expr)
  | condition (test result : Expr)
  | comparison (op : Comparator) (left right : Expr)
  | and (left right : Expr)
  | or (left right : Expr)
  | not (e : Expr)
  | list (items : List Expr)
  | hash (pairs : List (String × Expr))
  | call (name : String) (args : List Expr)
  | reference (e : Expr)

instance : Inhabited Expr := ⟨.identity⟩

end Caseflow.Query
