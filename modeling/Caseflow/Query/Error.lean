import Caseflow.Query.Parser

/-!
# Errors of queries

Why a query has no value: it is malformed, or a function call fails. Everything else in a query
yields `null` where the data has another shape.
-/
namespace Caseflow.Query

inductive Wanted
  | value
  | expression
  | number
  | integer
  | string
  | array
  | object
  | numbers
  | strings
  | sortable
  | container
  | measurable
  | reversible
  | pairs
deriving DecidableEq, Repr

def Wanted.text : Wanted → String
  | value => "a value"
  | expression => "an expression"
  | number => "a number"
  | integer => "an integer"
  | string => "a string"
  | array => "an array"
  | object => "an object"
  | numbers => "an array of numbers"
  | strings => "an array of strings"
  | sortable => "an array of numbers or strings"
  | container => "an array or a string"
  | measurable => "a string, an array or an object"
  | reversible => "a string or an array"
  | pairs => "an array of [key, value] pairs"

inductive Failure
  | invalidPattern
  | invalidNamespace
  | invalidJson
  | zeroStep
  | tooManyItems
deriving DecidableEq, Repr

def rangeLimit : Nat := 100000

def Failure.text : Failure → String
  | invalidPattern => "invalid pattern"
  | invalidNamespace => "invalid namespace"
  | invalidJson => "invalid JSON"
  | zeroStep => "step cannot be 0"
  | tooManyItems => s!"produces more than {rangeLimit} items"

inductive Error
  | malformed (fault : SyntaxFault)
  | unknownFunction (name : String)
  | arity (name expected : String) (actual : Nat)
  | argument (name : String) (position : Nat) (wanted : Wanted) (actual : String)
  | failed (name : String) (failure : Failure)
  | strayReference
deriving DecidableEq

def Error.message : Error → String
  | malformed f => s!"syntax error in '{f.query}' at offset {f.offset}: {f.message}"
  | unknownFunction name => s!"unknown function '{name}'"
  | arity name expected actual => s!"function '{name}' expects {expected} argument(s), got {actual}"
  | argument name position wanted actual =>
    s!"function '{name}': argument {position} must be {wanted.text}, got {actual}"
  | failed name failure => s!"function '{name}': {failure.text}"
  | strayReference => "expression references are only valid as function arguments"

end Caseflow.Query
