import Caseflow.Json.Basic
import Caseflow.Text.Quoted

/-!
# Tokens of the query language

The tokens, how tightly each binds an operand on its left, and their names in messages.
-/
namespace Caseflow.Query

inductive Comparator
  | eq
  | ne
  | lt
  | lte
  | gt
  | gte
deriving DecidableEq, Repr

inductive Token
  | dot
  | star
  | flatten
  | filter
  | lbracket
  | rbracket
  | lbrace
  | rbrace
  | lparen
  | rparen
  | comma
  | colon
  | current
  | ampersand
  | or
  | pipe
  | and
  | not
  | comparison (op : Comparator)
  | number (n : Int)
  | identifier (name : String)
  | quotedIdentifier (name : String)
  | rawString (s : String)
  | literal (v : Json)
deriving DecidableEq

structure Located where
  offset : Nat
  token : Token
deriving DecidableEq

namespace Token

/-- Left binding power: an operator with a greater one takes its operand first; 0 ends an
expression. -/
def power : Token → Nat
  | pipe => 1
  | or => 2
  | and => 3
  | comparison _ => 5
  | flatten => 9
  | star => 20
  | filter => 21
  | dot => 40
  | not => 45
  | lbrace => 50
  | lbracket => 55
  | lparen => 60
  | _ => 0

end Token

def Comparator.name : Comparator → String
  | eq => "Eq"
  | ne => "Ne"
  | lt => "Lt"
  | lte => "Lte"
  | gt => "Gt"
  | gte => "Gte"

mutual

def describeValue : Json → String
  | .null => "Null"
  | .bool true => "Bool(true)"
  | .bool false => "Bool(false)"
  | .num n => "Number(" ++ n.text ++ ")"
  | .str s => "String(" ++ Text.quoted s ++ ")"
  | .arr items => "Array [" ++ Text.listed (describeItems items) ++ "]"
  | .obj fields => "Object \x7b" ++ Text.listed (describeFields fields) ++ "\x7d"

def describeItems : List Json → List String
  | [] => []
  | v :: vs => describeValue v :: describeItems vs

def describeFields : List (String × Json) → List String
  | [] => []
  | (k, v) :: fs => (Text.quoted k ++ ": " ++ describeValue v) :: describeFields fs

end

namespace Token

def name : Token → String
  | dot => "Dot"
  | star => "Star"
  | flatten => "Flatten"
  | filter => "Filter"
  | lbracket => "LBracket"
  | rbracket => "RBracket"
  | lbrace => "LBrace"
  | rbrace => "RBrace"
  | lparen => "LParen"
  | rparen => "RParen"
  | comma => "Comma"
  | colon => "Colon"
  | current => "Current"
  | ampersand => "Ampersand"
  | or => "Or"
  | pipe => "Pipe"
  | and => "And"
  | not => "Not"
  | comparison op => op.name
  | number _ => "Number"
  | identifier _ => "Identifier"
  | quotedIdentifier _ => "QuotedIdentifier"
  | rawString _ => "RawString"
  | literal _ => "Literal"

def describe (t : Token) : String :=
  match t with
  | number n => t.name ++ "(" ++ (Number.int n).text ++ ")"
  | identifier s | quotedIdentifier s | rawString s => t.name ++ "(" ++ Text.quoted s ++ ")"
  | literal v => t.name ++ "(" ++ describeValue v ++ ")"
  | _ => t.name

end Token
end Caseflow.Query
