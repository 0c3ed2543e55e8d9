import Caseflow.Text.Blank
import Caseflow.Text.Split

/-!
# Pieces of a template

A template is text with tags in double or triple braces. Cutting it into pieces never fails: a tag
that is not closed is a last piece of its own, so that errors before it are met first.
-/
namespace Caseflow.Template

inductive Tag
  | comment
  | open (name : String) (inverted : Bool)
  | close (name : String)
  | include (name : String)
  | variable (name : String)
  | delimiters
deriving DecidableEq, Repr

inductive Piece
  | text (s : String)
  | tag (t : Tag)
  | unclosed
  | unclosedTriple
deriving DecidableEq, Repr

/-- The tag with the given characters between its braces: a sigil says what kind it is, blanks
around the content and around the name do not matter. -/
def Tag.ofContent (content : List Char) : Tag :=
  match Text.trimChars content with
  | '!' :: _ => .comment
  | '=' :: _ => .delimiters
  | '#' :: name => .open (String.ofList (Text.trimChars name)) false
  | '^' :: name => .open (String.ofList (Text.trimChars name)) true
  | '/' :: name => .close (String.ofList (Text.trimChars name))
  | '>' :: name => .include (String.ofList (Text.trimChars name))
  | '&' :: name => .variable (String.ofList (Text.trimChars name))
  | name => .variable (String.ofList name)

/-- A piece with the characters that it is written with. -/
structure Span where
  chars : List Char
  piece : Piece
deriving DecidableEq

def textSpans : List Char → List Span
  | [] => []
  | cs => [⟨cs, .text (String.ofList cs)⟩]

/-- The tag whose double brace stands before the given characters, and what follows the tag unless
it is not closed. -/
def tagSpan : List Char → Span × Option (List Char)
  | '\x7b' :: inner =>
    match Text.breakAt ['\x7d', '\x7d', '\x7d'] inner with
    | some (name, rest) =>
      (⟨['\x7b', '\x7b', '\x7b'] ++ (name ++ ['\x7d', '\x7d', '\x7d']),
        .tag (.ofContent ('&' :: name))⟩, some rest)
    | none => (⟨['\x7b', '\x7b', '\x7b'] ++ inner, .unclosedTriple⟩, none)
  | after =>
    match Text.breakAt ['\x7d', '\x7d'] after with
    | some (content, rest) =>
      (⟨['\x7b', '\x7b'] ++ (content ++ ['\x7d', '\x7d']), .tag (.ofContent content)⟩, some rest)
    | none => (⟨['\x7b', '\x7b'] ++ after, .unclosed⟩, none)

/-- Cut a text at its first tag, and what follows that tag by `further`. -/
def cutWith (further : List Char → List Span) (cs : List Char) : List Span :=
  match Text.breakAt ['\x7b', '\x7b'] cs with
  | none => textSpans cs
  | some (before, after) =>
    textSpans before ++
      match tagSpan after with
      | (span, some rest) => span :: further rest
      | (span, none) => [span]

/-- Cut a text into pieces; the fuel bounds the tags. -/
def spansOf : Nat → List Char → List Span
  | 0, _ => []
  | fuel + 1, cs => cutWith (spansOf fuel) cs

def cut (cs : List Char) : List Span := spansOf (cs.length + 1) cs

def spans (template : String) : List Span := cut template.toList

def pieces (template : String) : List Piece := (spans template).map (·.piece)

end Caseflow.Template
