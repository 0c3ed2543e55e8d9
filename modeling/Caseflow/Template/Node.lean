import Caseflow.Template.Tag

/-!
# Template trees

The nodes a template is made of. Sections nest; everything a tag opens must be closed by a tag of
the same name.
-/
namespace Caseflow.Template

inductive Node
  | text (s : String)
  | variable (name : String)
  | section (name : String) (inverted : Bool) (children : List Node)
  | include (name : String)

inductive Error
  | unclosedTag
  | unclosedTriple
  | customDelimiters
  | unexpectedClosing (name : String)
  | crossedSections (opened closed : String)
  | emptyTag
  | unclosedSection (name : String)
  | tooDeep (name : String)
deriving DecidableEq, Repr

def Error.message : Error → String
  | unclosedTag => "unclosed '\x7b\x7b' tag"
  | unclosedTriple => "unclosed '\x7b\x7b\x7b' tag"
  | customDelimiters => "custom delimiters are not supported"
  | unexpectedClosing name => s!"unexpected closing tag '{name}'"
  | crossedSections opened closed => s!"section '{opened}' closed by '{closed}'"
  | emptyTag => "empty tag"
  | unclosedSection name => s!"unclosed section '{name}'"
  | tooDeep name => s!"partial '{name}' nested too deeply"

/-- A section that is still open: its name and kind, and the nodes before it, latest first. -/
structure OpenSection where
  name : String
  inverted : Bool
  before : List Node

/-- Build the tree of some pieces. `current` holds the nodes of the innermost open section, latest
first, and `opened` the sections around them, innermost first. -/
def build (opened : List OpenSection) (current : List Node) :
    List Piece → Except Error (List Node)
  | [] =>
    match opened with
    | [] => .ok current.reverse
    | s :: _ => .error (.unclosedSection s.name)
  | .text s :: rest => build opened (.text s :: current) rest
  | .unclosed :: _ => .error .unclosedTag
  | .unclosedTriple :: _ => .error .unclosedTriple
  | .tag .comment :: rest => build opened current rest
  | .tag .delimiters :: _ => .error .customDelimiters
  | .tag (.open name inverted) :: rest => build (⟨name, inverted, current⟩ :: opened) [] rest
  | .tag (.close name) :: rest =>
    match opened with
    | [] => .error (.unexpectedClosing name)
    | s :: opened =>
      if s.name = name then
        build opened (.section name s.inverted current.reverse :: s.before) rest
      else .error (.crossedSections s.name name)
  | .tag (.include name) :: rest => build opened (.include name :: current) rest
  | .tag (.variable name) :: rest =>
    if name = "" then .error .emptyTag else build opened (.variable name :: current) rest

def parse (template : String) : Except Error (List Node) := build [] [] (pieces template)

end Caseflow.Template
