import Caseflow.Template.Node
import Caseflow.Json.Fields
import Caseflow.Json.Text

/-!
# Rendering templates

Names are looked up in a stack of frames, innermost first: the view at the bottom, and above it the
values of the sections around. Included templates are parsed where they stand, to a limited depth.
-/
namespace Caseflow.Template

def maxIncludeDepth : Nat := 32

/-- Values for which a section is left out; `0` and the empty object are not among them. -/
def isFalsy : Json → Bool
  | .null | .bool false => true
  | .str s => s == ""
  | .arr items => items.isEmpty
  | _ => false

def follow : Json → List String → Json
  | v, [] => v
  | v, name :: names =>
    match v.field? name with
    | some next => follow next names
    | none => .null

/-- The value of a name: a dot is the innermost frame, the first part of a dotted name is taken from
the innermost frame that has it, and the others lead on from there. -/
def lookup (stack : List Json) (name : String) : Json :=
  if name = "." then stack.head?.getD .null
  else
    match Text.split '.' name with
    | [] => .null
    | first :: names =>
      match stack.findSome? (·.field? first) with
      | some v => follow v names
      | none => .null

def shown : Json → String
  | .null => ""
  | .str s => s
  | v => v.text

def sectionFrames (inverted : Bool) (v : Json) (stack : List Json) : List (List Json) :=
  if inverted then if isFalsy v then [stack] else []
  else
    match v with
    | .arr items => items.map (· :: stack)
    | v => if isFalsy v then [] else [v :: stack]

def joined (f : List Json → Except Error String) : List (List Json) → Except Error String
  | [] => .ok ""
  | s :: ss => do return (← f s) ++ (← joined f ss)

section

-- `included` renders a template by name with a stack
variable (included : String → List Json → Except Error String)

mutual

def renderNode : Node → List Json → Except Error String
  | .text s, _ => .ok s
  | .variable name, stack => .ok (shown (lookup stack name))
  | .section name inverted children, stack =>
    joined (renderNodes children) (sectionFrames inverted (lookup stack name) stack)
  | .include name, stack => included name stack

def renderNodes : List Node → List Json → Except Error String
  | [], _ => .ok ""
  | n :: ns, stack => do return (← renderNode n stack) ++ (← renderNodes ns stack)

end

end

/-- Render an included template with so many levels of inclusion left; a name without a text stands
for nothing. -/
def renderIncluded (partials : Fields) : Nat → String → List Json → Except Error String
  | levels, name, stack =>
    match Assoc.get? name partials, levels with
    | some (.str _), 0 => .error (.tooDeep name)
    | some (.str source), levels + 1 => do
      renderNodes (renderIncluded partials levels) (← parse source) stack
    | _, _ => .ok ""

def render (template : String) (view : Json) (partials : Fields) : Except Error String := do
  renderNodes (renderIncluded partials maxIncludeDepth) (← parse template) [view]

end Caseflow.Template
