import Caseflow.Regex.Pattern
import Caseflow.Text.Category
import Caseflow.Text.Property
import Caseflow.Text.Script

/-!
# Classes of characters by property

A class may be named by a general category, a script or another property of its members. In names,
case, blanks, hyphens and underscores do not count, nor does a leading `is`.
-/
namespace Caseflow.Regex

def plainName (name : List Char) : String :=
  let rest :=
    match name with
    | a :: b :: rest => if a.toLower = 'i' ∧ b.toLower = 's' then rest else name
    | _ => name
  let bare := (rest.filter fun c => !(c == ' ' || c == '_' || c == '-')).map Char.toLower
  let isPrefixed := bare == ['c'] && rest.length < name.length
  if isPrefixed then "isc" else String.ofList bare

def named? {α : Type} (name : String) (table : List (List String × α)) : Option α :=
  (table.find? fun e => e.1.contains name).map (·.2)

/-- The characters with a category of their own. -/
def assigned : CharSet :=
  .ranges (Text.categories.flatMap fun e => Text.rangesOf e.2)

def categoryMembers? (name : String) : Option CharSet :=
  if name = "cn" ∨ name = "unassigned" then some (.complement assigned)
  else (named? name Text.categories).map fun texts => .ranges (Text.rangesOf texts)

def category? (name : String) : Option CharSet :=
  match name with
  | "any" => some (.ranges [(0, 0x10FFFF)])
  | "ascii" => some (.ranges [(0, 0x7F)])
  | "assigned" => some assigned
  | name =>
    match named? name Text.categoryGroups with
    | some names =>
      some (names.foldl (fun s n => .union s ((categoryMembers? n).getD .empty)) .empty)
    | none => categoryMembers? name

def script? (name : String) : Option CharSet :=
  (named? name Text.scripts).map fun texts => .ranges (Text.rangesOf texts)

/-- The members of the categories that a property takes whole, and its other members. -/
def property? (name : String) : Option CharSet :=
  (named? name Text.properties).map fun e =>
    e.1.foldl (fun s n => .union s ((category? n).getD .empty)) (.ranges (Text.rangesOf e.2))

/-- The class of a name; with an equals sign or a colon, of a category or a script. -/
def namedSet? (name : List Char) : Option CharSet :=
  let isMark (c : Char) := c == '=' || c == ':'
  match name.dropWhile (!isMark ·) with
  | [] =>
    let name := plainName name
    ((property? name).or (category? name)).or (script? name)
  | _ :: value =>
    let value := plainName value
    match plainName (name.takeWhile (!isMark ·)) with
    | "gc" | "generalcategory" => category? value
    | "sc" | "script" => script? value
    | _ => none

/-- The class of what stands in braces; an exclamation mark before the equals sign asks for all
other characters. -/
def classOfName? (name : List Char) : Option CharSet :=
  match Text.breakAt ['!', '='] name with
  | some (property, value) => (namedSet? (property ++ '=' :: value)).map .complement
  | none => namedSet? name

end Caseflow.Regex
