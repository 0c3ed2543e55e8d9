import Caseflow.Scenario.Basic
import Caseflow.Json.Reading

/-!
# Names of actors

An actor is declared under its own name or under a template that ends in a star. A numbered actor
belongs to the template that has a star in place of its number.
-/
namespace Caseflow.Scenario

/-- The template of a numbered actor; none for names that end in no digit. -/
def templateName? (key : String) : Option String :=
  let stem := (key.toList.reverse.dropWhile Json.isDigit).reverse
  if stem.length < key.length then some (String.ofList (stem ++ ['*'])) else none

def matchesActor (pattern key : String) : Bool :=
  pattern == "*" || pattern == key ||
    (Text.endsWith "*" pattern && templateName? key == some pattern)

def serviceName? (entry : String) : Option String := Text.after? "service:" entry

/-- The schema of an actor: its own, or that of the first template that covers it. -/
def actorSchema? (s : Scenario) (key : String) : Option Json :=
  match s.actors.get? key with
  | some schema => some schema
  | none =>
    (s.actors.entries.find? fun p => Text.endsWith "*" p.1 && matchesActor p.1 key).map (·.2)

/-- The full key of an action named in a state: an action of the state comes before a shared one. -/
def actionKey (s : Scenario) (state action : String) : String :=
  if s.actions.contains (scopedKey state action) then scopedKey state action else action

/-- One closed object schema for all variables. -/
def varsSchema (s : Scenario) : Json :=
  .obj [("additionalProperties", .bool false), ("properties", .obj s.vars.entries),
    ("type", .str "object")]

end Caseflow.Scenario
