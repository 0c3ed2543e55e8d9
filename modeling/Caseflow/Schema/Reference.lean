import Caseflow.Dict
import Caseflow.Json.Pointer

/-!
# References between schemas

A schema may refer to a part of its own document or of another one. Resolving a schema puts the
target in place of every reference; fields beside a reference hold as well, so both become members
of `allOf`. What cannot be found, and what is nested too deeply, becomes the empty schema.
-/
namespace Caseflow.Schema

def maxReferenceDepth : Nat := 32

def anything : Json := .obj []

def splitReference (reference : String) : String × String :=
  match Text.breakAt ['#'] reference.toList with
  | some (uri, fragment) => (String.ofList uri, String.ofList fragment)
  | none => (reference, "")

def reference? (fields : Fields) : Option String := (Assoc.get? "$ref" fields).bind Json.asString?

/-- What stands in place of an object: the target of its reference together with its other fields,
or without a reference the object itself. -/
def substitute (lookup : String → Json) (fields inlined : Fields) : Json :=
  match reference? fields, fields with
  | some reference, [_] => lookup reference
  | some reference, _ =>
    .obj [("allOf", .arr [lookup reference, .obj (Assoc.erase "$ref" inlined)])]
  | none, _ => .obj inlined

mutual

/-- Replace every reference in a schema by what `lookup` finds for it. -/
def inline (lookup : String → Json) : Json → Json
  | .obj fields => substitute lookup fields (inlineFields lookup fields)
  | .arr items => .arr (inlineItems lookup items)
  | v => v

def inlineFields (lookup : String → Json) : List (String × Json) → List (String × Json)
  | [] => []
  | (k, v) :: rest => (k, inline lookup v) :: inlineFields lookup rest

def inlineItems (lookup : String → Json) : List Json → List Json
  | [] => []
  | v :: vs => inline lookup v :: inlineItems lookup vs

end

/-- The target of a reference made in the document `base`, with the document it lies in. -/
def target? (resources : Dict Json) (base : Json) (reference : String) : Option (Json × Json) :=
  let (uri, fragment) := splitReference reference
  let document := if uri = "" then some base else resources.get? uri
  document.bind fun doc =>
    if fragment = "" then some (doc, doc) else (Json.Pointer.get? fragment doc).map (doc, ·)

/-- The resolved target of a reference, with so many levels of references left. -/
def lookup (resources : Dict Json) : Nat → Json → String → Json
  | 0, _, _ => anything
  | levels + 1, base, reference =>
    match target? resources base reference with
    | some (doc, target) => inline (lookup resources levels doc) target
    | none => anything

mutual

/-- Add the documents that references anywhere in a value name to those found so far, each once. -/
def remoteUris (found : List String) : Json → List String
  | .obj fields =>
    let uri := ((reference? fields).map fun r => (splitReference r).1).getD ""
    let found := if uri = "" || found.contains uri then found else found ++ [uri]
    remoteUrisOfFields found fields
  | .arr items => remoteUrisOfItems found items
  | _ => found

def remoteUrisOfFields (found : List String) : List (String × Json) → List String
  | [] => found
  | (_, v) :: rest => remoteUrisOfFields (remoteUris found v) rest

def remoteUrisOfItems (found : List String) : List Json → List String
  | [] => found
  | v :: vs => remoteUrisOfItems (remoteUris found v) vs

end

end Caseflow.Schema
