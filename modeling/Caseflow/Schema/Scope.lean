import Caseflow.Schema.Reference
import Caseflow.Schema.Validation

/-!
# The scope of a scenario's schemas

A scope is the document whose parts schemas may refer to, together with the other documents that
they name. It is loaded once: every document reachable by references is asked for once, and one that
cannot be had counts as the empty schema.
-/
namespace Caseflow.Schema

structure Scope where
  root : Json
  resources : Dict Json

namespace Scope

def alone (root : Json) : Scope := ⟨root, .empty⟩

def resolve (scope : Scope) (schema : Json) : Json :=
  inline (lookup scope.resources maxReferenceDepth scope.root) schema

def validate (scope : Scope) (validation : Validation) : Validation := fun schema =>
  validation (scope.resolve schema)

/-- Ask for the pending documents, last first, and for those that they name. Returns the documents
and the addresses asked for, in order. The fuel bounds the addresses taken from `pending`. -/
def load (serve : String → Option Json) :
    Nat → List String → Dict Json → List String → Dict Json × List String
  | 0, _, resources, asked => (resources, asked)
  | fuel + 1, pending, resources, asked =>
    match pending with
    | [] => (resources, asked)
    | uri :: pending =>
      if resources.contains uri then load serve fuel pending resources asked
      else
        let document := (serve uri).getD anything
        load serve fuel ((remoteUris [] document).reverse ++ pending)
          (resources.insert uri document) (asked ++ [uri])

/-- More than the addresses that can ever be pending: those of the root and of every document. -/
def loadFuel (root : Json) (documents : Dict Json) : Nat :=
  (remoteUris [] root).length +
    (documents.entries.flatMap fun p => remoteUris [] p.2).length + 1

/-- The scope of a root document over a set of documents, with the addresses asked for. -/
def compile (root : Json) (documents : Dict Json) : Scope × List String :=
  let (resources, asked) :=
    load documents.get? (loadFuel root documents) (remoteUris [] root).reverse .empty []
  (⟨root, resources⟩, asked)

end Scope
end Caseflow.Schema
