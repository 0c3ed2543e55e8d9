import Mathlib.Logic.Function.Basic
import Caseflow.Proofs.Json.Ordered
import Caseflow.Proofs.Json.Text

/-!
# Canonical texts

The canonical text of a document has the fields of every object in ascending order of keys, and it
tells the document. Documents hold their fields in that order already, so their compact text is the
canonical one: putting the fields in order first changes nothing.
-/
namespace Caseflow

theorem Assoc.ofList_of_keysAscend {α : Type} {pairs : List (String × α)} (h : KeysAscend pairs) :
    ofList pairs = pairs := by
  have hentries : (Dict.ofList pairs).entries = ofList pairs :=
    (List.foldl_hom Dict.entries fun _ _ => rfl).symm
  rw [← hentries, Dict.entries_ofList h]

namespace Json

mutual

/-- The document with the fields of every object put in ascending order of keys. -/
def sortKeys : Json → Json
  | arr items => arr (sortKeysOfItems items)
  | obj fields => mkObj (sortKeysOfFields fields)
  | v => v

def sortKeysOfItems : List Json → List Json
  | [] => []
  | v :: vs => sortKeys v :: sortKeysOfItems vs

def sortKeysOfFields : List (String × Json) → List (String × Json)
  | [] => []
  | (k, v) :: rest => (k, sortKeys v) :: sortKeysOfFields rest

end

mutual

theorem sortKeys_eq_self (v : Json) (h : v.ordered = true) : v.sortKeys = v := by
  match v with
  | arr items => rw [sortKeys, sortKeysOfItems_eq_self items (ordered_arr_iff.1 h)]
  | obj fields =>
    obtain ⟨hascend, hfields⟩ := ordered_obj_iff.1 h
    rw [sortKeys, sortKeysOfFields_eq_self fields hfields, mkObj,
      Assoc.ofList_of_keysAscend hascend]
  | null | bool _ | num _ | str _ => rfl

theorem sortKeysOfItems_eq_self (items : List Json) (h : ∀ v ∈ items, v.ordered = true) :
    sortKeysOfItems items = items := by
  match items with
  | [] => rfl
  | v :: vs =>
    obtain ⟨hv, hvs⟩ := List.forall_mem_cons.1 h
    rw [sortKeysOfItems, sortKeys_eq_self v hv, sortKeysOfItems_eq_self vs hvs]

theorem sortKeysOfFields_eq_self (fields : List (String × Json))
    (h : ∀ p ∈ fields, p.2.ordered = true) : sortKeysOfFields fields = fields := by
  match fields with
  | [] => rfl
  | (k, v) :: rest =>
    obtain ⟨hv, hrest⟩ := List.forall_mem_cons.1 h
    rw [sortKeysOfFields, sortKeys_eq_self v hv, sortKeysOfFields_eq_self rest hrest]

end

/-- Different documents have different canonical texts, at any depth and whatever their strings
hold, and the canonical text of a document is the text with the keys of all objects sorted. -/
theorem canonicalText_injective :
    Function.Injective canonicalText ∧
      ∀ v : Json, v.ordered = true → v.sortKeys.canonicalText = v.canonicalText := by
  constructor
  · intro v w h
    exact eq_of_canonicalText h
  · intro v h
    rw [sortKeys_eq_self v h]

example : (obj [("b", ofNat 1), ("a", obj [("d", arr [bool true, null]), ("c", str "x")])]
    ).sortKeys.canonicalText = "\x7b\"a\":\x7b\"c\":\"x\",\"d\":[true,null]\x7d,\"b\":1\x7d" := by
  decide

end Json
end Caseflow
