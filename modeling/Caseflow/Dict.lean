import Caseflow.Json.Fields

/-!
# Dictionaries

A dictionary holds its pairs in strictly ascending order of keys, so that equal dictionaries are
equal values and every walk over one goes in the order of the keys.
-/
namespace Caseflow

structure Dict (α : Type) where
  entries : List (String × α)
  ascend : KeysAscend entries

namespace Dict

variable {α β : Type}

theorem ext_entries {a b : Dict α} (h : a.entries = b.entries) : a = b := by
  cases a
  cases b
  simp_all

instance [DecidableEq α] : DecidableEq (Dict α) := fun a b =>
  decidable_of_iff (a.entries = b.entries) ⟨ext_entries, fun h => by rw [h]⟩

def empty : Dict α := ⟨[], keysAscend_nil⟩

instance : Inhabited (Dict α) := ⟨empty⟩

def get? (d : Dict α) (key : String) : Option α := Assoc.get? key d.entries

def contains (d : Dict α) (key : String) : Bool := (d.get? key).isSome

def insert (d : Dict α) (key : String) (value : α) : Dict α :=
  ⟨Assoc.insert key value d.entries, d.ascend.insert⟩

def isEmpty (d : Dict α) : Bool := d.entries.isEmpty

def keys (d : Dict α) : List String := d.entries.map (·.1)

/-- Pairs in any order; of equal keys the last one stays. -/
def ofList (pairs : List (String × α)) : Dict α :=
  pairs.foldl (fun d p => d.insert p.1 p.2) empty

/-- The dictionary in which the same is read as in pairs in any order; of equal keys the first one
stays. -/
def ofFields (pairs : List (String × α)) : Dict α :=
  pairs.foldr (fun p d => d.insert p.1 p.2) empty

theorem keysAscend_map {f : String → α → β} {pairs : List (String × α)} (h : KeysAscend pairs) :
    KeysAscend (pairs.map fun p => (p.1, f p.1 p.2)) := by
  unfold KeysAscend at *
  rw [List.pairwise_map]
  exact h

def mapWithKey (f : String → α → β) (d : Dict α) : Dict β :=
  ⟨d.entries.map fun p => (p.1, f p.1 p.2), keysAscend_map d.ascend⟩

def map (f : α → β) (d : Dict α) : Dict β := d.mapWithKey fun _ => f

def erase (d : Dict α) (key : String) : Dict α :=
  ⟨d.entries.filter (·.1 != key), d.ascend.filter _⟩

@[simp] theorem get?_insert (d : Dict α) (key other : String) (value : α) :
    (d.insert key value).get? other = if key = other then some value else d.get? other :=
  Assoc.get?_insert key other value d.entries

@[simp] theorem get?_empty (key : String) : (empty : Dict α).get? key = none := rfl

@[simp] theorem get?_ofFields (pairs : List (String × α)) (key : String) :
    (ofFields pairs).get? key = Assoc.get? key pairs := by
  induction pairs with
  | nil => rfl
  | cons p rest ih =>
    rw [ofFields, List.foldr_cons, get?_insert, ← ofFields, ih]
    rfl

theorem mem_entries_iff {d : Dict α} {key : String} {value : α} :
    (key, value) ∈ d.entries ↔ d.get? key = some value :=
  (Assoc.get?_eq_some_iff_mem d.ascend).symm

theorem contains_iff {d : Dict α} {key : String} :
    d.contains key = true ↔ ∃ value, d.get? key = some value := Option.isSome_iff_exists

theorem contains_insert_iff {d : Dict α} {key other : String} {value : α} :
    (d.insert key value).contains other = true ↔ key = other ∨ d.contains other = true := by
  unfold contains
  rw [get?_insert]
  split
  · simp_all
  · simp_all

theorem mem_of_get?_ofList {pairs : List (String × α)} {key : String} {value : α}
    (h : (ofList pairs).get? key = some value) : (key, value) ∈ pairs := by
  have step (pairs : List (String × α)) (d : Dict α)
      (h : (pairs.foldl (fun d p => d.insert p.1 p.2) d).get? key = some value) :
      (key, value) ∈ pairs ∨ d.get? key = some value := by
    induction pairs generalizing d with
    | nil => exact .inr h
    | cons p rest ih =>
      obtain hrest | hd := ih _ h
      · exact .inl (List.mem_cons_of_mem _ hrest)
      · rw [get?_insert] at hd
        split at hd
        · rename_i hkey
          cases hd
          cases hkey
          exact .inl List.mem_cons_self
        · exact .inr hd
  obtain hmem | hnone := step pairs empty h
  · exact hmem
  · cases hnone

end Dict
end Caseflow
