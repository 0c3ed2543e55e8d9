import Caseflow.Json.Basic

/-!
# Fields of an object

An association list kept in ascending order of keys. Reading takes the first pair with the key;
inserting replaces the pair with the key or puts a new one before the first greater key.
-/
namespace Caseflow

variable {α β : Type}

/-- Pairs in strictly ascending order of keys. -/
def KeysAscend (pairs : List (String × α)) : Prop := pairs.Pairwise (fun a b => a.1 < b.1)

namespace Assoc

def get? (key : String) : List (String × α) → Option α
  | [] => none
  | (k, v) :: rest => if k = key then some v else get? key rest

def insert (key : String) (value : α) : List (String × α) → List (String × α)
  | [] => [(key, value)]
  | (k, v) :: rest =>
    if k = key then (key, value) :: rest
    else if key < k then (key, value) :: (k, v) :: rest
    else (k, v) :: insert key value rest

def erase (key : String) : List (String × α) → List (String × α)
  | [] => []
  | (k, v) :: rest => if k = key then rest else (k, v) :: erase key rest

/-- Of pairs with the same key the last one stays. -/
def ofList (pairs : List (String × α)) : List (String × α) :=
  pairs.foldl (fun acc p => insert p.1 p.2 acc) []

/-- The pairs of the first list with those of the second put over them. -/
def extend (pairs more : List (String × α)) : List (String × α) :=
  more.foldl (fun acc p => insert p.1 p.2 acc) pairs

def contains (key : String) (pairs : List (String × α)) : Bool := (get? key pairs).isSome

@[simp] theorem get?_nil (key : String) : get? key ([] : List (String × α)) = none := rfl

theorem get?_insert (key other : String) (value : α) (pairs : List (String × α)) :
    get? other (insert key value pairs) = if key = other then some value else get? other pairs := by
  induction pairs with
  | nil => simp [insert, get?]
  | cons p rest ih =>
    obtain ⟨k, v⟩ := p
    by_cases hk : k = key
    · subst hk; simp only [insert, if_true, get?]; split <;> rfl
    · by_cases hlt : key < k
      · simp [insert, hk, hlt, get?]
      · simp only [insert, hk, hlt, if_false, get?, ih]
        by_cases ho : k = other
        · subst ho; simp [Ne.symm hk]
        · simp [ho]

theorem get?_insert_self (key : String) (value : α) (pairs : List (String × α)) :
    get? key (insert key value pairs) = some value := by simp [get?_insert]

theorem get?_insert_of_ne {key other : String} (h : key ≠ other) (value : α)
    (pairs : List (String × α)) : get? other (insert key value pairs) = get? other pairs := by
  simp [get?_insert, h]

theorem mem_keys_insert {key k : String} {value : α} {pairs : List (String × α)}
    (h : k ∈ (insert key value pairs).map Prod.fst) : k = key ∨ k ∈ pairs.map Prod.fst := by
  induction pairs with
  | nil => simpa [insert] using h
  | cons p rest ih =>
    obtain ⟨l, v⟩ := p
    simp only [insert] at h
    split at h
    · subst_vars; simpa using h
    · split at h
      · simp only [List.map_cons, List.mem_cons] at h ⊢; omega
      · simp only [List.map_cons, List.mem_cons] at h ⊢
        rcases h with h | h
        · exact .inr (.inl h)
        · rcases ih h with h | h
          · exact .inl h
          · exact .inr (.inr h)

end Assoc

theorem KeysAscend.insert {key : String} {value : α} {pairs : List (String × α)}
    (h : KeysAscend pairs) : KeysAscend (Assoc.insert key value pairs) := by
  induction pairs with
  | nil => simp [Assoc.insert, KeysAscend]
  | cons p rest ih =>
    obtain ⟨k, v⟩ := p
    obtain ⟨hhead, htail⟩ := List.pairwise_cons.1 h
    simp only [Assoc.insert]
    split
    · subst_vars; exact List.pairwise_cons.2 ⟨hhead, htail⟩
    · split
      · rename_i hlt
        refine List.pairwise_cons.2 ⟨?_, h⟩
        intro q hq
        rcases List.mem_cons.1 hq with rfl | hq
        · exact hlt
        · exact String.lt_trans hlt (hhead q hq)
      · rename_i hne hnlt
        refine List.pairwise_cons.2 ⟨?_, ih htail⟩
        intro q hq
        rcases Assoc.mem_keys_insert (List.mem_map_of_mem hq) with heq | hmem
        · rw [heq]
          exact Std.lt_of_le_of_ne (Std.not_lt.1 hnlt) hne
        · obtain ⟨r, hr, hrk⟩ := List.mem_map.1 hmem
          rw [← hrk]
          exact hhead r hr

theorem Assoc.get?_eq_some_iff_mem {key : String} {value : α} {pairs : List (String × α)}
    (h : KeysAscend pairs) : get? key pairs = some value ↔ (key, value) ∈ pairs := by
  induction pairs with
  | nil => simp [get?]
  | cons p rest ih =>
    obtain ⟨k, v⟩ := p
    obtain ⟨hhead, htail⟩ := List.pairwise_cons.1 h
    unfold get?
    by_cases hk : k = key
    · subst hk
      rw [if_pos rfl]
      constructor
      · rintro ⟨⟩
        exact List.mem_cons_self
      · intro hmem
        obtain heq | hrest := List.mem_cons.1 hmem
        · cases heq
          rfl
        · exact absurd (hhead _ hrest) Std.lt_irrefl
    · rw [if_neg hk, ih htail, List.mem_cons]
      constructor
      · exact .inr
      · rintro (heq | hrest)
        · cases heq
          exact absurd rfl hk
        · exact hrest

theorem keysAscend_nil : KeysAscend ([] : List (String × α)) := List.Pairwise.nil

namespace Json

def field? (key : String) : Json → Option Json
  | obj fields => Assoc.get? key fields
  | _ => none

/-- The field of an object, `null` when there is none. -/
def field (key : String) (v : Json) : Json := (v.field? key).getD null

def mkObj (pairs : List (String × Json)) : Json := obj (Assoc.ofList pairs)

end Json
end Caseflow
