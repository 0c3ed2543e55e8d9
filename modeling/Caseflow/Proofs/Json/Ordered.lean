import Caseflow.Proofs.Json.Fields
import Caseflow.Json.Reading

/-!
# Documents with ordered fields

The fields of every object in a document that is read from a text are in ascending order of keys.
-/
namespace Caseflow

variable {α : Type}

instance (pairs : List (String × α)) : Decidable (KeysAscend pairs) :=
  inferInstanceAs (Decidable (pairs.Pairwise fun a b => a.1 < b.1))

namespace Json

variable {v : Json} {items : List Json} {fields : Fields}

mutual

/-- Whether all objects in a document have their fields in ascending order of keys. -/
def ordered : Json → Bool
  | arr items => orderedItems items
  | obj fields => decide (KeysAscend fields) && orderedFields fields
  | _ => true

def orderedItems : List Json → Bool
  | [] => true
  | v :: vs => ordered v && orderedItems vs

def orderedFields : List (String × Json) → Bool
  | [] => true
  | (_, v) :: rest => ordered v && orderedFields rest

end

theorem orderedItems_iff : orderedItems items = true ↔ ∀ v ∈ items, v.ordered = true := by
  induction items with
  | nil => simp [orderedItems]
  | cons v rest ih => simp [orderedItems, ih]

theorem orderedFields_iff : orderedFields fields = true ↔ ∀ p ∈ fields, p.2.ordered = true := by
  induction fields with
  | nil => simp [orderedFields]
  | cons p rest ih => simp [orderedFields, ih]

theorem ordered_arr_iff : (arr items).ordered = true ↔ ∀ v ∈ items, v.ordered = true := by
  rw [ordered, orderedItems_iff]

theorem ordered_obj_iff :
    (obj fields).ordered = true ↔ KeysAscend fields ∧ ∀ p ∈ fields, p.2.ordered = true := by
  rw [ordered, Bool.and_eq_true, decide_eq_true_iff, orderedFields_iff]

theorem ordered_insert {key : String} {fields : Fields} (hv : v.ordered = true)
    (h : (obj fields).ordered = true) : (obj (Assoc.insert key v fields)).ordered = true := by
  rw [ordered_obj_iff] at h ⊢
  refine ⟨h.1.insert, ?_⟩
  intro p hp
  rw [← Assoc.get?_eq_some_iff_mem h.1.insert, Assoc.get?_insert] at hp
  split at hp
  · cases hp
    exact hv
  · exact h.2 p (Assoc.mem_of_get? hp)

theorem ordered_of_readNumber? {negative : Bool} {cs rest : List Char}
    (h : readNumber? negative cs = some (v, rest)) : v.ordered = true := by
  obtain ⟨_, -, h⟩ := Option.bind_eq_some_iff.1 h
  obtain ⟨_, -, h⟩ := Option.bind_eq_some_iff.1 h
  obtain ⟨_, -, h⟩ := Option.bind_eq_some_iff.1 h
  obtain ⟨_, -, h⟩ := Option.bind_eq_some_iff.1 h
  cases h
  rfl

/-- What the readers find with some fuel is ordered, if what they have found before is. -/
structure ReadsOrdered (fuel : Nat) : Prop where
  value : ∀ {depth cs v rest}, readValue? fuel depth cs = some (v, rest) → v.ordered = true
  items : ∀ {depth found cs v rest}, (∀ w ∈ found, w.ordered = true) →
    readItems? fuel depth found cs = some (v, rest) → v.ordered = true
  fields : ∀ {depth found cs v rest}, (obj found).ordered = true →
    readFields? fuel depth found cs = some (v, rest) → v.ordered = true

namespace ReadsOrdered

variable {fuel depth : Nat} {found : Fields} {cs rest : List Char}

theorem value_succ (ih : ReadsOrdered fuel) (h : readValue? (fuel + 1) depth cs = some (v, rest)) :
    v.ordered = true := by
  unfold readValue? at h
  split at h
  · cases h
    rfl
  · cases h
    rfl
  · cases h
    rfl
  · split at h
    · cases h
      rfl
    · cases h
  · exact ordered_of_readNumber? h
  · split at h
    · cases h
    · split at h
      · cases h
        rfl
      · exact ih.items (List.forall_mem_nil _) h
  · split at h
    · cases h
    · split at h
      · cases h
        rfl
      · exact ih.fields rfl h
  · split at h
    · exact ordered_of_readNumber? h
    · cases h
  · cases h

theorem items_succ (ih : ReadsOrdered fuel) (hitems : ∀ w ∈ items, w.ordered = true)
    (h : readItems? (fuel + 1) depth items cs = some (v, rest)) : v.ordered = true := by
  unfold readItems? at h
  split at h
  · cases h
  · rename_i w more hw
    have hall : ∀ u ∈ w :: items, u.ordered = true := List.forall_mem_cons.2 ⟨ih.value hw, hitems⟩
    split at h
    · exact ih.items hall h
    · cases h
      exact ordered_arr_iff.2 fun u hu => hall u (List.mem_reverse.1 hu)
    · cases h

theorem fields_succ (ih : ReadsOrdered fuel) (hfound : (obj found).ordered = true)
    (h : readFields? (fuel + 1) depth found cs = some (v, rest)) : v.ordered = true := by
  unfold readFields? at h
  split at h
  · cases h
  · split at h
    · split at h
      · cases h
      · rename_i w more hw
        have hordered := ih.value hw
        split at h
        · exact ih.fields (ordered_insert hordered hfound) h
        · cases h
          exact ordered_insert hordered hfound
        · cases h
    · cases h

end ReadsOrdered

theorem readsOrdered (fuel : Nat) : ReadsOrdered fuel := by
  induction fuel with
  | zero =>
    refine ⟨?_, ?_, ?_⟩
    · intro _ _ _ _ h
      cases h
    · intro _ _ _ _ _ _ h
      cases h
    · intro _ _ _ _ _ _ h
      cases h
  | succ fuel ih => exact ⟨ih.value_succ, ih.items_succ, ih.fields_succ⟩

/-- A document that is read from a text is ordered. -/
theorem ordered_of_parse? {text : String} (h : parse? text = some v) : v.ordered = true := by
  unfold parse? at h
  simp only at h
  split at h
  · rename_i hread
    split at h
    · cases h
      exact (readsOrdered _).value hread
    · cases h
  · cases h

end Json
end Caseflow
