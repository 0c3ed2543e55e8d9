import Caseflow.Json.Pointer
import Caseflow.Proofs.Json.Ordered

/-!
# Values and their parts

The parts of a value are its items or the values of its fields. What holds of a value whenever it
holds of its parts holds of all values; what its parts have whenever it has it, everything a pointer
leads to has.
-/
namespace Caseflow.Json

variable {v w : Json}

/-- A value without parts. -/
def IsLeaf (v : Json) : Prop := (∀ fields, v ≠ .obj fields) ∧ ∀ items, v ≠ .arr items

@[elab_as_elim]
theorem parts_induction {motive : Json → Prop} (leaf : ∀ v : Json, v.IsLeaf → motive v)
    (arr : ∀ items, (∀ v ∈ items, motive v) → motive (.arr items))
    (obj : ∀ fields, (∀ p ∈ fields, motive p.2) → motive (.obj fields)) (v : Json) :
    motive v := by
  match v with
  | .obj fields => exact obj fields fun p hp => parts_induction leaf arr obj p.2
  | .arr items => exact arr items fun v hv => parts_induction leaf arr obj v
  | .null | .bool _ | .num _ | .str _ => exact leaf _ ⟨nofun, nofun⟩
termination_by sizeOf v
decreasing_by
  · have hlt := List.sizeOf_lt_of_mem hp
    have hvalue : sizeOf p.2 < sizeOf p := by
      cases p
      simp only [Prod.mk.sizeOf_spec]
      omega
    simp only [Json.obj.sizeOf_spec]
    omega
  · have hlt := List.sizeOf_lt_of_mem hv
    simp only [Json.arr.sizeOf_spec]
    omega

/-- What the parts of a value have if the value has it. -/
structure Hereditary (P : Json → Prop) : Prop where
  field : ∀ fields, P (.obj fields) → ∀ p ∈ fields, P p.2
  item : ∀ items, P (.arr items) → ∀ v ∈ items, P v

theorem hereditary_ordered : Hereditary fun v => v.ordered = true where
  field _ h := (ordered_obj_iff.1 h).2
  item _ h := ordered_arr_iff.1 h

theorem Hereditary.follow {P : Json → Prop} (h : Hereditary P) {steps : List String} (hv : P v)
    (hfollow : Pointer.follow? v steps = some w) : P w := by
  induction steps generalizing v with
  | nil =>
    cases hfollow
    exact hv
  | cons step steps ih =>
    obtain ⟨child, hchild, hfollow⟩ := Option.bind_eq_some_iff.1 hfollow
    refine ih ?_ hfollow
    cases v with
    | obj fields => exact h.field fields hv _ (Assoc.mem_of_get? hchild)
    | arr items =>
      obtain ⟨position, -, hitem⟩ := Option.bind_eq_some_iff.1 hchild
      exact h.item items hv _ (List.mem_of_getElem? hitem)
    | null | bool _ | num _ | str _ => cases hchild

theorem Hereditary.pointer {P : Json → Prop} (h : Hereditary P) {pointer : String} (hv : P v)
    (hget : Pointer.get? pointer v = some w) : P w := by
  obtain ⟨steps, -, hfollow⟩ := Option.bind_eq_some_iff.1 hget
  exact h.follow hv hfollow

end Caseflow.Json
