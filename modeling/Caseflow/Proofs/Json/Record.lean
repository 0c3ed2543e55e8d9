import Caseflow.Json.Record
import Caseflow.Proofs.Json.Fields

/-!
# Written records

A field that is written only sometimes can be told from the fields that follow it, which have other
names. What is written is read back, except that a value that may be missing is not read as `null`.
-/
namespace Caseflow.Json

variable {α : Type} {name k l : String} {x y : Json} {fs gs : Fields}

theorem optionalField_append_inj {encode : α → Json}
    (hencode : ∀ a b, encode a = encode b → a = b) {a b : Option α} (hk : k ≠ name)
    (hl : l ≠ name)
    (h : optionalField name encode a ++ (k, x) :: fs =
      optionalField name encode b ++ (l, y) :: gs) :
    a = b ∧ (k, x) :: fs = (l, y) :: gs := by
  cases a with
  | none =>
    cases b with
    | none => exact ⟨rfl, h⟩
    | some b => exact absurd (congrArg Prod.fst (List.cons.inj h).1) hk
  | some a =>
    cases b with
    | none => exact absurd (congrArg Prod.fst (List.cons.inj h).1).symm hl
    | some b =>
      obtain ⟨hpair, hrest⟩ := List.cons.inj h
      exact ⟨congrArg some (hencode a b (congrArg Prod.snd hpair)), hrest⟩

theorem fieldIf_append_inj {p q : Bool} {v w : Json} (hk : k ≠ name) (hl : l ≠ name)
    (h : fieldIf p name v ++ (k, x) :: fs = fieldIf q name w ++ (l, y) :: gs) :
    p = q ∧ (p = true → v = w) ∧ (k, x) :: fs = (l, y) :: gs := by
  cases p with
  | false =>
    cases q with
    | false => exact ⟨rfl, fun hp => absurd hp Bool.false_ne_true, h⟩
    | true => exact absurd (congrArg Prod.fst (List.cons.inj h).1) hk
  | true =>
    cases q with
    | false => exact absurd (congrArg Prod.fst (List.cons.inj h).1).symm hl
    | true =>
      obtain ⟨hpair, hrest⟩ := List.cons.inj h
      exact ⟨rfl, fun _ => congrArg Prod.snd hpair, hrest⟩

theorem ofStrings_injective {ss ts : List String} (h : ofStrings ss = ofStrings ts) : ss = ts := by
  have hstr : Function.Injective str := fun _ _ => str.inj
  exact (List.map_inj_right hstr).1 (arr.inj h)

section Reading

variable {β : Type} {decode : Json → Option β} {encode : α → Json} {f : α → β}

theorem listOf?_map {xs : List α} (h : ∀ x ∈ xs, decode (encode x) = some (f x)) :
    listOf? decode (.arr (xs.map encode)) = some (xs.map f) := by
  change decodeItems? decode (xs.map encode) = some (xs.map f)
  induction xs with
  | nil => rfl
  | cons x rest ih =>
    obtain ⟨hx, hrest⟩ := List.forall_mem_cons.1 h
    rw [List.map_cons, decodeItems?, hx, ih hrest]
    rfl

theorem dictOf?_ofDict {d : Dict α} (h : ∀ p ∈ d.entries, decode (encode p.2) = some (f p.2)) :
    dictOf? decode (ofDict encode d) = some (d.map f) := by
  have step (entries : List (String × α))
      (h : ∀ p ∈ entries, decode (encode p.2) = some (f p.2)) :
      decodeEntries? decode (entries.map fun p => (p.1, encode p.2)) =
        some (entries.map fun p => (p.1, f p.2)) := by
    induction entries with
    | nil => rfl
    | cons p rest ih =>
      obtain ⟨hp, hrest⟩ := List.forall_mem_cons.1 h
      rw [List.map_cons, decodeEntries?, hp, ih hrest]
      rfl
  have hentries : decodeEntries? decode (d.entries.map fun p => (p.1, encode p.2)) =
      some (d.map f).entries := step d.entries h
  rw [dictOf?, ofDict, asObject?, Option.bind_some, hentries, Option.map_some, Dict.ofList_entries]

theorem listOf?_map_self {xs : List β} {encode : β → Json}
    (h : ∀ x ∈ xs, decode (encode x) = some x) :
    listOf? decode (.arr (xs.map encode)) = some xs := by
  rw [listOf?_map (f := id) h, List.map_id]

theorem dictOf?_ofDict_self {d : Dict β} {encode : β → Json}
    (h : ∀ p ∈ d.entries, decode (encode p.2) = some p.2) :
    dictOf? decode (ofDict encode d) = some d := by
  rw [dictOf?_ofDict (f := id) h, Dict.map_eq_self_iff.2 fun _ _ => rfl]

theorem strings?_ofStrings (ss : List String) : strings? (ofStrings ss) = some ss :=
  listOf?_map_self fun _ _ => rfl

theorem dictOf?_ofDict_id (d : Dict Json) : dictOf? some (ofDict id d) = some d :=
  dictOf?_ofDict_self fun _ _ => rfl

theorem ofDict_id (d : Dict Json) : ofDict id d = .obj d.entries :=
  congrArg obj (List.map_id' d.entries)

theorem dictOf?_entries (d : Dict Json) : dictOf? some (.obj d.entries) = some d := by
  rw [← ofDict_id, dictOf?_ofDict_id]

theorem required?_text {v : Json} {text : String} (h : v.field? name = some (.str text)) :
    required? asString? name v = some text := by
  rw [required?, h]
  rfl

theorem filter_isNull_eq_self_iff {x : Option Json} :
    x.filter (!·.isNull) = x ↔ x ≠ some .null := by
  cases x with
  | none => simp
  | some v => cases v <;> simp [isNull]

theorem optional?_value {v : Json} {x : Option Json} (h : v.field? name = x) :
    optional? some name v = some (x.filter (!·.isNull)) := by
  rw [optional?, h]
  cases x with
  | none => rfl
  | some w => cases w <;> rfl

end Reading
end Caseflow.Json
