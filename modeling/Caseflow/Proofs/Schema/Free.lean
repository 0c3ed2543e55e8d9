import Caseflow.Proofs.Schema.Expansion

/-!
# Schemas free of references

Resolving leaves a schema without references as it is. From any other schema it takes every
reference, cycles included, and yet it may make one: where the value of a `$ref` is not a text but
an object with a reference of its own and nothing else, the object becomes what that reference
stands for, and that may be a text.
-/
namespace Caseflow.Schema

variable {v w base document target : Json} {fields inlined : Fields} {reference : String}
variable {resources : Dict Json} {found : String → Json} {depth levels : ℕ}

/-- Nowhere in a value stands an object with a reference. -/
def Free (v : Json) : Prop := ∀ reference, ¬ Mentions reference v

instance decidableFree (v : Json) : Decidable (Free v) :=
  decidable_of_iff (references v = []) (by
    simp only [Free, ← mem_references, List.eq_nil_iff_forall_not_mem])

theorem free_leaf (h : v.IsLeaf) : Free v := fun _ => not_mentions_leaf h

theorem free_str (s : String) : Free (.str s) := by
  rintro reference ⟨⟩

theorem free_arr_iff {items : List Json} : Free (.arr items) ↔ ∀ v ∈ items, Free v := by
  simp only [Free, mentions_arr_iff, not_exists, not_and]
  exact ⟨fun h v hv reference => h reference v hv, fun h reference v hv => h v hv reference⟩

theorem free_obj_iff :
    Free (.obj fields) ↔ reference? fields = none ∧ ∀ p ∈ fields, Free p.2 := by
  simp only [Free, mentions_obj_iff, not_or, not_exists, not_and, Option.eq_none_iff_forall_ne_some]
  exact ⟨fun h => ⟨fun reference => (h reference).1, fun p hp reference => (h reference).2 p hp⟩,
    fun h reference => ⟨h.1 reference, fun p hp => h.2 p hp reference⟩⟩

theorem free_anything : Free anything := by decide

/-- A schema without references stays as it is. -/
theorem inline_of_free (h : Free v) : inline found v = v := by
  induction v using Json.parts_induction with
  | leaf v hleaf => exact inline_leaf hleaf
  | arr items ih =>
    rw [free_arr_iff] at h
    rw [inline, inlineItems_eq, map_eq_self_iff.2 fun v hv => ih v hv (h v hv)]
  | obj fields ih =>
    rw [free_obj_iff] at h
    have hfields : (fields.map fun p => (p.1, inline found p.2)) = fields :=
      map_eq_self_iff.2 fun p hp => Prod.ext rfl (ih p hp (h.2 p hp))
    rw [inline, substitute_of_none h.1, inlineFields_eq, hfields]

/-- Somewhere in a value stands an object whose `$ref` is an object with this reference only. -/
inductive Stacks (reference : String) : Json → Prop
  | here {fields : Fields} (h : Assoc.get? "$ref" fields = some (.obj [("$ref", .str reference)])) :
      Stacks reference (.obj fields)
  | field {fields : Fields} {p : String × Json} (hp : p ∈ fields) (h : Stacks reference p.2) :
      Stacks reference (.obj fields)
  | item {items : List Json} {v : Json} (hv : v ∈ items) (h : Stacks reference v) :
      Stacks reference (.arr items)

/-- Nowhere in a value stands an object whose `$ref` is an object with a reference only. -/
def Flat (v : Json) : Prop := ∀ reference, ¬ Stacks reference v

/-- What is found for the references of a value is free, and none of those that stand for a
reference is found to be a text. -/
structure FindsFree (found : String → Json) (v : Json) : Prop where
  free : ∀ reference, Mentions reference v → Free (found reference)
  noText : ∀ reference, Stacks reference v → ∀ s, found reference ≠ .str s

theorem findsFree_leaf (h : v.IsLeaf) : FindsFree found v where
  free reference hmentions := absurd hmentions (not_mentions_leaf h)
  noText reference hstacks := by
    cases hstacks with
    | here | field => exact absurd rfl (h.1 _)
    | item => exact absurd rfl (h.2 _)

theorem findsFree_arr_iff {items : List Json} :
    FindsFree found (.arr items) ↔ ∀ v ∈ items, FindsFree found v := by
  constructor
  · intro h v hv
    exact ⟨fun r hr => h.free r (.item hv hr), fun r hr => h.noText r (.item hv hr)⟩
  · intro h
    constructor
    · intro r hr
      cases hr with
      | item hv hr => exact (h _ hv).free r hr
    · intro r hr
      cases hr with
      | item hv hr => exact (h _ hv).noText r hr

theorem findsFree_obj_iff : FindsFree found (.obj fields) ↔
    (∀ reference, reference? fields = some reference → Free (found reference)) ∧
    (∀ reference, Assoc.get? "$ref" fields = some (.obj [("$ref", .str reference)]) →
      ∀ s, found reference ≠ .str s) ∧
    ∀ p ∈ fields, FindsFree found p.2 := by
  constructor
  · intro h
    exact ⟨fun r hr => h.free r (.here (reference?_eq_some_iff.1 hr)),
      fun r hr => h.noText r (.here hr),
      fun p hp => ⟨fun r hr => h.free r (.field hp hr), fun r hr => h.noText r (.field hp hr)⟩⟩
  · rintro ⟨hfree, hnoText, hfields⟩
    constructor
    · intro r hr
      cases hr with
      | here h => exact hfree r (reference?_eq_some_iff.2 h)
      | field hp h => exact (hfields _ hp).free r h
    · intro r hr
      cases hr with
      | here h => exact hnoText r h
      | field hp h => exact (hfields _ hp).noText r h

theorem eq_of_sole (h : reference? fields = some reference) (hlength : fields.length = 1) :
    fields = [("$ref", .str reference)] := by
  obtain ⟨⟨key, v⟩, rfl⟩ := List.length_eq_one_iff.1 hlength
  rw [reference?_eq_some_iff, Assoc.get?] at h
  split at h
  next hkey => rw [hkey, Option.some.inj h]
  next => cases h

/-- Only a text, and a lone reference for which one is found, are inlined to a text. -/
theorem inline_eq_str_iff {s : String} : inline found v = .str s ↔
    v = .str s ∨ ∃ reference, v = .obj [("$ref", .str reference)] ∧ found reference = .str s := by
  constructor
  · intro h
    cases v with
    | obj fields =>
      rw [inline] at h
      cases hreference : reference? fields with
      | none =>
        rw [substitute_of_none hreference] at h
        cases h
      | some reference =>
        by_cases hlength : fields.length = 1
        · rw [substitute_of_sole hreference hlength] at h
          exact .inr ⟨reference, by rw [eq_of_sole hreference hlength], h⟩
        · rw [substitute_of_beside hreference hlength] at h
          cases h
    | arr items =>
      rw [inline] at h
      cases h
    | null | bool _ | num _ | str _ => exact .inl h
  · rintro (rfl | ⟨reference, rfl, h⟩)
    · rfl
    · exact h

/-- Fields without a reference get one where theirs stands for a reference and that for a text. -/
theorem reference?_inlined_iff (h : reference? fields = none) :
    reference? (fields.map fun p => (p.1, inline found p.2)) = none ↔
      ∀ reference, Assoc.get? "$ref" fields = some (.obj [("$ref", .str reference)]) →
        ∀ s, found reference ≠ .str s := by
  simp only [Option.eq_none_iff_forall_ne_some, ne_eq, reference?_eq_some_iff] at h ⊢
  simp only [Assoc.get?_map, Option.map_eq_some_iff, inline_eq_str_iff]
  constructor
  · intro hnone reference hget s hs
    exact hnone s ⟨_, hget, .inr ⟨reference, rfl, hs⟩⟩
  · rintro hnoText s ⟨w, hget, rfl | ⟨reference, rfl, hs⟩⟩
    · exact h s hget
    · exact hnoText reference hget s hs

theorem free_beside_iff : Free (.obj [("allOf", .arr [v, w])]) ↔ Free v ∧ Free w := by
  simp [free_obj_iff, free_arr_iff, reference?, Assoc.get?]

/-- Beside a reference it does not matter that the reference is taken out. -/
theorem forall_erase_iff (hascend : KeysAscend fields) (h : reference? fields = some reference) :
    (∀ p ∈ Assoc.erase "$ref" fields, Free (inline found p.2)) ↔
      ∀ p ∈ fields, Free (inline found p.2) := by
  refine ⟨fun hall p hp => ?_, fun hall p hp => hall p (Assoc.erase_subset _ _ hp)⟩
  by_cases hkey : p.1 = "$ref"
  · have hget : Assoc.get? "$ref" fields = some p.2 :=
      (Assoc.get?_eq_some_iff_mem hascend).2 (hkey ▸ hp)
    rw [← Option.some.inj ((reference?_eq_some_iff.1 h).symm.trans hget)]
    exact free_str reference
  · refine hall p ?_
    rw [Assoc.erase_eq_filter hascend, List.mem_filter]
    exact ⟨hp, bne_iff_ne.2 hkey⟩

theorem reference?_erased (hascend : KeysAscend fields) :
    reference? ((Assoc.erase "$ref" fields).map fun p => (p.1, inline found p.2)) = none := by
  rw [reference?, Assoc.get?_map, Assoc.get?_erase hascend, if_pos rfl]
  rfl

/-- A schema is inlined to a free one if what is found for its references makes it one. -/
theorem free_inline_iff (h : v.ordered = true) :
    Free (inline found v) ↔ FindsFree found v := by
  induction v using Json.parts_induction with
  | leaf v hleaf =>
    rw [inline_leaf hleaf]
    exact iff_of_true (free_leaf hleaf) (findsFree_leaf hleaf)
  | arr items ih =>
    rw [Json.ordered_arr_iff] at h
    rw [inline, inlineItems_eq, free_arr_iff, findsFree_arr_iff, List.forall_mem_map]
    exact forall₂_congr fun v hv => ih v hv (h v hv)
  | obj fields ih =>
    rw [Json.ordered_obj_iff] at h
    have hfields : (∀ p ∈ fields, Free (inline found p.2)) ↔ ∀ p ∈ fields, FindsFree found p.2 :=
      forall₂_congr fun p hp => ih p hp (h.2 p hp)
    rw [inline, inlineFields_eq, findsFree_obj_iff]
    cases hreference : reference? fields with
    | none =>
      rw [substitute_of_none hreference, free_obj_iff, reference?_inlined_iff hreference,
        List.forall_mem_map, hfields]
      simp
    | some reference =>
      have hsome : (∀ r, some reference = some r → Free (found r)) ↔ Free (found reference) := by
        simp
      have hnoText : ∀ r, Assoc.get? "$ref" fields = some (.obj [("$ref", .str r)]) →
          ∀ s, found r ≠ .str s := by
        intro r hr
        cases (reference?_eq_some_iff.1 hreference).symm.trans hr
      rw [hsome, and_iff_right hnoText]
      by_cases hlength : fields.length = 1
      · rw [substitute_of_sole hreference hlength, ← hfields, eq_of_sole hreference hlength,
          List.forall_mem_singleton]
        exact (and_iff_left (free_str reference)).symm
      · rw [substitute_of_beside hreference hlength, free_beside_iff, free_obj_iff, Assoc.erase_map,
          List.forall_mem_map, forall_erase_iff h.1 hreference, hfields,
          and_iff_right (reference?_erased h.1)]

variable {P : Json → Prop}

/-- What holds of all documents holds of every target, and of the document it lies in. -/
theorem inherited_by_target (h : Json.Hereditary P) (hresources : ∀ p ∈ resources.entries, P p.2)
    (hbase : P base)
    (htarget : target? resources base reference = some (document, target)) :
    P document ∧ P target := by
  unfold target? at htarget
  generalize splitReference reference = parts at htarget
  obtain ⟨uri, fragment⟩ := parts
  obtain ⟨found, hfound, htarget⟩ := Option.bind_eq_some_iff.1 htarget
  have hdocument : P found := by
    split at hfound
    · cases hfound
      exact hbase
    · exact hresources _ (Assoc.mem_of_get? hfound)
  split at htarget
  · cases htarget
    exact ⟨hdocument, hdocument⟩
  · obtain ⟨w, hw, heq⟩ := Option.map_eq_some_iff.1 htarget
    cases heq
    exact ⟨hdocument, h.pointer hdocument hw⟩

theorem inherited_by_reached (h : Json.Hereditary P) (hresources : ∀ p ∈ resources.entries, P p.2)
    (hreaches : Reaches resources base v depth document target) (hbase : P base) (hv : P v) :
    P target := by
  induction hreaches with
  | here => exact hv
  | further _ htarget _ ih =>
    obtain ⟨hdocument, htarget⟩ := inherited_by_target h hresources hbase htarget
    exact ih hdocument htarget

theorem hereditary_flat : Json.Hereditary Flat where
  field _ h _ hp reference hstacks := h reference (.field hp hstacks)
  item _ h _ hv reference hstacks := h reference (.item hv hstacks)

/-- With so many levels left, no object is reached whose `$ref` is an object with a reference only
that is found to be a text. -/
def Textless (resources : Dict Json) (base v : Json) (levels : ℕ) : Prop :=
  ∀ depth document target, Reaches resources base v depth document target →
    ∀ reference, Stacks reference target →
      ∀ s, lookup resources (levels - depth) document reference ≠ .str s

theorem textless_zero (resources : Dict Json) (base v : Json) : Textless resources base v 0 := by
  intro depth document target _ reference _ s hs
  rw [Nat.zero_sub] at hs
  cases hs

/-- What is reached is the value itself, and what is reached from the targets of its references. -/
theorem textless_succ_iff : Textless resources base v (levels + 1) ↔
    (∀ reference, Stacks reference v → ∀ s, lookup resources (levels + 1) base reference ≠ .str s) ∧
    ∀ reference, Mentions reference v → ∀ document target,
      target? resources base reference = some (document, target) →
        Textless resources document target levels := by
  constructor
  · intro h
    refine ⟨h 0 _ _ .here, fun reference hmentions document target htarget depth _ _ hreaches => ?_⟩
    have hfurther := h (depth + 1) _ _ (.further hmentions htarget hreaches)
    rwa [Nat.add_sub_add_right] at hfurther
  · rintro ⟨hhere, hfurther⟩ depth document target hreaches
    cases hreaches with
    | here => exact hhere
    | further hmentions htarget hreaches =>
      rw [Nat.add_sub_add_right]
      exact hfurther _ hmentions _ _ htarget _ _ _ hreaches

theorem free_inline_lookup_iff
    (hresources : ∀ p ∈ resources.entries, p.2.ordered = true)
    (hbase : base.ordered = true) (hv : v.ordered = true) :
    Free (inline (lookup resources levels base) v) ↔ Textless resources base v levels := by
  induction levels generalizing base v with
  | zero =>
    rw [free_inline_iff hv]
    refine iff_of_true ⟨fun _ _ => free_anything, fun _ _ s hs => ?_⟩ (textless_zero _ _ _)
    cases hs
  | succ levels ih =>
    have htargets (reference : String) : Free (lookup resources (levels + 1) base reference) ↔
        ∀ document target, target? resources base reference = some (document, target) →
          Textless resources document target levels := by
      rw [lookup]
      cases htarget : target? resources base reference with
      | none =>
        refine iff_of_true free_anything fun document target htarget => ?_
        cases htarget
      | some p =>
        obtain ⟨document, target⟩ := p
        obtain ⟨hdocument, hordered⟩ :=
          inherited_by_target Json.hereditary_ordered hresources hbase htarget
        simp [ih hdocument hordered]
    rw [free_inline_iff hv, textless_succ_iff]
    constructor
    · intro h
      exact ⟨h.noText, fun reference hreference =>
        (htargets reference).1 (h.free reference hreference)⟩
    · rintro ⟨hnoText, hfree⟩
      exact ⟨fun reference hreference => (htargets reference).2 (hfree reference hreference),
        hnoText⟩

namespace Scope

/-- A schema without references is left as it is. Any other is resolved to one without references,
and then left as it is, exactly if no object is reached whose `$ref` is an object with a reference
only that stands for a text; and never is one reached if no document has an object whose `$ref` is
one with a reference only. -/
theorem resolve_free_iff {scope : Scope} {schema : Json} (hroot : scope.root.ordered = true)
    (hresources : ∀ p ∈ scope.resources.entries, p.2.ordered = true)
    (hschema : schema.ordered = true) :
    (Free schema → scope.resolve schema = schema) ∧
    (Free (scope.resolve schema) ↔
      Textless scope.resources scope.root schema maxReferenceDepth) ∧
    (Textless scope.resources scope.root schema maxReferenceDepth →
      scope.resolve (scope.resolve schema) = scope.resolve schema) ∧
    (Flat scope.root → (∀ p ∈ scope.resources.entries, Flat p.2) → Flat schema →
      Textless scope.resources scope.root schema maxReferenceDepth) := by
  have hiff : Free (scope.resolve schema) ↔
      Textless scope.resources scope.root schema maxReferenceDepth :=
    free_inline_lookup_iff hresources hroot hschema
  refine ⟨inline_of_free, hiff, fun h => inline_of_free (hiff.2 h), ?_⟩
  intro hroot hresources hschema depth document target hreaches reference hstacks
  have hflat := inherited_by_reached hereditary_flat hresources hreaches hroot hschema
  exact absurd hstacks (hflat reference)

/-- A node that leads to another such node, without end. -/
def endless : Scope :=
  .alone (.obj [("node", .obj [
    ("next", .obj [("$ref", .str "#/node"), ("title", .str "Next")]), ("type", .str "object")])])

theorem endless_resolved :
    let schema : Json := .obj [("items", .obj [("$ref", .str "#/node")])]
    (endless.root.ordered = true ∧ (∀ p ∈ endless.resources.entries, p.2.ordered = true) ∧
      schema.ordered = true) ∧
    Free (endless.resolve schema) ∧
      endless.resolve (endless.resolve schema) = endless.resolve schema := by
  intro schema
  have hordered : endless.root.ordered = true ∧
      (∀ p ∈ endless.resources.entries, p.2.ordered = true) ∧ schema.ordered = true := by
    decide +kernel
  have hfree : Free (endless.resolve schema) := by decide +kernel
  obtain ⟨-, hiff, hagain, -⟩ := resolve_free_iff hordered.1 hordered.2.1 hordered.2.2
  exact ⟨hordered, hfree, hagain (hiff.1 hfree)⟩

def naming : Scope :=
  .alone (.obj [("$defs", .obj [("text", .obj [("type", .str "string")])]),
    ("name", .str "#/$defs/text")])

/-- The reference to the name becomes the reference that the name is. -/
theorem name_left :
    let schema : Json := .obj [("$ref", .obj [("$ref", .str "#/name")])]
    naming.resolve schema = .obj [("$ref", .str "#/$defs/text")] ∧
      ¬ Free (naming.resolve schema) ∧
      naming.resolve (naming.resolve schema) = .obj [("type", .str "string")] := by
  decide +kernel

end Scope
end Caseflow.Schema
