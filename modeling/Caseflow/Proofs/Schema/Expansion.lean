import Mathlib.Data.ENat.Basic
import Caseflow.Proofs.Json.Parts
import Caseflow.Proofs.Schema.Loading

/-!
# Expanding references

Without a limit on how deep references nest, expanding them need not end, so it is a relation here
and not a function: what a schema is expanded to if that ends, each target expanded in the document
it lies in. With a limit, what is nested too deeply becomes the empty schema. Resolving is expanding
with the limit, and with no limit it is the same for schemas whose references nest no deeper.
-/
namespace Caseflow.Schema

variable {v w base document target : Json} {fields : Fields} {reference : String}
variable {resources : Dict Json} {found : String → Json} {limit : ℕ∞} {depth levels : ℕ}

mutual

def references : Json → List String
  | .obj fields => (reference? fields).toList ++ referencesOfFields fields
  | .arr items => referencesOfItems items
  | _ => []

def referencesOfFields : List (String × Json) → List String
  | [] => []
  | (_, v) :: rest => references v ++ referencesOfFields rest

def referencesOfItems : List Json → List String
  | [] => []
  | v :: vs => references v ++ referencesOfItems vs

end

theorem referencesOfFields_eq (fields : Fields) :
    referencesOfFields fields = fields.flatMap (references ·.2) := by
  induction fields with
  | nil => rfl
  | cons p rest ih => rw [referencesOfFields, ih, List.flatMap_cons]

theorem referencesOfItems_eq (items : List Json) :
    referencesOfItems items = items.flatMap references := by
  induction items with
  | nil => rfl
  | cons v vs ih => rw [referencesOfItems, ih, List.flatMap_cons]

theorem mentions_obj_iff : Mentions reference (.obj fields) ↔
    reference? fields = some reference ∨ ∃ p ∈ fields, Mentions reference p.2 := by
  constructor
  · intro h
    cases h with
    | here h => exact .inl (reference?_eq_some_iff.2 h)
    | field hp h => exact .inr ⟨_, hp, h⟩
  · rintro (h | ⟨p, hp, h⟩)
    · exact .here (reference?_eq_some_iff.1 h)
    · exact .field hp h

theorem mentions_arr_iff {items : List Json} :
    Mentions reference (.arr items) ↔ ∃ v ∈ items, Mentions reference v := by
  constructor
  · rintro ⟨⟩
    exact ⟨_, ‹_›, ‹_›⟩
  · rintro ⟨v, hv, h⟩
    exact .item hv h

theorem not_mentions_leaf (h : v.IsLeaf) : ¬ Mentions reference v := by
  rintro ⟨⟩
  · exact h.1 _ rfl
  · exact h.1 _ rfl
  · exact h.2 _ rfl

theorem mem_references (v : Json) : reference ∈ references v ↔ Mentions reference v := by
  induction v using Json.parts_induction with
  | leaf v h =>
    refine iff_of_false ?_ (not_mentions_leaf h)
    cases v with
    | obj fields => exact absurd rfl (h.1 fields)
    | arr items => exact absurd rfl (h.2 items)
    | _ => exact List.not_mem_nil
  | arr items ih =>
    rw [references, referencesOfItems_eq, List.mem_flatMap, mentions_arr_iff]
    exact exists_congr fun v => and_congr_right (ih v)
  | obj fields ih =>
    rw [references, referencesOfFields_eq, List.mem_append, Option.mem_toList, List.mem_flatMap,
      mentions_obj_iff]
    exact or_congr_right (exists_congr fun p => and_congr_right (ih p))

/-- A value inside so many references of a value in a document, with the document it lies in. -/
inductive Reaches (resources : Dict Json) : Json → Json → ℕ → Json → Json → Prop
  | here {base v : Json} : Reaches resources base v 0 base v
  | further {base v document target document' target' : Json} {reference : String} {depth : ℕ}
      (hmentions : Mentions reference v)
      (htarget : target? resources base reference = some (document, target))
      (h : Reaches resources document target depth document' target') :
      Reaches resources base v (depth + 1) document' target'

section

variable (resources : Dict Json) (limit : ℕ∞)

mutual

/-- What a value in a document, inside so many references, is expanded to. -/
inductive Expands : ℕ → Json → Json → Json → Prop
  | leaf {depth : ℕ} {base v : Json} (h : v.IsLeaf) : Expands depth base v v
  | arr {depth : ℕ} {base : Json} {items ws : List Json}
      (h : ExpandsItems depth base items ws) : Expands depth base (.arr items) (.arr ws)
  | obj {depth : ℕ} {base : Json} {fields ws : Fields} (hnone : reference? fields = none)
      (h : ExpandsFields depth base fields ws) : Expands depth base (.obj fields) (.obj ws)
  | sole {depth : ℕ} {base w : Json} {fields : Fields} {reference : String}
      (hsome : reference? fields = some reference) (hlength : fields.length = 1)
      (h : Finds depth base reference w) : Expands depth base (.obj fields) w
  | beside {depth : ℕ} {base w : Json} {fields ws : Fields} {reference : String}
      (hsome : reference? fields = some reference) (hlength : fields.length ≠ 1)
      (h : Finds depth base reference w)
      (hrest : ExpandsFields depth base (Assoc.erase "$ref" fields) ws) :
      Expands depth base (.obj fields) (.obj [("allOf", .arr [w, .obj ws])])

inductive ExpandsItems : ℕ → Json → List Json → List Json → Prop
  | nil {depth : ℕ} {base : Json} : ExpandsItems depth base [] []
  | cons {depth : ℕ} {base v w : Json} {vs ws : List Json} (h : Expands depth base v w)
      (hrest : ExpandsItems depth base vs ws) : ExpandsItems depth base (v :: vs) (w :: ws)

inductive ExpandsFields : ℕ → Json → Fields → Fields → Prop
  | nil {depth : ℕ} {base : Json} : ExpandsFields depth base [] []
  | cons {depth : ℕ} {base v w : Json} {key : String} {vs ws : Fields}
      (h : Expands depth base v w) (hrest : ExpandsFields depth base vs ws) :
      ExpandsFields depth base ((key, v) :: vs) ((key, w) :: ws)

/-- What a reference in a document, inside so many others, is expanded to. -/
inductive Finds : ℕ → Json → String → Json → Prop
  | target {depth : ℕ} {base document target w : Json} {reference : String}
      (hdepth : (depth : ℕ∞) < limit)
      (htarget : target? resources base reference = some (document, target))
      (h : Expands (depth + 1) document target w) : Finds depth base reference w
  | tooDeep {depth : ℕ} {base : Json} {reference : String} (hdepth : limit ≤ depth) :
      Finds depth base reference anything

end

end

theorem inline_leaf (h : v.IsLeaf) : inline found v = v := by
  cases v with
  | obj fields => exact absurd rfl (h.1 fields)
  | arr items => exact absurd rfl (h.2 items)
  | _ => rfl

theorem inlineFields_eq (fields : Fields) :
    inlineFields found fields = fields.map fun p => (p.1, inline found p.2) := by
  induction fields with
  | nil => rfl
  | cons p rest ih => rw [inlineFields, ih, List.map_cons]

theorem inlineItems_eq (items : List Json) :
    inlineItems found items = items.map (inline found) := by
  induction items with
  | nil => rfl
  | cons v vs ih => rw [inlineItems, ih, List.map_cons]

theorem substitute_of_none (h : reference? fields = none) (inlined : Fields) :
    substitute found fields inlined = .obj inlined := by
  simp [substitute, h]

theorem substitute_of_sole (h : reference? fields = some reference) (hlength : fields.length = 1)
    (inlined : Fields) : substitute found fields inlined = found reference := by
  obtain ⟨p, rfl⟩ := List.length_eq_one_iff.1 hlength
  simp [substitute, h]

theorem substitute_of_beside (h : reference? fields = some reference) (hlength : fields.length ≠ 1)
    (inlined : Fields) : substitute found fields inlined =
      .obj [("allOf", .arr [found reference, .obj (Assoc.erase "$ref" inlined)])] := by
  obtain _ | ⟨p, _ | ⟨q, rest⟩⟩ := fields
  · cases h
  · exact absurd rfl hlength
  · simp [substitute, h]

theorem expandsItems_iff {items : List Json}
    (h : ∀ v ∈ items, ∀ w, Expands resources limit depth base v w ↔ w = inline found v)
    (ws : List Json) :
    ExpandsItems resources limit depth base items ws ↔ ws = items.map (inline found) := by
  induction items generalizing ws with
  | nil =>
    constructor
    · rintro ⟨⟩
      rfl
    · rintro rfl
      exact .nil
  | cons v vs ih =>
    obtain ⟨hv, hvs⟩ := List.forall_mem_cons.1 h
    constructor
    · intro hexpands
      cases hexpands with
      | cons hw hrest => rw [List.map_cons, (hv _).1 hw, (ih hvs _).1 hrest]
    · rintro rfl
      exact .cons ((hv _).2 rfl) ((ih hvs _).2 rfl)

theorem expandsFields_iff {fields : Fields}
    (h : ∀ p ∈ fields, ∀ w, Expands resources limit depth base p.2 w ↔ w = inline found p.2)
    (ws : Fields) :
    ExpandsFields resources limit depth base fields ws ↔
      ws = fields.map fun p => (p.1, inline found p.2) := by
  induction fields generalizing ws with
  | nil =>
    constructor
    · rintro ⟨⟩
      rfl
    · rintro rfl
      exact .nil
  | cons p rest ih =>
    obtain ⟨hp, hrest⟩ := List.forall_mem_cons.1 h
    constructor
    · intro hexpands
      cases hexpands with
      | cons hw hws => rw [List.map_cons, (hp _).1 hw, (ih hrest _).1 hws]
    · rintro rfl
      exact .cons ((hp _).2 rfl) ((ih hrest _).2 rfl)

/-- A schema is expanded to what it is inlined to with what its references are expanded to. -/
theorem expands_iff_inline (h : ∀ reference, Mentions reference v →
      ∀ w, Finds resources limit depth base reference w ↔ w = found reference) :
    ∀ w, Expands resources limit depth base v w ↔ w = inline found v := by
  induction v using Json.parts_induction with
  | leaf v hleaf =>
    intro w
    rw [inline_leaf hleaf]
    constructor
    · intro hexpands
      cases hexpands with
      | leaf => rfl
      | arr => exact absurd rfl (hleaf.2 _)
      | obj | sole | beside => exact absurd rfl (hleaf.1 _)
    · rintro rfl
      exact .leaf hleaf
  | arr items ih =>
    intro w
    have hitems := expandsItems_iff fun v hv => ih v hv fun r hr => h r (.item hv hr)
    rw [inline, inlineItems_eq]
    constructor
    · intro hexpands
      cases hexpands with
      | leaf hleaf => exact absurd rfl (hleaf.2 _)
      | arr hws => rw [(hitems _).1 hws]
    · rintro rfl
      exact .arr ((hitems _).2 rfl)
  | obj fields ih =>
    intro w
    have hfields {part : Fields} (hpart : part ⊆ fields) :=
      expandsFields_iff fun p (hp : p ∈ part) =>
        ih p (hpart hp) fun r hr => h r (.field (hpart hp) hr)
    rw [inline, inlineFields_eq]
    cases hreference : reference? fields with
    | none =>
      rw [substitute_of_none hreference]
      constructor
      · intro hexpands
        cases hexpands with
        | leaf hleaf => exact absurd rfl (hleaf.1 _)
        | obj _ hws => rw [(hfields (List.Subset.refl _) _).1 hws]
        | sole hsome | beside hsome => cases hreference.symm.trans hsome
      · rintro rfl
        exact .obj hreference ((hfields (List.Subset.refl _) _).2 rfl)
    | some reference =>
      have hfinds := h reference (.here (reference?_eq_some_iff.1 hreference))
      by_cases hlength : fields.length = 1
      · rw [substitute_of_sole hreference hlength, ← hfinds]
        constructor
        · intro hexpands
          cases hexpands with
          | leaf hleaf => exact absurd rfl (hleaf.1 _)
          | obj hnone => cases hreference.symm.trans hnone
          | sole hsome _ hw =>
            cases hreference.symm.trans hsome
            exact hw
          | beside _ hne => exact absurd hlength hne
        · exact .sole hreference hlength
      · rw [substitute_of_beside hreference hlength, Assoc.erase_map]
        constructor
        · intro hexpands
          cases hexpands with
          | leaf hleaf => exact absurd rfl (hleaf.1 _)
          | obj hnone => cases hreference.symm.trans hnone
          | sole _ heq => exact absurd heq hlength
          | beside hsome _ hw hws =>
            cases hreference.symm.trans hsome
            rw [(hfinds _).1 hw, (hfields (Assoc.erase_subset _ _) _).1 hws]
        · rintro rfl
          exact .beside hreference hlength ((hfinds _).2 rfl)
            ((hfields (Assoc.erase_subset _ _) _).2 rfl)

/-- Every reference met inside fewer others has a target. -/
def Located (resources : Dict Json) (base v : Json) (levels : ℕ) : Prop :=
  ∀ depth < levels, ∀ document target, Reaches resources base v depth document target →
    ∀ reference, Mentions reference target → ∃ p, target? resources document reference = some p

/-- No reference is met inside so many others. -/
def Bounded (resources : Dict Json) (base v : Json) (levels : ℕ) : Prop :=
  ∀ document target, Reaches resources base v levels document target →
    ∀ reference, ¬ Mentions reference target

/-- The values inside so many references of a value, with the documents they lie in. -/
def reached (resources : Dict Json) : ℕ → Json → Json → List (Json × Json)
  | 0, base, v => [(base, v)]
  | depth + 1, base, v =>
    ((references v).filterMap (target? resources base)).flatMap fun p =>
      reached resources depth p.1 p.2

theorem mem_reached {base : Json} :
    (document, target) ∈ reached resources depth base v ↔
      Reaches resources base v depth document target := by
  induction depth generalizing base v with
  | zero =>
    rw [reached, List.mem_singleton]
    constructor
    · rintro ⟨⟩
      exact .here
    · rintro ⟨⟩
      rfl
  | succ depth ih =>
    rw [reached, List.mem_flatMap]
    constructor
    · rintro ⟨p, hp, hreached⟩
      obtain ⟨reference, hreference, htarget⟩ := List.mem_filterMap.1 hp
      exact .further ((mem_references v).1 hreference) htarget (ih.1 hreached)
    · intro h
      cases h with
      | @further _ _ next found _ _ _ _ hmentions htarget hreaches =>
        exact ⟨(next, found), List.mem_filterMap.2 ⟨_, (mem_references v).2 hmentions, htarget⟩,
          ih.2 hreaches⟩

instance decidableLocated (resources : Dict Json) (base v : Json) (levels : ℕ) :
    Decidable (Located resources base v levels) :=
  decidable_of_iff (∀ depth < levels, ∀ p ∈ reached resources depth base v,
      ∀ reference ∈ references p.2, (target? resources p.1 reference).isSome = true) (by
    simp only [Located, Prod.forall, mem_reached, mem_references, Option.isSome_iff_exists])

instance decidableBounded (resources : Dict Json) (base v : Json) (levels : ℕ) :
    Decidable (Bounded resources base v levels) :=
  decidable_of_iff (∀ p ∈ reached resources levels base v, references p.2 = []) (by
    simp only [Bounded, Prod.forall, mem_reached, ← mem_references, List.eq_nil_iff_forall_not_mem])

theorem finds_target_iff (hdepth : (depth : ℕ∞) < limit)
    (htarget : target? resources base reference = some (document, target)) :
    Finds resources limit depth base reference w ↔
      Expands resources limit (depth + 1) document target w := by
  constructor
  · intro hfinds
    cases hfinds with
    | target _ heq h =>
      cases htarget.symm.trans heq
      exact h
    | tooDeep hle => exact absurd hdepth (not_lt.2 hle)
  · exact .target hdepth htarget

theorem finds_tooDeep_iff (hdepth : limit ≤ depth) :
    Finds resources limit depth base reference w ↔ w = anything := by
  constructor
  · intro hfinds
    cases hfinds with
    | target hlt => exact absurd hdepth (not_le.2 hlt)
    | tooDeep => rfl
  · rintro rfl
    exact .tooDeep hdepth

/-- Inlining with so many levels is expanding, if the limit does not come before the levels end, and
where they end the limit comes or no reference is left. -/
theorem expands_iff_lookup (hlocated : Located resources base v levels)
    (hle : ((depth + levels : ℕ) : ℕ∞) ≤ limit)
    (hend : limit ≤ (depth + levels : ℕ) ∨ Bounded resources base v levels) :
    Expands resources limit depth base v w ↔
      w = inline (lookup resources levels base) v := by
  induction levels generalizing depth base v w with
  | zero =>
    refine expands_iff_inline (fun reference hmentions w => ?_) w
    rw [lookup]
    obtain hlimit | hbounded := hend
    · exact finds_tooDeep_iff hlimit
    · exact absurd hmentions (hbounded _ _ .here _)
  | succ levels ih =>
    refine expands_iff_inline (fun reference hmentions w => ?_) w
    obtain ⟨⟨document, target⟩, htarget⟩ :=
      hlocated 0 (Nat.succ_pos _) _ _ .here _ hmentions
    have hdepth : (depth : ℕ∞) < limit :=
      (Nat.cast_lt.2 (Nat.lt_add_of_pos_right (Nat.succ_pos levels))).trans_le hle
    have heq : depth + 1 + levels = depth + (levels + 1) := by omega
    rw [finds_target_iff hdepth htarget, lookup, htarget]
    apply ih
    · intro depth' hlt document' target' hreaches
      exact hlocated (depth' + 1) (Nat.succ_lt_succ hlt) _ _ (.further hmentions htarget hreaches)
    · rwa [heq]
    · rw [heq]
      refine hend.imp_right fun hbounded document' target' hreaches => ?_
      exact hbounded _ _ (.further hmentions htarget hreaches)

theorem Reaches.exists_mentions {base document target : Json} {depth lesser : ℕ}
    (h : Reaches resources base v depth document target) (hlt : lesser < depth) :
    ∃ document' target' reference, Reaches resources base v lesser document' target' ∧
      Mentions reference target' := by
  induction h generalizing lesser with
  | here => exact absurd hlt (Nat.not_lt_zero _)
  | @further base v document target document' target' reference depth hmentions htarget h ih =>
    cases lesser with
    | zero => exact ⟨_, _, _, .here, hmentions⟩
    | succ lesser =>
      obtain ⟨_, _, _, hreaches, hmentions'⟩ := ih (Nat.lt_of_succ_lt_succ hlt)
      exact ⟨_, _, _, .further hmentions htarget hreaches, hmentions'⟩

/-- Where no reference is met inside so many others, none is met inside more. -/
theorem Bounded.mono {more : ℕ} (h : Bounded resources base v levels) (hle : levels ≤ more) :
    Bounded resources base v more := by
  intro document target hreaches reference hmentions
  obtain rfl | hlt := Nat.eq_or_lt_of_le hle
  · exact h _ _ hreaches _ hmentions
  · obtain ⟨_, _, _, hreaches', hmentions'⟩ := hreaches.exists_mentions hlt
    exact h _ _ hreaches' _ hmentions'

theorem Bounded.located_mono {more : ℕ} (h : Bounded resources base v levels)
    (hlocated : Located resources base v levels) : Located resources base v more := by
  intro depth _ document target hreaches reference hmentions
  by_cases hdepth : depth < levels
  · exact hlocated depth hdepth _ _ hreaches _ hmentions
  · exact absurd hmentions (h.mono (Nat.not_lt.1 hdepth) _ _ hreaches _)

namespace Scope

/-- Where every reference within the limit has a target, resolving expands the schema and puts the
empty schema exactly for references inside as many others as the limit says. If there are none of
these, it expands the schema as without a limit, and any higher limit gives the same. -/
theorem resolve_expands {scope : Scope} {schema : Json}
    (h : Located scope.resources scope.root schema maxReferenceDepth) :
    (∀ w, Expands scope.resources maxReferenceDepth 0 scope.root schema w ↔
      w = scope.resolve schema) ∧
    (Bounded scope.resources scope.root schema maxReferenceDepth →
      (∀ w, Expands scope.resources ⊤ 0 scope.root schema w ↔ w = scope.resolve schema) ∧
      ∀ levels ≥ maxReferenceDepth,
        inline (lookup scope.resources levels scope.root) schema = scope.resolve schema) := by
  refine ⟨fun w => ?_, fun hbounded => ⟨fun w => ?_, fun levels hlevels => ?_⟩⟩
  · exact expands_iff_lookup h (by simp) (.inl (by simp))
  · exact expands_iff_lookup h le_top (.inr hbounded)
  · have hexpands : Expands scope.resources ⊤ 0 scope.root schema
        (inline (lookup scope.resources levels scope.root) schema) :=
      (expands_iff_lookup (hbounded.located_mono h) le_top (.inr (hbounded.mono hlevels))).2 rfl
    exact (expands_iff_lookup h le_top (.inr hbounded)).1 hexpands

/-- A scope with money in the root, and with money of another kind where prices are. -/
def priced : Scope where
  root := .obj [("money", .obj [("type", .str "string")])]
  resources := .ofList [("prices", .obj [
    ("money", .obj [("type", .str "number")]),
    ("price", .obj [("properties", .obj [("amount", .obj [("$ref", .str "#/money")])])])])]

theorem priced_expands :
    let schema : Json := .obj [("$ref", .str "prices#/price"), ("title", .str "Cost")]
    let resolved : Json := .obj [("allOf", .arr [
      .obj [("properties", .obj [("amount", .obj [("type", .str "number")])])],
      .obj [("title", .str "Cost")]])]
    Located priced.resources priced.root schema maxReferenceDepth ∧
      Bounded priced.resources priced.root schema maxReferenceDepth ∧
      Expands priced.resources ⊤ 0 priced.root schema resolved ∧
      priced.resolve schema = resolved := by
  intro schema resolved
  have hlocated : Located priced.resources priced.root schema maxReferenceDepth := by
    decide +kernel
  have hbounded : Bounded priced.resources priced.root schema maxReferenceDepth := by
    decide +kernel
  have hresolved : resolved = priced.resolve schema := by decide +kernel
  exact ⟨hlocated, hbounded, (((resolve_expands hlocated).2 hbounded).1 _).2 hresolved,
    hresolved.symm⟩

end Scope
end Caseflow.Schema
