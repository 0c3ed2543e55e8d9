import Caseflow.Proofs.Schema.Closed

/-!
# Actor schemas expanded twice

The explicit form of an actor schema has a type or a reference, and an object schema of an actor has
the standard properties. Expanding it again finds both, so that it changes only what is open.
-/
namespace Caseflow.Schema.Shorthand

variable {key : String} {v w : Json} {fields props missing : Fields}

theorem addMissing_of_contains (h : ∀ p ∈ missing, Assoc.contains p.1 fields = true) :
    addMissing missing fields = fields := by
  induction missing with
  | nil => rfl
  | cons p rest ih =>
    obtain ⟨hp, hrest⟩ := List.forall_mem_cons.1 h
    rw [addMissing, List.foldl_cons, if_pos hp]
    exact ih hrest

theorem mem_addMissing {p : String × Json} (h : p ∈ addMissing missing fields) :
    p ∈ missing ∨ p ∈ fields := by
  induction missing generalizing fields with
  | nil => exact .inr h
  | cons q rest ih =>
    rw [addMissing, List.foldl_cons] at h
    split at h
    · exact (ih h).imp_left (List.mem_cons_of_mem _)
    · obtain hrest | hinsert := ih h
      · exact .inl (List.mem_cons_of_mem _ hrest)
      · obtain rfl | hold := Assoc.mem_insert hinsert
        · exact .inl List.mem_cons_self
        · exact .inr hold

theorem get?_addMissing (missing fields : Fields) (key : String) :
    Assoc.get? key (addMissing missing fields) =
      (Assoc.get? key fields).or (Assoc.get? key missing) := by
  induction missing generalizing fields with
  | nil => exact (Option.or_none).symm
  | cons p rest ih =>
    rw [addMissing, List.foldl_cons, ← addMissing, ih, Assoc.get?]
    split
    · rename_i hthere
      obtain ⟨w, hw⟩ := Assoc.contains_iff.1 hthere
      by_cases hkey : p.1 = key
      · rw [← hkey, hw]
        rfl
      · rw [if_neg hkey]
    · rename_i hnew
      rw [Assoc.get?_insert]
      by_cases hkey : p.1 = key
      · rw [Assoc.contains, Option.not_isSome_iff_eq_none] at hnew
        rw [if_pos hkey, if_pos hkey, ← hkey, hnew]
        rfl
      · rw [if_neg hkey, if_neg hkey]

theorem contains_addMissing : ∀ p ∈ missing,
    Assoc.contains p.1 (addMissing missing fields) = true := by
  intro p hp
  have hthere := Assoc.contains_of_mem hp
  rw [Assoc.contains] at hthere
  rw [Assoc.contains, get?_addMissing, Option.isSome_or, hthere, Bool.or_true]

theorem keysAscend_addMissing (h : KeysAscend fields) : KeysAscend (addMissing missing fields) := by
  induction missing generalizing fields with
  | nil => exact h
  | cons p rest ih =>
    rw [addMissing, List.foldl_cons]
    split
    · exact ih h
    · exact ih h.insert

theorem addMissing_eq_extend (hmissing : KeysAscend missing) (hfields : KeysAscend fields) :
    addMissing missing fields = Assoc.extend missing fields := by
  apply Assoc.ext_get? (keysAscend_addMissing hfields) (Assoc.keysAscend_extend hmissing)
  intro key
  rw [get?_addMissing, Assoc.get?_extend hfields]

theorem actorProperties_settle : ∀ p ∈ actorProperties, isMarked p.2 = false ∧ Settles p.2 := by
  have hsettles : ∀ p ∈ actorProperties,
      isMarked p.2 = false ∧ expand p.2 = p.2 ∧ closed p.2 = true := by decide
  intro p hp
  obtain ⟨hmark, hexpand, hclosed⟩ := hsettles p hp
  exact ⟨hmark, iff_of_true hexpand hclosed⟩

/-- Explicit fields with other properties that settle are explicit. -/
theorem Explicit.insert_properties (h : Explicit fields)
    (hprops : ∀ p ∈ props, isMarked p.2 = false ∧ Settles p.2) :
    Explicit (Assoc.insert "properties" (.obj props) fields) := by
  have hread {key : String} (hkey : "properties" ≠ key) :
      Assoc.get? key (Assoc.insert "properties" (.obj props) fields) = Assoc.get? key fields :=
    Assoc.get?_insert_of_ne hkey _ _
  have hnew : ∀ own, Assoc.get? "properties" (Assoc.insert "properties" (.obj props) fields) =
      some (.obj own) → ∀ p ∈ own, isMarked p.2 = false ∧ Settles p.2 := by
    intro own hget
    rw [Assoc.get?_insert_self, Option.some.injEq, Json.obj.injEq] at hget
    rw [← hget]
    exact hprops
  refine ⟨h.ascend.insert, ?_, ?_, ?_, hnew⟩
  · rw [hread (by decide), h.unmarked]
  · have hwritten := (hread (by decide)).trans h.written_eq
    rw [hwritten, required_of_written hwritten fun own hget p hp => (hnew own hget p hp).1]
  · intro key v hv
    by_cases hkey : "properties" = key
    · subst hkey
      rw [Assoc.get?_insert_self, Option.some.injEq] at hv
      rw [← hv]
      exact settlesAt_of_holdsEntries (by decide) fun p hp => (hprops p hp).2
    · rw [hread hkey] at hv
      exact h.settles key v hv

/-- Whether an object schema has the standard properties, or properties of another kind. -/
def Furnished (fields : Fields) : Prop :=
  isObjectType fields = true → ∃ v, Assoc.get? "properties" fields = some v ∧
    ∀ props, v = .obj props → ∀ p ∈ actorProperties, Assoc.contains p.1 props = true

theorem withActorProperties_of_furnished (hfields : KeysAscend fields) (h : Furnished fields) :
    withActorProperties (.obj fields) = .obj fields := by
  rw [withActorProperties]
  split
  · rename_i htype
    obtain ⟨v, hv, hstandard⟩ := h htype
    rw [hv]
    cases v with
    | obj props =>
      simp only [addMissing_of_contains (hstandard props rfl)]
      rw [Assoc.insert_of_get? hfields hv]
    | null | bool _ | num _ | str _ | arr _ => rfl
  · rfl

theorem isObjectType_congr {more : Fields}
    (htype : Assoc.get? "type" fields = Assoc.get? "type" more) :
    isObjectType fields = isObjectType more := by
  unfold isObjectType
  rw [htype]

/-- Explicit fields are furnished without losing what makes them explicit. -/
theorem withActorProperties_explicit (h : Explicit fields) :
    ∃ furnished, withActorProperties (.obj fields) = .obj furnished ∧ Explicit furnished ∧
      Furnished furnished ∧
      ∀ key, key ≠ "properties" → Assoc.get? key furnished = Assoc.get? key fields := by
  have insertion (props : Fields) (hprops : ∀ p ∈ props, isMarked p.2 = false ∧ Settles p.2) :
      Explicit (Assoc.insert "properties" (.obj (addMissing actorProperties props)) fields) ∧
        Furnished (Assoc.insert "properties" (.obj (addMissing actorProperties props)) fields) ∧
        ∀ key, key ≠ "properties" → Assoc.get? key (Assoc.insert "properties"
          (.obj (addMissing actorProperties props)) fields) = Assoc.get? key fields := by
    refine ⟨h.insert_properties ?_, ?_, fun key hkey => Assoc.get?_insert_of_ne hkey.symm _ _⟩
    · intro p hp
      obtain hadded | hown := mem_addMissing hp
      · exact actorProperties_settle p hadded
      · exact hprops p hown
    · intro _
      refine ⟨_, Assoc.get?_insert_self _ _ _, ?_⟩
      rintro _ ⟨⟩
      exact contains_addMissing
  rw [withActorProperties]
  split
  · rename_i htype
    split
    · exact ⟨_, rfl, insertion [] fun _ hp => nomatch hp⟩
    · rename_i props hget
      exact ⟨_, rfl, insertion props (h.properties props hget)⟩
    · rename_i v hother hget
      refine ⟨_, rfl, h, ?_, fun _ _ => rfl⟩
      intro _
      exact ⟨v, hget, fun props hobj => absurd hobj (hother props)⟩
  · rename_i htype
    exact ⟨_, rfl, h, fun htrue => absurd htrue htype, fun _ _ => rfl⟩

theorem Furnished.completed {names : List String} (h : Furnished fields) :
    Furnished (completed names (expandFields fields)) := by
  intro htype
  have hsame : isObjectType (Shorthand.completed names (expandFields fields)) =
      isObjectType fields := by
    apply isObjectType_congr
    rw [get?_expanded_of_ne names (by decide) (by decide)]
    cases Assoc.get? "type" fields with
    | none => rfl
    | some v => exact congrArg some (expandAt_of_isPlain (by decide) v)
  obtain ⟨v, hv, hstandard⟩ := h (hsame.symm.trans htype)
  refine ⟨expandAt "properties" v, ?_, ?_⟩
  · rw [get?_expanded_of_ne names (by decide) (by decide), hv, Option.map_some]
  · intro props hobj p hp
    obtain ⟨own, rfl, rfl⟩ := expandAt_properties_eq_obj hobj
    have hcontains := hstandard own rfl p hp
    rwa [Assoc.contains, expandEntries_eq_map, Assoc.get?_map, Option.isSome_map]

/-- Whether a schema has a type or refers elsewhere. -/
def isBased (fields : Fields) : Bool :=
  Assoc.contains "type" fields || Assoc.contains "$ref" fields

theorem isBased_congr {more : Fields}
    (htype : Assoc.contains "type" fields = Assoc.contains "type" more)
    (href : Assoc.contains "$ref" fields = Assoc.contains "$ref" more) :
    isBased fields = isBased more := by
  rw [isBased, isBased, htype, href]

theorem actorBase_of_isBased (h : isBased fields = true) :
    actorBase (.obj fields) = .obj fields := if_pos h

/-- An object, expanded as the base of an actor schema, is explicit and has a base. -/
theorem expand_based (hfields : (Json.obj fields).ordered = true) (h : isBased fields = true) :
    ∃ explicit, expand (.obj fields) = .obj explicit ∧ Explicit explicit ∧
      isBased explicit = true := by
  obtain ⟨hascend, hordered⟩ := Json.ordered_obj_iff.1 hfields
  refine ⟨_, rfl, explicit_completed hascend (settles_expandFields fields hordered), ?_⟩
  have hkept {key : String} (hkey : key ≠ "additionalProperties")
      (hreq : isRequirement key = false) :
      Assoc.contains key (completed (required fields) (expandFields fields)) =
        Assoc.contains key fields := by
    rw [Assoc.contains, get?_expanded_of_ne _ hkey hreq, Option.isSome_map, Assoc.contains]
  rw [isBased_congr (hkept (by decide) (by decide)) (hkept (by decide) (by decide)), h]

/-- The first expansion of an actor schema is explicit and has a base, unless it is no object. -/
theorem expand_actorBase (v : Json) (h : v.ordered = true) :
    (∃ fields, expand (actorBase v) = .obj fields ∧ Explicit fields ∧ isBased fields = true) ∨
      expandActor v = v ∧ closed v = true := by
  cases v with
  | null => exact .inl (expand_based (by decide) (by decide))
  | bool b => exact .inr ⟨rfl, rfl⟩
  | num n => exact .inr ⟨rfl, rfl⟩
  | str s =>
    have hbase : expand (actorBase (.str s)) = ofText s := rfl
    refine .inl ?_
    rw [hbase, ofText]
    split
    · exact ⟨_, rfl, explicit_singleton (by decide) (by decide) _, rfl⟩
    · exact ⟨_, rfl, explicit_singleton (by decide) (by decide) _, rfl⟩
  | arr items => exact .inr ⟨rfl, rfl⟩
  | obj fields =>
    refine .inl ?_
    rw [actorBase]
    split
    · rename_i hbased
      exact expand_based h hbased
    · apply expand_based (Json.ordered_insert rfl h)
      simp [isBased, Assoc.contains, Assoc.get?_insert]

/-- Expanding an expanded actor schema changes nothing exactly if it is closed. -/
theorem expandActor_expandActor_iff (v : Json) (h : v.ordered = true) :
    expandActor (expandActor v) = expandActor v ↔ closed (expandActor v) = true := by
  obtain ⟨fields, hexpand, hexplicit, hbased⟩ | ⟨hsame, hclosed⟩ := expand_actorBase v h
  · obtain ⟨furnished, hfurnish, hfurnished, hstandard, hkept⟩ :=
      withActorProperties_explicit hexplicit
    have hv : expandActor v = .obj furnished := by rw [expandActor, hexpand, hfurnish]
    have hbase : isBased furnished = true := by
      rw [← hbased]
      exact isBased_congr (congrArg Option.isSome (hkept _ (by decide)))
        (congrArg Option.isSome (hkept _ (by decide)))
    have hagain : expandActor (.obj furnished) = expand (.obj furnished) := by
      rw [expandActor, actorBase_of_isBased hbase, expand]
      exact withActorProperties_of_furnished
        (keysAscend_completed (keysAscend_expandFields hfurnished.ascend)) hstandard.completed
    rw [hv, hagain]
    exact hfurnished.settles_obj
  · rw [hsame, hsame]
    exact iff_of_true rfl hclosed

end Caseflow.Schema.Shorthand
