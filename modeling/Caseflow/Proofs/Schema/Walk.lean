import Caseflow.Proofs.Schema.Closed

/-!
# Walking through a schema

A walk leads from a schema to one in it, by keywords, names and positions. The explicit form of a
schema is walked like the schema itself, and at the end of a walk stands the explicit form of what
stands there in the schema; only where an object schema was closed there is one place more. So what
holds of every explicit schema holds at every depth: no shorthand and no mark is left, the required
names are those that were listed and those that were marked, and all object schemas are closed
except where a bare type name stood.
-/
namespace Caseflow.Schema.Shorthand

variable {key name : String} {v w : Json} {fields out : Fields} {names more : List String}

/-- A step from a schema to one in it: to an entry of a keyword that has schemas by name, to the
schema of the items or of further properties, or to one in a list. -/
inductive Step
  | entry (key name : String)
  | items
  | further
  | member (key : String) (index : Nat)
deriving DecidableEq

def Step.follow? : Step → Json → Option Json
  | entry key name, v =>
    if key ∈ ["properties", "patternProperties", "$defs", "definitions"] then
      (v.field? key).bind (Json.field? name)
    else none
  | items, v => (v.field? "items").filter (·.asArray?.isNone)
  | further, v => v.field? "additionalProperties"
  | member key index, v =>
    if key ∈ ["items", "allOf", "oneOf", "anyOf"] then
      ((v.field? key).bind Json.asArray?).bind (·[index]?)
    else none

def schemaAt? : List Step → Json → Option Json
  | [], v => some v
  | step :: walk, v => (step.follow? v).bind (schemaAt? walk)

theorem schemaAt?_bool (walk : List Step) (hwalk : walk ≠ []) (b : Bool) :
    schemaAt? walk (.bool b) = none := by
  cases walk with
  | nil => exact absurd rfl hwalk
  | cons step walk =>
    cases step with
    | entry key name => simp [schemaAt?, Step.follow?, Json.field?]
    | items => rfl
    | further => rfl
    | member key index => simp [schemaAt?, Step.follow?, Json.field?]

theorem field?_expand (hkey : isPlain key = false) (hother : key ≠ "additionalProperties")
    (v : Json) :
    (expand v).field? key = (v.field? key).map (expandAt key) := by
  have hreq : isRequirement key = false := by
    rw [← Bool.not_eq_true]
    intro hreq
    rw [isPlain_of_isRequirement hreq] at hkey
    cases hkey
  have htype : "type" ≠ key ∧ "$ref" ≠ key := by
    constructor
    · rintro rfl
      exact absurd hkey (by decide)
    · rintro rfl
      exact absurd hkey (by decide)
  cases v with
  | obj fields => exact get?_expanded_of_ne _ hother hreq fields
  | str s =>
    rw [expand, ofText]
    split
    · simp [Json.field?, Assoc.get?, htype.2]
    · simp [Json.field?, Assoc.get?, htype.1]
  | null | bool _ | num _ | arr _ => rfl

theorem expandAt_further (v : Json) : expandAt "additionalProperties" v = expand v := by
  cases v <;> rfl

/-- The schema of further properties is expanded, or put in to close an object schema. -/
theorem further_expand (v : Json) :
    (expand v).field? "additionalProperties" =
        (v.field? "additionalProperties").map expand ∨
      v.field? "additionalProperties" = none ∧
        (expand v).field? "additionalProperties" = some (.bool false) := by
  cases v with
  | obj fields =>
    have hread := get?_expanded (required fields) "additionalProperties" fields
    by_cases hopen : isOpen fields = true
    · rw [if_pos ⟨rfl, hopen⟩] at hread
      refine .inr ⟨?_, hread⟩
      simp only [isOpen, Bool.and_eq_true, Bool.not_eq_true'] at hopen
      exact Option.isNone_iff_eq_none.1 (Option.isSome_eq_false_iff.1 hopen.2)
    · rw [if_neg (fun h => hopen h.2), if_neg (by decide), if_neg (by decide)] at hread
      refine .inl (hread.trans ?_)
      exact congrFun (congrArg Option.map (funext expandAt_further)) _
  | str s =>
    refine .inl ?_
    rw [expand, ofText]
    split
    · rfl
    · rfl
  | null | bool _ | num _ | arr _ => exact .inl rfl

theorem field?_expandAt (hkey : holdsEntries key = true) (name : String) (w : Json) :
    (expandAt key w).field? name = (w.field? name).map expand := by
  have hschema : holdsSchema key = false := by
    rw [← Bool.not_eq_true]
    intro hschema
    rw [holdsEntries_of_holdsSchema hschema] at hkey
    cases hkey
  cases w with
  | obj entries =>
    rw [expandAt, if_pos hkey, expandEntries_eq_map]
    exact Assoc.get?_map expand name entries
  | arr items =>
    rw [expandAt]
    split
    · rfl
    · rfl
  | str s => rw [expandAt, hschema, if_neg Bool.false_ne_true]; rfl
  | null => rw [expandAt, hschema, if_neg Bool.false_ne_true]; rfl
  | bool _ | num _ => rfl

/-- The schema of the items is expanded, unless there is a list of them. -/
theorem expandAt_items (h : w.asArray? = none) :
    expandAt "items" w = expand w ∧ (expand w).asArray? = none := by
  cases w with
  | arr items => cases h
  | str s =>
    refine ⟨rfl, ?_⟩
    rw [expand, ofText]
    split
    · rfl
    · rfl
  | null | bool _ | num _ | obj _ => exact ⟨rfl, rfl⟩

theorem asArray?_expandAt (hkey : holdsItems key = true) (w : Json) :
    (expandAt key w).asArray? = w.asArray?.map (List.map expand) := by
  cases w with
  | arr items =>
    rw [expandAt, if_pos hkey, expandItems_eq_map]
    rfl
  | obj entries =>
    rw [expandAt]
    split
    · rfl
    · split
      · rfl
      · rfl
  | str s =>
    rw [expandAt, ofText]
    split
    · split
      · rfl
      · rfl
    · rfl
  | null =>
    rw [expandAt]
    split
    · rfl
    · rfl
  | bool _ | num _ => rfl

/-- A step in the explicit form of a schema leads to the explicit form of what it leads to in the
schema, or to what was put in to close it. -/
theorem follow?_expand (step : Step) (v : Json) :
    step.follow? (expand v) = (step.follow? v).map expand ∨
      step.follow? v = none ∧ step.follow? (expand v) = some (.bool false) := by
  cases step with
  | entry key name =>
    refine .inl ?_
    simp only [Step.follow?]
    split
    · rename_i hkey
      have hkeys : ∀ key ∈ ["properties", "patternProperties", "$defs", "definitions"],
          isPlain key = false ∧ key ≠ "additionalProperties" ∧ holdsEntries key = true := by
        decide
      obtain ⟨hplain, hother, hentries⟩ := hkeys key hkey
      rw [field?_expand hplain hother]
      cases v.field? key with
      | none => rfl
      | some w => exact field?_expandAt hentries name w
    · rfl
  | items =>
    refine .inl ?_
    simp only [Step.follow?]
    rw [field?_expand (by decide) (by decide)]
    cases hw : v.field? "items" with
    | none => rfl
    | some w =>
      cases harray : w.asArray? with
      | none =>
        obtain ⟨hsame, hstill⟩ := expandAt_items harray
        simp [Option.filter, harray, hsame, hstill]
      | some items =>
        have hitems : holdsItems "items" = true := by decide
        have hstill := asArray?_expandAt hitems w
        simp [Option.filter, harray, hstill]
  | further => exact further_expand v
  | member key index =>
    refine .inl ?_
    simp only [Step.follow?]
    split
    · rename_i hkey
      have hkeys : ∀ key ∈ ["items", "allOf", "oneOf", "anyOf"],
          isPlain key = false ∧ key ≠ "additionalProperties" ∧ holdsItems key = true := by
        decide
      obtain ⟨hplain, hother, hitems⟩ := hkeys key hkey
      rw [field?_expand hplain hother]
      cases v.field? key with
      | none => rfl
      | some w =>
        simp only [Option.map_some, Option.bind_some, asArray?_expandAt hitems]
        cases w.asArray? with
        | none => rfl
        | some items => exact List.getElem?_map
    · rfl

/-- A walk through the explicit form of a schema ends at the explicit form of what it leads to in
the schema, or where an object schema was closed. -/
theorem schemaAt?_expand (walk : List Step) (v : Json) :
    schemaAt? walk (expand v) = (schemaAt? walk v).map expand ∨
      schemaAt? walk v = none ∧ schemaAt? walk (expand v) = some (.bool false) := by
  induction walk generalizing v with
  | nil => exact .inl rfl
  | cons step walk ih =>
    rw [schemaAt?, schemaAt?]
    obtain hstep | ⟨hnone, hclosed⟩ := follow?_expand step v
    · rw [hstep]
      cases step.follow? v with
      | none => exact .inl rfl
      | some w => exact ih w
    · rw [hnone, hclosed]
      cases walk with
      | nil => exact .inr ⟨rfl, rfl⟩
      | cons next walk => exact .inl (schemaAt?_bool (next :: walk) (List.cons_ne_nil _ _) false)

def AllowsObjects (fields : Fields) : Prop :=
  Assoc.get? "type" fields = some (.str "object") ∨
    ∃ types, Assoc.get? "type" fields = some (.arr types) ∧ .str "object" ∈ types

theorem isObjectType_iff : isObjectType fields = true ↔ AllowsObjects fields := by
  unfold isObjectType AllowsObjects
  cases Assoc.get? "type" fields with
  | none => simp
  | some v => cases v <;> simp

theorem isObjectType_expanded (names : List String) (fields : Fields) :
    isObjectType (completed names (expandFields fields)) = isObjectType fields := by
  unfold isObjectType
  rw [get?_expanded_of_ne names (by decide) (by decide)]
  cases Assoc.get? "type" fields with
  | none => rfl
  | some v => rw [Option.map_some, expandAt_of_isPlain (by decide)]

/-- An object schema that says nothing of other properties is closed. -/
theorem closed_expand {own : Fields} (h : expand (.obj own) = .obj out)
    (hobjects : AllowsObjects out) (hnone : Assoc.get? "additionalProperties" own = none) :
    Assoc.get? "additionalProperties" out = some (.bool false) := by
  cases h
  rw [← isObjectType_iff, isObjectType_expanded] at hobjects
  rw [get?_expanded, if_pos]
  exact ⟨rfl, by simp [isOpen, hobjects, Assoc.contains, hnone]⟩

/-- The explicit form of a schema is closed or says what other properties there may be, unless the
schema is the bare name of the type. -/
theorem not_closed_iff (h : expand v = .obj out) (hobjects : AllowsObjects out) :
    Assoc.get? "additionalProperties" out = none ↔ v = .str "object" := by
  cases v with
  | obj fields =>
    refine iff_of_false ?_ (by simp)
    cases hown : Assoc.get? "additionalProperties" fields with
    | none =>
      rw [closed_expand h hobjects hown]
      exact Option.some_ne_none _
    | some further =>
      cases h
      rw [get?_expanded, hown, if_neg (by simp [isOpen, Assoc.contains, hown]),
        if_neg (by decide), if_neg (by decide)]
      exact Option.some_ne_none _
  | str s =>
    rw [expand, ofText] at h
    split at h
    · cases h
      simp [AllowsObjects, Assoc.get?] at hobjects
    · cases h
      simpa [AllowsObjects, Assoc.get?] using hobjects
  | null =>
    cases h
    simp [AllowsObjects, Assoc.get?] at hobjects
  | bool _ | num _ | arr _ => cases h

theorem expand_not_short (v : Json) : expand v ≠ .null ∧ ∀ s, expand v ≠ .str s := by
  cases v with
  | str s =>
    rw [expand, ofText]
    split
    · simp
    · simp
  | null | bool _ | num _ | arr _ | obj _ => simp [expand]

/-- Wherever a walk through an explicit schema leads, there is neither `null` nor a bare text, and
an object schema says what other properties there may be, unless it is there for the bare name of
the type. It says that there may be none where nothing was written about them. -/
theorem explicit_everywhere {walk : List Step} (h : schemaAt? walk (expand v) = some w) :
    w ≠ .null ∧ (∀ s, w ≠ .str s) ∧
      ∀ fields, w = .obj fields → AllowsObjects fields →
        (Assoc.get? "additionalProperties" fields = none ↔
          schemaAt? walk v = some (.str "object")) ∧
        ∀ own, schemaAt? walk v = some (.obj own) →
          Assoc.get? "additionalProperties" own = none →
          Assoc.get? "additionalProperties" fields = some (.bool false) := by
  obtain hwalk | ⟨-, hclosed⟩ := schemaAt?_expand walk v
  · rw [hwalk] at h
    obtain ⟨u, hu, rfl⟩ := Option.map_eq_some_iff.1 h
    obtain ⟨hnull, htext⟩ := expand_not_short u
    refine ⟨hnull, htext, ?_⟩
    intro fields hfields hobjects
    rw [hu, Option.some.injEq]
    refine ⟨not_closed_iff hfields hobjects, ?_⟩
    rintro own heq hnone
    cases heq
    exact closed_expand hfields hobjects hnone
  · cases hclosed.symm.trans h
    simp

/-- A person with an address, which is an object schema inside an object schema. -/
def personSchema : Json := .obj [
  ("properties", .obj [
    ("address", .obj [("properties", .obj [("city", .str "string")]), ("type", .str "object")]),
    ("data", .str "object")]),
  ("type", .str "object")]

/-- The address is closed. -/
theorem address_closed :
    ∃ fields, schemaAt? [.entry "properties" "address"] (expand personSchema) =
        some (.obj fields) ∧
      AllowsObjects fields ∧ Assoc.get? "additionalProperties" fields = some (.bool false) := by
  obtain ⟨fields, hfields⟩ : ∃ fields,
      schemaAt? [.entry "properties" "address"] (expand personSchema) = some (.obj fields) :=
    ⟨_, rfl⟩
  have hobjects : AllowsObjects fields := by
    cases hfields
    exact .inl rfl
  obtain ⟨-, -, hsays⟩ := explicit_everywhere hfields
  obtain ⟨-, hclosed⟩ := hsays fields rfl hobjects
  exact ⟨fields, hfields, hobjects, hclosed _ rfl rfl⟩

/-- What is declared by the name of the type alone is an open object schema. -/
theorem data_open :
    ∃ fields, schemaAt? [.entry "properties" "data"] (expand personSchema) = some (.obj fields) ∧
      AllowsObjects fields ∧ Assoc.get? "additionalProperties" fields = none :=
  ⟨_, rfl, .inl rfl, rfl⟩

/-- Adding names keeps those that are there and puts the new ones after them, each once. -/
theorem exists_addNames (names more : List String) :
    ∃ added, addNames names more = names ++ added ∧ added.Nodup ∧ added.Sublist more ∧
      ∀ name, name ∈ added ↔ name ∈ more ∧ name ∉ names := by
  induction more generalizing names with
  | nil => exact ⟨[], (List.append_nil _).symm, List.nodup_nil, .slnil, by simp⟩
  | cons first more ih =>
    rw [addNames, List.foldl_cons]
    by_cases hthere : first ∈ names
    · obtain ⟨added, heq, hnodup, hsub, hmem⟩ := ih names
      rw [if_pos (List.contains_iff_mem.2 hthere)]
      refine ⟨added, heq, hnodup, hsub.cons first, ?_⟩
      intro name
      rw [hmem, List.mem_cons]
      refine and_congr_left fun hnew => (or_iff_right ?_).symm
      rintro rfl
      exact hnew hthere
    · obtain ⟨added, heq, hnodup, hsub, hmem⟩ := ih (names ++ [first])
      rw [if_neg (by simpa using hthere)]
      refine ⟨first :: added, ?_, List.nodup_cons.2 ⟨?_, hnodup⟩, hsub.cons_cons first, ?_⟩
      · exact heq.trans (List.append_assoc _ _ _)
      · rw [hmem]
        simp
      · intro name
        rw [List.mem_cons, List.mem_cons, hmem, List.mem_append, List.mem_singleton]
        by_cases hname : name = first
        · simp [hname, hthere]
        · simp [hname]

/-- A property of a schema carries the mark, with a value other than `false`. -/
def Marks (fields : Fields) (name : String) : Prop :=
  ∃ props property mark, Assoc.get? "properties" fields = some (.obj props) ∧
    (name, .obj property) ∈ props ∧ Assoc.get? "!required" property = some mark ∧
    mark ≠ .bool false

def propertyNames (fields : Fields) : List String :=
  match Assoc.get? "properties" fields with
  | some (.obj props) => props.map Prod.fst
  | _ => []

theorem isMarked_obj_iff {property : Fields} : isMarked (.obj property) = true ↔
    ∃ mark, Assoc.get? "!required" property = some mark ∧ mark ≠ .bool false := by
  rw [isMarked, requiredMark]
  split
  · rename_i hnone
    simp [hnone]
  · rename_i hfalse
    simp [hfalse]
  · rename_i mark hother hmark
    refine iff_of_true rfl ⟨mark, hmark, ?_⟩
    rintro rfl
    exact hother rfl

theorem isObject_of_isMarked (h : isMarked v = true) : ∃ property, v = .obj property := by
  cases v with
  | obj property => exact ⟨property, rfl⟩
  | null | bool _ | num _ | str _ | arr _ => cases h

theorem mem_markedNames :
    name ∈ markedNames (Assoc.get? "properties" fields) ↔ Marks fields name := by
  unfold markedNames Marks
  split
  · rename_i props hprops
    simp only [hprops, Option.some.injEq, Json.obj.injEq, List.mem_map, List.mem_filter]
    constructor
    · rintro ⟨⟨name, v⟩, ⟨hmem, hmarked⟩, rfl⟩
      obtain ⟨property, rfl⟩ := isObject_of_isMarked hmarked
      obtain ⟨mark, hmark, hvalue⟩ := isMarked_obj_iff.1 hmarked
      exact ⟨props, property, mark, rfl, hmem, hmark, hvalue⟩
    · rintro ⟨_, property, mark, rfl, hmem, hmark⟩
      exact ⟨(name, .obj property), ⟨hmem, isMarked_obj_iff.2 ⟨mark, hmark⟩⟩, rfl⟩
  · rename_i hother
    refine iff_of_false List.not_mem_nil ?_
    rintro ⟨props, _, _, hprops, -⟩
    exact hother props hprops

theorem markedNames_sublist (fields : Fields) :
    (markedNames (Assoc.get? "properties" fields)).Sublist (propertyNames fields) := by
  unfold markedNames
  split
  · rename_i props hprops
    have hnames : propertyNames fields = props.map Prod.fst := by
      rw [propertyNames, hprops]
    rw [hnames]
    exact List.filter_sublist.map _
  · exact List.nil_sublist _

theorem requirements_expanded (names : List String) (fields : Fields) :
    Assoc.get? "required" (completed names (expandFields fields)) = written names ∧
      Assoc.get? "!required" (completed names (expandFields fields)) = none := by
  constructor
  · rw [get?_expanded, if_neg (by simp), if_pos rfl]
  · rw [get?_expanded, if_neg (by simp), if_neg (by decide), if_pos (by decide)]

theorem unmarked_expand (h : expand v = .obj out) : Assoc.get? "!required" out = none := by
  cases v with
  | obj fields =>
    cases h
    exact (requirements_expanded _ fields).2
  | str s =>
    rw [expand, ofText] at h
    split at h
    · cases h
      rfl
    · cases h
      rfl
  | null =>
    cases h
    rfl
  | bool _ | num _ | arr _ => cases h

/-- Wherever a walk leads to an object schema, its explicit form requires the names that it lists
and after them, in their order and once each, those of the properties that are marked and not
listed; without any there is no such list. Wherever a walk through the explicit form leads, no mark
is left. -/
theorem requirements_everywhere (walk : List Step) (v : Json) :
    (∀ fields, schemaAt? walk v = some (.obj fields) → ∃ out moved,
      schemaAt? walk (expand v) = some (.obj out) ∧
      Assoc.get? "required" out = written (requiredNames fields ++ moved) ∧
      moved.Nodup ∧ moved.Sublist (propertyNames fields) ∧
      ∀ name, name ∈ moved ↔ Marks fields name ∧ name ∉ requiredNames fields) ∧
    ∀ out, schemaAt? walk (expand v) = some (.obj out) → Assoc.get? "!required" out = none := by
  constructor
  · intro fields hfields
    obtain ⟨moved, heq, hnodup, hsub, hmem⟩ :=
      exists_addNames (requiredNames fields) (markedNames (Assoc.get? "properties" fields))
    refine ⟨completed (required fields) (expandFields fields), moved, ?_, ?_, hnodup,
      hsub.trans (markedNames_sublist fields), ?_⟩
    · obtain hwalk | ⟨hnone, -⟩ := schemaAt?_expand walk v
      · rw [hwalk, hfields]
        rfl
      · cases hnone.symm.trans hfields
    · rw [(requirements_expanded _ fields).1, required, heq]
    · intro name
      rw [hmem, mem_markedNames]
  · intro out hout
    obtain hwalk | ⟨-, hclosed⟩ := schemaAt?_expand walk v
    · rw [hwalk] at hout
      obtain ⟨u, -, hu⟩ := Option.map_eq_some_iff.1 hout
      exact unmarked_expand hu
    · cases hclosed.symm.trans hout

/-- An order: two names are listed, of three properties that are marked one is listed and the mark
of another is `false`. -/
def orderFields : Fields := [
  ("properties", .obj [
    ("article", .obj [("!required", .bool true), ("type", .str "string")]),
    ("color", .obj [("!required", .bool false), ("type", .str "string")]),
    ("count", .obj [("!required", .bool true), ("type", .str "integer")])]),
  ("required", .arr [.str "count", .str "number"]),
  ("type", .str "object")]

def ordersSchema : Json := .obj [("items", .obj orderFields), ("type", .str "array")]

/-- An order requires what is listed, and after it the article. -/
theorem order_required :
    ∃ out, schemaAt? [.items] (expand ordersSchema) = some (.obj out) ∧
      Assoc.get? "required" out = written ["count", "number", "article"] ∧
      Assoc.get? "!required" out = none := by
  obtain ⟨hlists, hunmarked⟩ := requirements_everywhere [.items] ordersSchema
  obtain ⟨out, moved, hout, hrequired, hnodup, -, hmem⟩ := hlists orderFields rfl
  have hmarked : markedNames (Assoc.get? "properties" orderFields) = ["article", "count"] := rfl
  have hlisted : requiredNames orderFields = ["count", "number"] := rfl
  have hmoved : moved = ["article"] := by
    apply List.perm_singleton.1
    refine (List.perm_ext_iff_of_nodup hnodup (by decide)).2 ?_
    intro name
    rw [hmem, ← mem_markedNames, hmarked, hlisted]
    grind
  rw [hmoved, hlisted] at hrequired
  exact ⟨out, hout, hrequired, hunmarked out hout⟩

end Caseflow.Schema.Shorthand
