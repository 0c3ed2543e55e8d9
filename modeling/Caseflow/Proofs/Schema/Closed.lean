import Caseflow.Proofs.Json.Ordered
import Caseflow.Schema.Shorthand

/-!
# Schemas expanded twice

The explicit form of a schema is explicit again, except that a bare type name `object` stands for an
open schema, which a second expansion closes. So expanding an expanded schema changes nothing
exactly if all object schemas in it are closed.
-/
namespace Caseflow.Schema.Shorthand

variable {key : String} {v w : Json} {fields entries : Fields} {names : List String}

mutual

/-- Whether every object schema in a schema says what other properties there may be. -/
def closed : Json → Bool
  | .obj fields => !isOpen fields && closedFields fields
  | _ => true

def closedFields : List (String × Json) → Bool
  | [] => true
  | (key, value) :: rest => closedAt key value && closedFields rest

def closedAt (key : String) : Json → Bool
  | .obj entries =>
    if holdsEntries key then closedEntries entries
    else if holdsSchema key then !isOpen entries && closedFields entries
    else true
  | .arr items => if holdsItems key then closedItems items else true
  | _ => true

def closedItems : List Json → Bool
  | [] => true
  | v :: vs => closed v && closedItems vs

def closedEntries : List (String × Json) → Bool
  | [] => true
  | (_, v) :: rest => closed v && closedEntries rest

end

theorem closedFields_iff : closedFields fields = true ↔ ∀ p ∈ fields, closedAt p.1 p.2 = true := by
  induction fields with
  | nil => simp [closedFields]
  | cons p rest ih => simp [closedFields, ih]

theorem closedItems_iff {items : List Json} :
    closedItems items = true ↔ ∀ v ∈ items, closed v = true := by
  induction items with
  | nil => simp [closedItems]
  | cons v rest ih => simp [closedItems, ih]

theorem closedEntries_iff : closedEntries entries = true ↔ ∀ p ∈ entries, closed p.2 = true := by
  induction entries with
  | nil => simp [closedEntries]
  | cons p rest ih => simp [closedEntries, ih]

theorem expandItems_eq_map (items : List Json) : expandItems items = items.map expand := by
  induction items with
  | nil => rfl
  | cons v rest ih => rw [expandItems, ih, List.map_cons]

theorem expandEntries_eq_map (entries : Fields) :
    expandEntries entries = entries.map fun p => (p.1, expand p.2) := by
  induction entries with
  | nil => rfl
  | cons p rest ih => rw [expandEntries, ih, List.map_cons]

theorem get?_expandFields (key : String) (fields : Fields) :
    Assoc.get? key (expandFields fields) =
      if isRequirement key then none else (Assoc.get? key fields).map (expandAt key) := by
  induction fields with
  | nil => simp [expandFields]
  | cons p rest ih =>
    obtain ⟨k, v⟩ := p
    rw [expandFields]
    by_cases hk : k = key
    · subst hk
      split
      · rename_i hreq
        rw [ih, if_pos hreq]
      · simp [Assoc.get?]
    · have hrest : Assoc.get? key ((k, v) :: rest) = Assoc.get? key rest := by
        simp [Assoc.get?, hk]
      split
      · rw [ih, hrest]
      · rw [hrest, ← ih]
        simp [Assoc.get?, hk]

theorem keysAscend_expandFields (h : KeysAscend fields) : KeysAscend (expandFields fields) := by
  have hkeys {fields : Fields} {q : String × Json} (hq : q ∈ expandFields fields) :
      ∃ v, (q.1, v) ∈ fields := by
    induction fields with
    | nil => cases hq
    | cons p rest ih =>
      obtain ⟨k, v⟩ := p
      rw [expandFields] at hq
      split at hq
      · obtain ⟨v, hv⟩ := ih hq
        exact ⟨v, List.mem_cons_of_mem _ hv⟩
      · obtain rfl | hq := List.mem_cons.1 hq
        · exact ⟨v, List.mem_cons_self⟩
        · obtain ⟨v, hv⟩ := ih hq
          exact ⟨v, List.mem_cons_of_mem _ hv⟩
  induction fields with
  | nil => exact h
  | cons p rest ih =>
    obtain ⟨k, v⟩ := p
    obtain ⟨hhead, htail⟩ := List.pairwise_cons.1 h
    rw [expandFields]
    split
    · exact ih htail
    · refine List.pairwise_cons.2 ⟨?_, ih htail⟩
      intro q hq
      obtain ⟨w, hw⟩ := hkeys hq
      exact hhead (q.1, w) hw

theorem keysAscend_completed (h : KeysAscend fields) : KeysAscend (completed names fields) := by
  have hlisted : KeysAscend (listed names fields) := by
    unfold listed
    split
    · exact h
    · exact h.insert
  unfold completed
  dsimp only
  split
  · exact hlisted.insert
  · exact hlisted

def written (names : List String) : Option Json :=
  if names.isEmpty then none else some (.arr (names.map .str))

theorem get?_listed (names : List String) (key : String) (fields : Fields) :
    Assoc.get? key (listed names fields) =
      if key = "required" then (written names).or (Assoc.get? key fields)
      else Assoc.get? key fields := by
  unfold listed written
  split
  · simp
  · rw [Assoc.get?_insert]
    simp [eq_comm]

theorem isOpen_congr {more : Fields} (htype : Assoc.get? "type" fields = Assoc.get? "type" more)
    (hother : Assoc.contains "additionalProperties" fields =
      Assoc.contains "additionalProperties" more) : isOpen fields = isOpen more := by
  unfold isOpen isObjectType
  rw [htype, hother]

@[simp] theorem isOpen_listed (names : List String) (fields : Fields) :
    isOpen (listed names fields) = isOpen fields := by
  apply isOpen_congr
  · rw [get?_listed, if_neg (by decide)]
  · rw [Assoc.contains, get?_listed, if_neg (by decide), Assoc.contains]

theorem get?_completed (names : List String) (key : String) (fields : Fields) :
    Assoc.get? key (completed names fields) =
      if key = "additionalProperties" ∧ isOpen fields = true then some (.bool false)
      else Assoc.get? key (listed names fields) := by
  unfold completed
  dsimp only
  rw [isOpen_listed]
  split
  · rename_i hopen
    rw [Assoc.get?_insert]
    simp [hopen, eq_comm]
  · rename_i hopen
    simp [hopen]

def isPlain (key : String) : Bool := !holdsEntries key && !holdsSchema key && !holdsItems key

theorem expandAt_of_isPlain (h : isPlain key = true) (v : Json) : expandAt key v = v := by
  simp only [isPlain, Bool.and_eq_true, Bool.not_eq_true'] at h
  cases v <;> simp [expandAt, h]

theorem closedAt_of_isPlain (h : isPlain key = true) (v : Json) : closedAt key v = true := by
  simp only [isPlain, Bool.and_eq_true, Bool.not_eq_true'] at h
  cases v <;> simp [closedAt, h]

theorem isPlain_of_isRequirement (h : isRequirement key = true) : isPlain key = true := by
  simp only [isRequirement, Bool.or_eq_true, beq_iff_eq] at h
  obtain rfl | rfl := h
  · decide
  · decide

@[simp] theorem isOpen_expandFields (fields : Fields) :
    isOpen (expandFields fields) = isOpen fields := by
  apply isOpen_congr
  · rw [get?_expandFields, if_neg (by decide)]
    cases Assoc.get? "type" fields with
    | none => rfl
    | some v => exact congrArg some (expandAt_of_isPlain (by decide) v)
  · rw [Assoc.contains, get?_expandFields, if_neg (by decide), Option.isSome_map, Assoc.contains]

theorem ne_required (h : isRequirement key = false) : key ≠ "required" := by
  rintro rfl
  exact absurd h (by decide)

/-- What is read in the explicit form of an object schema. -/
theorem get?_expanded (names : List String) (key : String) (fields : Fields) :
    Assoc.get? key (completed names (expandFields fields)) =
      if key = "additionalProperties" ∧ isOpen fields = true then some (.bool false)
      else if key = "required" then written names
      else if isRequirement key then none
      else (Assoc.get? key fields).map (expandAt key) := by
  rw [get?_completed, isOpen_expandFields, get?_listed, get?_expandFields]
  by_cases hreq : key = "required"
  · subst hreq
    simp [isRequirement]
  · simp [hreq]

theorem get?_expanded_of_ne (names : List String) (hother : key ≠ "additionalProperties")
    (hreq : isRequirement key = false) (fields : Fields) :
    Assoc.get? key (completed names (expandFields fields)) =
      (Assoc.get? key fields).map (expandAt key) := by
  rw [get?_expanded, if_neg (fun hboth => hother hboth.1), if_neg (ne_required hreq), hreq,
    if_neg Bool.false_ne_true]

/-- When an object schema is expanded already: there is no mark, the required names are listed, it
is closed, and so is what its other keywords hold. -/
theorem expand_obj_eq_iff (hfields : KeysAscend fields) :
    expand (.obj fields) = .obj fields ↔
      Assoc.get? requiredMark fields = none ∧
      Assoc.get? "required" fields = written (required fields) ∧
      isOpen fields = false ∧
      ∀ key v, Assoc.get? key fields = some v → isRequirement key = false →
        expandAt key v = v := by
  have hread := fun key => get?_expanded (required fields) key fields
  rw [expand, Json.obj.injEq]
  constructor
  · intro h
    rw [h] at hread
    have hopen : isOpen fields = false := by
      rw [Bool.eq_false_iff]
      intro hopen
      have hother := hread "additionalProperties"
      rw [if_pos ⟨rfl, hopen⟩] at hother
      simp [isOpen, Assoc.contains, hother] at hopen
    have hclosed (key : String) : ¬ (key = "additionalProperties" ∧ isOpen fields = true) := by
      simp [hopen]
    refine ⟨?_, ?_, hopen, ?_⟩
    · rw [hread, if_neg (hclosed _), if_neg (by decide), if_pos (by decide)]
    · rw [hread, if_neg (hclosed _), if_pos rfl]
    · intro key v hv hreq
      have hvalue := hread key
      rw [if_neg (hclosed _), if_neg (ne_required hreq), hreq, if_neg Bool.false_ne_true, hv]
        at hvalue
      exact (Option.some.inj hvalue).symm
  · rintro ⟨hmark, hrequired, hopen, hother⟩
    apply Assoc.ext_get? (keysAscend_completed (keysAscend_expandFields hfields)) hfields
    intro key
    rw [hread, if_neg (by simp [hopen])]
    split
    · rename_i hreq
      rw [hreq, hrequired]
    · rename_i hne
      split
      · rename_i hreq
        have hkey : key = requiredMark := by simpa [isRequirement, hne] using hreq
        rw [hkey, hmark]
      · rename_i hreq
        cases hv : Assoc.get? key fields with
        | none => rfl
        | some v => exact congrArg some (hother key v hv (Bool.eq_false_iff.2 hreq))

/-- Whether a schema settles: it is explicit, up to schemas in it that are open. -/
def Settles (v : Json) : Prop := expand v = v ↔ closed v = true

def SettlesAt (key : String) (v : Json) : Prop := expandAt key v = v ↔ closedAt key v = true

theorem settlesAt_of_isPlain (h : isPlain key = true) (v : Json) : SettlesAt key v :=
  iff_of_true (expandAt_of_isPlain h v) (closedAt_of_isPlain h v)

/-- What the fields of an explicit schema are like. -/
structure Explicit (fields : Fields) : Prop where
  ascend : KeysAscend fields
  unmarked : Assoc.get? requiredMark fields = none
  written_eq : Assoc.get? "required" fields = written (required fields)
  settles : ∀ key v, Assoc.get? key fields = some v → SettlesAt key v
  properties : ∀ props, Assoc.get? "properties" fields = some (.obj props) →
    ∀ p ∈ props, isMarked p.2 = false ∧ Settles p.2

theorem Explicit.settles_obj (h : Explicit fields) : Settles (.obj fields) := by
  rw [Settles, expand_obj_eq_iff h.ascend, closed, Bool.and_eq_true, Bool.not_eq_true',
    closedFields_iff]
  constructor
  · rintro ⟨-, -, hopen, hother⟩
    refine ⟨hopen, ?_⟩
    intro p hp
    have hv := (Assoc.get?_eq_some_iff_mem h.ascend).2 hp
    apply (h.settles p.1 p.2 hv).1
    cases hreq : isRequirement p.1 with
    | false => exact hother p.1 p.2 hv hreq
    | true => exact expandAt_of_isPlain (isPlain_of_isRequirement hreq) p.2
  · rintro ⟨hopen, hclosed⟩
    refine ⟨h.unmarked, h.written_eq, hopen, ?_⟩
    intro key v hv _
    exact (h.settles key v hv).2 (hclosed _ (Assoc.mem_of_get? hv))

theorem isMarked_expand (v : Json) : isMarked (expand v) = false := by
  cases v with
  | null => rfl
  | bool b => rfl
  | num n => rfl
  | str s =>
    rw [expand, ofText]
    split
    · rfl
    · rfl
  | arr items => rfl
  | obj fields =>
    have hnone : Assoc.get? requiredMark (completed (required fields) (expandFields fields)) =
        none := by
      rw [get?_expanded, if_neg (by simp [requiredMark]), if_neg (by decide), if_pos (by decide)]
    rw [expand, isMarked, hnone]

theorem markedNames_of_unmarked {v : Option Json}
    (h : ∀ props, v = some (.obj props) → ∀ p ∈ props, isMarked p.2 = false) :
    markedNames v = [] := by
  unfold markedNames
  split
  · rw [List.map_eq_nil_iff, List.filter_eq_nil_iff]
    intro p hp
    simp [h _ rfl p hp]
  · rfl

/-- Required names that are written and not marked are all there are. -/
theorem required_of_written (hwritten : Assoc.get? "required" fields = written names)
    (hunmarked : ∀ props, Assoc.get? "properties" fields = some (.obj props) →
      ∀ p ∈ props, isMarked p.2 = false) : required fields = names := by
  have hlisted : requiredNames fields = names := by
    rw [requiredNames, hwritten]
    by_cases hempty : names = []
    · rw [hempty]
      rfl
    · simp [written, hempty, List.filterMap_map, Function.comp_def, Json.asString?]
  rw [required, hlisted, markedNames_of_unmarked hunmarked]
  rfl

theorem expandAt_properties_eq_obj {props : Fields} (h : expandAt "properties" v = .obj props) :
    ∃ own, v = .obj own ∧ props = expandEntries own := by
  cases v with
  | obj own =>
    have hholds : holdsEntries "properties" = true := by decide
    rw [expandAt, if_pos hholds] at h
    exact ⟨own, rfl, (Json.obj.inj h).symm⟩
  | null | bool _ | num _ | str _ | arr _ => cases h

theorem explicit_completed (hfields : KeysAscend fields)
    (hvalues : ∀ p ∈ fields, SettlesAt p.1 (expandAt p.1 p.2) ∧
      ∀ props, p.2 = .obj props → ∀ q ∈ props, Settles (expand q.2)) :
    Explicit (completed (required fields) (expandFields fields)) := by
  have hread := fun key => get?_expanded (required fields) key fields
  have hprops : ∀ props,
      Assoc.get? "properties" (completed (required fields) (expandFields fields)) =
        some (.obj props) → ∀ p ∈ props, isMarked p.2 = false ∧ Settles p.2 := by
    intro props hget p hp
    rw [hread, if_neg (by simp), if_neg (by decide), if_neg (by decide)] at hget
    obtain ⟨v, hv, hobj⟩ := Option.map_eq_some_iff.1 hget
    obtain ⟨own, rfl, rfl⟩ := expandAt_properties_eq_obj hobj
    rw [expandEntries_eq_map] at hp
    obtain ⟨q, hq, rfl⟩ := List.mem_map.1 hp
    exact ⟨isMarked_expand q.2, (hvalues _ (Assoc.mem_of_get? hv)).2 own rfl q hq⟩
  refine ⟨keysAscend_completed (keysAscend_expandFields hfields), ?_, ?_, ?_, hprops⟩
  · rw [hread, if_neg (by simp [requiredMark]), if_neg (by decide), if_pos (by decide)]
  · have hwritten := hread "required"
    rw [if_neg (by simp), if_pos rfl] at hwritten
    rw [hwritten, required_of_written hwritten fun props hget p hp => (hprops props hget p hp).1]
  · intro key v hv
    rw [hread] at hv
    split at hv
    · rename_i hclosed
      cases hv
      exact iff_of_true rfl rfl
    · split at hv
      · rename_i hreq
        exact settlesAt_of_isPlain (isPlain_of_isRequirement (by simp [hreq, isRequirement])) v
      · split at hv
        · cases hv
        · obtain ⟨w, hw, rfl⟩ := Option.map_eq_some_iff.1 hv
          exact (hvalues _ (Assoc.mem_of_get? hw)).1

theorem explicit_singleton (h : isPlain key = true) (hreq : isRequirement key = false) (v : Json) :
    Explicit [(key, v)] := by
  have hread {other : String} (hother : other ≠ key) : Assoc.get? other [(key, v)] = none := by
    simp [Assoc.get?, Ne.symm hother]
  simp only [isRequirement, Bool.or_eq_false_iff, beq_eq_false_iff_ne] at hreq
  have hprops : ∀ props, Assoc.get? "properties" [(key, v)] = some (.obj props) →
      ∀ p ∈ props, isMarked p.2 = false ∧ Settles p.2 := by
    intro props hget
    rw [hread] at hget
    · cases hget
    · rintro rfl
      exact absurd h (by decide)
  refine ⟨List.pairwise_singleton _ _, hread (Ne.symm hreq.2), ?_, ?_, hprops⟩
  · have hwritten : Assoc.get? "required" [(key, v)] = written [] := hread (Ne.symm hreq.1)
    rw [hwritten, required_of_written hwritten fun props hget p hp => (hprops props hget p hp).1]
  · intro other w hw
    have hmem := Assoc.mem_of_get? hw
    rw [List.mem_singleton] at hmem
    cases hmem
    exact settlesAt_of_isPlain h v

theorem settles_ofText (s : String) : Settles (ofText s) := by
  unfold ofText
  split
  · exact (explicit_singleton (by decide) (by decide) _).settles_obj
  · exact (explicit_singleton (by decide) (by decide) _).settles_obj

theorem holdsEntries_of_holdsSchema (h : holdsSchema key = true) : holdsEntries key = false := by
  simp only [holdsSchema, List.contains_cons, List.contains_nil, Bool.or_false, Bool.or_eq_true,
    beq_iff_eq] at h
  obtain rfl | rfl := h
  · decide
  · decide

theorem settlesAt_of_holdsSchema (hkey : holdsSchema key = true) (h : Settles (.obj fields)) :
    SettlesAt key (.obj fields) := by
  rw [SettlesAt, expandAt, closedAt, holdsEntries_of_holdsSchema hkey, if_neg Bool.false_ne_true,
    if_neg Bool.false_ne_true, if_pos hkey, if_pos hkey]
  exact h

theorem settlesAt_of_holdsEntries (hkey : holdsEntries key = true)
    (h : ∀ p ∈ entries, Settles p.2) : SettlesAt key (.obj entries) := by
  rw [SettlesAt, expandAt, closedAt, if_pos hkey, if_pos hkey, Json.obj.injEq, expandEntries_eq_map,
    closedEntries_iff]
  exact (Assoc.mapWithKey_eq_self_iff (f := fun _ => expand)).trans (forall₂_congr h)

theorem settlesAt_of_holdsItems {items : List Json} (hkey : holdsItems key = true)
    (h : ∀ v ∈ items, Settles v) : SettlesAt key (.arr items) := by
  rw [SettlesAt, expandAt, closedAt, if_pos hkey, if_pos hkey, Json.arr.injEq, expandItems_eq_map,
    closedItems_iff, map_eq_self_iff]
  exact forall₂_congr h

mutual

theorem settles_expand (v : Json) (h : v.ordered = true) : Settles (expand v) := by
  match v with
  | .null => exact iff_of_true rfl rfl
  | .bool b => exact iff_of_true rfl rfl
  | .num n => exact iff_of_true rfl rfl
  | .str s => exact settles_ofText s
  | .arr items => exact iff_of_true rfl rfl
  | .obj fields =>
    obtain ⟨hascend, hordered⟩ := Json.ordered_obj_iff.1 h
    exact (explicit_completed hascend (settles_expandFields fields hordered)).settles_obj

theorem settles_expandFields (fields : List (String × Json))
    (h : ∀ p ∈ fields, p.2.ordered = true) :
    ∀ p ∈ fields, SettlesAt p.1 (expandAt p.1 p.2) ∧
      ∀ props, p.2 = .obj props → ∀ q ∈ props, Settles (expand q.2) := by
  match fields with
  | [] => exact fun _ hp => nomatch hp
  | (key, v) :: rest =>
    obtain ⟨hv, hrest⟩ := List.forall_mem_cons.1 h
    exact List.forall_mem_cons.2 ⟨settles_expandAt key v hv, settles_expandFields rest hrest⟩

theorem settles_expandAt (key : String) (v : Json) (h : v.ordered = true) :
    SettlesAt key (expandAt key v) ∧
      ∀ props, v = .obj props → ∀ q ∈ props, Settles (expand q.2) := by
  match v with
  | .null =>
    refine ⟨?_, fun _ hobj => nomatch hobj⟩
    rw [expandAt]
    split
    · rename_i hkey
      exact settlesAt_of_holdsSchema hkey (iff_of_true rfl rfl)
    · rename_i hkey
      exact iff_of_true (if_neg hkey) rfl
  | .bool b => exact ⟨iff_of_true rfl rfl, fun _ hobj => nomatch hobj⟩
  | .num n => exact ⟨iff_of_true rfl rfl, fun _ hobj => nomatch hobj⟩
  | .str s =>
    refine ⟨?_, fun _ hobj => nomatch hobj⟩
    rw [expandAt]
    split
    · rename_i hkey
      have hsettles := settles_ofText s
      obtain ⟨fields, hfields⟩ : ∃ fields, ofText s = .obj fields := by
        unfold ofText
        split
        · exact ⟨_, rfl⟩
        · exact ⟨_, rfl⟩
      rw [hfields] at hsettles ⊢
      exact settlesAt_of_holdsSchema hkey hsettles
    · rename_i hkey
      exact iff_of_true (if_neg hkey) rfl
  | .arr items =>
    refine ⟨?_, fun _ hobj => nomatch hobj⟩
    have hitems := settles_expandItems items (Json.ordered_arr_iff.1 h)
    rw [expandAt]
    split
    · rename_i hkey
      apply settlesAt_of_holdsItems hkey
      rw [expandItems_eq_map]
      exact List.forall_mem_map.2 hitems
    · rename_i hkey
      exact iff_of_true (if_neg hkey) (if_neg hkey)
  | .obj entries =>
    obtain ⟨hascend, hordered⟩ := Json.ordered_obj_iff.1 h
    have hentries := settles_expandEntries entries hordered
    have hfields := settles_expandFields entries hordered
    refine ⟨?_, ?_⟩
    · rw [expandAt]
      split
      · rename_i hkey
        apply settlesAt_of_holdsEntries hkey
        rw [expandEntries_eq_map]
        exact List.forall_mem_map.2 hentries
      · rename_i hentry
        split
        · rename_i hkey
          exact settlesAt_of_holdsSchema hkey (explicit_completed hascend hfields).settles_obj
        · rename_i hkey
          rw [SettlesAt, expandAt, closedAt, if_neg hentry, if_neg hentry, if_neg hkey, if_neg hkey]
          exact iff_of_true rfl rfl
    · rintro _ ⟨⟩
      exact hentries

theorem settles_expandItems (items : List Json) (h : ∀ v ∈ items, v.ordered = true) :
    ∀ v ∈ items, Settles (expand v) := by
  match items with
  | [] => exact fun _ hv => nomatch hv
  | v :: rest =>
    obtain ⟨hv, hrest⟩ := List.forall_mem_cons.1 h
    exact List.forall_mem_cons.2 ⟨settles_expand v hv, settles_expandItems rest hrest⟩

theorem settles_expandEntries (entries : List (String × Json))
    (h : ∀ p ∈ entries, p.2.ordered = true) : ∀ p ∈ entries, Settles (expand p.2) := by
  match entries with
  | [] => exact fun _ hp => nomatch hp
  | (_, v) :: rest =>
    obtain ⟨hv, hrest⟩ := List.forall_mem_cons.1 h
    exact List.forall_mem_cons.2 ⟨settles_expand v hv, settles_expandEntries rest hrest⟩

end

end Caseflow.Schema.Shorthand
