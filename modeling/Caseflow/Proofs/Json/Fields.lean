import Caseflow.Dict

/-!
# Fields in ascending order

In ascending order of keys, fields are what reading finds in them, and inserting them one after
another puts them back.
-/
namespace Caseflow

variable {α β : Type} {key : String} {value : α} {pairs more : List (String × α)}

theorem map_eq_self_iff {f : α → α} {xs : List α} : xs.map f = xs ↔ ∀ x ∈ xs, f x = x := by
  have h : xs.map f = xs.map (fun x => x) ↔ ∀ x ∈ xs, f x = x := List.map_eq_map_iff
  rwa [List.map_id'] at h

namespace Assoc

theorem mapWithKey_eq_self_iff {f : String → α → α} :
    (pairs.map fun p => (p.1, f p.1 p.2)) = pairs ↔ ∀ p ∈ pairs, f p.1 p.2 = p.2 :=
  map_eq_self_iff.trans (forall₂_congr fun _ _ => Prod.ext_iff.trans (and_iff_right rfl))

theorem mem_of_get? (h : get? key pairs = some value) : (key, value) ∈ pairs := by
  induction pairs with
  | nil => cases h
  | cons p rest ih =>
    obtain ⟨k, v⟩ := p
    unfold get? at h
    split at h
    · rename_i hkey
      cases h
      rw [hkey]
      exact List.mem_cons_self
    · exact List.mem_cons_of_mem _ (ih h)

theorem get?_mapWithKey (f : String → α → β) (key : String) (pairs : List (String × α)) :
    get? key (pairs.map fun p => (p.1, f p.1 p.2)) = (get? key pairs).map (f key) := by
  induction pairs with
  | nil => rfl
  | cons p rest ih =>
    rw [List.map_cons, get?, get?]
    split
    · rename_i hkey
      rw [hkey]
      rfl
    · exact ih

theorem get?_map (f : α → β) (key : String) (pairs : List (String × α)) :
    get? key (pairs.map fun p => (p.1, f p.2)) = (get? key pairs).map f :=
  get?_mapWithKey (fun _ => f) key pairs

theorem contains_iff : contains key pairs = true ↔ ∃ value, get? key pairs = some value :=
  Option.isSome_iff_exists

theorem contains_of_mem {p : String × α} (h : p ∈ pairs) : contains p.1 pairs = true := by
  induction pairs with
  | nil => cases h
  | cons q rest ih =>
    rw [contains, get?]
    split
    · rfl
    · rename_i hne
      obtain rfl | hrest := List.mem_cons.1 h
      · exact absurd rfl hne
      · exact ih hrest

theorem get?_of_below (h : ∀ p ∈ pairs, key < p.1) : get? key pairs = none := by
  rw [Option.eq_none_iff_forall_ne_some]
  intro v hv
  exact Std.lt_irrefl (h _ (mem_of_get? hv))

/-- Ascending fields in which the same is read are the same. -/
theorem ext_get? (hpairs : KeysAscend pairs) (hmore : KeysAscend more)
    (h : ∀ k, get? k pairs = get? k more) : pairs = more := by
  induction pairs generalizing more with
  | nil =>
    cases more with
    | nil => rfl
    | cons q rest =>
      have hq := h q.1
      simp [get?] at hq
  | cons p rest ih =>
    cases more with
    | nil =>
      have hp := h p.1
      simp [get?] at hp
    | cons q others =>
      obtain ⟨hhead, htail⟩ := List.pairwise_cons.1 hpairs
      obtain ⟨hhead', htail'⟩ := List.pairwise_cons.1 hmore
      have hp := (get?_eq_some_iff_mem hmore).1
        ((h p.1).symm.trans ((get?_eq_some_iff_mem hpairs).2 List.mem_cons_self))
      have hq := (get?_eq_some_iff_mem hpairs).1
        ((h q.1).trans ((get?_eq_some_iff_mem hmore).2 List.mem_cons_self))
      have heq : p = q := by
        obtain hsame | hlater := List.mem_cons.1 hp
        · exact hsame
        · obtain hsame' | hlater' := List.mem_cons.1 hq
          · exact hsame'.symm
          · exact absurd (String.lt_trans (hhead' p hlater) (hhead q hlater')) Std.lt_irrefl
      subst heq
      have hrest : rest = others := by
        apply ih htail htail'
        intro k
        by_cases hk : p.1 = k
        · rw [← hk, get?_of_below hhead, get?_of_below hhead']
        · have hk' := h k
          simpa [get?, hk] using hk'
      rw [hrest]

theorem mem_insert {p : String × α} (h : p ∈ insert key value pairs) :
    p = (key, value) ∨ p ∈ pairs := by
  induction pairs with
  | nil => exact .inl (List.mem_singleton.1 h)
  | cons q rest ih =>
    obtain ⟨k, v⟩ := q
    rw [insert] at h
    split at h
    · exact (List.mem_cons.1 h).imp_right (List.mem_cons_of_mem _)
    · split at h
      · exact List.mem_cons.1 h
      · obtain hhead | hrest := List.mem_cons.1 h
        · exact .inr (hhead ▸ List.mem_cons_self)
        · exact (ih hrest).imp_right (List.mem_cons_of_mem _)

/-- The keys before a pair are less than its key, and those after it greater. -/
theorem ascend_split (h : KeysAscend (pairs ++ (key, value) :: more)) :
    (∀ p ∈ pairs, p.1 < key) ∧ ∀ p ∈ more, key < p.1 := by
  obtain ⟨-, hrest, hbefore⟩ := List.pairwise_append.1 h
  exact ⟨fun p hp => hbefore p hp _ List.mem_cons_self, (List.pairwise_cons.1 hrest).1⟩

/-- In ascending order, a pair is found if none with a lesser key is accepted. -/
theorem find?_of_first {accepts : String × α → Bool} (h : KeysAscend pairs)
    (hmem : (key, value) ∈ pairs) (haccepts : accepts (key, value) = true)
    (hfirst : ∀ p ∈ pairs, p.1 < key → accepts p = false) :
    pairs.find? accepts = some (key, value) := by
  obtain ⟨before, more, rfl⟩ := List.mem_iff_append.1 hmem
  obtain ⟨hbefore, -⟩ := ascend_split h
  refine List.find?_eq_some_iff_append.2 ⟨haccepts, before, more, rfl, ?_⟩
  intro p hp
  rw [hfirst p (List.mem_append_left _ hp) (hbefore p hp), Bool.not_false]

theorem insert_of_get? (hpairs : KeysAscend pairs) (h : get? key pairs = some value) :
    insert key value pairs = pairs := by
  apply ext_get? hpairs.insert hpairs
  intro k
  rw [get?_insert]
  split
  · rename_i hk
    rw [← hk, h]
  · rfl

theorem get?_erase_of_ne {other : String} (h : key ≠ other) (pairs : List (String × α)) :
    get? other (erase key pairs) = get? other pairs := by
  induction pairs with
  | nil => rfl
  | cons p rest ih =>
    by_cases hp : p.1 = key
    · have hne : p.1 ≠ other := hp ▸ h
      rw [erase, if_pos hp, get?, if_neg hne]
    · rw [erase, if_neg hp, get?, get?, ih]

theorem erase_map (f : α → β) (key : String) (pairs : List (String × α)) :
    erase key (pairs.map fun p => (p.1, f p.2)) =
      (erase key pairs).map fun p => (p.1, f p.2) := by
  induction pairs with
  | nil => rfl
  | cons p rest ih =>
    rw [List.map_cons, erase, erase]
    split
    · rfl
    · rw [ih, List.map_cons]

theorem erase_subset (key : String) (pairs : List (String × α)) : erase key pairs ⊆ pairs := by
  induction pairs with
  | nil => exact List.Subset.refl _
  | cons p rest ih =>
    rw [erase]
    split
    · exact List.subset_cons_self _ _
    · exact List.cons_subset_cons _ ih

theorem keysAscend_of_keys {others : List (String × β)}
    (hkeys : others.map Prod.fst = pairs.map Prod.fst) (h : KeysAscend pairs) :
    KeysAscend others := by
  have hascend : (pairs.map Prod.fst).Pairwise (· < ·) := List.pairwise_map.2 h
  rw [← hkeys] at hascend
  exact List.pairwise_map.1 hascend

/-- In ascending order, a key is there once. -/
theorem erase_eq_filter (h : KeysAscend pairs) : erase key pairs = pairs.filter (·.1 != key) := by
  induction pairs with
  | nil => rfl
  | cons p rest ih =>
    obtain ⟨hhead, hrest⟩ := List.pairwise_cons.1 h
    by_cases hp : p.1 = key
    · have hothers : rest.filter (·.1 != key) = rest := by
        rw [List.filter_eq_self]
        intro q hq
        rw [bne_iff_ne, ← hp]
        exact (Std.ne_of_lt (hhead q hq)).symm
      rw [erase, if_pos hp, List.filter_cons_of_neg (by simp [hp]), hothers]
    · rw [erase, if_neg hp, List.filter_cons_of_pos (by simp [hp]), ih hrest]

theorem get?_filter (keeps : String → Bool) (key : String) (pairs : List (String × α)) :
    get? key (pairs.filter (keeps ·.1)) = if keeps key then get? key pairs else none := by
  induction pairs with
  | nil => simp
  | cons p rest ih =>
    rw [List.filter_cons]
    by_cases hkey : p.1 = key
    · subst hkey
      split
      · rw [get?, get?, if_pos rfl, if_pos rfl]
      · rename_i hdrops
        rw [ih, if_neg hdrops]
    · split
      · rw [get?, if_neg hkey, ih, get?, if_neg hkey]
      · rw [ih, get?, if_neg hkey]

theorem get?_erase (h : KeysAscend pairs) (key other : String) :
    get? other (erase key pairs) = if key = other then none else get? other pairs := by
  rw [erase_eq_filter h, get?_filter (· != key)]
  by_cases hother : key = other
  · simp [hother]
  · simp [hother, Ne.symm hother]

theorem keysAscend_erase (h : KeysAscend pairs) : KeysAscend (erase key pairs) := by
  rw [erase_eq_filter h]
  exact h.filter _

/-- What is read where pairs are put over others one by one, each joined with what was there. -/
theorem get?_foldl_insert (join : String → Option α → α → α) (hmore : KeysAscend more)
    (pairs : List (String × α)) (key : String) :
    get? key (more.foldl (fun acc p => insert p.1 (join p.1 (get? p.1 acc) p.2) acc) pairs) =
      ((get? key more).map (join key (get? key pairs))).or (get? key pairs) := by
  induction more generalizing pairs with
  | nil => rfl
  | cons p rest ih =>
    obtain ⟨hhead, hrest⟩ := List.pairwise_cons.1 hmore
    rw [List.foldl_cons, ih hrest, get?_insert, get?]
    by_cases hkey : p.1 = key
    · subst hkey
      rw [get?_of_below hhead, if_pos rfl, if_pos rfl]
      rfl
    · rw [if_neg hkey, if_neg hkey]

theorem keysAscend_foldl_insert (value : List (String × α) → String × α → α)
    (h : KeysAscend pairs) :
    KeysAscend (more.foldl (fun acc p => insert p.1 (value acc p) acc) pairs) := by
  induction more generalizing pairs with
  | nil => exact h
  | cons p rest ih => exact ih h.insert

theorem get?_extend (hmore : KeysAscend more) (pairs : List (String × α)) (key : String) :
    get? key (extend pairs more) = (get? key more).or (get? key pairs) := by
  have hread := get?_foldl_insert (fun _ _ value => value) hmore pairs key
  rw [Option.map_id'] at hread
  exact hread

theorem keysAscend_extend (h : KeysAscend pairs) : KeysAscend (extend pairs more) :=
  keysAscend_foldl_insert (fun _ p => p.2) h

theorem erase_insert (h : get? key pairs = none) : erase key (insert key value pairs) = pairs := by
  induction pairs with
  | nil => simp [insert, erase]
  | cons p rest ih =>
    by_cases hp : p.1 = key
    · simp [get?, hp] at h
    · rw [get?, if_neg hp] at h
      rw [insert, if_neg hp]
      split
      · simp [erase]
      · rw [erase, if_neg hp, ih h]

theorem erase_insert_self (value : α) (h : KeysAscend pairs) :
    erase key (insert key value pairs) = erase key pairs := by
  apply ext_get? (keysAscend_erase h.insert) (keysAscend_erase h)
  intro other
  rw [get?_erase h.insert, get?_erase h]
  split
  · rfl
  · rename_i hne
    rw [get?_insert_of_ne hne]

theorem filter_erase (keeps : String → Bool) (h : KeysAscend pairs) :
    (erase key pairs).filter (keeps ·.1) = erase key (pairs.filter (keeps ·.1)) := by
  rw [erase_eq_filter h, erase_eq_filter (h.filter _), List.filter_filter, List.filter_filter]
  simp only [Bool.and_comm]

theorem insert_above (h : ∀ p ∈ pairs, p.1 < key) :
    insert key value pairs = pairs ++ [(key, value)] := by
  induction pairs with
  | nil => rfl
  | cons p rest ih =>
    obtain ⟨hp, hrest⟩ := List.forall_mem_cons.1 h
    have hne : p.1 ≠ key := by
      intro heq
      rw [heq] at hp
      exact Std.lt_irrefl hp
    obtain ⟨k, v⟩ := p
    rw [insert, if_neg hne, if_neg (Std.not_lt.2 (Std.le_of_lt hp)), ih hrest, List.cons_append]

end Assoc

namespace Dict

theorem entries_ofList (h : KeysAscend pairs) : (ofList pairs).entries = pairs := by
  have step (pairs : List (String × α)) (d : Dict α) (h : KeysAscend (d.entries ++ pairs)) :
      (pairs.foldl (fun d p => d.insert p.1 p.2) d).entries = d.entries ++ pairs := by
    induction pairs generalizing d with
    | nil => exact (List.append_nil _).symm
    | cons p rest ih =>
      have happend : (d.insert p.1 p.2).entries = d.entries ++ [p] := by
        apply Assoc.insert_above
        intro q hq
        exact (List.pairwise_append.1 h).2.2 q hq p List.mem_cons_self
      rw [List.foldl_cons, ih]
      · rw [happend, List.append_assoc, List.singleton_append]
      · rw [happend, List.append_assoc, List.singleton_append]
        exact h
  exact step pairs empty h

theorem ofList_entries (d : Dict α) : ofList d.entries = d :=
  ext_entries (entries_ofList d.ascend)

theorem ext_get? {a b : Dict α} (h : ∀ key, a.get? key = b.get? key) : a = b :=
  ext_entries (Assoc.ext_get? a.ascend b.ascend h)

theorem ofFields_entries (d : Dict α) : ofFields d.entries = d :=
  ext_get? (get?_ofFields d.entries)

theorem get?_mapWithKey (f : String → α → β) (d : Dict α) (key : String) :
    (d.mapWithKey f).get? key = (d.get? key).map (f key) := Assoc.get?_mapWithKey f key d.entries

theorem get?_map (f : α → β) (d : Dict α) (key : String) :
    (d.map f).get? key = (d.get? key).map f := get?_mapWithKey (fun _ => f) d key

theorem contains_mapWithKey (f : String → α → β) (d : Dict α) (key : String) :
    (d.mapWithKey f).contains key = d.contains key := by
  rw [contains, get?_mapWithKey, Option.isSome_map, contains]

theorem mapWithKey_eq_self_iff {f : String → α → α} {d : Dict α} :
    d.mapWithKey f = d ↔ ∀ p ∈ d.entries, f p.1 p.2 = p.2 := by
  have hentries : d.mapWithKey f = d ↔ (d.mapWithKey f).entries = d.entries :=
    ⟨congrArg entries, ext_entries⟩
  exact hentries.trans Assoc.mapWithKey_eq_self_iff

theorem map_eq_self_iff {f : α → α} {d : Dict α} :
    d.map f = d ↔ ∀ p ∈ d.entries, f p.2 = p.2 := mapWithKey_eq_self_iff

end Dict
end Caseflow
