import Caseflow.Query.Eval
import Caseflow.Proofs.Outcome
import Caseflow.Regex.Search
import Mathlib.Data.List.MinMax
import Mathlib.Data.String.Basic

/-!
# Ranking items by key

Sorting goes through the keys of all items at once, the search for an extreme through one key after
another, each against the best so far. Both fail for the same items: where a key cannot be evaluated
or cannot be ranked by, or where keys of two kinds meet. Otherwise there is a function to a linear
order by which the items rank as their keys do, and both are what lists have of their own for such a
function: a stable sort, the first of the least items and the first of the greatest.
-/
namespace Caseflow.Query

variable {key : Json → Result Json} {items rest : List Json} {c : Call} {winning : Ordering}
variable {β : Type} [LinearOrder β] {f : Json → β} {regex : Regex.Engine}

/-- Numbers come in the order of their values as doubles, strings in the order of their characters;
no other two keys have an order. -/
def keyLe : Json → Json → Bool
  | .num a, .num b => decide (a.toBinary64.units ≤ b.toBinary64.units)
  | .str a, .str b => decide (a ≤ b)
  | _, _ => false

/-- Whether an item has a key that does not come after the key of another one. -/
def ranksUpTo (key : Json → Result Json) (x y : Json) : Bool :=
  match key x, key y with
  | .ok j, .ok k => keyLe j k
  | _, _ => false

def ties (key : Json → Result Json) (x y : Json) : Bool :=
  ranksUpTo key x y && ranksUpTo key y x

/-- All items have numbers for keys, or all have strings. -/
def KeysAlike (key : Json → Result Json) (items : List Json) : Prop :=
  (∀ x ∈ items, ∃ n, key x = .ok (.num n)) ∨ ∀ x ∈ items, ∃ s, key x = .ok (.str s)

/-- A key cannot be evaluated, is neither a number nor a string, or is of another kind than the key
of another item. -/
inductive Unrankable (key : Json → Result Json) (items : List Json) : Prop
  | fails {x : Json} {e : Error} (hx : x ∈ items) (h : key x = .error e)
  | unordered {x j : Json} (hx : x ∈ items) (h : key x = .ok j) (hj : isRankable j = false)
  | mixed {x y : Json} {n : Number} {s : String} (hx : x ∈ items) (hy : y ∈ items)
      (hn : key x = .ok (.num n)) (hs : key y = .ok (.str s))

/-- The items in ascending order of their keys, those with equal keys in the order they had. -/
structure SortedBy (key : Json → Result Json) (items sorted : List Json) : Prop where
  perm : sorted.Perm items
  ascends : sorted.Pairwise fun x y => ranksUpTo key x y = true
  stable : ∀ x ∈ items, sorted.filter (ties key x) = items.filter (ties key x)

/-- No item has a greater key, and none before it an equal one. -/
def IsFirstGreatest (key : Json → Result Json) (items : List Json) (x : Json) : Prop :=
  ∃ front back, items = front ++ x :: back ∧ (∀ y ∈ items, ranksUpTo key y x = true) ∧
    ∀ y ∈ front, ranksUpTo key x y = false

/-- The items sorted, the first of them then as the least, and as the greatest the first that no
other one exceeds; both are `null` if there are no items. -/
structure Ranking (key : Json → Result Json) (items sorted : List Json) (least greatest : Json) :
    Prop where
  isSorted : SortedBy key items sorted
  isLeast : least = sorted.head?.getD .null
  isGreatest : items = [] ∧ greatest = .null ∨ IsFirstGreatest key items greatest

theorem isRankable_iff {j : Json} :
    isRankable j = true ↔ (∃ n, j = .num n) ∨ ∃ s, j = .str s := by
  cases j <;> simp [isRankable]

theorem keysAlike_of_not_unrankable (h : ¬ Unrankable key items) : KeysAlike key items := by
  have hranked (x : Json) (hx : x ∈ items) :
      (∃ n, key x = .ok (.num n)) ∨ ∃ s, key x = .ok (.str s) := by
    cases hkey : key x with
    | error e => exact absurd (.fails hx hkey) h
    | ok j =>
      have hj : isRankable j = true := by
        by_contra hj
        exact h (.unordered hx hkey (Bool.eq_false_iff.2 hj))
      obtain ⟨n, rfl⟩ | ⟨s, rfl⟩ := isRankable_iff.1 hj
      · exact .inl ⟨n, rfl⟩
      · exact .inr ⟨s, rfl⟩
  by_cases hnum : ∀ x ∈ items, ∃ n, key x = .ok (.num n)
  · exact .inl hnum
  · push Not at hnum
    obtain ⟨x, hx, hnot⟩ := hnum
    obtain ⟨n, hn⟩ | ⟨s, hs⟩ := hranked x hx
    · exact absurd hn (hnot n)
    · refine .inr fun y hy => (hranked y hy).resolve_left ?_
      rintro ⟨n, hn⟩
      exact h (.mixed hy hx hn hs)

theorem KeysAlike.exists_key (h : KeysAlike key items) {x : Json} (hx : x ∈ items) :
    ∃ j, key x = .ok j ∧ isRankable j = true := by
  obtain hnum | hstr := h
  · obtain ⟨n, hn⟩ := hnum x hx
    exact ⟨_, hn, rfl⟩
  · obtain ⟨s, hs⟩ := hstr x hx
    exact ⟨_, hs, rfl⟩

theorem not_unrankable_of_keysAlike (h : KeysAlike key items) : ¬ Unrankable key items := by
  intro hun
  cases hun with
  | fails hx hkey =>
    obtain ⟨j, hj, -⟩ := h.exists_key hx
    cases hkey.symm.trans hj
  | unordered hx hkey hnot =>
    obtain ⟨j, hj, hrankable⟩ := h.exists_key hx
    cases hkey.symm.trans hj
    cases hnot.symm.trans hrankable
  | mixed hx hy hn hs =>
    obtain hnum | hstr := h
    · obtain ⟨m, hm⟩ := hnum _ hy
      cases hs.symm.trans hm
    · obtain ⟨t, ht⟩ := hstr _ hx
      cases hn.symm.trans ht

theorem unrankable_iff : Unrankable key items ↔ ¬ KeysAlike key items :=
  ⟨fun hun h => not_unrankable_of_keysAlike h hun,
    fun h => by_contra fun hun => h (keysAlike_of_not_unrankable hun)⟩

/-- The keys are alike, and items rank by a function to a linear order as they do by their keys. -/
structure RankedBy (key : Json → Result Json) (items : List Json) (f : Json → β) : Prop where
  alike : KeysAlike key items
  compare : ∀ x ∈ items, ∀ y ∈ items, ∀ j k, key x = .ok j → key y = .ok k →
    Json.compare? j k = some (cmp (f x) (f y))
  le : ∀ x ∈ items, ∀ y ∈ items, ranksUpTo key x y = decide (f x ≤ f y)

def numberKey (key : Json → Result Json) (x : Json) : Int :=
  match key x with
  | .ok (.num n) => n.toBinary64.units
  | _ => 0

def stringKey (key : Json → Result Json) (x : Json) : String :=
  match key x with
  | .ok (.str s) => s
  | _ => ""

theorem numberKey_of_ok {x : Json} {n : Number} (h : key x = .ok (.num n)) :
    numberKey key x = n.toBinary64.units := by
  rw [numberKey, h]

theorem stringKey_of_ok {x : Json} {s : String} (h : key x = .ok (.str s)) :
    stringKey key x = s := by
  rw [stringKey, h]

theorem rankedBy_numberKey (h : ∀ x ∈ items, ∃ n, key x = .ok (.num n)) :
    RankedBy key items (numberKey key) where
  alike := .inl h
  compare x hx y hy j k hj hk := by
    obtain ⟨n, hn⟩ := h x hx
    obtain ⟨m, hm⟩ := h y hy
    cases hj.symm.trans hn
    cases hk.symm.trans hm
    rw [numberKey_of_ok hn, numberKey_of_ok hm, cmp_eq_compare]
    rfl
  le x hx y hy := by
    obtain ⟨n, hn⟩ := h x hx
    obtain ⟨m, hm⟩ := h y hy
    rw [numberKey_of_ok hn, numberKey_of_ok hm, ranksUpTo, hn, hm]
    rfl

theorem rankedBy_stringKey (h : ∀ x ∈ items, ∃ s, key x = .ok (.str s)) :
    RankedBy key items (stringKey key) where
  alike := .inr h
  compare x hx y hy j k hj hk := by
    obtain ⟨s, hs⟩ := h x hx
    obtain ⟨t, ht⟩ := h y hy
    cases hj.symm.trans hs
    cases hk.symm.trans ht
    rw [stringKey_of_ok hs, stringKey_of_ok ht, cmp_eq_compare]
    rfl
  le x hx y hy := by
    obtain ⟨s, hs⟩ := h x hx
    obtain ⟨t, ht⟩ := h y hy
    rw [stringKey_of_ok hs, stringKey_of_ok ht, ranksUpTo, hs, ht]
    rfl

section Sorted

variable {α : Type} (f : α → β)

def sortedBy (xs : List α) : List α := xs.mergeSort fun x y => decide (f x ≤ f y)

theorem sortedBy_perm (xs : List α) : (sortedBy f xs).Perm xs := List.mergeSort_perm xs _

theorem decide_le_trans (x y z : α) (hxy : decide (f x ≤ f y) = true)
    (hyz : decide (f y ≤ f z) = true) : decide (f x ≤ f z) = true :=
  decide_eq_true ((of_decide_eq_true hxy).trans (of_decide_eq_true hyz))

theorem decide_le_total (x y : α) : (decide (f x ≤ f y) || decide (f y ≤ f x)) = true := by
  simpa using le_total (f x) (f y)

theorem pairwise_sortedBy (xs : List α) : (sortedBy f xs).Pairwise fun x y => f x ≤ f y :=
  (List.pairwise_mergeSort (decide_le_trans f) (decide_le_total f) xs).imp of_decide_eq_true

/-- An element that is put before others comes behind those that are less and before the rest. -/
theorem exists_sortedBy_cons (x : α) (xs : List α) :
    ∃ less others, sortedBy f (x :: xs) = less ++ x :: others ∧
      sortedBy f xs = less ++ others ∧ ∀ y ∈ less, f y < f x := by
  have h := List.mergeSort_cons (decide_le_trans f) (decide_le_total f) x xs
  simpa [sortedBy] using h

/-- Elements with the same value stay in their order. -/
theorem filter_sortedBy (k : β) (xs : List α) :
    (sortedBy f xs).filter (f · = k) = xs.filter (f · = k) := by
  induction xs with
  | nil => simp [sortedBy]
  | cons x xs ih =>
    obtain ⟨less, others, hcons, hxs, hless⟩ := exists_sortedBy_cons f x xs
    rw [hxs, List.filter_append] at ih
    rw [hcons, List.filter_append, List.filter_cons, List.filter_cons, ← ih]
    by_cases hx : f x = k
    · have hnone : less.filter (f · = k) = [] := by
        rw [List.filter_eq_nil_iff]
        intro y hy
        simpa using (hx ▸ hless y hy).ne
      simp [hx, hnone]
    · simp [hx]

theorem head?_sortedBy (xs : List α) : (sortedBy f xs).head? = xs.argmin f := by
  induction xs with
  | nil => simp [sortedBy]
  | cons x xs ih =>
    obtain ⟨less, others, hcons, hxs, hless⟩ := exists_sortedBy_cons f x xs
    rw [hxs] at ih
    rw [hcons, List.argmin_cons, ← ih]
    cases less with
    | cons y less => simp [hless y List.mem_cons_self]
    | nil =>
      cases others with
      | nil => rfl
      | cons y others =>
        have hle : f x ≤ f y := by
          have hpairs := pairwise_sortedBy f (x :: xs)
          rw [hcons] at hpairs
          exact List.rel_of_pairwise_cons hpairs List.mem_cons_self
        simp [not_lt.2 hle]

variable {f} in
/-- All elements before the first one of the greatest are less. -/
theorem exists_append_of_argmax {xs : List α} {x : α} (h : xs.argmax f = some x) :
    ∃ front back, xs = front ++ x :: back ∧ ∀ y ∈ front, f y < f x := by
  induction xs generalizing x with
  | nil => cases h
  | cons a xs ih =>
    rw [List.argmax_cons] at h
    cases hxs : xs.argmax f with
    | none =>
      rw [hxs] at h
      cases h
      exact ⟨[], xs, rfl, List.forall_mem_nil _⟩
    | some b =>
      rw [hxs] at h
      dsimp only at h
      split at h
      next hless =>
        cases h
        obtain ⟨front, back, rfl, hfront⟩ := ih hxs
        exact ⟨a :: front, back, rfl, List.forall_mem_cons.2 ⟨hless, hfront⟩⟩
      next =>
        cases h
        exact ⟨[], xs, rfl, List.forall_mem_nil _⟩

end Sorted

theorem keyed_eq_ok_iff {pairs : List (Json × Json)} :
    keyed key items = .ok pairs ↔
      pairs.map (·.2) = items ∧ ∀ p ∈ pairs, key p.2 = .ok p.1 := by
  induction items generalizing pairs with
  | nil =>
    rw [keyed, List.mapM_nil, pure_eq_ok_iff, List.map_eq_nil_iff]
    constructor
    · rintro rfl
      exact ⟨rfl, List.forall_mem_nil _⟩
    · rintro ⟨rfl, -⟩
      rfl
  | cons x items ih =>
    rw [keyed, List.mapM_cons, ← keyed, bind_eq_ok_iff]
    simp only [bind_eq_ok_iff, pure_eq_ok_iff, ih]
    constructor
    · rintro ⟨_, ⟨j, hj, rfl⟩, more, ⟨hmore, hkeys⟩, rfl⟩
      exact ⟨by rw [List.map_cons, hmore], List.forall_mem_cons.2 ⟨hj, hkeys⟩⟩
    · rintro ⟨hitems, hkeys⟩
      obtain ⟨p, more, rfl, rfl, rfl⟩ := List.map_eq_cons_iff.1 hitems
      rw [List.forall_mem_cons] at hkeys
      exact ⟨p, ⟨p.1, hkeys.1, rfl⟩, more, ⟨rfl, hkeys.2⟩, rfl⟩

theorem kindName_eq_number_iff {j : Json} : j.kindName = "number" ↔ ∃ n, j = .num n := by
  cases j <;> simp [Json.kindName]

theorem kindName_eq_string_iff {j : Json} : j.kindName = "string" ↔ ∃ s, j = .str s := by
  cases j <;> simp [Json.kindName]

theorem checkKeys_cons_eq_ok_iff {p : Json × Json} {pairs : List (Json × Json)} :
    checkKeys c (p :: pairs) = .ok () ↔
      isRankable p.1 = true ∧ ∀ q ∈ p :: pairs, q.1.kindName = p.1.kindName := by
  obtain ⟨first, x⟩ := p
  rw [checkKeys]
  cases hfirst : isRankable first with
  | false => simp [unsortable, Call.wrong]
  | true =>
    cases hfind : ((first, x) :: pairs).find? fun q => q.1.kindName != first.kindName with
    | none =>
      have hkinds := List.find?_eq_none.1 hfind
      simpa using hkinds
    | some other =>
      have hother := List.find?_some hfind
      have hmem := List.mem_of_find?_eq_some hfind
      simp only [unsortable, Call.wrong, Bool.not_true, Bool.false_eq_true, if_false, reduceCtorEq,
        true_and, false_iff]
      intro hkinds
      rw [hkinds other hmem] at hother
      simp at hother

theorem checkKeys_eq_ok_iff {pairs : List (Json × Json)} :
    checkKeys c pairs = .ok () ↔
      (∀ p ∈ pairs, ∃ n, p.1 = .num n) ∨ ∀ p ∈ pairs, ∃ s, p.1 = .str s := by
  cases pairs with
  | nil => simp [checkKeys]
  | cons p pairs =>
    rw [checkKeys_cons_eq_ok_iff]
    constructor
    · rintro ⟨hfirst, hkinds⟩
      obtain ⟨n, hn⟩ | ⟨s, hs⟩ := isRankable_iff.1 hfirst
      · rw [hn] at hkinds
        exact .inl fun q hq => kindName_eq_number_iff.1 (hkinds q hq)
      · rw [hs] at hkinds
        exact .inr fun q hq => kindName_eq_string_iff.1 (hkinds q hq)
    · rintro (h | h)
      · have hp := h p List.mem_cons_self
        refine ⟨isRankable_iff.2 (.inl hp), fun q hq => ?_⟩
        rw [kindName_eq_number_iff.2 hp, kindName_eq_number_iff.2 (h q hq)]
      · have hp := h p List.mem_cons_self
        refine ⟨isRankable_iff.2 (.inr hp), fun q hq => ?_⟩
        rw [kindName_eq_string_iff.2 hp, kindName_eq_string_iff.2 (h q hq)]

theorem exists_keyed (h : ∀ x ∈ items, ∃ j, key x = .ok j) :
    ∃ pairs, keyed key items = .ok pairs := by
  choose! j hj using h
  refine ⟨items.map fun x => (j x, x), keyed_eq_ok_iff.2 ⟨?_, List.forall_mem_map.2 hj⟩⟩
  rw [List.map_map]
  exact List.map_id items

/-- Of keys that are found, those that are alike are accepted. -/
theorem checkKeys_iff_keysAlike {pairs : List (Json × Json)} (h : keyed key items = .ok pairs) :
    checkKeys c pairs = .ok () ↔ KeysAlike key items := by
  obtain ⟨rfl, hkeys⟩ := keyed_eq_ok_iff.1 h
  have hkey (p : Json × Json) (hp : p ∈ pairs) (j : Json) : p.1 = j ↔ key p.2 = .ok j := by
    rw [hkeys p hp, Except.ok.injEq]
  rw [checkKeys_eq_ok_iff, KeysAlike, List.forall_mem_map, List.forall_mem_map]
  exact or_congr (forall₂_congr fun p hp => exists_congr fun n => hkey p hp (.num n))
    (forall₂_congr fun p hp => exists_congr fun s => hkey p hp (.str s))

theorem keysAlike_of_sortBy {sorted : List Json} (h : sortBy c key items = .ok sorted) :
    KeysAlike key items := by
  rw [sortBy, bind_eq_ok_iff] at h
  obtain ⟨pairs, hpairs, h⟩ := h
  obtain ⟨⟨⟩, hcheck, -⟩ := bind_eq_ok_iff.1 h
  exact (checkKeys_iff_keysAlike hpairs).1 hcheck

theorem sortBy_eq_of_rankedBy (h : RankedBy key items f) (c : Call) :
    sortBy c key items = .ok (sortedBy f items) := by
  obtain ⟨pairs, hpairs⟩ := exists_keyed fun x hx => (h.alike.exists_key hx).imp fun _ => And.left
  have hcheck : checkKeys c pairs = .ok () := (checkKeys_iff_keysAlike hpairs).2 h.alike
  obtain ⟨hitems, hkeys⟩ := keyed_eq_ok_iff.1 hpairs
  have hle : ∀ p ∈ pairs, ∀ q ∈ pairs, notAfter p q = decide (f p.2 ≤ f q.2) := by
    intro p hp q hq
    have hpx : p.2 ∈ items := hitems ▸ List.mem_map_of_mem hp
    have hqx : q.2 ∈ items := hitems ▸ List.mem_map_of_mem hq
    rw [notAfter, h.compare _ hpx _ hqx _ _ (hkeys p hp) (hkeys q hq), Bool.eq_iff_iff,
      bne_iff_ne, ne_eq, Option.some_inj, cmp_eq_gt_iff, not_lt, decide_eq_true_iff]
  rw [sortBy, hpairs]
  change (checkKeys c pairs >>= fun _ => _) = _
  rw [hcheck]
  change Except.ok ((pairs.mergeSort notAfter).map (·.2)) = _
  rw [List.map_mergeSort (s := fun x y => decide (f x ≤ f y)) hle, hitems]
  rfl

theorem better_none_eq_ok_iff {new : Json × Json} {next : Option (Json × Json)} :
    better c winning none new = .ok next ↔ isRankable new.1 = true ∧ next = some new := by
  cases h : isRankable new.1 <;> simp [better, h, unsortable, Call.wrong, eq_comm]

theorem better_some_eq_ok_iff {old new : Json × Json} {next : Option (Json × Json)} :
    better c winning (some old) new = .ok next ↔
      isRankable new.1 = true ∧ ∃ order, Json.compare? new.1 old.1 = some order ∧
        next = some (if order = winning then new else old) := by
  cases h : isRankable new.1 <;> cases hcompare : Json.compare? new.1 old.1 <;>
    simp [better, h, hcompare, unsortable, Call.wrong, eq_comm]

/-- The search for an extreme keeps the first of the items that win over all others. -/
theorem extremeFrom_eq {wins : Json → Json → Prop} [DecidableRel wins] {best : Option (Json × Json)}
    (h : RankedBy key items f)
    (hwins : ∀ x ∈ items, ∀ y ∈ items, cmp (f x) (f y) = winning ↔ wins x y)
    (hbest : ∀ p ∈ best, p.2 ∈ items ∧ key p.2 = .ok p.1) (hrest : rest ⊆ items) :
    extremeFrom c winning key best rest =
      .ok ((rest.foldl (List.argAux wins) (best.map (·.2))).getD .null) := by
  induction rest generalizing best with
  | nil => rfl
  | cons x rest ih =>
    obtain ⟨hx, hrest⟩ := List.cons_subset.1 hrest
    obtain ⟨j, hj, hrankable⟩ := h.alike.exists_key hx
    have hnew : ∀ q ∈ some (j, x), q.2 ∈ items ∧ key q.2 = .ok q.1 := by simp [hx, hj]
    rw [extremeFrom, hj, List.foldl_cons]
    change (better c winning best (j, x) >>= fun next => extremeFrom c winning key next rest) = _
    cases best with
    | none =>
      rw [better_none_eq_ok_iff.2 ⟨hrankable, rfl⟩]
      exact ih hnew hrest
    | some p =>
      obtain ⟨hp, hpkey⟩ := hbest p rfl
      have hcompare := h.compare x hx p.2 hp j p.1 hj hpkey
      rw [better_some_eq_ok_iff.2 ⟨hrankable, _, hcompare, rfl⟩]
      change extremeFrom c winning key (some _) rest =
        .ok ((rest.foldl _ (if wins x p.2 then some x else some p.2)).getD .null)
      by_cases hwin : wins x p.2
      · rw [if_pos hwin, if_pos ((hwins x hx p.2 hp).2 hwin)]
        exact ih hnew hrest
      · rw [if_neg hwin, if_neg (mt (hwins x hx p.2 hp).1 hwin)]
        exact ih hbest hrest

theorem least_eq (h : RankedBy key items f) (c : Call) :
    extremeBy c .lt key items = .ok ((items.argmin f).getD .null) :=
  extremeFrom_eq h (fun _ _ _ _ => cmp_eq_lt_iff _ _) nofun (List.Subset.refl _)

theorem greatest_eq (h : RankedBy key items f) (c : Call) :
    extremeBy c .gt key items = .ok ((items.argmax f).getD .null) :=
  extremeFrom_eq h (fun _ _ _ _ => cmp_eq_gt_iff _ _) nofun (List.Subset.refl _)

/-- An extreme that is found has gone through keys of the kind of the best so far. -/
theorem kind_of_extremeFrom {kind : Json → Prop} {p : Json × Json} {v : Json}
    (hkind : ∀ j k o, Json.compare? j k = some o → kind k → kind j) (hp : kind p.1)
    (h : extremeFrom c winning key (some p) rest = .ok v) :
    ∀ x ∈ rest, ∃ j, key x = .ok j ∧ kind j := by
  induction rest generalizing p with
  | nil => exact List.forall_mem_nil _
  | cons x rest ih =>
    rw [extremeFrom, bind_eq_ok_iff] at h
    obtain ⟨j, hj, h⟩ := h
    obtain ⟨next, hnext, h⟩ := bind_eq_ok_iff.1 h
    obtain ⟨-, order, horder, rfl⟩ := better_some_eq_ok_iff.1 hnext
    have hnew : kind j := hkind j p.1 order horder hp
    refine List.forall_mem_cons.2 ⟨⟨j, hj, hnew⟩, ih ?_ h⟩
    split
    · exact hnew
    · exact hp

theorem exists_num_of_compare? {j k : Json} {o : Ordering} (h : Json.compare? j k = some o)
    (hk : ∃ n, k = .num n) : ∃ n, j = .num n := by
  obtain ⟨m, rfl⟩ := hk
  cases j with
  | num n => exact ⟨n, rfl⟩
  | _ => cases h

theorem exists_str_of_compare? {j k : Json} {o : Ordering} (h : Json.compare? j k = some o)
    (hk : ∃ s, k = .str s) : ∃ s, j = .str s := by
  obtain ⟨t, rfl⟩ := hk
  cases j with
  | str s => exact ⟨s, rfl⟩
  | _ => cases h

/-- An extreme is found only for keys that are alike. -/
theorem keysAlike_of_extremeBy {v : Json} (h : extremeBy c winning key items = .ok v) :
    KeysAlike key items := by
  cases items with
  | nil => exact .inl (List.forall_mem_nil _)
  | cons x items =>
    rw [extremeBy, extremeFrom, bind_eq_ok_iff] at h
    obtain ⟨j, hj, h⟩ := h
    obtain ⟨next, hnext, h⟩ := bind_eq_ok_iff.1 h
    obtain ⟨hrankable, rfl⟩ := better_none_eq_ok_iff.1 hnext
    obtain hnum | hstr := isRankable_iff.1 hrankable
    · have hrest := kind_of_extremeFrom (fun _ _ _ => exists_num_of_compare?) hnum h
      refine .inl (List.forall_mem_cons.2 ⟨?_, fun y hy => ?_⟩)
      · obtain ⟨n, rfl⟩ := hnum
        exact ⟨n, hj⟩
      · obtain ⟨k, hk, n, rfl⟩ := hrest y hy
        exact ⟨n, hk⟩
    · have hrest := kind_of_extremeFrom (fun _ _ _ => exists_str_of_compare?) hstr h
      refine .inr (List.forall_mem_cons.2 ⟨?_, fun y hy => ?_⟩)
      · obtain ⟨s, rfl⟩ := hstr
        exact ⟨s, hj⟩
      · obtain ⟨k, hk, s, rfl⟩ := hrest y hy
        exact ⟨s, hk⟩

theorem ties_eq_of_rankedBy (h : RankedBy key items f) {x y : Json} (hx : x ∈ items)
    (hy : y ∈ items) : ties key x y = decide (f y = f x) := by
  rw [ties, h.le x hx y hy, h.le y hy x hx, Bool.eq_iff_iff, Bool.and_eq_true, decide_eq_true_iff,
    decide_eq_true_iff, decide_eq_true_iff, le_antisymm_iff, and_comm]

theorem sortedBy_of_rankedBy (h : RankedBy key items f) :
    SortedBy key items (sortedBy f items) where
  perm := sortedBy_perm f items
  ascends := by
    refine (pairwise_sortedBy f items).imp_of_mem fun hx hy hle => ?_
    rw [h.le _ ((sortedBy_perm f items).mem_iff.1 hx) _ ((sortedBy_perm f items).mem_iff.1 hy)]
    exact decide_eq_true hle
  stable x hx := by
    have hties (ys : List Json) (hys : ys ⊆ items) :
        ys.filter (ties key x) = ys.filter (f · = f x) :=
      List.filter_congr fun y hy => ties_eq_of_rankedBy h hx (hys hy)
    rw [hties _ (sortedBy_perm f items).subset, hties _ (List.Subset.refl _), filter_sortedBy]

theorem isFirstGreatest_of_rankedBy (h : RankedBy key items f) {x : Json}
    (hx : items.argmax f = some x) : IsFirstGreatest key items x := by
  obtain ⟨front, back, hitems, hfront⟩ := exists_append_of_argmax hx
  have hmem := List.argmax_mem hx
  refine ⟨front, back, hitems, fun y hy => ?_, fun y hy => ?_⟩
  · rw [h.le y hy x hmem, decide_eq_true_iff]
    exact List.le_of_mem_argmax hy hx
  · have hy' : y ∈ items := hitems ▸ List.mem_append_left _ hy
    rw [h.le x hmem y hy', decide_eq_false_iff_not]
    exact not_le.2 (hfront y hy)

/-- Items that rank by a function have their ranking. -/
theorem exists_ranking_of_rankedBy (h : RankedBy key items f) (sort min max : Call) :
    ∃ sorted least greatest, sortBy sort key items = .ok sorted ∧
      extremeBy min .lt key items = .ok least ∧ extremeBy max .gt key items = .ok greatest ∧
        Ranking key items sorted least greatest := by
  refine ⟨_, _, _, sortBy_eq_of_rankedBy h sort, least_eq h min, greatest_eq h max,
    sortedBy_of_rankedBy h, ?_, ?_⟩
  · rw [head?_sortedBy]
  · cases hmax : items.argmax f with
    | none => exact .inl ⟨(List.argmax_eq_none (f := f)).1 hmax, rfl⟩
    | some x => exact .inr (isFirstGreatest_of_rankedBy h hmax)

/-- Items with keys that are alike rank by a number or by a string. -/
theorem KeysAlike.exists_ranking (h : KeysAlike key items) (sort min max : Call) :
    ∃ sorted least greatest, sortBy sort key items = .ok sorted ∧
      extremeBy min .lt key items = .ok least ∧ extremeBy max .gt key items = .ok greatest ∧
        Ranking key items sorted least greatest :=
  h.elim (fun hnum => exists_ranking_of_rankedBy (rankedBy_numberKey hnum) sort min max)
    fun hstr => exists_ranking_of_rankedBy (rankedBy_stringKey hstr) sort min max

/-- A call with an array and an expression for the keys of its items. -/
def byKey (name : String) (source e : Expr) : Expr := .call name [source, .reference e]

theorem eval_byKey {source e : Expr} {data v : Json} (h : source.eval regex data = .ok v)
    (name : String) :
    (byKey name source e).eval regex data =
      Call.run regex ⟨name, [.value v, .expression (e.eval regex)]⟩ := by
  have hargs : evalArguments regex [source, .reference e] data =
      .ok [.value v, .expression (e.eval regex)] := by
    rw [evalArguments.eq_def]
    split
    next heq => cases heq
    next heq =>
      cases heq
      rw [Expr.eval] at h
      cases h
    next heq =>
      cases heq
      rw [h]
      rfl
  rw [byKey, Expr.eval, hargs]
  rfl

section Calls

variable {source e : Expr} {data : Json} (hsource : source.eval regex data = .ok (.arr items))

include hsource

theorem eval_sort_by : (byKey "sort_by" source e).eval regex data =
    (do return .arr (← sortBy ⟨"sort_by", [.value (.arr items), .expression (e.eval regex)]⟩
      (e.eval regex) items)) :=
  eval_byKey hsource _

theorem eval_min_by : (byKey "min_by" source e).eval regex data =
    extremeBy ⟨"min_by", [.value (.arr items), .expression (e.eval regex)]⟩ .lt (e.eval regex)
      items :=
  eval_byKey hsource _

theorem eval_max_by : (byKey "max_by" source e).eval regex data =
    extremeBy ⟨"max_by", [.value (.arr items), .expression (e.eval regex)]⟩ .gt (e.eval regex)
      items :=
  eval_byKey hsource _

/-- What the three functions answer for keys that are alike. -/
theorem exists_answers (h : KeysAlike (e.eval regex) items) :
    ∃ sorted least greatest, (byKey "sort_by" source e).eval regex data = .ok (.arr sorted) ∧
      (byKey "min_by" source e).eval regex data = .ok least ∧
      (byKey "max_by" source e).eval regex data = .ok greatest ∧
        Ranking (e.eval regex) items sorted least greatest := by
  rw [eval_sort_by hsource, eval_min_by hsource, eval_max_by hsource]
  obtain ⟨sorted, least, greatest, hsorted, hanswers⟩ := h.exists_ranking _ _ _
  refine ⟨sorted, least, greatest, ?_, hanswers⟩
  rw [hsorted]
  rfl

/-- All three functions have an answer exactly for keys that are alike. -/
theorem exists_byKey_iff {name : String} (hname : name ∈ ["sort_by", "min_by", "max_by"]) :
    (∃ v, (byKey name source e).eval regex data = .ok v) ↔ KeysAlike (e.eval regex) items := by
  simp only [List.mem_cons, List.not_mem_nil, or_false] at hname
  constructor
  · rintro ⟨v, hv⟩
    obtain rfl | rfl | rfl := hname
    · rw [eval_sort_by hsource, bind_eq_ok_iff] at hv
      obtain ⟨sorted, hsorted, -⟩ := hv
      exact keysAlike_of_sortBy hsorted
    · exact keysAlike_of_extremeBy (eval_min_by hsource ▸ hv)
    · exact keysAlike_of_extremeBy (eval_max_by hsource ▸ hv)
  · intro h
    obtain ⟨sorted, least, greatest, hsort, hmin, hmax, -⟩ := exists_answers hsource h
    obtain rfl | rfl | rfl := hname
    · exact ⟨_, hsort⟩
    · exact ⟨_, hmin⟩
    · exact ⟨_, hmax⟩

/-- Where all keys of an array are numbers or all are strings, the array is sorted by key, its least
item is the first of the sorted array, and its greatest the first one with a key that no other key
exceeds; of an empty array both are `null`. All three functions fail for the same arrays: exactly
where some key cannot be evaluated, is neither a number nor a string, or is of another kind than
another one. -/
theorem ranked_by_key :
    (KeysAlike (e.eval regex) items →
      ∃ sorted least greatest, (byKey "sort_by" source e).eval regex data = .ok (.arr sorted) ∧
        (byKey "min_by" source e).eval regex data = .ok least ∧
        (byKey "max_by" source e).eval regex data = .ok greatest ∧
          Ranking (e.eval regex) items sorted least greatest) ∧
    ∀ name ∈ ["sort_by", "min_by", "max_by"],
      (∃ err, (byKey name source e).eval regex data = .error err) ↔
        Unrankable (e.eval regex) items := by
  refine ⟨exists_answers hsource, fun name hname => ?_⟩
  rw [unrankable_iff, ← exists_byKey_iff hsource hname]
  cases (byKey name source e).eval regex data <;> simp

end Calls

def notes : List Json :=
  [.obj [("id", .str "a"), ("year", .ofNat 2001)], .obj [("id", .str "b"), ("year", .ofNat 1999)],
    .obj [("id", .str "c"), ("year", .ofNat 2001)]]

theorem keysAlike_notes : KeysAlike ((Expr.field "year").eval regex) notes := by
  refine .inl ?_
  simp only [notes, List.forall_mem_cons]
  exact ⟨⟨_, rfl⟩, ⟨_, rfl⟩, ⟨_, rfl⟩, List.forall_mem_nil _⟩

/-- The second note is the least by year, the first one the greatest; they have no titles to rank
by. -/
theorem notes_ranked :
    Expr.identity.eval Regex.linear (.arr notes) = .ok (.arr notes) ∧
    KeysAlike ((Expr.field "year").eval Regex.linear) notes ∧
    (∃ sorted,
      (byKey "sort_by" .identity (.field "year")).eval Regex.linear (.arr notes) =
        .ok (.arr sorted) ∧
      Ranking ((Expr.field "year").eval Regex.linear) notes sorted
        (.obj [("id", .str "b"), ("year", .ofNat 1999)])
        (.obj [("id", .str "a"), ("year", .ofNat 2001)])) ∧
    ∃ err,
      (byKey "sort_by" .identity (.field "title")).eval Regex.linear (.arr notes) = .error err := by
  have hsource : Expr.identity.eval Regex.linear (.arr notes) = .ok (.arr notes) := rfl
  obtain ⟨sorted, least, greatest, hsort, hmin, hmax, hranking⟩ :=
    (ranked_by_key hsource).1 keysAlike_notes
  have hvalues :
      ((byKey "min_by" .identity (.field "year")).eval Regex.linear (.arr notes)).toOption =
          some (.obj [("id", .str "b"), ("year", .ofNat 1999)]) ∧
        ((byKey "max_by" .identity (.field "year")).eval Regex.linear (.arr notes)).toOption =
          some (.obj [("id", .str "a"), ("year", .ofNat 2001)]) := by
    decide +kernel
  rw [hmin, hmax] at hvalues
  obtain ⟨⟨⟩, ⟨⟩⟩ := hvalues
  have hnone : Unrankable ((Expr.field "title").eval Regex.linear) notes :=
    .unordered List.mem_cons_self rfl rfl
  exact ⟨hsource, keysAlike_notes, ⟨sorted, hsort, hranking⟩,
    ((ranked_by_key hsource).2 _ List.mem_cons_self).2 hnone⟩

end Caseflow.Query
