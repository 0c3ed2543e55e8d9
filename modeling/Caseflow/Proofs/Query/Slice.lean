import Caseflow.Query.Eval
import Caseflow.Regex.Search

/-!
# What a slice selects

Where a slice starts and stops, in numbers without bound: `first` and `limit` are its bounds,
counted from the end if negative and then brought into the list, and `position` goes from the first
one step at a time. The walk in numbers of 64 bits selects the items at exactly these positions. No
sum for a bound leaves the 64 bits, every item that is asked for is there, and the walk ends.
-/
namespace Caseflow.Query

variable {b : Bounds} {items : List Json} {step stop i n : Int}

def IsSigned (i : Int) : Prop := Number.minSigned ≤ i ∧ i ≤ Number.maxSigned

instance (i : Int) : Decidable (IsSigned i) :=
  inferInstanceAs (Decidable (Number.minSigned ≤ i ∧ i ≤ Number.maxSigned))

namespace Bounds

/-- Every number that is given has 64 bits, and the step is not zero. -/
structure Valid (b : Bounds) : Prop where
  start : ∀ i ∈ b.start, IsSigned i
  stop : ∀ i ∈ b.stop, IsSigned i
  step : ∀ i ∈ b.step, IsSigned i ∧ i ≠ 0

/-- The range of bounds in a list of some length: upwards, from the first item to behind the last
one, and downwards, from before the first to the last. -/
def low (b : Bounds) : Int := if 0 < b.stride then 0 else -1
def high (b : Bounds) (n : Int) : Int := if 0 < b.stride then n else n - 1

/-- A bound in its range, after the length is added once if it is negative. -/
def placed (b : Bounds) (n bound : Int) : Int :=
  max b.low (min (b.high n) (if bound < 0 then bound + n else bound))

/-- Where a slice starts: at the end of the range that it leaves if it need not start elsewhere. -/
def first (b : Bounds) (n : Int) : Int :=
  (b.start.map (b.placed n)).getD (if 0 < b.stride then b.low else b.high n)

def limit (b : Bounds) (n : Int) : Int :=
  (b.stop.map (b.placed n)).getD (if 0 < b.stride then b.high n else b.low)

def position (b : Bounds) (n : Int) (k : Nat) : Int := b.first n + k * b.stride

/-- That position is strictly before the limit, or strictly after it for a negative step. -/
def Reaches (b : Bounds) (n : Int) (k : Nat) : Prop :=
  if 0 < b.stride then b.position n k < b.limit n else b.limit n < b.position n k

instance (b : Bounds) (n : Int) (k : Nat) : Decidable (b.Reaches n k) :=
  inferInstanceAs (Decidable (ite _ _ _))

end Bounds

theorem addSigned?_of_isSigned {a c : Int} (h : IsSigned (a + c)) :
    addSigned? a c = some (a + c) :=
  if_pos h

theorem isSigned_add_length {bound : Int} (hbound : IsSigned bound) (hneg : bound < 0) (hn : 0 ≤ n)
    (hmax : n ≤ Number.maxSigned) : IsSigned (bound + n) := by
  obtain ⟨hlow, -⟩ := hbound
  exact ⟨by omega, by omega⟩

theorem clampBound?_eq {low high bound : Int} (hbound : IsSigned bound) (hn : 0 ≤ n)
    (hmax : n ≤ Number.maxSigned) (hrange : low ≤ high) :
    clampBound? n low high bound =
      some (max low (min high (if bound < 0 then bound + n else bound))) := by
  by_cases hneg : bound < 0
  · rw [clampBound?, if_pos hneg, if_pos hneg,
      addSigned?_of_isSigned (isSigned_add_length hbound hneg hn hmax)]
    exact if_pos hrange
  · rw [clampBound?, if_neg hneg, if_neg hneg]
    exact if_pos hrange

theorem boundOr?_eq {low high default : Int} {bound : Option Int}
    (hbound : ∀ i ∈ bound, IsSigned i) (hn : 0 ≤ n) (hmax : n ≤ Number.maxSigned)
    (hrange : low ≤ high) :
    boundOr? default n low high bound = some ((bound.map fun i =>
      max low (min high (if i < 0 then i + n else i))).getD default) := by
  cases bound with
  | none => rfl
  | some i => exact clampBound?_eq (hbound i rfl) hn hmax hrange

/-- A walk stays in the list of `n` items as long as it is before its limit. -/
def StaysIn (n step i stop : Int) : Prop :=
  if 0 < step then 0 ≤ i ∧ stop ≤ n else i < n ∧ -1 ≤ stop

theorem isBefore_iff : isBefore step i stop = true ↔ if 0 < step then i < stop else stop < i := by
  unfold isBefore
  split <;> simp

theorem StaysIn.bounds (h : StaysIn n step i stop) (hbefore : isBefore step i stop = true) :
    0 ≤ i ∧ i < n := by
  rw [isBefore_iff] at hbefore
  unfold StaysIn at h
  by_cases hup : 0 < step
  · rw [if_pos hup] at h hbefore
    omega
  · rw [if_neg hup] at h hbefore
    omega

theorem StaysIn.next (h : StaysIn n step i stop) : StaysIn n step (i + step) stop := by
  unfold StaysIn at h ⊢
  by_cases hup : 0 < step
  · rw [if_pos hup] at h ⊢
    omega
  · rw [if_neg hup] at h ⊢
    omega

theorem not_isBefore_of_le {j : Int} (h : ¬ isBefore step i stop = true)
    (hbeyond : if 0 < step then i ≤ j else j ≤ i) : ¬ isBefore step j stop = true := by
  rw [isBefore_iff] at h ⊢
  by_cases hup : 0 < step
  · rw [if_pos hup] at h hbeyond ⊢
    omega
  · rw [if_neg hup] at h hbeyond ⊢
    omega

theorem steps_beyond (step i : Int) (k : Nat) :
    if 0 < step then i ≤ i + k * step else i + k * step ≤ i := by
  split
  · have := Int.mul_nonneg (Int.natCast_nonneg k) (by omega : 0 ≤ step)
    omega
  · have := Int.mul_nonneg (Int.natCast_nonneg k) (by omega : 0 ≤ -step)
    rw [Int.mul_neg] at this
    omega

theorem not_isBefore_of_addSigned? (h : StaysIn n step i stop) (hn : n ≤ Number.maxSigned)
    (hbefore : isBefore step i stop = true) (hnone : addSigned? i step = none) :
    ¬ isBefore step (i + step) stop = true := by
  obtain ⟨hpos, hless⟩ := h.bounds hbefore
  rw [addSigned?, ite_eq_right_iff] at hnone
  have hout : ¬ IsSigned (i + step) := fun hfits => by cases hnone hfits
  have hmin : Number.minSigned < -1 := by decide
  unfold IsSigned at hout
  unfold StaysIn at h
  rw [isBefore_iff]
  by_cases hup : 0 < step
  · rw [if_pos hup] at h ⊢
    omega
  · rw [if_neg hup] at h ⊢
    omega

/-- The item at a position in the list is there. -/
theorem exists_itemAt? (hpos : 0 ≤ i) (hless : i < items.length) :
    ∃ item, itemAt? items i = some item ∧ items[i.toNat]? = some item := by
  have hlt : i.toNat < items.length := by omega
  exact ⟨items[i.toNat], (if_pos hpos).trans (List.getElem?_eq_getElem hlt),
    List.getElem?_eq_getElem hlt⟩

def distance (step i stop : Int) : Int := if 0 < step then stop - i else i - stop

theorem distance_next_lt (hstep : step ≠ 0) (i stop : Int) :
    distance step (i + step) stop < distance step i stop := by
  unfold distance
  split <;> omega

theorem isBefore_iff_distance : isBefore step i stop = true ↔ 0 < distance step i stop := by
  rw [isBefore_iff, distance]
  split <;> omega

/-- The items at the positions before the limit, from a position on. -/
def Selects (items : List Json) (step i stop : Int) (selected : List Json) : Prop :=
  ∀ k : Nat, selected[k]? =
    if isBefore step (i + k * step) stop then items[(i + k * step).toNat]? else none

theorem selects_nil (h : ¬ isBefore step i stop = true) : Selects items step i stop [] := by
  intro k
  rw [if_neg (not_isBefore_of_le h (steps_beyond step i k))]
  rfl

theorem Selects.cons {item : Json} {selected : List Json} (hbefore : isBefore step i stop = true)
    (hitem : items[i.toNat]? = some item) (h : Selects items step (i + step) stop selected) :
    Selects items step i stop (item :: selected) := by
  intro k
  cases k with
  | zero => simp [hbefore, hitem]
  | succ k =>
    have hsame : i + ((k + 1 : Nat) : Int) * step = i + step + k * step := by
      rw [Int.natCast_succ, Int.add_mul, Int.one_mul]
      omega
    rw [List.getElem?_cons_succ, h k, hsame]

/-- A walk gives the items from its position on. By induction on the fuel, which is more than there
is left to go. -/
theorem exists_itemsFrom? {fuel : Nat} (hstep : step ≠ 0)
    (hn : (items.length : Int) ≤ Number.maxSigned) (hin : StaysIn items.length step i stop)
    (hfuel : distance step i stop ≤ fuel) :
    ∃ selected, itemsFrom? items step stop (fuel + 1) i = some selected ∧
      Selects items step i stop selected := by
  induction fuel generalizing i with
  | zero =>
    have hpast : ¬ isBefore step i stop = true := by
      rw [isBefore_iff_distance]
      omega
    exact ⟨[], if_neg hpast, selects_nil hpast⟩
  | succ fuel ih =>
    by_cases hbefore : isBefore step i stop = true
    · obtain ⟨hpos, hless⟩ := hin.bounds hbefore
      obtain ⟨item, hfound, hitem⟩ := exists_itemAt? hpos hless
      rw [itemsFrom?, if_pos hbefore, hfound]
      cases hnext : addSigned? i step with
      | none =>
        have hpast := not_isBefore_of_addSigned? hin hn hbefore hnext
        exact ⟨[item], rfl, (selects_nil hpast).cons hbefore hitem⟩
      | some next =>
        obtain ⟨-, hsum⟩ := Option.ite_none_right_eq_some.1 hnext
        cases hsum
        have hless := distance_next_lt hstep i stop
        obtain ⟨selected, hselected, hthese⟩ := ih hin.next (by omega)
        refine ⟨item :: selected, ?_, hthese.cons hbefore hitem⟩
        exact congrArg (Option.map (item :: ·)) hselected
    · exact ⟨[], if_neg hbefore, selects_nil hbefore⟩

theorem boundOr?_start (hb : b.Valid) (hn : 0 ≤ n) (hmax : n ≤ Number.maxSigned) :
    boundOr? (if 0 < b.stride then b.low else b.high n) n b.low (b.high n) b.start =
      some (b.first n) := by
  refine boundOr?_eq hb.start hn hmax ?_
  unfold Bounds.low Bounds.high
  split <;> omega

theorem boundOr?_stop (hb : b.Valid) (hn : 0 ≤ n) (hmax : n ≤ Number.maxSigned) :
    boundOr? (if 0 < b.stride then b.high n else b.low) n b.low (b.high n) b.stop =
      some (b.limit n) := by
  refine boundOr?_eq hb.stop hn hmax ?_
  unfold Bounds.low Bounds.high
  split <;> omega

theorem slice?_eq (hb : b.Valid) (hn : (items.length : Int) ≤ Number.maxSigned) :
    slice? b items = itemsFrom? items b.stride (b.limit items.length) (items.length + 1)
      (b.first items.length) := by
  have hstart := boundOr?_start hb (Int.natCast_nonneg items.length) hn
  have hstop := boundOr?_stop hb (Int.natCast_nonneg items.length) hn
  unfold Bounds.low Bounds.high at hstart hstop
  unfold slice?
  by_cases hup : 0 < b.stride
  · simp only [if_pos hup] at hstart hstop ⊢
    rw [hstart, hstop]
    rfl
  · simp only [if_neg hup] at hstart hstop ⊢
    rw [hstart, hstop]
    rfl

theorem placed_bounds (b : Bounds) (hn : 0 ≤ n) (bound : Int) :
    b.low ≤ b.placed n bound ∧ b.placed n bound ≤ b.high n := by
  unfold Bounds.placed
  have hrange : b.low ≤ b.high n := by
    unfold Bounds.low Bounds.high
    split <;> omega
  omega

theorem getD_placed_bounds (hn : 0 ≤ n) (bound : Option Int) {default : Int}
    (hdefault : b.low ≤ default ∧ default ≤ b.high n) :
    b.low ≤ (bound.map (b.placed n)).getD default ∧
      (bound.map (b.placed n)).getD default ≤ b.high n := by
  cases bound with
  | none => exact hdefault
  | some i => exact placed_bounds b hn i

theorem first_bounds (b : Bounds) (hn : 0 ≤ n) : b.low ≤ b.first n ∧ b.first n ≤ b.high n := by
  refine getD_placed_bounds hn b.start ?_
  unfold Bounds.low Bounds.high
  split <;> omega

theorem limit_bounds (b : Bounds) (hn : 0 ≤ n) : b.low ≤ b.limit n ∧ b.limit n ≤ b.high n := by
  refine getD_placed_bounds hn b.stop ?_
  unfold Bounds.low Bounds.high
  split <;> omega

theorem staysIn_slice (b : Bounds) (hn : 0 ≤ n) :
    StaysIn n b.stride (b.first n) (b.limit n) := by
  have hfirst := first_bounds b hn
  have hlimit := limit_bounds b hn
  unfold Bounds.low Bounds.high at hfirst hlimit
  unfold StaysIn
  by_cases hup : 0 < b.stride
  · simp only [if_pos hup] at hfirst hlimit ⊢
    omega
  · simp only [if_neg hup] at hfirst hlimit ⊢
    omega

theorem distance_slice (b : Bounds) (hn : 0 ≤ n) :
    distance b.stride (b.first n) (b.limit n) ≤ n := by
  have hfirst := first_bounds b hn
  have hlimit := limit_bounds b hn
  unfold Bounds.low Bounds.high at hfirst hlimit
  unfold distance
  by_cases hup : 0 < b.stride
  · simp only [if_pos hup] at hfirst hlimit ⊢
    omega
  · simp only [if_neg hup] at hfirst hlimit ⊢
    omega

theorem stride_ne_zero (hb : b.Valid) : b.stride ≠ 0 := by
  unfold Bounds.stride
  cases hstep : b.step with
  | none => decide
  | some i => exact (hb.step i hstep).2

theorem reaches_iff {k : Nat} :
    b.Reaches n k ↔ isBefore b.stride (b.first n + k * b.stride) (b.limit n) = true :=
  isBefore_iff.symm

theorem position_staysIn (b : Bounds) (hn : 0 ≤ n) (k : Nat) :
    StaysIn n b.stride (b.position n k) (b.limit n) := by
  induction k with
  | zero =>
    rw [Bounds.position, Int.natCast_zero, Int.zero_mul, Int.add_zero]
    exact staysIn_slice b hn
  | succ k ih =>
    have hsame : b.position n (k + 1) = b.position n k + b.stride := by
      rw [Bounds.position, Bounds.position, Int.natCast_succ, Int.add_mul, Int.one_mul,
        Int.add_assoc]
    rw [hsame]
    exact ih.next

theorem exists_slice? (hb : b.Valid) (hn : (items.length : Int) ≤ Number.maxSigned) :
    ∃ selected, slice? b items = some selected := by
  have hlength := Int.natCast_nonneg items.length
  obtain ⟨selected, hselected, -⟩ := exists_itemsFrom? (stride_ne_zero hb) hn
    (staysIn_slice b hlength) (distance_slice b hlength)
  exact ⟨selected, (slice?_eq hb hn).trans hselected⟩

/-- A slice of a list always exists, and selects the items at exactly the positions before its
limit, all of which are in the list. -/
theorem slice_selects (regex : Regex.Engine) (hb : b.Valid)
    (hn : (items.length : Int) ≤ Number.maxSigned) :
    ∃ selected, slice? b items = some selected ∧
      (Expr.slice b).eval regex (.arr items) = .ok (.arr selected) ∧
      ∀ k,
        (b.Reaches items.length k →
          0 ≤ b.position items.length k ∧ b.position items.length k < items.length ∧
            selected[k]? = items[(b.position items.length k).toNat]?) ∧
        (¬ b.Reaches items.length k → selected[k]? = none) := by
  have hlength := Int.natCast_nonneg items.length
  obtain ⟨selected, hselected, hthese⟩ := exists_itemsFrom? (stride_ne_zero hb) hn
    (staysIn_slice b hlength) (distance_slice b hlength)
  rw [← slice?_eq hb hn] at hselected
  refine ⟨selected, hselected, ?_, fun k => ⟨fun hreaches => ?_, fun hpast => ?_⟩⟩
  · rw [Expr.eval, slice, hselected, Option.getD_some]
  · have hbefore := reaches_iff.1 hreaches
    obtain ⟨hpos, hless⟩ := (position_staysIn b hlength k).bounds hbefore
    exact ⟨hpos, hless, (hthese k).trans (if_pos hbefore)⟩
  · exact (hthese k).trans (if_neg (mt reaches_iff.2 hpast))

/-- From the second item on, in steps that no sum has room for. -/
def farBounds : Bounds := ⟨some 1, some Number.maxSigned, some Number.maxSigned⟩

/-- The first step leaves the 64 bits, and the slice ends with one item. -/
theorem far_slice_selects :
    farBounds.Valid ∧ addSigned? 1 Number.maxSigned = none ∧
      ∃ selected, slice? farBounds [.null, .bool true, .null] = some selected ∧
        selected[0]? = some (.bool true) ∧ selected[1]? = none := by
  have hvalid : farBounds.Valid := by
    refine ⟨?_, ?_, ?_⟩ <;> rintro i ⟨⟩ <;> decide
  obtain ⟨selected, hselected, -, hthese⟩ :=
    @slice_selects farBounds [.null, .bool true, .null] Regex.linear hvalid (by decide)
  exact ⟨hvalid, by decide, selected, hselected, ((hthese 0).1 (by decide)).2.2,
    (hthese 1).2 (by decide)⟩

end Caseflow.Query
