import Caseflow.Json.Number
import Caseflow.Proofs.Binary64.Text

/-!
# Texts of numbers

Numbers are written with digits, signs, a point and an `e` only. The text of a double always has a
point or an exponent, which no integer has, so the text of a number tells its kind and the number.
-/
namespace Caseflow

open Json

def Json.isNumeric (c : Char) : Bool := isDigit c || c ∈ ['-', '+', '.', 'e']

theorem Json.isNumeric_of_isDigit {c : Char} (h : isDigit c = true) : isNumeric c = true := by
  rw [isNumeric, h, Bool.true_or]

namespace Binary64

theorem isNumeric_of_mem_pointed {fraction : List Char} {c : Char}
    (hfraction : ∀ c ∈ fraction, isDigit c = true) (h : c ∈ pointed fraction) :
    isNumeric c = true := by
  unfold pointed at h
  split at h
  · cases h
  · obtain rfl | hc := List.mem_cons.1 h
    · decide
    · exact isNumeric_of_isDigit (hfraction c hc)

theorem Decimal.marked (d : Decimal) : '.' ∈ d.chars ∨ 'e' ∈ d.chars := by
  have hpoint {fraction : List Char} (h : fraction ≠ []) : '.' ∈ pointed fraction := by
    simp [pointed, h]
  have hne : Nat.toDigits 10 d.digits ≠ [] := Nat.toDigits_ne_nil
  simp only [chars]
  split
  · exact .inr (by simp)
  · refine .inl ?_
    split
    · exact List.mem_append_right _ (hpoint (by simp [hne]))
    · split
      · exact List.mem_append_right _ (hpoint (by rw [ne_eq, List.drop_eq_nil_iff]; omega))
      · exact List.mem_append_right _ (hpoint (by simp))

theorem Decimal.isNumeric_of_mem {d : Decimal} : ∀ c ∈ d.chars, isNumeric c = true := by
  have hdigits : ∀ {n : Nat}, ∀ c ∈ Nat.toDigits 10 n, isDigit c = true :=
    fun c => isDigit_of_mem_toDigits
  have hzeros : ∀ {n : Nat}, ∀ c ∈ List.replicate n '0', isDigit c = true :=
    fun c hc => List.eq_of_mem_replicate hc ▸ rfl
  have hzero : ∀ c ∈ ['0'], isDigit c = true := @hzeros 1
  have hnumeric {ds : List Char} (h : ∀ c ∈ ds, isDigit c = true) : ∀ c ∈ ds, isNumeric c = true :=
    fun c hc => isNumeric_of_isDigit (h c hc)
  have hpointed {ds : List Char} (h : ∀ c ∈ ds, isDigit c = true) :
      ∀ c ∈ pointed ds, isNumeric c = true := fun c hc => isNumeric_of_mem_pointed h hc
  have htake {n k : Nat} : ∀ c ∈ (Nat.toDigits 10 n).take k, isDigit c = true :=
    fun c hc => hdigits c (List.mem_of_mem_take hc)
  have hdrop {n k : Nat} : ∀ c ∈ (Nat.toDigits 10 n).drop k, isDigit c = true :=
    fun c hc => hdigits c (List.mem_of_mem_drop hc)
  simp only [chars]
  split
  · have hexponent {leading : Int} : ∀ c ∈ 'e' :: (if leading < 0 then '-' else '+') ::
        Nat.toDigits 10 leading.natAbs, isNumeric c = true := by
      refine List.forall_mem_cons.2 ⟨by decide, List.forall_mem_cons.2 ⟨?_, hnumeric hdigits⟩⟩
      split
      · decide
      · decide
    exact List.forall_mem_append.2
      ⟨hnumeric htake, List.forall_mem_append.2 ⟨hpointed hdrop, hexponent⟩⟩
  · split
    · exact List.forall_mem_append.2
        ⟨hnumeric hzero, hpointed (List.forall_mem_append.2 ⟨hzeros, hdigits⟩)⟩
    · split
      · exact List.forall_mem_append.2 ⟨hnumeric htake, hpointed hdrop⟩
      · exact List.forall_mem_append.2
          ⟨hnumeric (List.forall_mem_append.2 ⟨hdigits, hzeros⟩), hpointed hzero⟩

end Binary64

namespace Number

theorem toList_text_int (n : Int) :
    (int n).text.toList = (if n < 0 then ['-'] else []) ++ Nat.toDigits 10 n.natAbs := by
  simp only [text]
  split
  · rw [String.toList_append, Nat.toList_repr]
    rfl
  · rw [Nat.toList_repr, List.nil_append]

theorem toList_text_float (x : Binary64) :
    (float x).text.toList = (if x.negative then ['-'] else []) ++ x.shortest.chars := by
  simp only [text, Binary64.text, String.toList_ofList]
  split
  · rfl
  · rfl

theorem isNumeric_of_mem_text (n : Number) : ∀ c ∈ n.text.toList, isNumeric c = true := by
  have hsign {p : Prop} [Decidable p] :
      ∀ c ∈ (if p then ['-'] else []), isNumeric c = true := by
    split
    · exact List.forall_mem_singleton.2 rfl
    · exact List.forall_mem_nil _
  cases n with
  | int n =>
    rw [toList_text_int]
    exact List.forall_mem_append.2
      ⟨hsign, fun c hc => isNumeric_of_isDigit (isDigit_of_mem_toDigits hc)⟩
  | float x =>
    rw [toList_text_float]
    exact List.forall_mem_append.2 ⟨hsign, Binary64.Decimal.isNumeric_of_mem⟩

theorem toList_text_ne_nil (n : Number) : n.text.toList ≠ [] := by
  cases n with
  | int n =>
    rw [toList_text_int]
    exact List.append_ne_nil_of_right_ne_nil _ Nat.toDigits_ne_nil
  | float x =>
    rw [toList_text_float]
    refine List.append_ne_nil_of_right_ne_nil _ ?_
    obtain hpoint | hexponent := x.shortest.marked
    · exact List.ne_nil_of_mem hpoint
    · exact List.ne_nil_of_mem hexponent

theorem text_int_injective {m n : Int} (h : (int m).text = (int n).text) : m = n := by
  have hlist := congrArg String.toList h
  rw [toList_text_int, toList_text_int] at hlist
  have hminus {k : Nat} {ds : List Char} : ['-'] ++ ds ≠ [] ++ Nat.toDigits 10 k := by
    intro heq
    have hmem : '-' ∈ [] ++ Nat.toDigits 10 k := heq ▸ List.mem_append_left _ List.mem_cons_self
    cases isDigit_of_mem_toDigits hmem
  have hvalue {k l : Nat} (hkl : Nat.toDigits 10 k = Nat.toDigits 10 l) : k = l := by
    rw [← natOfDigits_toDigits k, hkl, natOfDigits_toDigits]
  split at hlist
  · split at hlist
    · have := hvalue (List.append_cancel_left hlist)
      omega
    · exact absurd hlist hminus
  · split at hlist
    · exact absurd hlist.symm hminus
    · have := hvalue hlist
      omega

/-- An integer is written without a point and without an exponent. -/
theorem text_int_ne_text_float (n : Int) (x : Binary64) : (int n).text ≠ (float x).text := by
  intro h
  have hlist := congrArg String.toList h
  rw [toList_text_int, toList_text_float] at hlist
  have hplain {c : Char} (hc : c = '.' ∨ c = 'e') :
      c ∉ (if n < 0 then ['-'] else []) ++ Nat.toDigits 10 n.natAbs := by
    intro hmem
    obtain hsign | hdigit := List.mem_append.1 hmem
    · split at hsign
      · obtain rfl := List.mem_singleton.1 hsign
        simp at hc
      · cases hsign
    · have hdigit := isDigit_of_mem_toDigits hdigit
      obtain rfl | rfl := hc
      · cases hdigit
      · cases hdigit
  obtain hpoint | hexponent := x.shortest.marked
  · exact hplain (.inl rfl) (hlist ▸ List.mem_append_right _ hpoint)
  · exact hplain (.inr rfl) (hlist ▸ List.mem_append_right _ hexponent)

/-- Numbers with the same text are the same number of the same kind. -/
theorem text_injective {m n : Number} (h : m.text = n.text) : m = n := by
  cases m with
  | int m =>
    cases n with
    | int n => rw [text_int_injective h]
    | float y => exact absurd h (text_int_ne_text_float m y)
  | float x =>
    cases n with
    | int n => exact absurd h.symm (text_int_ne_text_float n x)
    | float y => rw [Binary64.text_injective h]

end Number
end Caseflow
