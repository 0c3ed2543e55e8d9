import Caseflow.Binary64.Decimal

/-!
# Rounding to doubles

The magnitude bits nearest to a fraction depend only on the value of the fraction, and a value that
is a double is nearest to itself. So the shortest decimal of a double has the double's magnitude,
whichever of its lengths the search ends at.
-/
namespace Caseflow.Binary64

variable {num den k : Nat}

theorem roundHalfEven_mul_left (hk : 0 < k) :
    roundHalfEven (k * num) (k * den) = roundHalfEven num den := by
  have htwice : 2 * (k * (num % den)) = k * (2 * (num % den)) := Nat.mul_left_comm _ _ _
  simp only [roundHalfEven, Nat.mul_div_mul_left _ _ hk, Nat.mul_mod_mul_left, htwice,
    Nat.mul_lt_mul_left hk]

theorem roundHalfEven_mul_self (hk : 0 < k) : roundHalfEven (num * k) k = num := by
  calc roundHalfEven (num * k) k = roundHalfEven (k * num) (k * 1) := by
        rw [Nat.mul_comm, Nat.mul_one]
    _ = num := by rw [roundHalfEven_mul_left hk, roundHalfEven_one]

/-- Of two neighbours the rounded quotient is one. -/
theorem roundHalfEven_eq_or (num den : Nat) :
    roundHalfEven num den = num / den ∨ roundHalfEven num den = num / den + 1 := by
  simp only [roundHalfEven]
  split
  · exact .inl rfl
  · split
    · exact .inr rfl
    · omega

/-- Reducing a fraction leaves its nearest magnitude as it is. -/
theorem magnitudeNear_mul_left (hk : 0 < k) :
    magnitudeNear (k * num) (k * den) = magnitudeNear num den := by
  simp only [magnitudeNear, Nat.mul_div_mul_left _ _ hk, Nat.mul_assoc,
    roundHalfEven_mul_left hk]

/-- With its leading bit in place the significand is exact, and the exponent is the shift. -/
theorem magnitudeNear_normal {significand shift : Nat} (hlow : Nat.pow 2 52 ≤ significand)
    (hhigh : significand < Nat.pow 2 53) :
    magnitudeNear (significand * Nat.pow 2 shift) 1 = shift * Nat.pow 2 52 + significand := by
  simp only [Nat.pow_eq] at hlow hhigh ⊢
  have hpow := Nat.two_pow_pos shift
  have hlog : (significand * 2 ^ shift).log2 = 52 + shift := by
    have hne : significand * 2 ^ shift ≠ 0 := Nat.mul_ne_zero (by omega) (by omega)
    rw [Nat.log2_eq_iff hne, Nat.add_right_comm, Nat.pow_add, Nat.pow_add]
    exact ⟨Nat.mul_le_mul_right _ hlow, Nat.mul_lt_mul_of_pos_right hhigh hpow⟩
  have hshift : (if significand * 2 ^ shift < 2 ^ 53 then 0 else
      (significand * 2 ^ shift).log2 - 52) = shift := by
    rw [hlog]
    split
    · rename_i hsmall
      cases shift with
      | zero => rfl
      | succ shift =>
        have hdouble := Nat.mul_le_mul hlow (Nat.pow_le_pow_right Nat.zero_lt_two
          (Nat.succ_le_succ (Nat.zero_le shift)) : 2 ^ 1 ≤ 2 ^ (shift + 1))
        omega
    · omega
  simp only [magnitudeNear, Nat.pow_eq, Nat.div_one, Nat.one_mul, hshift,
    roundHalfEven_mul_self hpow]

/-- A double is the one nearest to its own value. -/
theorem magnitudeNear_units (magnitude : Nat) :
    magnitudeNear (unitsOfMagnitude magnitude) 1 = magnitude := by
  have hsplit := Nat.div_add_mod magnitude (Nat.pow 2 52)
  have hfraction : magnitude % Nat.pow 2 52 < Nat.pow 2 52 := Nat.mod_lt _ (Nat.two_pow_pos 52)
  simp only [unitsOfMagnitude]
  split
  · rename_i hfield
    rw [hfield] at hsplit
    simp only [magnitudeNear, Nat.pow_eq, Nat.div_one, Nat.one_mul] at hsplit hfraction ⊢
    rw [if_pos (by omega), Nat.pow_zero, roundHalfEven_one]
    omega
  · have hhigh : Nat.pow 2 52 + magnitude % Nat.pow 2 52 < Nat.pow 2 53 := by
      simp only [Nat.pow_eq] at hfraction ⊢
      omega
    rw [magnitudeNear_normal (Nat.le_add_right _ _) hhigh]
    simp only [Nat.pow_eq] at *
    omega

/-- A zero at the end of the digits counts as much as one more in the exponent. -/
theorem Decimal.magnitude_mul_ten (digits : Nat) (exponent : Int) :
    (Decimal.mk (digits * 10) exponent).magnitude =
      (Decimal.mk digits (exponent + 1)).magnitude := by
  simp only [magnitude, fraction, Nat.pow_eq]
  by_cases hnonneg : 0 ≤ exponent
  · have hsucc : (exponent + 1).natAbs = exponent.natAbs + 1 := by omega
    rw [if_neg (by omega), if_neg (by omega), hsucc, Nat.pow_succ, Nat.mul_assoc digits,
      Nat.mul_comm 10]
  · have hcancel (power : Nat) : magnitudeNear (digits * 10 * one) (power * 10) =
        magnitudeNear (digits * one) power := by
      rw [Nat.mul_comm digits, Nat.mul_comm power, Nat.mul_assoc,
        magnitudeNear_mul_left (by decide)]
    have hpred : exponent.natAbs = (exponent + 1).natAbs + 1 := by omega
    rw [if_pos (by omega), hpred, Nat.pow_succ, hcancel]
    split
    · rfl
    · have hzero : (exponent + 1).natAbs = 0 := by omega
      rw [hzero, Nat.pow_zero, Nat.mul_one]

theorem Decimal.magnitude_mul_pow (digits count : Nat) (exponent : Int) :
    (Decimal.mk (digits * Nat.pow 10 count) exponent).magnitude =
      (Decimal.mk digits (exponent + count)).magnitude := by
  rw [Nat.pow_eq]
  induction count generalizing exponent with
  | zero => simp
  | succ count ih =>
    rw [Nat.pow_succ, ← Nat.mul_assoc, magnitude_mul_ten, ih]
    congr 2
    omega

theorem Decimal.magnitude_trim (fuel : Nat) (d : Decimal) :
    (d.trim fuel).magnitude = d.magnitude := by
  induction fuel generalizing d with
  | zero => rfl
  | succ fuel ih =>
    rw [trim]
    split
    · rename_i hzero
      have hdigits : d.digits / 10 * 10 = d.digits := Nat.div_mul_cancel (by omega)
      rw [ih, ← magnitude_mul_ten, hdigits]
    · rfl

theorem magnitude_of_neighbour {magnitude : Nat} {exponent : Int} {d : Decimal}
    (h : neighbour? magnitude exponent num den = some d) : d.magnitude = magnitude := by
  unfold neighbour? at h
  dsimp only at h
  split at h
  · rename_i hlow
    split at h
    · rename_i hhigh
      cases h
      obtain hdown | hup := roundHalfEven_eq_or num den
      · rw [hdown, hlow]
      · rw [hup, hhigh]
    · cases h
      exact hlow
  · split at h
    · rename_i hhigh
      cases h
      exact hhigh
    · cases h

theorem magnitude_of_candidate {magnitude units : Nat} {exponent : Int} {d : Decimal}
    (h : candidate? magnitude units exponent = some d) : d.magnitude = magnitude := by
  unfold candidate? at h
  split at h
  · exact magnitude_of_neighbour h
  · exact magnitude_of_neighbour h

theorem Decimal.magnitude_neg (digits power : Nat) :
    (Decimal.mk digits (-power)).magnitude = magnitudeNear (digits * one) (Nat.pow 10 power) := by
  simp only [magnitude, fraction, Nat.pow_eq]
  split
  · rw [Int.natAbs_neg, Int.natAbs_natCast]
  · have hzero : power = 0 := by omega
    rw [hzero, Int.natAbs_neg, Int.natAbs_natCast, Nat.pow_zero, Nat.mul_one]

theorem magnitudeNear_exact (units power : Nat) :
    magnitudeNear (units * Nat.pow 5 power * Nat.pow 2 power) (Nat.pow 10 power) =
      magnitudeNear units 1 := by
  have hten : 10 ^ power = 5 ^ power * 2 ^ power := Nat.mul_pow 5 2 power
  have hpos : 0 < 10 ^ power := Nat.pow_pos (by decide)
  calc magnitudeNear (units * 5 ^ power * 2 ^ power) (10 ^ power)
      = magnitudeNear (10 ^ power * units) (10 ^ power * 1) := by
        rw [Nat.mul_assoc, ← hten, Nat.mul_comm, Nat.mul_one]
    _ = magnitudeNear units 1 := magnitudeNear_mul_left hpos

/-- The units of a double, as a decimal, are the double. -/
theorem magnitude_exact (magnitude : Nat) {power : Nat} (hunit : one = Nat.pow 2 power) :
    (Decimal.mk (unitsOfMagnitude magnitude * Nat.pow 5 power) (-power)).magnitude =
      magnitude := by
  rw [Decimal.magnitude_neg, hunit, magnitudeNear_exact, magnitudeNear_units]

theorem magnitude_searchDigits (magnitude more n : Nat) (leading : Int) :
    (searchDigits magnitude (unitsOfMagnitude magnitude) leading more n).magnitude = magnitude := by
  induction more generalizing n with
  | zero =>
    rw [searchDigits]
    have hunit : one = Nat.pow 2 unitPower := by
      delta one
      exact Eq.refl _
    exact magnitude_exact magnitude hunit
  | succ more ih =>
    rw [searchDigits]
    split
    · rename_i hfound
      exact magnitude_of_candidate hfound
    · exact ih (n + 1)

/-- The shortest decimal of a double reads back as its absolute value. -/
theorem magnitude_shortest (x : Binary64) : x.shortest.magnitude = x.magnitude := by
  simp only [shortest]
  split
  · rename_i hzero
    have h := magnitudeNear_units x.magnitude
    rw [hzero] at h
    rw [← h]
    simp only [Decimal.magnitude, Decimal.fraction, if_neg (Int.lt_irrefl 0), Nat.zero_mul]
  · rw [Decimal.magnitude_trim, magnitude_searchDigits]

end Caseflow.Binary64
