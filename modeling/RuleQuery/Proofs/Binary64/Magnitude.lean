import RuleQuery.Proofs.Binary64.Rounding

namespace RuleQuery.Binary64

variable {x y : Binary64} {m n : Nat}

section Parts

theorem toNat_bits (x : Binary64) :
    x.bits.toNat = x.magnitudeBits + if x.negative then signBit else 0 := by
  have bound := x.bits.toNat_lt
  unfold magnitudeBits negative signBit
  simp only [decide_eq_true_eq]
  split <;> omega

theorem eq_of_parts (signs : x.negative = y.negative)
    (magnitudes : x.magnitudeBits = y.magnitudeBits) : x = y := by
  have bits : x.bits.toNat = y.bits.toNat := by rw [toNat_bits, toNat_bits, signs, magnitudes]
  obtain ⟨bitsX⟩ := x
  obtain ⟨bitsY⟩ := y
  exact congrArg mk (UInt64.toNat_inj.mp bits)

theorem eq_zero_of_magnitudeBits (nothing : x.magnitudeBits = 0) : x = zero x.negative := by
  have small : 0 < signBit := by decide
  exact eq_of_parts (negative_ofMagnitude small).symm
    (nothing.trans (magnitudeBits_ofMagnitude small).symm)

end Parts

section Magnitudes

theorem unitsOf_of_le (small : m ≤ exponentBit) : unitsOf m = m := by
  rcases Nat.eq_or_lt_of_le small with rfl | below
  · decide
  · exact if_pos below

/-- The next magnitude stands for a larger value, also where the carry reaches the exponent. -/
theorem unitsOf_lt_succ (m : Nat) : unitsOf m < unitsOf (m + 1) := by
  rcases Nat.lt_or_ge m exponentBit with small | normal
  · rw [unitsOf_of_le (Nat.le_of_lt small), unitsOf_of_le small]
    exact Nat.lt_succ_self m
  · obtain ⟨q, shift, split, low, high⟩ : ∃ q shift,
        m = q + shift * exponentBit ∧ exponentBit ≤ q ∧ q + 1 ≤ 2 * exponentBit := by
      refine ⟨exponentBit + m % exponentBit, m / exponentBit - 1, ?_⟩
      unfold exponentBit at normal ⊢
      omega
    have next : m + 1 = q + 1 + shift * exponentBit := by omega
    rw [next, split, unitsOf_scaled shift low (by omega), unitsOf_scaled shift (by omega) high]
    exact Nat.mul_lt_mul_of_pos_right (Nat.lt_succ_self q) (pow2_pos shift)

theorem unitsOf_lt (order : m < n) : unitsOf m < unitsOf n := by
  induction order with
  | refl => exact unitsOf_lt_succ m
  | step _ ih => exact Nat.lt_trans ih (unitsOf_lt_succ _)

theorem unitsOf_inj (same : unitsOf m = unitsOf n) : m = n := by
  rcases Nat.lt_trichotomy m n with below | equal | above
  · exact absurd same (Nat.ne_of_lt (unitsOf_lt below))
  · exact equal
  · exact absurd same (Nat.ne_of_gt (unitsOf_lt above))

end Magnitudes

theorem eq_zero_of_units (nothing : x.units = 0) : x = zero x.negative :=
  eq_zero_of_magnitudeBits (unitsOf_inj nothing)

theorem signedUnits_zero (negative : Bool) : (zero negative).signedUnits = 0 := by
  cases negative <;> decide

theorem signedUnits_eq_iff : x.signedUnits = y.signedUnits ↔
    x = y ∨ ∃ negative, x = zero negative ∧ y = zero !negative := by
  constructor
  · intro same
    unfold signedUnits at same
    by_cases signs : x.negative = y.negative
    · have units : x.units = y.units := by
        rw [signs] at same
        split at same <;> omega
      exact .inl (eq_of_parts signs (unitsOf_inj units))
    · have turned : y.negative = !x.negative := Bool.eq_not.mpr (Ne.symm signs)
      have nothing : x.units = 0 ∧ y.units = 0 := by
        rw [turned] at same
        cases negative : x.negative <;> simp [negative] at same <;> omega
      refine .inr ⟨x.negative, eq_zero_of_units nothing.1, ?_⟩
      rw [← turned]
      exact eq_zero_of_units nothing.2
  · rintro (rfl | ⟨negative, rfl, rfl⟩)
    · rfl
    · rw [signedUnits_zero, signedUnits_zero]

end RuleQuery.Binary64
