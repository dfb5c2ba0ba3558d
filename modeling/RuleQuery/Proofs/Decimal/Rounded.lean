import RuleQuery.Proofs.Binary64.Rounding

namespace RuleQuery

namespace Binary64

theorem isNaN_ofMagnitude {negative : Bool} {magnitude : Nat} (small : magnitude ≤ infinityBits) :
    (ofMagnitude negative magnitude).isNaN = false := by
  have below : magnitude < signBit := Nat.lt_of_le_of_lt small (by decide)
  rw [isNaN, magnitudeBits_ofMagnitude below]
  exact decide_eq_false (Nat.not_lt_of_le small)

theorem isNaN_ofRatio (negative : Bool) (num den : Nat) :
    (ofRatio negative num den).isNaN = false :=
  isNaN_ofMagnitude (Nat.min_le_right _ _)

theorem magnitudeBits_lt (x : Binary64) : x.magnitudeBits < signBit := Nat.mod_lt _ (by decide)

theorem isNaN_negate (x : Binary64) : x.negate.isNaN = x.isNaN := by
  unfold isNaN negate
  rw [magnitudeBits_ofMagnitude x.magnitudeBits_lt]

theorem signedUnits_negate (x : Binary64) : x.negate.signedUnits = -x.signedUnits := by
  unfold signedUnits units negate
  rw [magnitudeBits_ofMagnitude x.magnitudeBits_lt, negative_ofMagnitude x.magnitudeBits_lt]
  cases x.negative <;> simp

theorem units_of_isZero {x : Binary64} (zero : x.isZero = true) : x.units = 0 := by
  rw [units, beq_iff_eq.mp zero]
  rfl

/-- A whole number as a float: its leading 53 digits, rounded, and zeros. -/
theorem units_ofNat {n : Nat} (nonzero : n ≠ 0) (small : n.log2 ≤ 1023) :
    ∃ q, (ofNat n).units = q * pow2 (n.log2 + 1022) ∧
      q = roundHalfEven (n * one) (pow2 (n.log2 + 1022)) ∧
      exponentBit ≤ q ∧ q ≤ 2 * exponentBit := by
  have length : (n * one).log2 = 52 + (n.log2 + 1022) := by
    rw [one, log2_mul_pow2 nonzero]
    omega
  have bounds := leading_bounds length (Nat.mul_ne_zero nonzero (Nat.ne_of_gt one_pos))
  refine ⟨_, ?_, rfl, bounds⟩
  have shift : (n * one / 1).log2 - 52 = n.log2 + 1022 := by
    rw [Nat.div_one, length]
    omega
  generalize quotient : roundHalfEven (n * one) (pow2 (n.log2 + 1022)) = q at bounds
  have finite : q + (n.log2 + 1022) * exponentBit ≤ infinityBits := by
    unfold infinityBits exponentBit at *
    omega
  have below : q + (n.log2 + 1022) * exponentBit < signBit := Nat.lt_of_le_of_lt finite (by decide)
  unfold ofNat ofRatio
  simp only
  rw [shift, Nat.one_mul, quotient, Nat.min_eq_left finite, units, magnitudeBits_ofMagnitude below,
    unitsOf_scaled _ bounds.1 bounds.2]

theorem negative_ofRatio {negative : Bool} (num den : Nat) :
    (ofRatio negative num den).negative = negative :=
  negative_ofMagnitude (Nat.lt_of_le_of_lt (Nat.min_le_right _ _) (by decide))

theorem signedUnits_ofNat (n : Nat) : (ofNat n).signedUnits = (ofNat n).units := by
  rw [signedUnits, ofNat, negative_ofRatio]
  rfl

theorem units_ofNat_le {m n : Nat} (order : m ≤ n) (small : n < 0x20000000000000000) :
    (ofNat m).units ≤ (ofNat n).units := by
  by_cases zero : m = 0
  · have none : (ofNat 0).units = 0 := by decide +kernel
    rw [zero, none]
    exact Nat.zero_le _
  have nonzero : n ≠ 0 := by omega
  have width : n.log2 ≤ 64 := Nat.le_of_lt_succ (Nat.log2_lt nonzero |>.mpr small)
  have short : n.log2 ≤ 1023 := Nat.le_trans width (by decide)
  have lengths : m.log2 ≤ n.log2 :=
    (Nat.le_log2 nonzero).mpr (Nat.le_trans (Nat.log2_self_le zero) order)
  obtain ⟨p, unitsM, roundedM, -, highM⟩ := units_ofNat zero (Nat.le_trans lengths short)
  obtain ⟨q, unitsN, roundedN, lowN, -⟩ := units_ofNat nonzero short
  rw [unitsM, unitsN]
  rcases Nat.eq_or_lt_of_le lengths with same | shorter
  · rw [roundedM, roundedN, same]
    exact Nat.mul_le_mul_right _
      (roundHalfEven_le_roundHalfEven (pow2_pos _) (Nat.mul_le_mul_right _ order))
  · -- one digit more outweighs all that rounding up can add
    calc p * pow2 (m.log2 + 1022)
        ≤ 2 * exponentBit * pow2 (m.log2 + 1022) := Nat.mul_le_mul_right _ highM
      _ = exponentBit * pow2 (m.log2 + 1022 + 1) := by
          have next := pow2_succ (m.log2 + 1022)
          unfold exponentBit
          omega
      _ ≤ q * pow2 (n.log2 + 1022) :=
          Nat.mul_le_mul lowN (Nat.pow_le_pow_right (by decide) (by omega))

end Binary64

namespace Decimal

theorem isNaN_toBinary64 (d : Decimal) : d.toBinary64.isNaN = false := by
  have signed : ∀ (x : Binary64) (turned : Bool), x.isNaN = false →
      (if turned then x.negate else x).isNaN = false := by
    intro x turned number
    cases turned with
    | true => exact x.isNaN_negate.trans number
    | false => exact number
  unfold toBinary64
  apply signed
  split
  · exact Binary64.isNaN_ofRatio ..
  · split
    · exact Binary64.isNaN_ofRatio ..
    · exact Binary64.isNaN_ofRatio ..

theorem signedUnits_toBinary64_ofInt64 (i : Int64) : (ofInt64 i).toBinary64.signedUnits =
    if i.toInt < 0 then -((Binary64.ofNat i.toInt.natAbs).units : Int)
    else (Binary64.ofNat i.toInt.natAbs).units := by
  unfold toBinary64 ofInt64
  by_cases below : i.toInt < 0
  · cases zero : (Binary64.ofNat i.toInt.natAbs).isZero with
    | true => simp [below, zero, Binary64.signedUnits_ofNat, Binary64.units_of_isZero zero]
    | false => simp [below, zero, Binary64.signedUnits_negate, Binary64.signedUnits_ofNat]
  · simp [below, Binary64.signedUnits_ofNat]

theorem toBinary64_ofInt64_le {i j : Int64} (order : i.toInt ≤ j.toInt) :
    (ofInt64 i).toBinary64.signedUnits ≤ (ofInt64 j).toBinary64.signedUnits := by
  have lowI := i.le_toInt
  have highI := i.toInt_lt
  have lowJ := j.le_toInt
  have highJ := j.toInt_lt
  rw [signedUnits_toBinary64_ofInt64, signedUnits_toBinary64_ofInt64]
  split
  · split
    · have magnitudes := Binary64.units_ofNat_le (m := j.toInt.natAbs) (n := i.toInt.natAbs)
        (by omega) (by omega)
      omega
    · omega
  · rw [if_neg (by omega)]
    exact Int.ofNat_le.mpr (Binary64.units_ofNat_le (by omega) (by omega))

end Decimal

end RuleQuery
