import RuleQuery.Proofs.Decimal.Binary

namespace RuleQuery.Binary64

/-- The whole number nearest to a quotient; of two that are as near it is the even one. -/
structure IsNearest (num : Int) (den : Nat) (i : Int) : Prop where
  near : 2 * (num - i * den).natAbs ≤ den
  even : 2 * (num - i * den).natAbs = den → i % 2 = 0

section Quotient

variable {num num' i j : Int} {den : Nat}

/-- Rounding keeps the order. -/
theorem isNearest_le (positive : 0 < den) (order : num ≤ num') (first : IsNearest num den i)
    (second : IsNearest num' den j) : i ≤ j := by
  apply Int.not_lt.mp
  intro above
  obtain ⟨near, even⟩ := first
  obtain ⟨near', even'⟩ := second
  have either : i = j + 1 ∨ j + 2 ≤ i := by omega
  rcases either with rfl | apart
  · -- both are a half away, and neighbours are not both even
    have product : (j + 1) * (den : Int) = j * den + den := by rw [Int.add_mul, Int.one_mul]
    have odd := even (by omega)
    have odd' := even' (by omega)
    omega
  · have product := Int.mul_le_mul_of_nonneg_right apart (Int.natCast_nonneg den)
    rw [Int.add_mul] at product
    omega

theorem isNearest_unique (positive : 0 < den) (first : IsNearest num den i)
    (second : IsNearest num den j) : i = j :=
  Int.le_antisymm (isNearest_le positive (Int.le_refl num) first second)
    (isNearest_le positive (Int.le_refl num) second first)

theorem isNearest_neg (nearest : IsNearest num den i) : IsNearest (-num) den (-i) := by
  obtain ⟨near, even⟩ := nearest
  have product : -i * (den : Int) = -(i * den) := Int.neg_mul ..
  constructor
  · omega
  · omega

/-- Rounding yields the nearest whole number. -/
theorem isNearest_roundHalfEven (num : Nat) {den : Nat} (positive : 0 < den) :
    IsNearest num den (roundHalfEven num den) := by
  have split := Nat.div_add_mod num den
  have below := Nat.mod_lt num positive
  have product : ((den * (num / den) : Nat) : Int) = (num / den : Nat) * den := by
    rw [Nat.mul_comm, Int.natCast_mul]
  unfold roundHalfEven
  simp only
  generalize num / den = q at *
  generalize num % den = r at *
  have next : ((q + 1 : Nat) : Int) * den = q * den + den := by
    rw [Int.natCast_add, Int.add_mul, Int.natCast_one, Int.one_mul]
  split
  · constructor <;> omega
  · split
    · constructor <;> omega
    · rcases Nat.mod_two_eq_zero_or_one q with even | odd
      · rw [even, Nat.add_zero]
        constructor <;> omega
      · rw [odd]
        constructor <;> omega

theorem roundHalfEven_le_roundHalfEven {num num' : Nat} (positive : 0 < den) (order : num ≤ num') :
    roundHalfEven num den ≤ roundHalfEven num' den :=
  Int.ofNat_le.mp (isNearest_le positive (Int.ofNat_le.mpr order)
    (isNearest_roundHalfEven num positive) (isNearest_roundHalfEven num' positive))

theorem roundHalfEven_mul (num den : Nat) {k : Nat} (positive : 0 < k) :
    roundHalfEven (num * k) (den * k) = roundHalfEven num den := by
  unfold roundHalfEven
  simp only [Nat.mul_div_mul_right _ _ positive, Nat.mul_mod_mul_right, ← Nat.mul_assoc,
    Nat.mul_lt_mul_right positive]

theorem roundHalfEven_mul_self (q : Nat) {den : Nat} (positive : 0 < den) :
    roundHalfEven (q * den) den = q := by
  simp [roundHalfEven, Nat.mul_div_cancel _ positive, positive]

theorem le_roundHalfEven {num a : Nat} (positive : 0 < den) (low : a * den ≤ num) :
    a ≤ roundHalfEven num den := by
  have quotient : a ≤ num / den := (Nat.le_div_iff_mul_le positive).mpr low
  unfold roundHalfEven
  simp only
  split
  · exact quotient
  · split <;> omega

theorem roundHalfEven_le {num b : Nat} (positive : 0 < den) (high : num ≤ b * den) :
    roundHalfEven num den ≤ b := by
  rcases Nat.lt_or_ge num (b * den) with below | above
  · have quotient : num / den < b := (Nat.div_lt_iff_lt_mul positive).mpr below
    unfold roundHalfEven
    simp only
    split
    · omega
    · split <;> omega
  · have exact : num = b * den := Nat.le_antisymm high above
    exact Nat.le_of_eq (exact ▸ roundHalfEven_mul_self b positive)

end Quotient

theorem one_pos : 0 < one := pow2_pos 1074

theorem isNearest_toIntHalfEven (x : Binary64) : IsNearest x.signedUnits one x.toIntHalfEven := by
  have nearest := isNearest_roundHalfEven x.units one_pos
  unfold signedUnits toIntHalfEven
  cases x.negative with
  | false => exact nearest
  | true => exact isNearest_neg nearest

section Magnitude

variable {negative : Bool} {magnitude : Nat}

theorem magnitudeBits_ofMagnitude (small : magnitude < signBit) :
    (ofMagnitude negative magnitude).magnitudeBits = magnitude := by
  unfold signBit at small
  unfold magnitudeBits ofMagnitude signBit
  rw [UInt64.toNat_ofNat']
  split <;> omega

theorem negative_ofMagnitude (small : magnitude < signBit) :
    (ofMagnitude negative magnitude).negative = negative := by
  unfold signBit at small
  unfold Binary64.negative ofMagnitude signBit
  rw [UInt64.toNat_ofNat']
  cases negative <;> simp <;> omega

/-- A significand above its power of two. The next larger power of two has the pattern that comes
next, so the significand may be rounded up to it. -/
theorem unitsOf_scaled {q : Nat} (shift : Nat) (low : exponentBit ≤ q)
    (high : q ≤ 2 * exponentBit) :
    unitsOf (q + shift * exponentBit) = q * pow2 shift := by
  have positive : 0 < exponentBit := by decide
  have normal : ¬ q + shift * exponentBit < exponentBit := by omega
  rw [unitsOf, if_neg normal, Nat.add_mul_mod_self_right, Nat.add_mul_div_right _ _ positive]
  rcases Nat.lt_or_ge q (2 * exponentBit) with below | top
  · have quotient : q / exponentBit = 1 := Nat.div_eq_of_lt_le (by omega) (by omega)
    have remainder : q % exponentBit = q - exponentBit := by
      rw [Nat.mod_eq_sub_mod low, Nat.mod_eq_of_lt (by omega)]
    rw [quotient, remainder, Nat.add_sub_cancel' low, Nat.add_sub_cancel_left]
  · obtain rfl : q = 2 * exponentBit := Nat.le_antisymm high top
    rw [Nat.mul_mod_left, Nat.mul_div_cancel _ positive, Nat.add_zero]
    have power : 2 + shift - 1 = shift + 1 := by omega
    rw [power, pow2_succ, Nat.mul_comm (pow2 shift), ← Nat.mul_assoc, Nat.mul_comm exponentBit]

end Magnitude

theorem log2_mul_pow2 {n : Nat} (nonzero : n ≠ 0) (k : Nat) :
    (n * pow2 k).log2 = n.log2 + k := by
  have bounds := (Nat.log2_eq_iff nonzero).mp (Eq.refl n.log2)
  have product : n * pow2 k ≠ 0 := Nat.mul_ne_zero nonzero (Nat.ne_of_gt (pow2_pos k))
  have power : 2 ^ (n.log2 + k) = 2 ^ n.log2 * pow2 k := Nat.pow_add ..
  have next : 2 ^ (n.log2 + k + 1) = 2 ^ (n.log2 + 1) * pow2 k := by
    rw [Nat.add_right_comm]
    exact Nat.pow_add ..
  rw [Nat.log2_eq_iff product, power, next]
  exact ⟨Nat.mul_le_mul_right _ bounds.1, Nat.mul_lt_mul_of_pos_right bounds.2 (pow2_pos k)⟩

section Whole

variable {n k : Nat}

/-- Whole numbers of at least 53 digits, rounded to 53 digits. -/
theorem leading_bounds (length : n.log2 = 52 + k) (nonzero : n ≠ 0) :
    exponentBit ≤ roundHalfEven n (pow2 k) ∧ roundHalfEven n (pow2 k) ≤ 2 * exponentBit := by
  have bounds := (Nat.log2_eq_iff nonzero).mp length
  have low : 2 ^ (52 + k) = exponentBit * pow2 k := Nat.pow_add ..
  have high : 2 ^ (52 + k + 1) = 2 * exponentBit * pow2 k := by
    rw [Nat.pow_succ, low, Nat.mul_comm, Nat.mul_assoc]
  constructor
  · exact le_roundHalfEven (pow2_pos k) (by omega)
  · exact roundHalfEven_le (pow2_pos k) (by omega)

/-- A whole number of at least 53 digits as a float. -/
theorem ofNat_eq (length : n.log2 = 52 + k) (nonzero : n ≠ 0) (finite : k ≤ 971) :
    ofNat n = ofMagnitude false (roundHalfEven n (pow2 k) + (k + 1074) * exponentBit) := by
  have shift : (n * one / 1).log2 - 52 = k + 1074 := by
    rw [Nat.div_one, one, log2_mul_pow2 nonzero]
    omega
  have scaled : roundHalfEven (n * one) (1 * pow2 (k + 1074)) = roundHalfEven n (pow2 k) := by
    rw [Nat.one_mul, pow2_add, ← one, roundHalfEven_mul _ _ one_pos]
  have bounds := leading_bounds length nonzero
  have small : roundHalfEven n (pow2 k) + (k + 1074) * exponentBit ≤ infinityBits := by
    unfold infinityBits exponentBit at *
    omega
  unfold ofNat ofRatio
  simp only
  rw [shift, scaled, Nat.min_eq_left small]

/-- It stands for its leading digits, rounded, followed by zeros. -/
theorem toIntHalfEven_ofNat (length : n.log2 = 52 + k) (nonzero : n ≠ 0) (finite : k < 971) :
    (ofNat n).isFinite = true ∧
      (ofNat n).toIntHalfEven = (roundHalfEven n (pow2 k) * pow2 k : Nat) := by
  have bounds := leading_bounds length nonzero
  have belowInfinity : roundHalfEven n (pow2 k) + (k + 1074) * exponentBit < infinityBits := by
    unfold infinityBits exponentBit at *
    omega
  have small : roundHalfEven n (pow2 k) + (k + 1074) * exponentBit < signBit :=
    Nat.lt_trans belowInfinity (by decide)
  rw [ofNat_eq length nonzero (Nat.le_of_lt finite)]
  constructor
  · rw [isFinite, magnitudeBits_ofMagnitude small, decide_eq_true belowInfinity]
  · have units : unitsOf (roundHalfEven n (pow2 k) + (k + 1074) * exponentBit) =
        roundHalfEven n (pow2 k) * pow2 k * one := by
      rw [unitsOf_scaled _ bounds.1 bounds.2, pow2_add, ← one, Nat.mul_assoc]
    rw [toIntHalfEven, Binary64.units, magnitudeBits_ofMagnitude small, units,
      roundHalfEven_mul_self _ one_pos, negative_ofMagnitude small]
    rfl

end Whole

/-- Floats of more than 53 binary digits before the point are multiples of powers of two. -/
theorem exists_units_eq {x : Binary64} {k : Nat} (large : pow2 (53 + k) * one ≤ x.units) :
    ∃ m, x.units = m * pow2 (k + 1) * one := by
  have bounded : x.significand < pow2 53 := x.significand_lt
  rw [units_eq] at large ⊢
  have higher : k + 1 + 1074 ≤ x.exponentField - 1 := by
    apply Nat.lt_of_not_le
    intro lower
    have power : pow2 (x.exponentField - 1) ≤ pow2 (k + 1074) :=
      Nat.pow_le_pow_right (by decide) (by omega)
    have below : x.significand * pow2 (x.exponentField - 1) < pow2 53 * pow2 (k + 1074) :=
      Nat.mul_lt_mul_of_lt_of_le bounded power (pow2_pos _)
    rw [← pow2_add, ← Nat.add_assoc, pow2_add, ← one] at below
    omega
  obtain ⟨excess, exponent⟩ := Nat.exists_eq_add_of_le' higher
  refine ⟨x.significand * pow2 excess, ?_⟩
  rw [exponent, ← Nat.add_assoc, pow2_add, pow2_add, ← one]
  simp only [Nat.mul_assoc]

end RuleQuery.Binary64
