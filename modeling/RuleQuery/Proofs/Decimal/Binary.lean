import RuleQuery.Decimal.Binary

namespace RuleQuery.Decimal

theorem isSome_ofParts? {negative : Bool} {mantissa scale : Nat} (fits : mantissa < bound)
    (places : scale ≤ 28) : (ofParts? negative mantissa scale).isSome = true := by
  rw [ofParts?, dif_pos ⟨fits, places⟩]
  rfl

theorem absorbHalves_fits {mantissa : Nat} (fits : mantissa < bound) (power : Int) (fives : Nat) :
    (absorbHalves mantissa power fives).1 < bound ∧
      (absorbHalves mantissa power fives).2 ≤ power + fives := by
  induction fives generalizing mantissa power with
  | zero => exact ⟨fits, by simp [absorbHalves]⟩
  | succ fives ih =>
    have halved : mantissa / 2 < bound := by omega
    have later := ih halved (power + 1)
    unfold absorbHalves
    split
    · exact ⟨later.1, by omega⟩
    · split
      · rename_i room
        have same := ih room power
        exact ⟨same.1, by omega⟩
      · exact ⟨later.1, by omega⟩

/-- Factors of two are all taken into a mantissa that has room for them. -/
theorem absorbTwos_eq {mantissa : Nat} (power : Int) {twos : Nat}
    (fits : mantissa * pow2 twos < bound) :
    absorbTwos mantissa power twos = (mantissa * pow2 twos, power - twos) := by
  induction twos generalizing mantissa power with
  | zero => simp [absorbTwos]
  | succ twos ih =>
    have shifted : mantissa * pow2 (twos + 1) = 2 * mantissa * pow2 twos := by
      rw [pow2_succ, Nat.mul_comm (pow2 twos), ← Nat.mul_assoc, Nat.mul_comm mantissa]
    rw [shifted] at fits ⊢
    have room : 2 * mantissa < bound :=
      Nat.lt_of_le_of_lt (Nat.le_mul_of_pos_right _ (pow2_pos twos)) fits
    rw [absorbTwos, if_pos room, ih (power - 1) fits]
    congr 1
    omega

theorem dropPlaces_le (mantissa places excess : Nat) :
    (dropPlaces mantissa places excess).1 ≤ mantissa ∧
      (dropPlaces mantissa places excess).2 ≤ places - excess := by
  induction excess generalizing mantissa places with
  | zero => simp [dropPlaces]
  | succ excess ih =>
    unfold dropPlaces
    split
    · exact ⟨Nat.zero_le _, Nat.zero_le _⟩
    · have later := ih (dropDigit mantissa) (places - 1)
      have shrinks : dropDigit mantissa ≤ mantissa := by
        unfold dropDigit
        split <;> omega
      exact ⟨Nat.le_trans later.1 shrinks, by omega⟩

theorem limitPrecision_le (mantissa places : Nat) :
    (limitPrecision mantissa places).1 ≤ mantissa ∧
      (limitPrecision mantissa places).2 ≤ places := by
  induction places generalizing mantissa with
  | zero => simp [limitPrecision]
  | succ places ih =>
    unfold limitPrecision
    split
    · rename_i long
      have later := ih (dropDigit mantissa)
      have shrinks : dropDigit mantissa ≤ mantissa := by
        unfold Binary64.exponentBit at long
        unfold dropDigit
        split <;> omega
      exact ⟨Nat.le_trans later.1 shrinks, Nat.le_succ_of_le later.2⟩
    · exact ⟨Nat.le_refl _, Nat.le_refl _⟩

theorem stripZeros_le (mantissa scale : Nat) :
    (stripZeros mantissa scale).1 ≤ mantissa ∧ (stripZeros mantissa scale).2 ≤ scale := by
  induction scale generalizing mantissa with
  | zero => simp [stripZeros]
  | succ scale ih =>
    unfold stripZeros
    split
    · have later := ih (mantissa / 10)
      exact ⟨Nat.le_trans later.1 (Nat.div_le_self _ _), Nat.le_succ_of_le later.2⟩
    · exact ⟨Nat.le_refl _, Nat.le_refl _⟩

end RuleQuery.Decimal

namespace RuleQuery.Binary64

variable (x : Binary64)

def exponentField : Nat := x.magnitudeBits / exponentBit

def significand : Nat :=
  if x.exponentField = 0 then x.magnitudeBits % exponentBit
  else exponentBit + x.magnitudeBits % exponentBit

theorem significand_lt : x.significand < 2 * exponentBit := by
  have fraction : x.magnitudeBits % exponentBit < exponentBit := Nat.mod_lt _ (by decide)
  unfold significand
  split <;> omega

theorem units_eq : x.units = x.significand * pow2 (x.exponentField - 1) := by
  unfold units unitsOf significand exponentField
  by_cases small : x.magnitudeBits < exponentBit
  · rw [if_pos small, Nat.div_eq_of_lt small, if_pos rfl, Nat.mod_eq_of_lt small]
    exact (Nat.mul_one _).symm
  · have normal : x.magnitudeBits / exponentBit ≠ 0 := by
      have positive : 0 < x.magnitudeBits / exponentBit :=
        Nat.div_pos (Nat.le_of_not_lt small) (by decide)
      omega
    rw [if_neg small, if_neg normal]

end RuleQuery.Binary64

namespace RuleQuery.Decimal

open Binary64 (exponentBit one)

variable {x : Binary64}

def inTens (x : Binary64) : Nat × Int :=
  let power : Int := (max x.exponentField 1 : Nat) - 1075
  if power < 0 then absorbHalves x.significand power (-power).toNat
  else absorbTwos x.significand power power.toNat

theorem inTens_fits (small : x.units < bound * one) :
    (inTens x).1 < bound ∧ (inTens x).2 ≤ 0 := by
  have significand : x.significand < bound := by
    have below := x.significand_lt
    have wide : 2 * exponentBit < bound := by decide
    omega
  unfold inTens
  simp only
  generalize exponent : ((max x.exponentField 1 : Nat) - 1075 : Int) = power
  split
  · have fits := absorbHalves_fits significand power (-power).toNat
    exact ⟨fits.1, by omega⟩
  · have twos : x.exponentField - 1 = power.toNat + 1074 := by omega
    have fits : x.significand * pow2 power.toNat < bound := by
      rw [Binary64.units_eq, twos, pow2_add, ← one, ← Nat.mul_assoc] at small
      exact Nat.lt_of_mul_lt_mul_right small
    rw [absorbTwos_eq _ fits]
    exact ⟨fits, by omega⟩

/-- The mantissa and the places that are left when what a decimal cannot hold is given up. -/
def held (mantissa places : Nat) : Nat × Nat :=
  let dropped := dropPlaces mantissa places (places - 28)
  let limited := limitPrecision dropped.1 dropped.2
  stripZeros limited.1 limited.2

theorem held_le (mantissa places : Nat) :
    (held mantissa places).1 ≤ mantissa ∧ (held mantissa places).2 ≤ 28 := by
  have dropped := dropPlaces_le mantissa places (places - 28)
  have limited := limitPrecision_le (dropPlaces mantissa places (places - 28)).1
    (dropPlaces mantissa places (places - 28)).2
  have stripped := stripZeros_le
    (limitPrecision (dropPlaces mantissa places (places - 28)).1
      (dropPlaces mantissa places (places - 28)).2).1
    (limitPrecision (dropPlaces mantissa places (places - 28)).1
      (dropPlaces mantissa places (places - 28)).2).2
  exact ⟨Nat.le_trans stripped.1 (Nat.le_trans limited.1 dropped.1),
    Nat.le_trans stripped.2 (Nat.le_trans limited.2 (by omega))⟩

theorem ofBinary64?_of_small (finite : x.isFinite = true) (small : x.units < bound * one) :
    ofBinary64? x =
      if x.isZero then ofParts? x.negative 0 0
      else ofParts? x.negative (held (inTens x).1 (-(inTens x).2).toNat).1
        (held (inTens x).1 (-(inTens x).2).toNat).2 := by
  have enters : ¬ ((!x.isFinite) = true ∨ bound * one ≤ x.units) := by
    rw [finite]
    simpa using small
  have whole : appendZeros? (inTens x).1 (inTens x).2.toNat = some (inTens x).1 := by
    rw [Int.toNat_of_nonpos (inTens_fits small).2]
    rfl
  rw [ofBinary64?, if_neg enters]
  split
  · rfl
  · unfold inTens Binary64.significand Binary64.exponentField at whole ⊢
    simp only at whole ⊢
    rw [whole]
    rfl

/-- A float is no decimal exactly if it is not finite or too large. -/
theorem ofBinary64?_eq_none_iff :
    ofBinary64? x = none ↔ x.isFinite = false ∨ bound * one ≤ x.units := by
  constructor
  · intro refused
    cases finite : x.isFinite with
    | false => exact .inl rfl
    | true =>
      refine .inr (Nat.le_of_not_lt fun small => ?_)
      have given : (ofBinary64? x).isSome = true := by
        rw [ofBinary64?_of_small finite small]
        split
        · exact isSome_ofParts? (by decide) (by decide)
        · have fits := held_le (inTens x).1 (-(inTens x).2).toNat
          exact isSome_ofParts? (Nat.lt_of_le_of_lt fits.1 (inTens_fits small).1) fits.2
      rw [refused] at given
      cases given
  · intro refused
    rw [ofBinary64?, if_pos]
    simpa using refused

end RuleQuery.Decimal
