import RuleQuery.Binary64.Numeral
import RuleQuery.Proofs.Binary64.Magnitude
import RuleQuery.Proofs.Value.Number

/-!
Natural numbers among the floats. A natural number that a float can represent is not rounded, and
all up to 2^53 are represented. So such a number is less than a float, equal to it or greater, as
their values are, unless the float is no number; of texts only those that spell it give that one.
-/
namespace RuleQuery.Binary64

/-- The value of the float is this natural number. -/
def IsNat (x : Binary64) (n : Nat) : Prop := x.isFinite = true ∧ x.signedUnits = n * one

instance (x : Binary64) (n : Nat) : Decidable (x.IsNat n) := inferInstanceAs (Decidable (_ ∧ _))

variable {x : Binary64} {n : Nat}

section Exact

theorem log2_lt_of_lt {k : Nat} (nonzero : n ≠ 0) (below : n < pow2 k) : n.log2 < k :=
  (Nat.log2_lt nonzero).mpr below

theorem pow2_mul_one (k : Nat) : pow2 k * one = pow2 (k + 1074) := (pow2_add k 1074).symm

/-- A natural number of no more than 53 leading digits is not rounded. -/
theorem units_ofNat_of_multiple {q : Nat} (short : n.log2 ≤ 1023)
    (multiple : n * one = q * pow2 (n.log2 + 1022)) : (ofNat n).units = n * one := by
  by_cases zero : n = 0
  · rw [zero, Nat.zero_mul]
    decide +kernel
  · obtain ⟨p, units, rounded, -⟩ := units_ofNat zero short
    rw [units, rounded, multiple, roundHalfEven_mul_self q (pow2_pos _)]

theorem multiple_of_short (short : n.log2 ≤ 52) :
    n * one = n * pow2 (52 - n.log2) * pow2 (n.log2 + 1022) := by
  have power : 52 - n.log2 + (n.log2 + 1022) = 1074 := by omega
  rw [Nat.mul_assoc, ← pow2_add, power, one]

theorem units_ofNat_of_le (small : n ≤ 0x20000000000000) : (ofNat n).units = n * one := by
  rcases Nat.eq_or_lt_of_le small with rfl | below
  · decide +kernel
  · by_cases zero : n = 0
    · rw [zero, Nat.zero_mul]
      decide +kernel
    · have short : n.log2 ≤ 52 := Nat.le_of_lt_succ ((Nat.log2_lt zero).mpr below)
      exact units_ofNat_of_multiple (Nat.le_trans short (by decide)) (multiple_of_short short)

theorem unitsOf_infinityBits : unitsOf infinityBits = pow2 1024 * one := by decide +kernel

theorem units_lt_of_finite (finite : x.isFinite = true) : x.units < pow2 1024 * one := by
  rw [← unitsOf_infinityBits]
  exact unitsOf_lt (of_decide_eq_true finite)

theorem units_ofNat_of_finite (finite : x.isFinite = true) (same : x.units = n * one) :
    (ofNat n).units = n * one := by
  rcases Nat.lt_or_ge 52 n.log2 with long | short
  · obtain ⟨k, length⟩ := Nat.exists_eq_add_of_lt long
    have nonzero : n ≠ 0 := by
      rintro rfl
      simp at long
    have below : n < pow2 1024 :=
      Nat.lt_of_mul_lt_mul_right (same ▸ units_lt_of_finite finite)
    have above : pow2 (53 + k) ≤ n := by
      refine Nat.le_trans (Nat.le_of_eq ?_) (Nat.log2_self_le nonzero)
      rw [length]
      exact congrArg pow2 (by omega)
    have large : pow2 (53 + k) * one ≤ x.units := by
      rw [same]
      exact Nat.mul_le_mul_right _ above
    obtain ⟨m, multiple⟩ := exists_units_eq large
    have digits : n.log2 ≤ 1023 := Nat.le_of_lt_succ (log2_lt_of_lt nonzero below)
    refine units_ofNat_of_multiple (q := m) digits ?_
    have power : k + 1 + 1074 = 52 + k + 1 + 1022 := by omega
    rw [← same, multiple, Nat.mul_assoc, pow2_mul_one, power, length]
  · exact units_ofNat_of_multiple (Nat.le_trans short (by decide)) (multiple_of_short short)

end Exact

section Order

theorem isNaN_ofNat (n : Nat) : (ofNat n).isNaN = false := isNaN_ofRatio _ _ _

theorem isNaN_of_finite (finite : x.isFinite = true) : x.isNaN = false :=
  decide_eq_false (Nat.not_lt_of_lt (of_decide_eq_true finite))

/-- What is neither finite nor a number is above all finite floats or below them. -/
theorem units_of_infinite (number : x.isNaN = false) (infinite : x.isFinite = false) :
    x.units = pow2 1024 * one := by
  have above := of_decide_eq_false infinite
  have below := of_decide_eq_false number
  have bits : x.magnitudeBits = infinityBits :=
    Nat.le_antisymm (Nat.le_of_not_lt below) (Nat.le_of_not_lt above)
  rw [units, bits]
  exact unitsOf_infinityBits

theorem units_of_signedUnits (same : x.signedUnits = n * one) : x.units = n * one := by
  unfold signedUnits at same
  cases negative : x.negative <;> simp only [negative] at same <;> omega

theorem compare?_ofNat (number : x.isNaN = false) :
    (ofNat n).compare? x = some (Ord.compare ((ofNat n).units : Int) x.signedUnits) := by
  rw [compare?_of_numbers (isNaN_ofNat n) number, signedUnits_ofNat]

theorem compare?_of_isNat (same : x.IsNat n) : (ofNat n).compare? x = some .eq := by
  have exact := units_ofNat_of_finite same.1 (units_of_signedUnits same.2)
  rw [compare?_ofNat (isNaN_of_finite same.1), exact, same.2, Int.natCast_mul]
  exact congrArg some (Int.compare_eq_eq.mpr (Eq.refl _))

theorem isNat_of_compare? (small : n ≤ 0x20000000000000)
    (same : (ofNat n).compare? x = some .eq) : x.IsNat n := by
  obtain ⟨-, number, equal⟩ := compare?_eq_some_iff.mp same
  rw [signedUnits_ofNat, units_ofNat_of_le small, Int.compare_eq_eq] at equal
  have value : x.signedUnits = n * one := by rw [← equal, Int.natCast_mul]
  refine ⟨?_, value⟩
  cases finite : x.isFinite with
  | true => rfl
  | false =>
    have high := (units_of_signedUnits value).symm.trans (units_of_infinite number finite)
    have huge : n = pow2 1024 := Nat.mul_right_cancel one_pos high
    have beyond : 0x20000000000000 < pow2 1024 := by decide +kernel
    omega

/-- Below the first numbers that are rounded the order is that of the values. -/
theorem compare?_ofNat_iff (small : n ≤ 0x20000000000000) :
    ((ofNat n).compare? x = some .gt ↔ x.isNaN = false ∧ x.signedUnits < n * one) ∧
    ((ofNat n).compare? x = some .lt ↔ x.isNaN = false ∧ n * one < x.signedUnits) := by
  simp only [compare?_eq_some_iff, isNaN_ofNat, signedUnits_ofNat, units_ofNat_of_le small,
    Int.compare_eq_gt, Int.compare_eq_lt, Int.natCast_mul, true_and, and_self]

theorem apart_of_isNaN (noNumber : x.isNaN = true) (n : Nat) :
    (ofNat n).compare? x = none ∧ ¬ x.IsNat n := by
  refine ⟨compare?_of_no_number (by simp [noNumber]), fun same => ?_⟩
  rw [isNaN_of_finite same.1] at noNumber
  cases noNumber

/-- A natural number is above the float, below it or its value, and only one of these, if the float
is a number, unless the natural number is large and becomes this float by rounding only. -/
theorem exactly_one_iff (x : Binary64) (n : Nat) :
    [(ofNat n).compare? x == some .gt, (ofNat n).compare? x == some .lt,
        decide (x.IsNat n)].count true = 1 ↔
      x.isNaN = false ∧
        (0x20000000000000 < n → (ofNat n).compare? x = some .eq → x.IsNat n) := by
  cases number : x.isNaN with
  | true =>
    obtain ⟨none, different⟩ := apart_of_isNaN number n
    simp [none, different]
  | false =>
    by_cases same : x.IsNat n
    · simp [compare?_of_isNat same, same]
    · obtain ⟨o, ordered⟩ : ∃ o, (ofNat n).compare? x = some o := ⟨_, compare?_ofNat number⟩
      cases o with
      | lt => simp [ordered, same]
      | gt => simp [ordered, same]
      | eq =>
        have large : 0x20000000000000 < n :=
          Nat.lt_of_not_le fun small => same (isNat_of_compare? small ordered)
        refine iff_of_false ?_ fun rounded => same (rounded.2 large ordered)
        simp [ordered, same]

end Order

section Text

def SpellsNaN (s : String) : Prop :=
  String.ofList ((splitSign s.toList).2.map Char.toLower) = "nan"

theorem isNaN_ofDecimal (negative : Bool) (digits : Nat) (exponent : Int) :
    (ofDecimal negative digits exponent).isNaN = false := by
  unfold ofDecimal
  simp only
  repeat' split
  · exact isNaN_ofMagnitude (Nat.zero_le _)
  · exact isNaN_ofMagnitude (Nat.le_refl _)
  · exact isNaN_ofMagnitude (Nat.zero_le _)
  · exact isNaN_ofRatio ..
  · exact isNaN_ofRatio ..

theorem isNaN_ofText? {s : String} (read : ofText? s = some x) : x.isNaN = true ↔ SpellsNaN s := by
  have infinite (negative : Bool) : (infinity negative).isNaN = false :=
    isNaN_ofMagnitude (Nat.le_refl _)
  have noNumber (negative : Bool) : (nan negative).isNaN = true := by
    cases negative <;> decide +kernel
  unfold ofText? at read
  simp only at read
  unfold SpellsNaN
  generalize String.ofList ((splitSign s.toList).2.map Char.toLower) = word at read
  split at read
  · rename_i infinity
    cases read
    rcases infinity with rfl | rfl <;> simp [infinite]
  · split at read
    · rename_i spelled
      cases read
      exact iff_of_true (noNumber _) spelled
    · rename_i other
      obtain ⟨⟨digits, exponent⟩, -, rfl⟩ := Option.map_eq_some_iff.mp read
      simp [isNaN_ofDecimal, other]

end Text

end RuleQuery.Binary64
