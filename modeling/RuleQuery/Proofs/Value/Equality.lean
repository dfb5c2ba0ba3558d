import RuleQuery.Proofs.Value.Coincidence

/-!
Equality as conditions see it. It is reflexive and symmetric on all values. It is transitive on
integers and decimals, and on floats; a chain of two equalities fails to close where rounding to
floats comes in, and then only.
-/
namespace RuleQuery.Value

/-- Chains of two equalities that rounding keeps open. Around a float stand two numbers of different
value that round to it; or the float stands at one end, and the two numbers beside it, equal as they
are, round to different floats, which their scales can bring about. -/
inductive Open : Value → Value → Value → Prop where
  | around {a c : Value} {x y : Decimal} (f : Binary64) :
      a.exactValue? = some x → c.exactValue? = some y → x.same y = false → Open a (float f) c
  | behind {b c : Value} {x y : Decimal} (f : Binary64) :
      b.exactValue? = some x → c.exactValue? = some y →
      x.toBinary64.compare? y.toBinary64 ≠ some .eq → Open (float f) b c
  | ahead {a b : Value} {x y : Decimal} (f : Binary64) :
      a.exactValue? = some x → b.exactValue? = some y →
      x.toBinary64.compare? y.toBinary64 ≠ some .eq → Open a b (float f)

variable {a b c : Value}

theorem equals_refl (a : Value) : a.equals a = true := equals_of_beq BEq.rfl

theorem equals_trans_of_domain_ne (noNumber : b.domain ≠ 2) (ab : a.equals b = true)
    (bc : b.equals c = true) : a.equals c = true := by
  have noNumberA : a.domain ≠ 2 := domain_of_equals ab ▸ noNumber
  rw [equals_of_domain_ne noNumberA] at ab ⊢
  rw [equals_of_domain_ne noNumber] at bc
  exact BEq.trans ab bc

theorem standing_eq_iff {x y : Decimal} (exactA : a.exactValue? = some x)
    (exactB : b.exactValue? = some y) :
    a.rounded.standing = b.rounded.standing ↔ x.toBinary64.compare? y.toBinary64 = some .eq := by
  rw [rounded_of_exact exactA, rounded_of_exact exactB]
  exact Binary64.standing_eq_of_numbers x.isNaN_toBinary64 y.isNaN_toBinary64

section Numbers

variable (numberA : a.domain = 2) (numberB : b.domain = 2) (numberC : c.domain = 2)
  (ab : a.equals b = true) (bc : b.equals c = true)
include numberA numberB numberC ab bc

theorem equals_trans_of_countP_ne (several : [a, b, c].countP isFloat ≠ 1) :
    a.equals c = true := by
  by_cases exact : a.isFloat = false ∧ b.isFloat = false ∧ c.isFloat = false
  · obtain ⟨x, exactA⟩ := exactValue?_of_not_float numberA exact.1
    obtain ⟨y, exactB⟩ := exactValue?_of_not_float numberB exact.2.1
    obtain ⟨z, exactC⟩ := exactValue?_of_not_float numberC exact.2.2
    rw [equals_of_exact exactA exactB] at ab
    rw [equals_of_exact exactB exactC] at bc
    rw [equals_of_exact exactA exactC]
    exact Decimal.same_trans ab bc
  · -- of at least two floats one stands in each pair
    have pairs : (a.isFloat = true ∨ b.isFloat = true) ∧ (b.isFloat = true ∨ c.isFloat = true) ∧
        (a.isFloat = true ∨ c.isFloat = true) := by
      cases isA : a.isFloat <;> cases isB : b.isFloat <;> cases isC : c.isFloat <;>
        simp [isA, isB, isC] at several exact ⊢
    rw [equals_iff_of_float numberA numberB pairs.1] at ab
    rw [equals_iff_of_float numberB numberC pairs.2.1] at bc
    exact (equals_iff_of_float numberA numberC pairs.2.2).mpr (ab.trans bc)

theorem open_of_not_equals (apart : a.equals c = false) (single : [a, b, c].countP isFloat = 1) :
    Open a b c := by
  cases isA : a.isFloat <;> cases isB : b.isFloat <;> cases isC : c.isFloat <;>
    simp [isA, isB, isC] at single
  · obtain ⟨x, exactA⟩ := exactValue?_of_not_float numberA isA
    obtain ⟨y, exactB⟩ := exactValue?_of_not_float numberB isB
    obtain ⟨f, rfl⟩ := eq_float_of_isFloat isC
    refine .ahead f exactA exactB fun alike => ?_
    rw [← standing_eq_iff exactA exactB] at alike
    rw [equals_iff_of_float numberB rfl (.inr rfl), ← alike,
      ← equals_iff_of_float numberA rfl (.inr rfl), apart] at bc
    cases bc
  · obtain ⟨x, exactA⟩ := exactValue?_of_not_float numberA isA
    obtain ⟨f, rfl⟩ := eq_float_of_isFloat isB
    obtain ⟨y, exactC⟩ := exactValue?_of_not_float numberC isC
    exact .around f exactA exactC (equals_of_exact exactA exactC ▸ apart)
  · obtain ⟨f, rfl⟩ := eq_float_of_isFloat isA
    obtain ⟨x, exactB⟩ := exactValue?_of_not_float numberB isB
    obtain ⟨y, exactC⟩ := exactValue?_of_not_float numberC isC
    refine .behind f exactB exactC fun alike => ?_
    rw [← standing_eq_iff exactB exactC] at alike
    rw [equals_iff_of_float rfl numberB (.inl rfl), alike,
      ← equals_iff_of_float rfl numberC (.inl rfl), apart] at ab
    cases ab

end Numbers

theorem not_equals_of_open (ab : a.equals b = true) (bc : b.equals c = true)
    (opened : Open a b c) : a.equals c = false := by
  rw [Bool.eq_false_iff]
  intro ac
  cases opened with
  | around f exactA exactC unequal =>
    rw [equals_of_exact exactA exactC, unequal] at ac
    cases ac
  | behind f exactB exactC apart =>
    have number := domain_of_exactValue? exactB
    rw [equals_iff_of_float rfl number (.inl rfl)] at ab
    rw [equals_iff_of_float rfl (domain_of_exactValue? exactC) (.inl rfl)] at ac
    exact apart ((standing_eq_iff exactB exactC).mp (ab.symm.trans ac))
  | ahead f exactA exactB apart =>
    rw [equals_iff_of_float (domain_of_exactValue? exactB) rfl (.inr rfl)] at bc
    rw [equals_iff_of_float (domain_of_exactValue? exactA) rfl (.inr rfl)] at ac
    exact apart ((standing_eq_iff exactA exactB).mp (ac.trans bc.symm))

theorem not_equals_iff_open (ab : a.equals b = true) (bc : b.equals c = true) :
    a.equals c = false ↔ Open a b c := by
  refine ⟨fun apart => ?_, not_equals_of_open ab bc⟩
  have number : b.domain = 2 := by
    apply Decidable.byContradiction
    intro noNumber
    rw [equals_trans_of_domain_ne noNumber ab bc] at apart
    cases apart
  have numberA : a.domain = 2 := (domain_of_equals ab).trans number
  have numberC : c.domain = 2 := (domain_of_equals bc).symm.trans number
  by_cases single : [a, b, c].countP isFloat = 1
  · exact open_of_not_equals numberA number numberC ab bc apart single
  · rw [equals_trans_of_countP_ne numberA number numberC ab bc single] at apart
    cases apart

theorem equality_fails_on_open_chains_only (a b c : Value) :
    a.equals a = true ∧ b.equals a = a.equals b ∧
      (a.equals b = true → b.equals c = true → (a.equals c = false ↔ Open a b c)) :=
  ⟨equals_refl a, equals_symm b a, not_equals_iff_open⟩

/-- Two integers of one float, and two decimals of one value but different scales, of which only
one rounds to the float nearest to it. -/
theorem equals_not_transitive :
    ((integer 9007199254740993).equals (float ⟨0x4340000000000000⟩) = true ∧
      (float ⟨0x4340000000000000⟩).equals (integer 9007199254740992) = true ∧
      (integer 9007199254740993).equals (integer 9007199254740992) = false) ∧
    ((float ⟨0x3fd28332a95d1f83⟩).equals
        (decimal ⟨false, 28925768413, 11, by decide, by decide⟩) = true ∧
      (decimal ⟨false, 28925768413, 11, by decide, by decide⟩).equals
        (decimal ⟨false, 2892576841300000, 16, by decide, by decide⟩) = true ∧
      (float ⟨0x3fd28332a95d1f83⟩).equals
        (decimal ⟨false, 2892576841300000, 16, by decide, by decide⟩) = false) := by
  decide +kernel

end RuleQuery.Value
