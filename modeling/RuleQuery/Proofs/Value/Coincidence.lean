import RuleQuery.Proofs.Binary64.Magnitude
import RuleQuery.Proofs.Value.Kind

namespace RuleQuery.Value

/-- One of the two zeros among the floats, and the other. -/
inductive OppositeZeros : Value → Value → Prop where
  | intro (negative : Bool) : OppositeZeros (float (.zero negative)) (float (.zero !negative))

variable {a b : Value} {x y : Binary64}

theorem kind?_of_beq (identical : (a == b) = true) : a.kind? = b.kind? := by
  cases a <;> cases b <;> first | rfl | cases identical

theorem not_beq_of_oppositeZeros (zeros : OppositeZeros a b) : (a == b) = false := by
  obtain ⟨negative⟩ := zeros
  cases negative <;> decide

theorem eq_float_of_kind? (float : a.kind? = some .float) : ∃ x, a = .float x := by
  cases a <;> cases float
  exact ⟨_, rfl⟩

/-- Values of one kind other than floats are equal only if they are identical. -/
theorem equals_eq_beq_of_kind (kinds : a.kind? = b.kind?) (exact : a.kind? ≠ some .float) :
    a.equals b = (a == b) := by
  cases a with
  | integer i =>
    cases b <;> cases kinds
    exact compare_beq_eq _ _
  | decimal d =>
    cases b <;> cases kinds
    rfl
  | float x => exact absurd rfl exact
  | _ => exact equals_of_domain_ne (by simp [domain])

theorem standing_eq_iff_zeros : x.standing = y.standing ↔
    x = y ∨ OppositeZeros (float x) (float y) := by
  have zeros : OppositeZeros (float x) (float y) ↔
      ∃ negative, x = .zero negative ∧ y = .zero !negative := by
    constructor
    · rintro ⟨negative⟩
      exact ⟨negative, rfl, rfl⟩
    · rintro ⟨negative, rfl, rfl⟩
      exact .intro negative
  by_cases numbers : x.isNaN = false ∧ y.isNaN = false
  · rw [Binary64.standing_eq_of_numbers numbers.1 numbers.2, Binary64.compare?_eq_some_iff,
      Int.compare_eq_eq, Binary64.signedUnits_eq_iff, zeros]
    simp [numbers]
  · rw [Binary64.standing_eq_of_no_number numbers]
    refine ⟨.inl, fun same => same.resolve_right ?_⟩
    rintro ⟨negative⟩
    cases negative <;> exact numbers (by decide)

theorem equals_iff_of_kind (kinds : a.kind? = b.kind?) :
    a.equals b = true ↔ (a == b) = true ∨ OppositeZeros a b := by
  by_cases floats : a.kind? = some .float
  · obtain ⟨x, rfl⟩ := eq_float_of_kind? floats
    obtain ⟨y, rfl⟩ := eq_float_of_kind? (kinds.symm.trans floats)
    have identical : (float x == float y) = true ↔ x = y := (beq_iff_eq : (x == y) = true ↔ x = y)
    rw [equals_iff_of_float rfl rfl (.inl rfl), identical]
    exact standing_eq_iff_zeros
  · rw [equals_eq_beq_of_kind kinds floats, or_iff_left]
    rintro ⟨negative⟩
    exact floats rfl

theorem equals_of_beq (identical : (a == b) = true) : a.equals b = true :=
  (equals_iff_of_kind (kind?_of_beq identical)).mpr (.inl identical)

/-- Identical values are equal and of one kind, and among values of one kind nothing but the zeros
is equal without being identical. -/
theorem equality_within_kind (a b : Value) :
    ((a == b) = true → a.kind? = b.kind? ∧ a.equals b = true) ∧
      (a.kind? = b.kind? →
        (a.equals b = true ∧ (a == b) = false ↔ OppositeZeros a b)) := by
  constructor
  · intro identical
    exact ⟨kind?_of_beq identical, equals_of_beq identical⟩
  · intro kinds
    constructor
    · rintro ⟨equal, apart⟩
      exact ((equals_iff_of_kind kinds).mp equal).resolve_left (Bool.eq_false_iff.mp apart)
    · intro zeros
      exact ⟨(equals_iff_of_kind kinds).mpr (.inr zeros), not_beq_of_oppositeZeros zeros⟩

/-- Sequences within sequences that hold one decimal in two scales, and the zeros by themselves. -/
theorem nested_decimals_and_zeros_equal :
    let first := sequence [sequence [decimal ⟨false, 10, 1, by decide, by decide⟩, null]]
    let second := sequence [sequence [decimal ⟨false, 100, 2, by decide, by decide⟩, null]]
    let negative := float (.zero true)
    let positive := float (.zero false)
    ((first == second) = true ∧ first.equals second = true) ∧
      (negative.kind? = positive.kind? ∧
        negative.equals positive = true ∧ (negative == positive) = false) := by
  intro first second negative positive
  have identical : (first == second) = true := by decide
  exact ⟨⟨identical, ((equality_within_kind first second).1 identical).2⟩, rfl,
    ((equality_within_kind negative positive).2 rfl).mpr (.intro true)⟩

-- The items of sequences have to be identical, so the zeros are no exception among them.
example : (sequence [float (.zero true)]).equals (sequence [float (.zero false)]) = false := by
  decide +kernel

end RuleQuery.Value
