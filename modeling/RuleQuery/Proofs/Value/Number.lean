import RuleQuery.Proofs.Decimal.Rounded
import RuleQuery.Proofs.Value.Identity
import RuleQuery.Proofs.Value.Order
import RuleQuery.Value.Match

/-!
How numbers compare. Integers and decimals have exact values and are compared by them. With floats
they are compared by the float that they round to, and floats among themselves by value. A float
that is not a number equals itself only.
-/
namespace RuleQuery

namespace Binary64

variable {x y : Binary64}

/-- What decides with which floats a float is equal: its value, or itself if it is not a number. -/
def standing (x : Binary64) : Int ⊕ Binary64 := if x.isNaN then .inr x else .inl x.signedUnits

theorem compare?_eq_some_iff {o : Ordering} : x.compare? y = some o ↔
    x.isNaN = false ∧ y.isNaN = false ∧ Ord.compare x.signedUnits y.signedUnits = o := by
  unfold compare?
  cases x.isNaN <;> cases y.isNaN <;> simp

theorem standing_eq_of_numbers (xNumber : x.isNaN = false) (yNumber : y.isNaN = false) :
    x.standing = y.standing ↔ x.compare? y = some .eq := by
  simp [standing, xNumber, yNumber, compare?_eq_some_iff]

theorem standing_eq_of_no_number (noNumber : ¬ (x.isNaN = false ∧ y.isNaN = false)) :
    x.standing = y.standing ↔ x = y := by
  refine ⟨fun same => ?_, congrArg standing⟩
  unfold standing at same
  cases nanX : x.isNaN <;> cases nanY : y.isNaN <;> simp_all

theorem compare?_of_no_number (noNumber : ¬ (x.isNaN = false ∧ y.isNaN = false)) :
    x.compare? y = none := by
  unfold compare?
  cases nanX : x.isNaN <;> cases nanY : y.isNaN <;> simp_all

end Binary64

namespace Decimal

theorem numerator_ofInt64 (i : Int64) : (ofInt64 i).numerator = i.toInt := by
  unfold numerator ofInt64
  simp only [decide_eq_true_eq]
  split <;> omega

theorem compare_toInt (i j : Int64) : Ord.compare i.toInt j.toInt = Ord.compare i j := by
  simp [Ord.compare, compareOfLessAndEq, Int64.lt_iff_toInt_lt, Int64.toInt_inj]

theorem compare_ofInt64 (i j : Int64) : (ofInt64 i).compare (ofInt64 j) = Ord.compare i j := by
  rw [← compare_toInt, compare, numerator_ofInt64, numerator_ofInt64]
  simp [ofInt64]

end Decimal

namespace Value

variable {a b : Value} {x y : Decimal} {f g : Binary64}

/-- The exact number that an integer or a decimal is. -/
def exactValue? : Value → Option Decimal
  | integer i => some (.ofInt64 i)
  | decimal d => some d
  | _ => none

theorem exact_or_float (number : a.domain = 2) :
    (∃ x, a.exactValue? = some x) ∨ ∃ f, a = float f := by
  cases a with
  | integer i => exact .inl ⟨_, rfl⟩
  | decimal d => exact .inl ⟨_, rfl⟩
  | float f => exact .inr ⟨f, rfl⟩
  | _ => cases number

theorem domain_of_exactValue? (exact : a.exactValue? = some x) : a.domain = 2 := by
  cases a <;> first | rfl | cases exact

theorem compare?_of_exact (exactA : a.exactValue? = some x) (exactB : b.exactValue? = some y) :
    a.compare? b = some (x.compare y) := by
  cases a <;> cases exactA <;> cases b <;> cases exactB
  · exact congrArg some (Decimal.compare_ofInt64 _ _).symm
  · rfl
  · rfl
  · rfl

def isFloat : Value → Bool
  | float _ => true
  | _ => false

theorem eq_float_of_isFloat (float : a.isFloat = true) : ∃ f, a = .float f := by
  cases a with
  | float f => exact ⟨f, rfl⟩
  | _ => cases float

theorem exactValue?_of_not_float (number : a.domain = 2) (exact : a.isFloat = false) :
    ∃ x, a.exactValue? = some x := by
  rcases exact_or_float number with found | ⟨f, rfl⟩
  · exact found
  · cases exact

def rounded : Value → Binary64
  | float f => f
  | v => (v.exactValue?.getD .zero).toBinary64

theorem rounded_of_exact (exact : a.exactValue? = some x) : a.rounded = x.toBinary64 := by
  cases a <;> cases exact <;> rfl

/-- Where one of two numbers is a float only the floats count that they round to. -/
theorem compare?_of_float (numberA : a.domain = 2) (numberB : b.domain = 2)
    (float : a.isFloat = true ∨ b.isFloat = true) :
    a.compare? b = a.rounded.compare? b.rounded := by
  cases a <;> cases numberA <;> cases b <;> cases numberB <;> first
    | rfl
    | simp [isFloat] at float

section Equality

theorem equals_symm (a b : Value) : a.equals b = b.equals a := by
  have same : (a == b) = (b == a) := Bool.eq_iff_iff.mpr ⟨BEq.symm, BEq.symm⟩
  unfold equals
  rw [← swap_compare? a b]
  cases a.compare? b with
  | none => exact same
  | some o => cases o <;> rfl

theorem equals_of_exact (exactA : a.exactValue? = some x) (exactB : b.exactValue? = some y) :
    a.equals b = x.same y := by
  rw [equals, compare?_of_exact exactA exactB]
  rfl

theorem isNaN_rounded_of_exact (exact : a.exactValue? = some x) : a.rounded.isNaN = false :=
  rounded_of_exact exact ▸ x.isNaN_toBinary64

/-- Only floats are no numbers, and identical ones are the same float. -/
theorem beq_iff_of_no_number (numberA : a.domain = 2) (numberB : b.domain = 2)
    (noNumber : ¬ (a.rounded.isNaN = false ∧ b.rounded.isNaN = false)) :
    (a == b) = true ↔ a.rounded = b.rounded := by
  rcases exact_or_float numberA with ⟨x, exactA⟩ | ⟨f, rfl⟩
  · have nanB : b.rounded.isNaN ≠ false := fun number =>
      noNumber ⟨isNaN_rounded_of_exact exactA, number⟩
    have apart : a.rounded ≠ b.rounded := fun same =>
      nanB (same ▸ isNaN_rounded_of_exact exactA)
    rcases exact_or_float numberB with ⟨y, exactB⟩ | ⟨g, rfl⟩
    · exact absurd (isNaN_rounded_of_exact exactB) nanB
    · refine iff_of_false ?_ apart
      cases a <;> first | exact Bool.false_ne_true | cases exactA
  · rcases exact_or_float numberB with ⟨y, exactB⟩ | ⟨g, rfl⟩
    · have apart : (float f).rounded ≠ b.rounded := fun same =>
        noNumber ⟨same ▸ isNaN_rounded_of_exact exactB, isNaN_rounded_of_exact exactB⟩
      refine iff_of_false ?_ apart
      cases b <;> first | exact Bool.false_ne_true | cases exactB
    · exact (beq_iff_eq : (f == g) = true ↔ f = g)

theorem equals_iff_of_float (numberA : a.domain = 2) (numberB : b.domain = 2)
    (float : a.isFloat = true ∨ b.isFloat = true) :
    a.equals b = true ↔ a.rounded.standing = b.rounded.standing := by
  rw [equals, compare?_of_float numberA numberB float]
  by_cases numbers : a.rounded.isNaN = false ∧ b.rounded.isNaN = false
  · rw [Binary64.standing_eq_of_numbers numbers.1 numbers.2,
      Binary64.compare?_of_numbers numbers.1 numbers.2, Option.some.injEq]
    exact beq_iff_eq
  · rw [Binary64.standing_eq_of_no_number numbers, Binary64.compare?_of_no_number numbers]
    exact beq_iff_of_no_number numberA numberB numbers

theorem compare_beq_eq {α : Type} [Ord α] [Std.LawfulEqOrd α] [DecidableEq α] (a b : α) :
    (Ord.compare a b == .eq) = (a == b) := by
  rw [Bool.eq_iff_iff, beq_iff_eq, beq_iff_eq]
  exact Std.LawfulEqOrd.compare_eq_iff_eq

theorem instant_compare_beq_eq (s t : Instant) : (s.compare t == .eq) = (s == t) := by
  obtain ⟨seconds, nanos, _, _⟩ := s
  obtain ⟨seconds', nanos', _, _⟩ := t
  rw [Bool.eq_iff_iff, beq_iff_eq, beq_iff_eq, Instant.compare, Ordering.then_eq_eq,
    Std.LawfulEqOrd.compare_eq_iff_eq, Std.LawfulEqOrd.compare_eq_iff_eq, Instant.mk.injEq]

/-- Outside the numbers equality is identity. -/
theorem equals_of_domain_ne (noNumber : a.domain ≠ 2) : a.equals b = (a == b) := by
  cases a <;> cases b <;> first
    | rfl
    | exact absurd rfl noNumber
    | exact compare_beq_eq _ _
    | exact instant_compare_beq_eq _ _

theorem domain_of_equals (equal : a.equals b = true) : a.domain = b.domain := by
  apply Decidable.byContradiction
  intro apart
  rw [equals, compare?_of_domain_ne apart] at equal
  cases a <;> cases b <;> first | exact absurd rfl apart | cases equal

end Equality

end Value

end RuleQuery
