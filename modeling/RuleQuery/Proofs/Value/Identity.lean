import RuleQuery.Grouping.Key
import RuleQuery.User.Basic

namespace RuleQuery

namespace Decimal

variable {a b c : Decimal}

theorem same_iff :
    a.same b = true ↔ a.numerator * pow10 b.scale = b.numerator * pow10 a.scale := by
  rw [same, beq_iff_eq, compare, Int.compare_eq_eq]

theorem same_refl (a : Decimal) : a.same a = true := same_iff.mpr rfl

theorem same_symm (ab : a.same b = true) : b.same a = true :=
  same_iff.mpr (same_iff.mp ab).symm

theorem same_trans (ab : a.same b = true) (bc : b.same c = true) : a.same c = true := by
  rw [same_iff] at ab bc ⊢
  have unit : (pow10 b.scale : Int) ≠ 0 := by
    have positive := pow10_pos b.scale
    omega
  apply Int.eq_of_mul_eq_mul_right unit
  calc a.numerator * pow10 c.scale * pow10 b.scale
      = a.numerator * pow10 b.scale * pow10 c.scale := Int.mul_right_comm ..
    _ = b.numerator * pow10 a.scale * pow10 c.scale := by rw [ab]
    _ = b.numerator * pow10 c.scale * pow10 a.scale := Int.mul_right_comm ..
    _ = c.numerator * pow10 b.scale * pow10 a.scale := by rw [bc]
    _ = c.numerator * pow10 a.scale * pow10 b.scale := Int.mul_right_comm ..

end Decimal

namespace Value

mutual

theorem same_refl : ∀ a : Value, same a a = true
  | null => rfl
  | bool _ | integer _ | float _ | text _ | timestamp _ => by simp [same]
  | decimal d => by simp [same, d.same_refl]
  | sequence items => by simp [same, sameItems_refl items]

theorem sameItems_refl : ∀ as : List Value, sameItems as as = true
  | [] => rfl
  | a :: as => by simp [sameItems, same_refl a, sameItems_refl as]

end

mutual

theorem same_symm : ∀ {a b : Value}, same a b = true → same b a = true
  | null, b, ab => by cases b <;> simp_all [same]
  | bool _, b, ab | integer _, b, ab | float _, b, ab | text _, b, ab | timestamp _, b, ab => by
    cases b <;> simp_all [same]
  | decimal d, b, ab => by
    cases b <;> simp only [same, Bool.false_eq_true] at ab ⊢
    exact Decimal.same_symm ab
  | sequence items, b, ab => by
    cases b <;> simp only [same, Bool.false_eq_true] at ab ⊢
    exact sameItems_symm ab

theorem sameItems_symm : ∀ {as bs : List Value}, sameItems as bs = true → sameItems bs as = true
  | [], [], _ => rfl
  | a :: as, b :: bs, ab => by
    rw [sameItems, Bool.and_eq_true] at ab ⊢
    exact ⟨same_symm ab.1, sameItems_symm ab.2⟩

end

mutual

theorem same_trans : ∀ {a b c : Value}, same a b = true → same b c = true → same a c = true
  | null, b, c, ab, bc => by
    cases b <;> simp only [same, Bool.false_eq_true] at ab
    exact bc
  | bool _, b, c, ab, bc | integer _, b, c, ab, bc | float _, b, c, ab, bc | text _, b, c, ab, bc
  | timestamp _, b, c, ab, bc => by
    cases b <;> simp only [same, Bool.false_eq_true, beq_iff_eq] at ab
    subst ab
    exact bc
  | decimal d, b, c, ab, bc => by
    cases b <;> simp only [same, Bool.false_eq_true] at ab
    cases c <;> simp only [same, Bool.false_eq_true] at bc ⊢
    exact Decimal.same_trans ab bc
  | sequence items, b, c, ab, bc => by
    cases b <;> simp only [same, Bool.false_eq_true] at ab
    cases c <;> simp only [same, Bool.false_eq_true] at bc ⊢
    exact sameItems_trans ab bc

theorem sameItems_trans : ∀ {as bs cs : List Value},
    sameItems as bs = true → sameItems bs cs = true → sameItems as cs = true
  | [], [], cs, _, bc => bc
  | a :: as, b :: bs, [], _, bc => by cases bc
  | a :: as, b :: bs, c :: cs, ab, bc => by
    rw [sameItems, Bool.and_eq_true] at ab bc ⊢
    exact ⟨same_trans ab.1 bc.1, sameItems_trans ab.2 bc.2⟩

end

instance : EquivBEq Value where
  rfl := same_refl _
  symm := same_symm
  trans := same_trans

end Value

instance listEquivBEq {α : Type} [BEq α] [EquivBEq α] : EquivBEq (List α) where
  symm {as bs} ab := by
    induction as generalizing bs with
    | nil => cases bs <;> simp_all
    | cons a as ih =>
      cases bs with
      | nil => simp at ab
      | cons b bs =>
        rw [List.cons_beq_cons, Bool.and_eq_true] at ab ⊢
        exact ⟨BEq.symm ab.1, ih ab.2⟩
  trans {as bs cs} ab bc := by
    induction as generalizing bs cs with
    | nil =>
      cases bs with
      | nil => exact bc
      | cons b bs => simp at ab
    | cons a as ih =>
      cases bs with
      | nil => simp at ab
      | cons b bs =>
        cases cs with
        | nil => simp at bc
        | cons c cs =>
          rw [List.cons_beq_cons, Bool.and_eq_true] at ab bc ⊢
          exact ⟨BEq.trans ab.1 bc.1, ih ab.2 bc.2⟩

theorem KeyPart.beq_iff {a b : KeyPart} :
    (a == b) = true ↔ a.name = b.name ∧ (a.value == b.value) = true := by
  change (instBEqKeyPart.beq a b) = true ↔ _
  simp [instBEqKeyPart.beq]

instance : EquivBEq KeyPart where
  rfl := KeyPart.beq_iff.mpr ⟨rfl, BEq.rfl⟩
  symm ab :=
    have ⟨name, value⟩ := KeyPart.beq_iff.mp ab
    KeyPart.beq_iff.mpr ⟨name.symm, BEq.symm value⟩
  trans ab bc :=
    have ⟨name, value⟩ := KeyPart.beq_iff.mp ab
    have ⟨name', value'⟩ := KeyPart.beq_iff.mp bc
    KeyPart.beq_iff.mpr ⟨name.trans name', BEq.trans value value'⟩

namespace GroupKey

@[simp] theorem single_beq_single (v w : Value) : (single v == single w) = (v == w) := rfl

@[simp] theorem composite_beq_composite (ps qs : List KeyPart) :
    (composite ps == composite qs) = (ps == qs) := rfl

@[simp] theorem single_beq_composite (v : Value) (ps : List KeyPart) :
    (single v == composite ps) = false := rfl

@[simp] theorem composite_beq_single (ps : List KeyPart) (v : Value) :
    (composite ps == single v) = false := rfl

instance : EquivBEq GroupKey where
  rfl {a} := by
    cases a with
    | single v =>
      rw [single_beq_single]
      exact BEq.rfl
    | composite ps =>
      rw [composite_beq_composite]
      exact BEq.rfl
  symm {a b} ab := by
    cases a <;> cases b <;> simp only [single_beq_single, composite_beq_composite,
      single_beq_composite, composite_beq_single, Bool.false_eq_true] at ab ⊢
    · exact BEq.symm ab
    · exact BEq.symm ab
  trans {a b c} ab bc := by
    cases a <;> cases b <;> simp only [single_beq_single, composite_beq_composite,
      single_beq_composite, composite_beq_single, Bool.false_eq_true] at ab <;>
    cases c <;> simp only [single_beq_single, composite_beq_composite,
      single_beq_composite, composite_beq_single, Bool.false_eq_true] at bc ⊢
    · exact BEq.trans ab bc
    · exact BEq.trans ab bc

end GroupKey

namespace User

theorem beq_iff {a b : User} :
    (a == b) = true ↔ a.salary.same b.salary = true ∧ a = { b with salary := a.salary } := by
  change same a b = true ↔ _
  obtain ⟨_, _, _, _, _, _, _, _, _, _, _, _⟩ := a
  obtain ⟨_, _, _, _, _, _, _, _, _, _, _, _⟩ := b
  simp only [same, Bool.and_eq_true, beq_iff_eq, mk.injEq, true_and]
  constructor
  · rintro ⟨⟨⟨⟨⟨⟨⟨⟨⟨⟨⟨id, name⟩, email⟩, department⟩, salary⟩, age⟩, code⟩, bio⟩, active⟩, manager⟩,
      tags⟩, created⟩
    exact ⟨salary, id, name, email, department, age, code, bio, active, manager, tags, created⟩
  · rintro ⟨salary, id, name, email, department, age, code, bio, active, manager, tags, created⟩
    exact ⟨⟨⟨⟨⟨⟨⟨⟨⟨⟨⟨id, name⟩, email⟩, department⟩, salary⟩, age⟩, code⟩, bio⟩, active⟩, manager⟩,
      tags⟩, created⟩

instance : EquivBEq User where
  rfl := beq_iff.mpr ⟨Decimal.same_refl _, rfl⟩
  symm {a b} ab := by
    obtain ⟨salary, rest⟩ := beq_iff.mp ab
    refine beq_iff.mpr ⟨Decimal.same_symm salary, ?_⟩
    rw [rest]
  trans {a b c} ab bc := by
    obtain ⟨salary, rest⟩ := beq_iff.mp ab
    obtain ⟨salary', rest'⟩ := beq_iff.mp bc
    refine beq_iff.mpr ⟨Decimal.same_trans salary salary', ?_⟩
    rw [rest, rest']

end User

end RuleQuery
