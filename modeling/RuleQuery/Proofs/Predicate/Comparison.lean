import RuleQuery.Proofs.Predicate.Dynamic
import RuleQuery.Proofs.Value.Kind
import RuleQuery.User.Basic

namespace RuleQuery

namespace Operator

def comparisons : List Operator :=
  [equal, lessThan, lessThanOrEqual, greaterThan, greaterThanOrEqual]

end Operator

namespace FieldKind

/-- Kinds whose values stand in one line. -/
def isLinear : FieldKind → Bool
  | integer | float | decimal | timestamp => true
  | bool | text | sequence => false

end FieldKind

namespace Binary64

variable {x y z : Binary64}

theorem compare?_lt_of_le (number : z.isNaN = false) (order : y.signedUnits ≤ z.signedUnits)
    (below : x.compare? y = some .lt) : x.compare? z = some .lt := by
  obtain ⟨numberX, -, less⟩ := compare?_eq_some_iff.mp below
  have less := Int.compare_eq_lt.mp less
  exact compare?_eq_some_iff.mpr ⟨numberX, number, Int.compare_eq_lt.mpr (by omega)⟩

theorem compare?_gt_of_le (number : y.isNaN = false) (order : y.signedUnits ≤ z.signedUnits)
    (above : x.compare? z = some .gt) : x.compare? y = some .gt := by
  obtain ⟨numberX, -, greater⟩ := compare?_eq_some_iff.mp above
  have greater := Int.compare_eq_gt.mp greater
  exact compare?_eq_some_iff.mpr ⟨numberX, number, Int.compare_eq_gt.mpr (by omega)⟩

end Binary64

namespace Value

/-- Whether a value stands to another as an operator demands, by order or by equality. -/
def stands (op : Operator) (v w : Value) : Bool :=
  if op = .equal then v.equals w else v.satisfies op w

section Outcome

variable {v w : Value} {kind : FieldKind}

theorem stands_of_compare? {outcome : Ordering} (compared : v.compare? w = some outcome) :
    v.stands .equal w = (outcome == .eq) ∧ v.stands .lessThan w = (outcome == .lt) ∧
      v.stands .greaterThan w = (outcome == .gt) ∧
      v.stands .lessThanOrEqual w = (outcome != .gt) ∧
      v.stands .greaterThanOrEqual w = (outcome != .lt) := by
  simp [stands, equals, satisfies, compared, Operator.accepts]

theorem stands_lessThan_iff : v.stands .lessThan w = true ↔ v.compare? w = some .lt := by
  change (v.compare? w).any _ = true ↔ _
  cases v.compare? w <;> simp [Operator.accepts]

theorem stands_greaterThan_iff : v.stands .greaterThan w = true ↔ v.compare? w = some .gt := by
  change (v.compare? w).any _ = true ↔ _
  cases v.compare? w <;> simp [Operator.accepts]

/-- The three outcomes exclude each other, one of them is there, and the weak comparisons are the
strict ones or equality. -/
theorem stands_linear (ofV : v.kind? = some kind) (ofW : w.kind? = some kind)
    (linear : kind.isLinear = true) (numberV : v.isNaN = false) (numberW : w.isNaN = false) :
    [v.stands .lessThan w, v.stands .equal w, v.stands .greaterThan w].count true = 1 ∧
      v.stands .greaterThanOrEqual w = (v.stands .greaterThan w || v.stands .equal w) ∧
      v.stands .lessThanOrEqual w = (v.stands .lessThan w || v.stands .equal w) := by
  have ordered : kind ≠ .sequence := by
    rintro rfl
    cases linear
  obtain ⟨outcome, compared⟩ := exists_compare?_eq_some ofV ofW ordered numberV numberW
  obtain ⟨equal, less, greater, lessOrEqual, greaterOrEqual⟩ := stands_of_compare? compared
  rw [equal, less, greater, lessOrEqual, greaterOrEqual]
  cases outcome <;> decide

theorem null_stands (present : w ≠ .null) (op : Operator) : null.stands op w = false := by
  unfold stands
  split
  · cases w <;> first | rfl | exact absurd rfl present
  · cases w <;> rfl

end Outcome

/-- What lies below the first value lies below the second, and what lies above the second lies above
the first. -/
def Rising (v a b : Value) : Prop :=
  (v.compare? a = some .lt → v.compare? b = some .lt) ∧
    (v.compare? b = some .gt → v.compare? a = some .gt)

section Rising

variable {v a b : Value}

theorem rising_of_domain_ne (apart : v.domain ≠ a.domain) (same : a.domain = b.domain) :
    Rising v a b := by
  unfold Rising
  rw [compare?_of_domain_ne apart, compare?_of_domain_ne (same ▸ apart)]
  exact ⟨nofun, nofun⟩

theorem rising_of_trans {α : Type} {cmp : α → α → Ordering} [Std.TransCmp cmp] {x y z : α}
    (va : v.compare? a = some (cmp z x)) (vb : v.compare? b = some (cmp z y))
    (below : cmp x y = .lt) : Rising v a b := by
  unfold Rising
  rw [va, vb]
  refine ⟨fun less => ?_, fun greater => ?_⟩
  · exact congrArg some (Std.TransCmp.lt_trans (Option.some.inj less) below)
  · have above : cmp y x = .gt := Std.OrientedCmp.gt_of_lt below
    exact congrArg some (Std.TransCmp.gt_trans (Option.some.inj greater) above)

theorem rising_of_rounded (numberV : v.domain = 2) (numberA : a.domain = 2) (numberB : b.domain = 2)
    (float : v.isFloat = true ∨ a.isFloat = true ∧ b.isFloat = true)
    (readA : a.rounded.isNaN = false) (readB : b.rounded.isNaN = false)
    (order : a.rounded.signedUnits ≤ b.rounded.signedUnits) : Rising v a b := by
  unfold Rising
  rw [compare?_of_float numberV numberA (float.imp_right And.left),
    compare?_of_float numberV numberB (float.imp_right And.right)]
  exact ⟨Binary64.compare?_lt_of_le readB order, Binary64.compare?_gt_of_le readA order⟩

theorem rising_of_exact {x y : Decimal} (exactA : a.exactValue? = some x)
    (exactB : b.exactValue? = some y) (below : x.compare y = .lt)
    (float : v.isFloat = true → x.toBinary64.signedUnits ≤ y.toBinary64.signedUnits) :
    Rising v a b := by
  have numberA := domain_of_exactValue? exactA
  have numberB := domain_of_exactValue? exactB
  by_cases numberV : v.domain = 2
  · cases isFloat : v.isFloat with
    | true =>
      have order := float isFloat
      rw [← rounded_of_exact exactA, ← rounded_of_exact exactB] at order
      exact rising_of_rounded numberV numberA numberB (.inl isFloat)
        (isNaN_rounded_of_exact exactA) (isNaN_rounded_of_exact exactB) order
    | false =>
      obtain ⟨z, exactV⟩ := exactValue?_of_not_float numberV isFloat
      exact rising_of_trans (compare?_of_exact exactV exactA) (compare?_of_exact exactV exactB)
        below
  · exact rising_of_domain_ne (numberA ▸ numberV) (numberA.trans numberB.symm)

/-- Values of one linear kind, the first below the second. A float among decimals is left out: it is
compared with the floats that they round to, which need not keep their order. -/
theorem rising_of_lt {kind : FieldKind} (ofA : a.kind? = some kind) (ofB : b.kind? = some kind)
    (linear : kind.isLinear = true) (exact : kind = .decimal → v.isFloat = false)
    (below : a.compare? b = some .lt) : Rising v a b := by
  cases a with
  | integer i =>
    cases ofA
    cases b <;> cases ofB
    rename_i j
    have less : Ord.compare i j = .lt := Option.some.inj below
    refine rising_of_exact (a := integer i) (b := integer j) rfl rfl
      ((Decimal.compare_ofInt64 i j).trans less) fun _ => ?_
    have order : i.toInt < j.toInt :=
      Int.compare_eq_lt.mp ((Decimal.compare_toInt i j).trans less)
    exact Decimal.toBinary64_ofInt64_le (Int.le_of_lt order)
  | decimal d =>
    cases ofA
    cases b <;> cases ofB
    refine rising_of_exact (a := decimal d) rfl rfl (Option.some.inj below) fun float => ?_
    rw [exact rfl] at float
    cases float
  | float f =>
    cases ofA
    cases b <;> cases ofB
    rename_i g
    obtain ⟨numberF, numberG, less⟩ := Binary64.compare?_eq_some_iff.mp below
    by_cases numberV : v.domain = 2
    · exact rising_of_rounded (a := float f) (b := float g) numberV rfl rfl (.inr ⟨rfl, rfl⟩)
        numberF numberG (Int.le_of_lt (Int.compare_eq_lt.mp less))
    · exact rising_of_domain_ne numberV rfl
  | timestamp s =>
    cases ofA
    cases b <;> cases ofB
    rename_i t
    cases v with
    | timestamp u =>
      exact rising_of_trans (v := timestamp u) (a := timestamp s) (b := timestamp t) rfl rfl
        (Option.some.inj below)
    | _ => exact rising_of_domain_ne (a := timestamp s) (b := timestamp t) nofun rfl
  | _ => cases ofA <;> cases linear

/-- Two decimals whose floats stand the other way round. -/
theorem not_rising_of_float_among_decimals :
    (decimal ⟨false, 87642959784589399, 1, by decide, by decide⟩).compare?
        (decimal ⟨false, 87642959784589400, 1, by decide, by decide⟩) = some .lt ∧
      ¬ Rising (float (Decimal.toBinary64 ⟨false, 87642959784589400, 1, by decide, by decide⟩))
        (decimal ⟨false, 87642959784589399, 1, by decide, by decide⟩)
        (decimal ⟨false, 87642959784589400, 1, by decide, by decide⟩) := by
  unfold Rising
  decide +kernel

end Rising

end Value

namespace Condition

variable {R : Type} {schema : Schema R} {params : Parameters} {property : String}
  {field : Field R} {literal : Json}

/-- What the conditions with a literal on a field say of records, one for each comparison. -/
def Asks (schema : Schema R) (params : Parameters) (property : String) (literal : Json)
    (holds : Operator → Predicate R) : Prop :=
  ∀ op ∈ Operator.comparisons, ∀ name, Operator.ofName? name = some op →
    compile schema params ⟨property, name, literal⟩ = .ok (holds op)

theorem fieldTest_comparison {w : Value} {op : Operator} {name : String}
    (compares : op ∈ Operator.comparisons) (plain : op ≠ .implies)
    (linear : field.type.kind.isLinear = true)
    (read : Literal.value literal field.type field.name = .ok w) :
    fieldTest params field ⟨property, name, literal⟩ op plain = .ok fun v => v.stands op w := by
  have ordered : ∀ op, orderedTest op field literal = .ok fun v => v.satisfies op w := by
    intro op
    unfold orderedTest
    rw [read]
    cases kind : field.type.kind <;> first | rfl | (rw [kind] at linear; cases linear)
  simp only [Operator.comparisons, List.mem_cons, List.not_mem_nil, or_false] at compares
  rcases compares with rfl | rfl | rfl | rfl | rfl
  · change Literal.value literal field.type field.name >>= _ = _
    rw [read]
    rfl
  · exact ordered _
  · exact ordered _
  · exact ordered _
  · exact ordered _

theorem asks_stands {w : Value} (found : schema.field? property = some field)
    (linear : field.type.kind.isLinear = true)
    (read : Literal.value literal field.type field.name = .ok w) :
    Asks schema params property literal fun op record => (field.get record).stands op w := by
  intro op compares name operator
  have plain : op ≠ .implies := by
    rintro rfl
    exact absurd compares (by decide)
  rw [compile_plain (c := ⟨property, name, literal⟩) operator found plain,
    fieldTest_comparison compares plain linear read]
  rfl

theorem eq_stands_of_asks {w : Value} {holds : Operator → Predicate R} {op : Operator}
    (asks : Asks schema params property literal holds)
    (found : schema.field? property = some field) (linear : field.type.kind.isLinear = true)
    (read : Literal.value literal field.type field.name = .ok w)
    (compares : op ∈ Operator.comparisons) (record : R) :
    holds op record = (field.get record).stands op w := by
  have given := asks op compares op.name (Operator.ofName?_name op)
  rw [asks_stands found linear read op compares op.name (Operator.ofName?_name op)] at given
  exact congrFun (Except.ok.inj given).symm record

/-- All five comparisons of a field of a linear kind with a literal compile. Of records that hold a
value of the kind exactly one is true of less, equal and greater, and the weak comparisons are these
or equality; of null none holds. The records below a literal are below every greater one, and those
above a literal above every lesser one; for that a field need not hold values of its kind, only a
field of decimals no floats. -/
theorem comparisons_form_one_order (schema : Schema R) (params : Parameters)
    (found : schema.field? property = some field) (linear : field.type.kind.isLinear = true) :
    (∀ literal w, Literal.value literal field.type field.name = .ok w → w ≠ .null →
      w.isNaN = false → ∃ holds, Asks schema params property literal holds ∧
        (∀ record, (field.get record).kind? = some field.type.kind →
          (field.get record).isNaN = false →
          [holds .lessThan record, holds .equal record, holds .greaterThan record].count true = 1 ∧
          holds .greaterThanOrEqual record = (holds .greaterThan record || holds .equal record) ∧
          holds .lessThanOrEqual record = (holds .lessThan record || holds .equal record)) ∧
        ∀ record, field.get record = .null → ∀ op ∈ Operator.comparisons,
          holds op record = false) ∧
    ∀ low high v w lower higher, Literal.value low field.type field.name = .ok v →
      Literal.value high field.type field.name = .ok w → v.compare? w = some .lt →
      Asks schema params property low lower → Asks schema params property high higher →
      ∀ record, (field.type.kind = .decimal → (field.get record).isFloat = false) →
        (lower .lessThan record = true → higher .lessThan record = true) ∧
        (higher .greaterThan record = true → lower .greaterThan record = true) := by
  constructor
  · intro literal w read present number
    have ofW : w.kind? = some field.type.kind := Literal.kind?_of_value read present
    refine ⟨_, asks_stands found linear read, fun record ofV numberV => ?_, ?_⟩
    · exact Value.stands_linear ofV ofW linear numberV number
    · intro record null op _
      simp only [null]
      exact Value.null_stands present op
  · intro low high v w lower higher readLow readHigh below asksLow asksHigh record exact
    have presentV : v ≠ .null := by
      rintro rfl
      cases below
    have presentW : w ≠ .null := by
      rintro rfl
      cases v <;> cases below
    have rising := Value.rising_of_lt (Literal.kind?_of_value readLow presentV)
      (Literal.kind?_of_value readHigh presentW) linear exact below
    constructor
    · rw [eq_stands_of_asks asksLow found linear readLow (by decide),
        eq_stands_of_asks asksHigh found linear readHigh (by decide), Value.stands_lessThan_iff,
        Value.stands_lessThan_iff]
      exact rising.1
    · rw [eq_stands_of_asks asksLow found linear readLow (by decide),
        eq_stands_of_asks asksHigh found linear readHigh (by decide),
        Value.stands_greaterThan_iff, Value.stands_greaterThan_iff]
      exact rising.2

theorem salaries_form_one_order :
    ∃ field, User.schema.field? " SALARY" = some field ∧ field.type.kind.isLinear = true ∧
      ∃ lower higher, Asks User.schema .empty " SALARY" (.string "9.99") lower ∧
        Asks User.schema .empty " SALARY" (.string "10.0") higher ∧
        ∀ user, (lower .lessThan user = true → higher .lessThan user = true) ∧
          [higher .lessThan user, higher .equal user, higher .greaterThan user].count true = 1 := by
  have found : User.schema.field? " SALARY" =
      some ⟨"Salary", .required .decimal, fun user => .decimal user.salary⟩ := rfl
  have readLow : Literal.value (.string "9.99") (.required .decimal) "Salary" =
      .ok (.decimal ⟨false, 999, 2, by decide, by decide⟩) := rfl
  have readHigh : Literal.value (.string "10.0") (.required .decimal) "Salary" =
      .ok (.decimal ⟨false, 100, 1, by decide, by decide⟩) := rfl
  obtain ⟨exactlyOne, rising⟩ := comparisons_form_one_order User.schema .empty found rfl
  obtain ⟨lower, asksLow, -⟩ := exactlyOne _ _ readLow nofun rfl
  obtain ⟨higher, asksHigh, linear, -⟩ := exactlyOne _ _ readHigh nofun rfl
  refine ⟨_, found, rfl, lower, higher, asksLow, asksHigh, fun user => ⟨?_, ?_⟩⟩
  · exact (rising _ _ _ _ _ _ readLow readHigh (by decide) asksLow asksHigh user fun _ => rfl).1
  · exact (linear user rfl rfl).1

end Condition

end RuleQuery
