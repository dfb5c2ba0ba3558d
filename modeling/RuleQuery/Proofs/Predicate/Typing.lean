import RuleQuery.Proofs.Predicate.Dynamic
import RuleQuery.Proofs.Schema
import RuleQuery.Proofs.Value.Kind
import RuleQuery.User.Basic

namespace RuleQuery

def Schema.Conforms {R : Type} (schema : Schema R) (record : R) : Prop :=
  ∀ field ∈ schema.fields, field.type.Admits (field.get record)

def Operator.isNegation : Operator → Bool
  | notEqual | notIn | notContains => true
  | _ => false

namespace Value

/-- One of the two is null, or they are of one kind and have an outcome, unless one of them is no
number. -/
def Comparable (v w : Value) : Prop :=
  v = .null ∨ w = .null ∨
    v.kind? = w.kind? ∧ (v.compare? w = none → v.isNaN = true ∨ w.isNaN = true)

variable {v : Value} {type : FieldType}

theorem null_or_text (admitted : type.Admits v) (kind : type.kind = .text) :
    v = .null ∨ ∃ s, v = .text s := by
  rcases admitted with ⟨null, -⟩ | of
  · exact .inl null
  · rw [kind] at of
    cases v <;> cases of
    exact .inr ⟨_, rfl⟩

theorem null_or_sequence (admitted : type.Admits v) (kind : type.kind = .sequence) :
    v = .null ∨ ∃ items, v = .sequence items := by
  rcases admitted with ⟨null, -⟩ | of
  · exact .inl null
  · rw [kind] at of
    cases v <;> cases of
    exact .inr ⟨_, rfl⟩

end Value

namespace FieldType

def Compares (type : FieldType) (w : Value) : Prop :=
  type.Admits w ∧ ∀ v, type.Admits v → v.Comparable w

theorem compares_of_value {type : FieldType} {literal : Json} {name : String} {w : Value}
    (read : Literal.value literal type name = .ok w) : type.Compares w := by
  refine ⟨Literal.admits_of_value read, fun v admitted => ?_⟩
  rcases Literal.value_cases read with ⟨null, -⟩ | ⟨ofW, ordered⟩
  · exact .inr (.inl null)
  rcases admitted with ⟨null, -⟩ | ofV
  · exact .inl null
  refine .inr (.inr ⟨ofV.trans ofW.symm, fun apart => ?_⟩)
  apply Decidable.byContradiction
  intro numbers
  rw [not_or, Bool.not_eq_true, Bool.not_eq_true] at numbers
  obtain ⟨outcome, compared⟩ :=
    Value.exists_compare?_eq_some ofV ofW ordered numbers.1 numbers.2
  rw [apart] at compared
  cases compared

end FieldType

namespace Condition

/-- What a test may do with the values of a type. It compares with literals of the type; on texts,
order is the order of decimals, which null and other texts do not have part in; and only texts and
sequences are searched for parts. -/
structure WellTyped (type : FieldType) (op : Operator) (test : Test) : Prop where
  equality : op ∈ [Operator.equal, .notEqual, .dynamicEqual] →
    ∃ expected, type.Compares expected ∧ ∀ v, test v = (v.equals expected != op.isNegation)
  membership : op ∈ [Operator.isIn, .notIn] →
    ∃ candidates, (∀ expected ∈ candidates, type.Compares expected) ∧
      ∀ v, test v = (v.equalsAny candidates != op.isNegation)
  order : op.isOrdered = true → type.kind ≠ .text →
    ∃ expected, type.Compares expected ∧ ∀ v, test v = v.satisfies op expected
  decimalOrder : op.isOrdered = true → type.kind = .text →
    ∃ expected : Decimal, ∀ v, type.Admits v →
      v = .null ∧ test v = false ∨
      ∃ s, v = .text s ∧
        test v = (Decimal.ofText? s).any fun d => op.accepts (d.compare expected)
  containment : op ∈ [Operator.contains, .notContains] →
    ∃ part, ∀ v, type.Admits v → test v = (v.contains part != op.isNegation) ∧
      (v = .null ∨ (∃ s, v = .text s) ∨ ∃ items, v = .sequence items)
  ends : op ∈ [Operator.startsWith, .endsWith] →
    ∃ part, ∀ v, type.Admits v →
      test v = (if op = .startsWith then v.startsWith part else v.endsWith part) ∧
      (v = .null ∨ ∃ s, v = .text s)

variable {R : Type} {schema : Schema R} {params : Parameters} {c : Condition} {field : Field R}
  {op : Operator} {literal : Json} {test : Test}

section Tests

theorem equalTest_ok (made : equalTest field literal = .ok test) :
    ∃ expected, field.type.Compares expected ∧ ∀ v, test v = v.equals expected := by
  obtain ⟨expected, read, done⟩ := bind_eq_ok_iff.mp made
  cases done
  exact ⟨expected, FieldType.compares_of_value read, fun _ => rfl⟩

theorem membershipTest_ok (made : membershipTest op field literal = .ok test) :
    ∃ candidates, (∀ expected ∈ candidates, field.type.Compares expected) ∧
      ∀ v, test v = v.equalsAny candidates := by
  unfold membershipTest at made
  split at made
  · obtain ⟨candidates, read, done⟩ := bind_eq_ok_iff.mp made
    cases done
    refine ⟨candidates, fun expected inside => ?_, fun _ => rfl⟩
    obtain ⟨item, -, itemRead⟩ := exists_mem_of_map_eq (mapM_eq_ok_iff.mp read).symm inside
    exact FieldType.compares_of_value itemRead
  · cases made

theorem orderedTest_ok (made : orderedTest op field literal = .ok test)
    (kind : field.type.kind ≠ .text) :
    ∃ expected, field.type.Compares expected ∧ ∀ v, test v = v.satisfies op expected := by
  unfold orderedTest at made
  split at made
  · cases made
  · cases made
  · exact absurd ‹_› kind
  all_goals
    obtain ⟨expected, read, done⟩ := bind_eq_ok_iff.mp made
    cases done
    exact ⟨expected, FieldType.compares_of_value read, fun _ => rfl⟩

theorem orderedTest_text (made : orderedTest op field literal = .ok test)
    (kind : field.type.kind = .text) :
    ∃ expected, ∀ v, test v = v.satisfiesAsDecimal op expected := by
  unfold orderedTest at made
  rw [kind] at made
  obtain ⟨expected, -, done⟩ := bind_eq_ok_iff.mp made
  cases done
  exact ⟨expected, fun _ => rfl⟩

theorem textTest_ok {kinds : List FieldKind} {search : Value → String → Bool}
    (made : textTest op kinds search field literal = .ok test) :
    field.type.kind ∈ kinds ∧ ∃ part, ∀ v, test v = search v part := by
  unfold textTest at made
  split at made
  · rename_i inside
    obtain ⟨part, -, done⟩ := bind_eq_ok_iff.mp made
    cases done
    exact ⟨List.contains_iff_mem.mp inside, part, fun _ => rfl⟩
  · cases made

end Tests

theorem negated_ok {made : Except QueryError Test}
    (negated : (do return (← made).negated) = .ok test) :
    ∃ inner, made = .ok inner ∧ ∀ v, test v = !inner v := by
  obtain ⟨inner, made, done⟩ := bind_eq_ok_iff.mp negated
  cases done
  exact ⟨inner, made, fun _ => rfl⟩

section Rules

variable {plain : op ≠ .implies} (made : fieldTest params field c op plain = .ok test)
include made

theorem equality_typed (asks : op ∈ [Operator.equal, .notEqual, .dynamicEqual]) :
    ∃ expected, field.type.Compares expected ∧
      ∀ v, test v = (v.equals expected != op.isNegation) := by
  simp only [List.mem_cons, List.not_mem_nil, or_false] at asks
  rcases asks with rfl | rfl | rfl
  · obtain ⟨expected, compares, meaning⟩ := equalTest_ok made
    exact ⟨expected, compares, fun v => by simp [meaning, Operator.isNegation]⟩
  · obtain ⟨inner, made, negated⟩ := negated_ok made
    obtain ⟨expected, compares, meaning⟩ := equalTest_ok made
    exact ⟨expected, compares, fun v => by simp [negated, meaning, Operator.isNegation]⟩
  · obtain ⟨literal, -, made⟩ := bind_eq_ok_iff.mp made
    obtain ⟨expected, compares, meaning⟩ := equalTest_ok made
    exact ⟨expected, compares, fun v => by simp [meaning, Operator.isNegation]⟩

theorem membership_typed (asks : op ∈ [Operator.isIn, .notIn]) :
    ∃ candidates, (∀ expected ∈ candidates, field.type.Compares expected) ∧
      ∀ v, test v = (v.equalsAny candidates != op.isNegation) := by
  simp only [List.mem_cons, List.not_mem_nil, or_false] at asks
  rcases asks with rfl | rfl
  · obtain ⟨candidates, compares, meaning⟩ := membershipTest_ok made
    exact ⟨candidates, compares, fun v => by simp [meaning, Operator.isNegation]⟩
  · obtain ⟨inner, made, negated⟩ := negated_ok made
    obtain ⟨candidates, compares, meaning⟩ := membershipTest_ok made
    exact ⟨candidates, compares, fun v => by simp [negated, meaning, Operator.isNegation]⟩

theorem orderedTest_of_isOrdered (ordered : op.isOrdered = true) :
    orderedTest op field c.value = .ok test := by
  cases op <;> first | exact made | cases ordered

theorem order_typed (ordered : op.isOrdered = true) (kind : field.type.kind ≠ .text) :
    ∃ expected, field.type.Compares expected ∧ ∀ v, test v = v.satisfies op expected :=
  orderedTest_ok (orderedTest_of_isOrdered made ordered) kind

theorem decimalOrder_typed (ordered : op.isOrdered = true) (kind : field.type.kind = .text) :
    ∃ expected : Decimal, ∀ v, field.type.Admits v →
      v = .null ∧ test v = false ∨
      ∃ s, v = .text s ∧
        test v = (Decimal.ofText? s).any fun d => op.accepts (d.compare expected) := by
  obtain ⟨expected, meaning⟩ := orderedTest_text (orderedTest_of_isOrdered made ordered) kind
  refine ⟨expected, fun v admitted => ?_⟩
  rw [meaning]
  rcases Value.null_or_text admitted kind with rfl | ⟨s, rfl⟩
  · exact .inl ⟨rfl, rfl⟩
  · exact .inr ⟨s, rfl, rfl⟩

theorem containment_typed (asks : op ∈ [Operator.contains, .notContains]) :
    ∃ part, ∀ v, field.type.Admits v → test v = (v.contains part != op.isNegation) ∧
      (v = .null ∨ (∃ s, v = .text s) ∨ ∃ items, v = .sequence items) := by
  have searched (kinds : field.type.kind ∈ [FieldKind.text, .sequence]) {v : Value}
      (admitted : field.type.Admits v) :
      v = .null ∨ (∃ s, v = .text s) ∨ ∃ items, v = .sequence items := by
    simp only [List.mem_cons, List.not_mem_nil, or_false] at kinds
    rcases kinds with kind | kind
    · exact (Value.null_or_text admitted kind).imp_right .inl
    · exact (Value.null_or_sequence admitted kind).imp_right .inr
  simp only [List.mem_cons, List.not_mem_nil, or_false] at asks
  rcases asks with rfl | rfl
  · obtain ⟨kinds, part, meaning⟩ := textTest_ok made
    exact ⟨part, fun v admitted =>
      ⟨by simp [meaning, Operator.isNegation], searched kinds admitted⟩⟩
  · obtain ⟨inner, made, negated⟩ := negated_ok made
    obtain ⟨kinds, part, meaning⟩ := textTest_ok made
    exact ⟨part, fun v admitted =>
      ⟨by simp [negated, meaning, Operator.isNegation], searched kinds admitted⟩⟩

theorem ends_typed (asks : op ∈ [Operator.startsWith, .endsWith]) :
    ∃ part, ∀ v, field.type.Admits v →
      test v = (if op = .startsWith then v.startsWith part else v.endsWith part) ∧
      (v = .null ∨ ∃ s, v = .text s) := by
  simp only [List.mem_cons, List.not_mem_nil, or_false] at asks
  rcases asks with rfl | rfl
  · obtain ⟨kinds, part, meaning⟩ := textTest_ok made
    exact ⟨part, fun v admitted =>
      ⟨meaning v, Value.null_or_text admitted (List.mem_singleton.mp kinds)⟩⟩
  · obtain ⟨kinds, part, meaning⟩ := textTest_ok made
    exact ⟨part, fun v admitted =>
      ⟨meaning v, Value.null_or_text admitted (List.mem_singleton.mp kinds)⟩⟩

theorem wellTyped_of_fieldTest : WellTyped field.type op test where
  equality := equality_typed made
  membership := membership_typed made
  order := order_typed made
  decimalOrder := decimalOrder_typed made
  containment := containment_typed made
  ends := ends_typed made

end Rules

/-- Every condition that a compiled condition is made of, but for `if`, is a well-typed test of a
field, and whoever holds what the schema declares holds in that field a value of its type. -/
theorem compiled_conditions_are_well_typed {predicate : Predicate R}
    (compiled : c.compile schema params = .ok predicate) (d : Condition) (reaches : c.Reaches d) :
    ∃ op field inner, d.resolve schema = .ok (op, field) ∧
      d.compile schema params = .ok inner ∧
      (op ≠ .implies → ∃ test, WellTyped field.type op test ∧
        ∀ record, inner record = test (field.get record)) ∧
      ∀ record, schema.Conforms record → field.type.Admits (field.get record) := by
  obtain ⟨inner, done⟩ := compile_of_reaches reaches ⟨predicate, compiled⟩
  obtain ⟨⟨op, operator⟩, field, property⟩ := resolves_of_compile done
  refine ⟨op, field, inner, resolve_eq_ok_iff.mpr ⟨operator, property⟩, done, fun plain => ?_,
    fun record conforms => conforms field (Schema.mem_of_field? property)⟩
  rw [compile_plain operator property plain] at done
  obtain ⟨test, made, rfl⟩ := map_eq_ok_iff.mp done
  exact ⟨test, wellTyped_of_fieldTest made, fun _ => rfl⟩

end Condition

namespace User

theorem admits_orNull {α : Type} {make : α → Value} {kind : FieldKind}
    (each : ∀ a, (make a).kind? = some kind) (x : Option α) :
    (FieldType.optional kind).Admits (orNull make x) := by
  cases x with
  | none => exact .inl ⟨rfl, rfl⟩
  | some a => exact .inr (each a)

theorem conforms (user : User) : schema.Conforms user := by
  intro field inside
  simp only [schema, List.mem_cons, List.not_mem_nil, or_false] at inside
  rcases inside with rfl | rfl | rfl | rfl | rfl | rfl | rfl | rfl | rfl | rfl | rfl | rfl <;>
    first
      | exact .inr rfl
      | exact admits_orNull (fun _ => rfl) _

end User

namespace Condition

def paid : Condition := ⟨"salary", "greaterthan", .string "10"⟩

def aged : Condition := ⟨"Age", "in", .array [.null, .string "30", .string "40.0"]⟩

def agedIfPaid : Condition :=
  ⟨"Name", "if", .object [
    ("check", .object [("property", .string paid.property), ("operator", .string paid.operator),
      ("value", paid.value)]),
    ("then", .object [("property", .string aged.property), ("operator", .string aged.operator),
      ("value", aged.value)])]⟩

theorem compile_agedIfPaid :
    ∃ predicate, agedIfPaid.compile User.schema .empty = .ok predicate := by
  have nameField : User.schema.field? "Name" =
      some ⟨"Name", .required .text, fun user => .text user.name⟩ := rfl
  have salaryField : User.schema.field? "salary" =
      some ⟨"Salary", .required .decimal, fun user => .decimal user.salary⟩ := rfl
  have ageField : User.schema.field? "Age" = some ⟨"Age", .optional .integer, fun user =>
      User.orNull (fun age => .integer age.toInt64) user.age⟩ := rfl
  have implication : Operator.ofName? agedIfPaid.operator = some .implies := rfl
  have greater : Operator.ofName? paid.operator = some .greaterThan := rfl
  have member : Operator.ofName? aged.operator = some .isIn := rfl
  have checkRead : branch agedIfPaid.value "check" = .ok paid := rfl
  have thenRead : branch agedIfPaid.value "then" = .ok aged := rfl
  have check : paid.compile User.schema .empty = _ := compile_plain greater salaryField nofun
  have conclusion : aged.compile User.schema .empty = _ := compile_plain member ageField nofun
  rw [compile_implies implication nameField, checkRead, thenRead]
  simp only [bind, Except.bind, check, conclusion]
  exact ⟨_, rfl⟩

theorem aged_is_well_typed : ∃ predicate, agedIfPaid.compile User.schema .empty = .ok predicate ∧
    agedIfPaid.Reaches aged ∧
    ∃ op field inner, aged.resolve User.schema = .ok (op, field) ∧
      aged.compile User.schema .empty = .ok inner ∧
      (op ≠ .implies → ∃ test, WellTyped field.type op test ∧
        ∀ user, inner user = test (field.get user)) ∧
      ∀ user, field.type.Admits (field.get user) := by
  obtain ⟨predicate, compiled⟩ := compile_agedIfPaid
  have reaches : agedIfPaid.Reaches aged := reaches_of_branch rfl (.inr rfl) rfl (.self aged)
  obtain ⟨op, field, inner, resolved, done, typed, admits⟩ :=
    compiled_conditions_are_well_typed compiled aged reaches
  exact ⟨predicate, compiled, reaches, op, field, inner, resolved, done, typed,
    fun user => admits user user.conforms⟩

end Condition

end RuleQuery
