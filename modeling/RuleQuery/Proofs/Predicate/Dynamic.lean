import RuleQuery.Proofs.Parameters
import RuleQuery.Proofs.Predicate.Nested
import RuleQuery.Proofs.Predicate.Tree
import RuleQuery.User.Basic

/-!
Dynamic conditions. A dynamic condition that has no literal of its own takes the parameter with the
name of its field; with that literal it means what its static counterpart means. Nothing else in a
condition tree looks at the parameters.
-/
namespace RuleQuery

namespace Operator

theorem ofName?_name (op : Operator) : ofName? op.name = some op := by
  cases op <;> decide +kernel

def switchedBase? : Operator → Option Operator
  | dynamicEmpty => some empty
  | dynamicNotEmpty => some notEmpty
  | dynamicNullOrEmpty => some nullOrEmpty
  | dynamicNotNullOrEmpty => some notNullOrEmpty
  | _ => none

end Operator

namespace Condition

variable {R : Type} {schema : Schema R} {params other : Parameters} {c : Condition}
  {op base : Operator} {field : Field R} {literal : Json}

/-- The literal that a dynamic condition is compiled with: its own, or the parameter that has the
name of the field if its own is null. -/
def TakesLiteral (params : Parameters) (c : Condition) (literal : Json) : Prop :=
  c.value ≠ .null ∧ literal = c.value ∨
    c.value = .null ∧ params.get? c.property = some literal

def asking (c : Condition) (op : Operator) (literal : Json) : Condition :=
  ⟨c.property, op.name, literal⟩

def AsksParameter (c : Condition) : Prop :=
  (∃ op, Operator.ofName? c.operator = some op ∧ op.isDynamic = true) ∧ c.value = .null

section Literal

theorem dynamicLiteral_of_null (null : c.value = .null) :
    dynamicLiteral params c =
      match params.get? c.property with
      | some literal => .ok literal
      | none => .error (.missingParameter c.property) := by
  unfold dynamicLiteral
  rw [null]
  rfl

theorem dynamicLiteral_of_ne_null (given : c.value ≠ .null) :
    dynamicLiteral params c = .ok c.value := by
  unfold dynamicLiteral
  have visible : c.value.isNull = false := by
    cases value : c.value with
    | null => exact absurd value given
    | bool | number | string | array | object => rfl
  rw [visible]
  rfl

theorem dynamicLiteral_of_takesLiteral (takes : c.TakesLiteral params literal) :
    dynamicLiteral params c = .ok literal := by
  rcases takes with ⟨given, rfl⟩ | ⟨null, found⟩
  · exact dynamicLiteral_of_ne_null given
  · rw [dynamicLiteral_of_null null, found]

theorem dynamicLiteral_congr
    (agree : c.value = .null → params.get? c.property = other.get? c.property) :
    dynamicLiteral params c = dynamicLiteral other c := by
  by_cases null : c.value = .null
  · rw [dynamicLiteral_of_null null, dynamicLiteral_of_null null, agree null]
  · rw [dynamicLiteral_of_ne_null null, dynamicLiteral_of_ne_null null]

theorem bool_eq_ok_iff {enabled : Bool} {name : String} :
    Literal.bool literal name = .ok enabled ↔
      Literal.value literal (.required .bool) name = .ok (.bool enabled) := by
  unfold Literal.bool Literal.value
  cases Literal.value? literal (.required .bool) with
  | none => simp
  | some v => cases v <;> simp

end Literal

section Substitution

theorem compile_of_missing (operator : Operator.ofName? c.operator = some op)
    (dynamic : op.isDynamic = true) (property : schema.field? c.property = some field)
    (null : c.value = .null) (missing : params.get? c.property = none) :
    c.compile schema params = .error (.missingParameter c.property) := by
  have absent : dynamicLiteral params c = .error (.missingParameter c.property) := by
    rw [dynamicLiteral_of_null null, missing]
  have plain : op ≠ .implies := by
    rintro rfl
    cases dynamic
  rw [compile_plain operator property plain]
  cases op <;> cases dynamic <;> simp only [fieldTest, switched, absent] <;> rfl

theorem compile_dynamicEqual (operator : Operator.ofName? c.operator = some .dynamicEqual)
    (property : schema.field? c.property = some field) (takes : c.TakesLiteral params literal)
    (other : Parameters) :
    c.compile schema params = (c.asking .equal literal).compile schema other := by
  have test : fieldTest params field c .dynamicEqual nofun =
      fieldTest other field (c.asking .equal literal) .equal nofun := by
    change dynamicLiteral params c >>= equalTest field = equalTest field literal
    rw [dynamicLiteral_of_takesLiteral takes]
    rfl
  have static : Operator.ofName? (c.asking .equal literal).operator = some .equal :=
    Operator.ofName?_name .equal
  rw [compile_plain operator property nofun,
    compile_plain (c := c.asking .equal literal) static property nofun, test]

theorem compile_dynamicEqual_of_read {expected : Value}
    (operator : Operator.ofName? c.operator = some .dynamicEqual)
    (property : schema.field? c.property = some field) (takes : c.TakesLiteral params literal)
    (read : Literal.value? literal field.type = some expected) :
    c.compile schema params = .ok fun record => (field.get record).equals expected := by
  rw [compile_dynamicEqual operator property takes params]
  exact compile_equal (Operator.ofName?_name .equal) property read

theorem ne_implies_of_switchedBase? (switching : op.switchedBase? = some base) :
    op ≠ .implies ∧ base ≠ .implies := by
  cases op <;> cases switching <;> decide

theorem fieldTest_of_switchedBase? (params other : Parameters) (field : Field R) (c : Condition)
    (literal : Json) (switching : op.switchedBase? = some base) (plain : op ≠ .implies)
    (basePlain : base ≠ .implies) :
    fieldTest params field c op plain =
      switched params field c (fieldTest other field (c.asking base literal) base basePlain) := by
  cases op <;> cases switching <;> rfl

theorem compile_of_switchedBase? (operator : Operator.ofName? c.operator = some op)
    (switching : op.switchedBase? = some base) (property : schema.field? c.property = some field)
    (takes : c.TakesLiteral params literal) (other : Parameters) (anything : Json) :
    c.compile schema params = do
      let enabled ← Literal.bool literal field.name
      let test ← (c.asking base anything).compile schema other
      return if enabled then test else fun _ => true := by
  obtain ⟨plain, basePlain⟩ := ne_implies_of_switchedBase? switching
  rw [compile_plain operator property plain,
    compile_plain (c := c.asking base anything) (Operator.ofName?_name base) property basePlain,
    fieldTest_of_switchedBase? params other field c anything switching plain basePlain, switched,
    dynamicLiteral_of_takesLiteral takes]
  change Except.map _ (Literal.bool literal field.name >>= _) = _
  cases Literal.bool literal field.name with
  | error e => rfl
  | ok enabled =>
    cases fieldTest other field (c.asking base anything) base basePlain with
    | error e => rfl
    | ok test => cases enabled <;> rfl

end Substitution

section Agreement

theorem fieldTest_congr (plain : op ≠ .implies)
    (same : op.isDynamic = true → dynamicLiteral params c = dynamicLiteral other c) :
    fieldTest params field c op plain = fieldTest other field c op plain := by
  cases dynamic : op.isDynamic with
  | true =>
    have literal := same dynamic
    cases op <;> cases dynamic <;> simp only [fieldTest, switched, literal]
  | false => cases op <;> first | rfl | cases dynamic

theorem eq_of_reaches {d : Condition} (reaches : c.Reaches d)
    (plain : Operator.ofName? c.operator ≠ some .implies) : d = c := by
  cases reaches with
  | self => rfl
  | branch implication => exact absurd implication plain

theorem compile_of_unresolved {e : QueryError} (unresolved : c.resolve schema = .error e) :
    c.compile schema params = .error e := by
  rw [compile, unresolved]
  rfl

theorem compile_of_unknown_field {op : Operator} (operator : Operator.ofName? c.operator = some op)
    (unknown : schema.field? c.property = none) :
    c.compile schema params = .error (.unknownField c.property schema.typeName) := by
  refine compile_of_unresolved ?_
  simp only [resolve, operator, unknown]

/-- A condition looks at no parameters but those that it and the conditions nested in it ask for. -/
theorem compile_congr (schema : Schema R) (c : Condition)
    (agree : ∀ d, c.Reaches d → d.AsksParameter →
      params.get? d.property = other.get? d.property) :
    c.compile schema params = c.compile schema other := by
  cases resolved : c.resolve schema with
  | error e => rw [compile_of_unresolved resolved, compile_of_unresolved resolved]
  | ok found =>
    obtain ⟨op, field⟩ := found
    obtain ⟨operator, property⟩ := resolve_eq_ok_iff.mp resolved
    by_cases implies : op = .implies
    · subst implies
      have nested : ∀ key, key = "check" ∨ key = "then" →
          branch c.value key >>= compile schema params =
            branch c.value key >>= compile schema other := by
        intro key side
        cases read : branch c.value key with
        | error e => rfl
        | ok d =>
          -- The condition that is read here stands in a smaller value.
          have smaller := branch_value_lt read
          exact compile_congr schema d fun e reaches =>
            agree e (reaches_of_branch operator side read reaches)
      rw [compile_implies operator property, compile_implies operator property,
        nested "check" (.inl rfl), nested "then" (.inr rfl)]
    · rw [compile_plain operator property implies, compile_plain operator property implies,
        fieldTest_congr implies fun dynamic => dynamicLiteral_congr fun null =>
          agree c (.self c) ⟨⟨op, operator, dynamic⟩, null⟩]
termination_by sizeOf c.value

end Agreement

end Condition

namespace ConditionGroup

variable {R : Type} {params other : Parameters}

/-- A condition of the tree, be it nested in the payload of an `if`, asks for this parameter. -/
def AsksFor (tree : ConditionGroup) (name : String) : Prop :=
  ∃ group ∈ tree.subgroups, ∃ c ∈ group.conditions, ∃ d, c.Reaches d ∧ d.AsksParameter ∧
    d.property = name

theorem mapM_compile_congr {schema : Schema R} {own : List Condition}
    (same : ∀ c ∈ own, c.compile schema params = c.compile schema other) :
    own.mapM (Condition.compile schema params) = own.mapM (Condition.compile schema other) := by
  induction own with
  | nil => rfl
  | cons c own ih =>
    rw [List.forall_mem_cons] at same
    rw [List.mapM_cons, List.mapM_cons, same.1, ih same.2]

mutual

theorem compile?_eq_of_conditions (schema : Schema R) : ∀ tree : ConditionGroup,
    (∀ c ∈ tree.conditionsWithin, c.compile schema params = c.compile schema other) →
      tree.compile? schema params = tree.compile? schema other
  | mk op own groups negate, same => by
    rw [conditionsWithin_mk, List.forall_mem_append] at same
    rw [compile?, compile?, mapM_compile_congr same.1,
      compileAll_eq_of_conditions schema groups same.2]

theorem compileAll_eq_of_conditions (schema : Schema R) : ∀ groups : List ConditionGroup,
    (∀ c ∈ (subgroupsOf groups).flatMap conditions,
      c.compile schema params = c.compile schema other) →
        compileAll schema params groups = compileAll schema other groups
  | [], _ => rfl
  | group :: rest, same => by
    rw [subgroupsOf, List.flatMap_append, List.forall_mem_append] at same
    rw [compileAll, compileAll, compile?_eq_of_conditions schema group same.1,
      compileAll_eq_of_conditions schema rest same.2]

end

theorem compile?_congr (schema : Schema R) (tree : ConditionGroup)
    (agree : ∀ name, tree.AsksFor name → params.get? name = other.get? name) :
    tree.compile? schema params = tree.compile? schema other := by
  refine compile?_eq_of_conditions schema tree fun c inside => ?_
  obtain ⟨group, within, own⟩ := List.mem_flatMap.mp inside
  exact Condition.compile_congr schema c fun d reaches asks =>
    agree d.property ⟨group, within, c, own, d, reaches, asks, rfl⟩

/-- Parameters act only as literals of dynamic conditions. Without a literal such a condition does
not compile; with one, equality is plain equality with it, and the other dynamic operators are
switched on or off by it. A tree compiles alike with all tables that agree on what its conditions
ask for, so a tree that asks for nothing does not depend on the table. -/
theorem parameters_only_supply_literals (schema : Schema R) :
    (∀ (params : Parameters) (c : Condition) (op : Operator) (field : Field R),
      Operator.ofName? c.operator = some op → op.isDynamic = true →
      schema.field? c.property = some field →
      (c.value = .null → params.get? c.property = none →
        c.compile schema params = .error (.missingParameter c.property)) ∧
      ∀ literal, c.TakesLiteral params literal →
        (op = .dynamicEqual → ∀ other,
          c.compile schema params = (c.asking .equal literal).compile schema other) ∧
        (∀ base, op.switchedBase? = some base → ∀ other anything test,
          c.compile schema params = .ok test ↔ ∃ enabled inner,
            Literal.value literal (.required .bool) field.name = .ok (.bool enabled) ∧
            (c.asking base anything).compile schema other = .ok inner ∧
            ∀ record, test record = if enabled then inner record else true)) ∧
    (∀ (params other : Parameters) (tree : ConditionGroup),
      (∀ name, tree.AsksFor name → params.get? name = other.get? name) →
      tree.compile? schema params = tree.compile? schema other ∧
        tree.compile schema params = tree.compile schema other) ∧
    (∀ tree : ConditionGroup, (∀ name, ¬ tree.AsksFor name) → ∀ params other : Parameters,
      tree.compile? schema params = tree.compile? schema other ∧
        tree.compile schema params = tree.compile schema other) := by
  have agreeing : ∀ (params other : Parameters) (tree : ConditionGroup),
      (∀ name, tree.AsksFor name → params.get? name = other.get? name) →
      tree.compile? schema params = tree.compile? schema other ∧
        tree.compile schema params = tree.compile schema other := by
    intro params other tree agree
    have same := compile?_congr schema tree agree
    exact ⟨same, by rw [compile, compile, same]⟩
  refine ⟨?_, agreeing, ?_⟩
  · intro params c op field operator dynamic property
    refine ⟨Condition.compile_of_missing operator dynamic property, fun literal takes => ⟨?_, ?_⟩⟩
    · rintro rfl other
      exact Condition.compile_dynamicEqual operator property takes other
    · intro base switching other anything test
      rw [Condition.compile_of_switchedBase? operator switching property takes other anything]
      simp only [bind_eq_ok_iff, Condition.bool_eq_ok_iff]
      constructor
      · rintro ⟨enabled, read, inner, compiled, done⟩
        cases done
        refine ⟨enabled, inner, read, compiled, fun record => ?_⟩
        cases enabled <;> rfl
      · rintro ⟨enabled, inner, read, compiled, meaning⟩
        refine ⟨enabled, read, inner, compiled, congrArg Except.ok (funext fun record => ?_)⟩
        rw [meaning]
        cases enabled <;> rfl
  · intro tree asksNothing params other
    exact agreeing params other tree fun name asks => absurd asks (asksNothing name)

def activeInDepartment : ConditionGroup :=
  .mk .or [] [.ofConditions .and [⟨"Name", "If", .object [
    ("check", .object [("property", .string "IsActive"), ("operator", .string "equal"),
      ("value", .bool true)]),
    ("then", .object [("property", .string "Department"),
      ("operator", .string "dynamicequal")])]⟩]] true

theorem eq_department_of_asksFor {name : String} (asks : activeInDepartment.AsksFor name) :
    name = "Department" := by
  obtain ⟨group, within, c, own, d, reaches, dynamic, rfl⟩ := asks
  have static : Operator.ofName? "equal" ≠ some .implies := by decide
  have asking : Operator.ofName? "dynamicequal" ≠ some .implies := by decide
  have implication : Operator.ofName? "If" = some .implies := by decide
  simp only [activeInDepartment, ofConditions, subgroups, subgroupsOf, List.mem_cons,
    List.append_nil, List.not_mem_nil, or_false] at within
  rcases within with rfl | rfl
  · cases own
  · obtain rfl := List.mem_singleton.mp own
    cases reaches with
    | self =>
      obtain ⟨⟨op, named, isDynamic⟩, -⟩ := dynamic
      rw [implication] at named
      cases named
      cases isDynamic
    | branch _ side found propertyGiven operatorGiven rest =>
      rcases side with rfl | rfl
      · simp [Json.member?, Json.findMember?] at found
        subst found
        simp [Json.member?, Json.findMember?, Json.text?] at propertyGiven operatorGiven
        subst propertyGiven operatorGiven
        obtain rfl := Condition.eq_of_reaches rest static
        cases dynamic.2
      · simp [Json.member?, Json.findMember?] at found
        subst found
        simp [Json.member?, Json.findMember?, Json.text?] at propertyGiven operatorGiven
        subst propertyGiven operatorGiven
        obtain rfl := Condition.eq_of_reaches rest asking
        rfl

theorem compile_activeInDepartment :
    activeInDepartment.compile User.schema (.ofList [("Department", .string "IT")]) =
      activeInDepartment.compile User.schema
        (.ofList [("isActive", .bool false), (" DEPARTMENT ", .string "IT"), ("x", .null)]) := by
  refine ((parameters_only_supply_literals User.schema).2.1 _ _ _ fun name asks => ?_).2
  obtain rfl := eq_department_of_asksFor asks
  rw [Parameters.get?_ofList, Parameters.get?_ofList]
  have blank : Parameters.foldName " DEPARTMENT " = Parameters.foldName "Department" := by
    decide +kernel
  have other : Parameters.foldName "x" ≠ Parameters.foldName "Department" := by
    decide +kernel
  simp [blank, other]

end ConditionGroup

end RuleQuery
