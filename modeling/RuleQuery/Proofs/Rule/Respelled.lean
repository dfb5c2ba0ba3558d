import RuleQuery.Proofs.Predicate.Respelled
import RuleQuery.Proofs.Rule.Recompiled

namespace RuleQuery

variable {R : Type} {schema : Schema R} {params : Parameters}

namespace Schema

variable {name other : String}

theorem coded_require (same : Text.fold name = Text.fold other) :
    coded (schema.require name) = coded (schema.require other) := by
  rw [require, require, contains, contains, position?_congr same]
  split
  · rfl
  · rfl

theorem coded_forM_require {names others : List String}
    (same : names.map Text.fold = others.map Text.fold) :
    coded (names.forM schema.require) = coded (others.forM schema.require) :=
  coded_forM (map_eq_map_of_forall same fun _ _ _ _ folds => coded_require folds)

end Schema

namespace Aggregation

def folded (aggregation : Aggregation) : Aggregation :=
  ⟨aggregation.function, aggregation.propertyName.map Text.fold⟩

theorem map_fold_property? (aggregation : Aggregation) : aggregation.property?.map Text.fold =
    (aggregation.propertyName.map Text.fold).filter fun name => !name.isEmpty := by
  unfold property?
  cases aggregation.propertyName with
  | none => rfl
  | some name =>
    simp only [Option.map_some, Option.filter_some, ← Text.isEmpty_fold]
    cases (Text.fold name).isEmpty with
    | true => rfl
    | false => exact congrArg some (Text.fold_trim name)

variable {asked other : Aggregation}

/-- Aggregations that fold to one name fields that fold to one, or none. -/
theorem property?_of_folded_eq (same : asked.folded = other.folded) :
    asked.function = other.function ∧ ((asked.property? = none ∧ other.property? = none) ∨
      ∃ name written, asked.property? = some name ∧ other.property? = some written ∧
        Text.fold name = Text.fold written) := by
  rw [folded, folded, mk.injEq] at same
  refine ⟨same.1, ?_⟩
  have folds : asked.property?.map Text.fold = other.property?.map Text.fold := by
    rw [map_fold_property?, same.2, ← map_fold_property?]
  cases given : asked.property? with
  | none =>
    rw [given, Option.map_none, eq_comm, Option.map_eq_none_iff] at folds
    exact .inl ⟨rfl, folds⟩
  | some name =>
    rw [given, Option.map_some, eq_comm, Option.map_eq_some_iff] at folds
    obtain ⟨written, given', alike⟩ := folds
    exact .inr ⟨name, written, rfl, given', alike.symm⟩

theorem coded_validateAggregation (same : asked.folded = other.folded) :
    coded (Rule.validateAggregation schema asked) =
      coded (Rule.validateAggregation schema other) := by
  obtain ⟨function, ⟨none, none'⟩ | ⟨name, written, given, given', folds⟩⟩ :=
    property?_of_folded_eq same
  · simp only [Rule.validateAggregation, none, none', function]
  · simp only [Rule.validateAggregation, given, given']
    exact Schema.coded_require folds

theorem coded_selection (same : asked.folded = other.folded) (preferred : Ordering) :
    coded (AggregationPlan.selection schema asked preferred) =
      coded (AggregationPlan.selection schema other preferred) := by
  obtain ⟨function, ⟨none, none'⟩ | ⟨name, written, given, given', folds⟩⟩ :=
    property?_of_folded_eq same
  · simp only [AggregationPlan.selection, none, none', function]
  · have field : schema.field? name = schema.field? written :=
      Schema.field?_congr (Schema.position?_congr folds)
    simp only [AggregationPlan.selection, given, given', field]
    cases schema.field? written with
    | none => rfl
    | some field => rfl

theorem coded_reductionOf (same : asked.folded = other.folded) :
    coded (AggregationPlan.reductionOf schema asked) =
      coded (AggregationPlan.reductionOf schema other) := by
  obtain ⟨function, -⟩ := property?_of_folded_eq same
  unfold AggregationPlan.reductionOf
  rw [function]
  cases other.function with
  | count => rfl
  | min => exact coded_selection same .lt
  | max => exact coded_selection same .gt

end Aggregation

namespace Rule

/-- Rules that differ at most in the spelling of names and in parts that are carried along. -/
structure SpelledAlike (rule other : Rule) : Prop where
  name : rule.name = other.name
  target : Text.fold rule.targetType = Text.fold other.targetType
  conditions :
    rule.conditions.map ConditionGroup.folded = other.conditions.map ConditionGroup.folded
  grouping : rule.groupBy.map Text.fold = other.groupBy.map Text.fold
  aggregation : rule.aggregation.map Aggregation.folded = other.aggregation.map Aggregation.folded

variable {rule other : Rule}

namespace SpelledAlike

variable (alike : SpelledAlike rule other)
include alike

theorem coded_validateTarget :
    coded (rule.validateTarget schema) = coded (other.validateTarget schema) := by
  simp only [validateTarget, ← Text.isEmpty_fold, Text.sameIgnoringCase_trim, alike.target]
  split
  · rfl
  · rfl

theorem properties : (rule.conditions.elim [] ConditionGroup.properties).map Text.fold =
    (other.conditions.elim [] ConditionGroup.properties).map Text.fold := by
  have folds : ∀ conditions : Option ConditionGroup,
      (conditions.elim [] ConditionGroup.properties).map Text.fold =
        (conditions.map ConditionGroup.folded).elim [] ConditionGroup.properties := by
    intro conditions
    cases conditions with
    | none => rfl
    | some tree => exact (ConditionGroup.properties_folded tree).symm
  rw [folds, alike.conditions, ← folds]

theorem isEmpty_groupBy : rule.groupBy.isEmpty = other.groupBy.isEmpty := by
  simpa only [List.isEmpty_map] using congrArg List.isEmpty alike.grouping

theorem isNone_aggregation : rule.aggregation.isNone = other.aggregation.isNone := by
  simpa only [Option.isNone_map] using congrArg Option.isNone alike.aggregation

theorem aggregations : rule.aggregation = none ∧ other.aggregation = none ∨
    ∃ asked twin, rule.aggregation = some asked ∧ other.aggregation = some twin ∧
      asked.folded = twin.folded := by
  have folds := alike.aggregation
  cases given : rule.aggregation with
  | none =>
    rw [given, Option.map_none, eq_comm, Option.map_eq_none_iff] at folds
    exact .inl ⟨rfl, folds⟩
  | some asked =>
    rw [given, Option.map_some, eq_comm, Option.map_eq_some_iff] at folds
    obtain ⟨twin, given', same⟩ := folds
    exact .inr ⟨asked, twin, rfl, given', same.symm⟩

theorem coded_validate : coded (rule.validate schema) = coded (other.validate schema) := by
  have aggregation : coded (rule.aggregation.forM (validateAggregation schema)) =
      coded (other.aggregation.forM (validateAggregation schema)) := by
    rcases alike.aggregations with ⟨none, none'⟩ | ⟨asked, twin, given, given', same⟩
    · rw [none, none']
    · rw [given, given']
      exact Aggregation.coded_validateAggregation same
  unfold validate
  rw [alike.isEmpty_groupBy, alike.isNone_aggregation]
  refine coded_bind alike.coded_validateTarget fun _ _ => ?_
  refine coded_bind (Schema.coded_forM_require alike.properties) fun _ _ => ?_
  refine coded_bind (Schema.coded_forM_require alike.grouping) fun _ _ => ?_
  split
  · rfl
  · exact aggregation

theorem coded_predicateOf :
    coded (CompiledRule.predicateOf schema params rule) =
      coded (CompiledRule.predicateOf schema params other) := by
  have folds := alike.conditions
  unfold CompiledRule.predicateOf
  refine coded_bind alike.coded_validate fun _ _ => ?_
  cases given : rule.conditions with
  | none =>
    rw [given, Option.map_none, eq_comm, Option.map_eq_none_iff] at folds
    rw [folds]
  | some tree =>
    rw [given, Option.map_some, eq_comm, Option.map_eq_some_iff] at folds
    obtain ⟨twin, given', same⟩ := folds
    rw [given']
    exact ConditionGroup.coded_compile? tree twin same.symm

theorem plansAlike : PlansAlike schema rule other where
  name := alike.name
  grouping := map_eq_map_of_forall alike.grouping fun _ _ _ _ folds =>
    Schema.position?_congr folds
  aggregation := by
    rcases alike.aggregations with ⟨none, none'⟩ | ⟨asked, twin, given, given', same⟩
    · rw [none, none']
    · rw [given, given']
      exact congrArg some (toOption_of_coded_eq (Aggregation.coded_reductionOf same))

end SpelledAlike

/-- Rules that differ in the spelling of names compile to the same, or fail with errors of one
code. -/
theorem coded_compile_of_spelledAlike {cache later : ShapeCache} (apart : schema.NamesStayApart)
    (faithful : cache.Faithful schema) (laterFaithful : later.Faithful schema)
    (alike : SpelledAlike rule other) :
    coded (((rule.compile schema params).outcome cache).map CompiledRule.unnumbered) =
      coded (((other.compile schema params).outcome later).map CompiledRule.unnumbered) := by
  have conditions : coded (CompiledRule.predicateOf schema params rule) =
      coded (CompiledRule.predicateOf schema params other) := alike.coded_predicateOf
  rcases coded_cases conditions with
    ⟨predicate, fine, otherFine⟩ | ⟨e, f, fails, otherFails, code⟩
  · obtain ⟨plan, done, -⟩ := compile_of_predicate fine cache
    obtain ⟨otherPlan, there, -⟩ := compile_of_predicate otherFine later
    have same := unnumbered_eq_of_plansAlike apart faithful laterFaithful alike.plansAlike fine
      otherFine done there
    rw [done, there]
    exact congrArg Except.ok same
  · rw [(compile_of_error fails).1, (compile_of_error otherFails).1]
    exact congrArg Except.error code

/-- The case of ASCII letters in the names of a rule and white space around them do not show in what
it yields, whatever the process asked for before, nor in the code of the error that it fails with. -/
theorem outcome_ignores_spelling (schema : Schema R) (ascii : schema.AsciiNames) (rule other : Rule)
    (alike : SpelledAlike rule other) (cache later : ShapeCache)
    (reached : ShapeCache.Reached schema cache) (laterReached : ShapeCache.Reached schema later)
    (params : Parameters) (records : List R) :
    coded ((rule.execute schema params records).outcome cache) =
      coded ((other.execute schema params records).outcome later) := by
  rw [outcome_execute, outcome_execute]
  refine coded_map ?_ _
  exact coded_compile_of_spelledAlike ascii.namesStayApart (ShapeCache.faithful_of_reached reached)
    (ShapeCache.faithful_of_reached laterReached) alike

def activeInIT (spell : String → String) : Json := .object [
  ("check", .object [("property", .string (spell "Department")),
    ("operator", .string (spell "equal")), ("value", .string "IT")]),
  ("then", .object [("property", .string (spell "IsActive")),
    ("operator", .string (spell "equal")), ("value", .bool true)])]

def leastPaid (spell : String → String) : Rule :=
  { ofName "least paid" .epoch with
    targetType := spell "User"
    conditions := some (.ofConditions .and [⟨spell "Id", spell "if", activeInIT spell⟩])
    groupBy := [spell "Department"]
    aggregation := some ⟨.min, some (spell "Salary")⟩ }

def shout (name : String) : String := " " ++ String.ofList (name.toList.map Char.toUpper) ++ "\t"

theorem fold_shout : ∀ name ∈ ["User", "Id", "if", "Department", "equal", "IsActive", "Salary"],
    Text.fold (shout name) = Text.fold name := by decide +kernel

theorem spelledAlike_leastPaid : SpelledAlike (leastPaid shout) (leastPaid id) := by
  have folds := fold_shout
  simp only [List.forall_mem_cons] at folds
  obtain ⟨user, identity, conditional, department, equal, isActive, salary, -⟩ := folds
  have implies : Operator.ofName? "if" = some .implies := Operator.ofName?_name .implies
  have equals : Operator.ofName? "equal" = some .equal := Operator.ofName?_name .equal
  have impliesShouted : Operator.ofName? (shout "if") = some .implies := by
    rw [Operator.ofName?_of_fold_eq conditional, implies]
  have equalsShouted : Operator.ofName? (shout "equal") = some .equal := by
    rw [Operator.ofName?_of_fold_eq equal, equals]
  have payload : (activeInIT shout).foldPayload = (activeInIT id).foldPayload := by
    simp [activeInIT, Json.foldPayload, Json.foldBranches, Json.foldBranch, Json.foldParts,
      Json.foldText, Json.isBranch, Json.isName, Json.isImplication, Json.member?,
      Json.findMember?, Json.text?, Text.sameIgnoringCase, equals, equalsShouted, department, equal,
      isActive]
  refine ⟨rfl, user, ?_, congrArg (List.cons · []) department, ?_⟩
  · simp [leastPaid, ConditionGroup.ofConditions, ConditionGroup.folded, ConditionGroup.foldedAll,
      Condition.folded_eq_iff, implies, impliesShouted, identity, conditional, payload]
  · simp only [leastPaid, Option.map_some, Aggregation.folded, salary, id]

theorem predicateOf_leastPaid : CompiledRule.predicateOf User.schema .empty (leastPaid id) =
    .ok (some fun user => !(Value.text user.department).equals (.text "IT") ||
      (Value.bool user.isActive).equals (.bool true)) := by
  have identity : User.schema.field? "Id" =
      some ⟨"Id", .required .integer, fun user => .integer user.id⟩ := rfl
  have department : User.schema.field? "Department" =
      some ⟨"Department", .required .text, fun user => .text user.department⟩ := rfl
  have isActive : User.schema.field? "IsActive" =
      some ⟨"IsActive", .required .bool, fun user => .bool user.isActive⟩ := rfl
  have check : Condition.compile User.schema .empty ⟨"Department", "equal", .string "IT"⟩ = _ :=
    Condition.compile_equal (Operator.ofName?_name .equal) department rfl
  have conclusion : Condition.compile User.schema .empty ⟨"IsActive", "equal", .bool true⟩ = _ :=
    Condition.compile_equal (Operator.ofName?_name .equal) isActive rfl
  have checkRead : Condition.branch (activeInIT id) "check" =
      .ok ⟨"Department", "equal", .string "IT"⟩ := rfl
  have conclusionRead : Condition.branch (activeInIT id) "then" =
      .ok ⟨"IsActive", "equal", .bool true⟩ := rfl
  have whole : Condition.compile User.schema .empty ⟨"Id", "if", activeInIT id⟩ = _ :=
    Condition.compile_implies (Operator.ofName?_name .implies) identity
  have fits : (leastPaid id).Fits User.schema := by
    rw [← validate_eq_ok_iff]
    rfl
  refine CompiledRule.predicateOf_eq_ok_iff.mpr ⟨fits, .inr ⟨_, rfl, ?_⟩⟩
  simp only [checkRead, conclusionRead, bind, Except.bind, check, conclusion] at whole
  rw [ConditionGroup.ofConditions, ConditionGroup.compile?, List.mapM_cons]
  simp only [id, whole]
  rfl

theorem execute_leastPaid_shouted :
    ((leastPaid shout).execute User.schema .empty
      [.new 1 "Ann" "IT", .new 2 "Bob" "HR", .new 3 "Cy" "IT"]).outcome
        ((KeyShape.shared User.schema [shout "Department"]).after .empty) =
      .ok (.records [.new 1 "Ann" "IT", .new 2 "Bob" "HR"]) := by
  have plain : ((leastPaid id).execute User.schema .empty
      [.new 1 "Ann" "IT", .new 2 "Bob" "HR", .new 3 "Cy" "IT"]).outcome .empty =
      .ok (.records [.new 1 "Ann" "IT", .new 2 "Bob" "HR"]) := by
    rw [execute, compile, predicateOf_leastPaid]
    rfl
  have same := outcome_ignores_spelling User.schema (by decide) _ _ spelledAlike_leastPaid
    _ .empty (.own [shout "Department"] .empty) .empty .empty
    [.new 1 "Ann" "IT", .new 2 "Bob" "HR", .new 3 "Cy" "IT"]
  rw [plain] at same
  rcases coded_cases same with ⟨output, shouted, given⟩ | ⟨e, f, -, fails, -⟩
  · cases given
    exact shouted
  · cases fails

end Rule

end RuleQuery
