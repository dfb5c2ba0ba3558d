import RuleQuery.Proofs.Predicate.Tree
import RuleQuery.Proofs.Rule.Compiled

/-!
What validation demands of a rule, in order, and why it is enough. A rule is refused for the first
demand that it does not meet. One that meets all of them has a plan whatever the cache of key shapes
holds, so of what follows validation only the conditions can make compiling fail.
-/
namespace RuleQuery

variable {R : Type} {schema : Schema R} {rule : Rule} {e : QueryError}

namespace ConditionGroup

mutual

/-- Names are checked in the order in which conditions are compiled. -/
theorem properties_eq : ∀ group : ConditionGroup,
    group.properties = group.conditionsWithin.map (·.property)
  | mk op own groups negate => by
    rw [properties, propertiesOf_eq groups, conditionsWithin_mk, List.map_append]

theorem propertiesOf_eq : ∀ groups : List ConditionGroup,
    propertiesOf groups = ((subgroupsOf groups).flatMap conditions).map (·.property)
  | [] => rfl
  | group :: rest => by
    rw [propertiesOf, properties_eq group, propertiesOf_eq rest, subgroupsOf, List.flatMap_append,
      List.map_append]
    rfl

end

end ConditionGroup

/-- What is demanded of a rule: that it is meant for the record type, that a condition or the
grouping names a field, that groups are aggregated, and that the aggregation has what it needs. -/
inductive Demand where
  | target
  | condition (name : String)
  | grouping (name : String)
  | aggregated
  | property (aggregation : Aggregation)

namespace Demand

/-- What it takes to meet a demand. Only counting needs no field, but a field that it names has to
be there all the same. -/
def Met (schema : Schema R) (rule : Rule) : Demand → Prop
  | target => (Text.trim rule.targetType).isEmpty = true ∨
      Text.sameIgnoringCase (Text.trim rule.targetType) schema.typeName = true
  | condition name => ∃ field, schema.field? name = some field
  | grouping name => ∃ field, schema.field? name = some field
  | aggregated => rule.groupBy = [] ∨ rule.aggregation ≠ none
  | property aggregation =>
      (∃ name, aggregation.property? = some name ∧ ∃ field, schema.field? name = some field) ∨
        aggregation.property? = none ∧ aggregation.function = .count

def fault (schema : Schema R) (rule : Rule) : Demand → QueryError
  | target => .targetTypeMismatch rule.targetType schema.typeName
  | condition name => .unknownField name schema.typeName
  | grouping name => .unknownField name schema.typeName
  | aggregated => .missingAggregation
  | property aggregation =>
      aggregation.property?.elim (.missingAggregateProperty aggregation.function)
        fun name => .unknownField name schema.typeName

def check (schema : Schema R) (rule : Rule) : Demand → Except QueryError Unit
  | target => rule.validateTarget schema
  | condition name => schema.require name
  | grouping name => schema.require name
  | aggregated =>
      if !rule.groupBy.isEmpty && rule.aggregation.isNone then .error .missingAggregation
      else .ok ()
  | property aggregation => Rule.validateAggregation schema aggregation

theorem require_cases (schema : Schema R) (name : String) :
    (∃ field, schema.field? name = some field) ∧ schema.require name = .ok () ∨
      (¬ ∃ field, schema.field? name = some field) ∧
        schema.require name = .error (.unknownField name schema.typeName) := by
  rw [← Schema.contains_iff, Schema.require]
  cases schema.contains name with
  | true => exact .inl ⟨rfl, rfl⟩
  | false => exact .inr ⟨Bool.false_ne_true, rfl⟩

theorem count_of_needless {function : AggregateFunction}
    (needless : function.requiresProperty = false) : function = .count := by
  cases function with
  | min => cases needless
  | max => cases needless
  | count => rfl

/-- A demand that is met passes its check, any other fails with its own fault. -/
theorem check_cases (schema : Schema R) (rule : Rule) (demand : Demand) :
    demand.Met schema rule ∧ demand.check schema rule = .ok () ∨
      ¬ demand.Met schema rule ∧ demand.check schema rule = .error (demand.fault schema rule) := by
  cases demand with
  | target =>
    simp only [Met, check, fault, Rule.validateTarget, ← Bool.or_eq_true]
    split
    · exact .inl ⟨‹_›, rfl⟩
    · exact .inr ⟨‹_›, rfl⟩
  | condition name => exact require_cases schema name
  | grouping name => exact require_cases schema name
  | aggregated =>
    simp only [Met, check, fault]
    cases rule.groupBy <;> cases rule.aggregation <;> simp
  | property aggregation =>
    simp only [Met, check, fault, Rule.validateAggregation]
    cases named : aggregation.property? with
    | some name => simpa using require_cases schema name
    | none =>
      cases needed : aggregation.function.requiresProperty with
      | true =>
        refine .inr ⟨?_, rfl⟩
        rintro (⟨_, impossible, -⟩ | ⟨-, counts⟩)
        · cases impossible
        · rw [counts] at needed
          cases needed
      | false => exact .inl ⟨.inr ⟨rfl, count_of_needless needed⟩, rfl⟩

theorem check_eq_ok_iff {demand : Demand} :
    demand.check schema rule = .ok () ↔ demand.Met schema rule := by
  rcases check_cases schema rule demand with ⟨met, passes⟩ | ⟨unmet, fails⟩
  · exact ⟨fun _ => met, fun _ => passes⟩
  · rw [fails]
    exact ⟨nofun, fun met => absurd met unmet⟩

theorem check_eq_error_iff {demand : Demand} :
    demand.check schema rule = .error e ↔
      ¬ demand.Met schema rule ∧ e = demand.fault schema rule := by
  rcases check_cases schema rule demand with ⟨met, passes⟩ | ⟨unmet, fails⟩
  · rw [passes]
    exact ⟨nofun, fun fails => absurd met fails.1⟩
  · rw [fails]
    constructor
    · intro same
      cases same
      exact ⟨unmet, rfl⟩
    · rintro ⟨-, rfl⟩
      rfl

end Demand

namespace Rule

def demands (rule : Rule) : List Demand :=
  .target ::
    (rule.conditions.elim [] ConditionGroup.conditionsWithin).map (.condition ·.property) ++
    rule.groupBy.map .grouping ++ .aggregated :: rule.aggregation.toList.map .property

theorem validate_eq_forM (schema : Schema R) (rule : Rule) :
    rule.validate schema = rule.demands.forM (Demand.check schema rule) := by
  have conditions : (rule.conditions.elim [] ConditionGroup.properties).forM schema.require =
      (rule.conditions.elim [] ConditionGroup.conditionsWithin).forM
        (schema.require ·.property) := by
    cases rule.conditions with
    | none => rfl
    | some group =>
      simp only [Option.elim, ConditionGroup.properties_eq, List.forM_eq_forM, List.forM_map]
  have aggregation : rule.aggregation.forM (validateAggregation schema) =
      rule.aggregation.toList.forM (validateAggregation schema) := by
    cases rule.aggregation with
    | none => rfl
    | some aggregation => simp [Option.forM]
  unfold validate demands
  rw [conditions, aggregation]
  simp only [List.forM_eq_forM, List.forM_append, List.forM_map, List.forM_cons, Demand.check,
    bind_assoc]
  cases !rule.groupBy.isEmpty && rule.aggregation.isNone <;> rfl

theorem validate_eq_ok_iff_met :
    rule.validate schema = .ok () ↔ ∀ demand ∈ rule.demands, demand.Met schema rule := by
  rw [validate_eq_forM, forM_eq_ok_iff]
  simp only [Demand.check_eq_ok_iff]

theorem validate_eq_error_iff_unmet :
    rule.validate schema = .error e ↔ ∃ before demand after,
      rule.demands = before ++ demand :: after ∧
      (∀ earlier ∈ before, earlier.Met schema rule) ∧
      ¬ demand.Met schema rule ∧ e = demand.fault schema rule := by
  rw [validate_eq_forM, forM_eq_error_iff, firstFailure_check_iff]
  simp only [Demand.check_eq_ok_iff, Demand.check_eq_error_iff]

theorem exists_ofRule?_eq_ok (fits : rule.Fits schema) (cache : ShapeCache) :
    ∃ plan, (AggregationPlan.ofRule? schema rule.groupBy rule.aggregation).outcome cache =
        .ok plan ∧ (plan = none ↔ rule.aggregation = none ∨ rule.groupBy = []) := by
  obtain ⟨plan, yields, planned⟩ := ofRule?_of_fits fits cache
  refine ⟨plan, yields, ?_⟩
  generalize Cached.after _ _ = left at planned
  cases planned with
  | none idle => exact iff_of_true rfl idle
  | some given grouped => exact iff_of_false nofun (not_idle given grouped)

theorem predicateOf_eq_error_iff {params : Parameters} :
    CompiledRule.predicateOf schema params rule = .error e ↔ rule.validate schema = .error e ∨
      rule.validate schema = .ok () ∧ ∃ tree, rule.conditions = some tree ∧
        tree.compile? schema params = .error e := by
  unfold CompiledRule.predicateOf
  rw [bind_eq_error_iff]
  refine or_congr Iff.rfl ?_
  constructor
  · rintro ⟨⟨⟩, passes, fails⟩
    refine ⟨passes, ?_⟩
    cases given : rule.conditions with
    | none =>
      rw [given] at fails
      cases fails
    | some tree =>
      rw [given] at fails
      exact ⟨tree, rfl, fails⟩
  · rintro ⟨passes, tree, given, fails⟩
    refine ⟨⟨⟩, passes, ?_⟩
    rw [given]
    exact fails

theorem compile_eq_error_iff {params : Parameters} {cache : ShapeCache} :
    (rule.compile schema params).outcome cache = .error e ↔
      CompiledRule.predicateOf schema params rule = .error e := by
  constructor
  · intro fails
    cases made : CompiledRule.predicateOf schema params rule with
    | ok predicate =>
      obtain ⟨plan, compiled, -⟩ := compile_of_predicate made cache
      rw [compiled] at fails
      cases fails
    | error found =>
      rw [(compile_of_error made).1] at fails
      cases fails
      rfl
  · intro fails
    exact (compile_of_error fails).1

/-- Validation accepts the rules that meet all demands, and refuses any other for the first demand
that it does not meet. What it accepts has its key shape, its reduction and, from every cache, its
plan: compiling a rule fails in validation or for its conditions, never for its plan. -/
theorem validate_is_exact_and_enough (schema : Schema R) (rule : Rule) :
    (rule.validate schema = .ok () ↔ ∀ demand ∈ rule.demands, demand.Met schema rule) ∧
    (∀ e, rule.validate schema = .error e ↔ ∃ before demand after,
      rule.demands = before ++ demand :: after ∧
      (∀ earlier ∈ before, earlier.Met schema rule) ∧
      ¬ demand.Met schema rule ∧ e = demand.fault schema rule) ∧
    (rule.validate schema = .ok () →
      (∃ shape, KeyShape.build schema rule.groupBy = .ok shape) ∧
      (∀ aggregation, rule.aggregation = some aggregation →
        ∃ reduction, AggregationPlan.reductionOf schema aggregation = .ok reduction) ∧
      ∀ cache, ∃ plan,
        (AggregationPlan.ofRule? schema rule.groupBy rule.aggregation).outcome cache = .ok plan ∧
        (plan = none ↔ rule.aggregation = none ∨ rule.groupBy = [])) ∧
    (∀ params cache e, (rule.compile schema params).outcome cache = .error e ↔
      rule.validate schema = .error e ∨
      rule.validate schema = .ok () ∧ ∃ tree, rule.conditions = some tree ∧
        tree.compile? schema params = .error e) := by
  refine ⟨validate_eq_ok_iff_met, fun e => validate_eq_error_iff_unmet, ?_, ?_⟩
  · intro passes
    have fits := validate_eq_ok_iff.mp passes
    have shaped := KeyShape.exists_build_eq_ok_iff.mpr fits.grouping
    have reduced := fun aggregation given =>
      AggregationPlan.exists_reductionOf_eq_ok (fits.property aggregation given)
    exact ⟨shaped, reduced, exists_ofRule?_eq_ok fits⟩
  · intro params cache e
    rw [compile_eq_error_iff, predicateOf_eq_error_iff]

end Rule

end RuleQuery
