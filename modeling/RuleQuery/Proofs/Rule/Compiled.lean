import RuleQuery.Proofs.Grouping.ShapeCache
import RuleQuery.Proofs.Rule.Validation
import RuleQuery.Rule.Compiled

namespace RuleQuery

open Cached

variable {R : Type} {schema : Schema R} {params : Parameters} {rule : Rule} {cache : ShapeCache}

namespace AggregationPlan

theorem exists_reductionOf_eq_ok {aggregation : Aggregation}
    (names : Rule.NamesProperty schema aggregation) :
    ∃ reduction, reductionOf schema aggregation = .ok reduction := by
  have selection_ok : ∀ preferred, (∃ name, aggregation.property? = some name ∧
      schema.contains name = true) → ∃ reduction,
        selection schema aggregation preferred = .ok reduction := by
    rintro preferred ⟨name, given, known⟩
    obtain ⟨field, found⟩ := Schema.contains_iff.mp known
    exact ⟨.select preferred field.get, by simp [selection, given, found]⟩
  obtain ⟨function, propertyName⟩ := aggregation
  rcases names with named | ⟨-, needless⟩
  · cases function with
    | min => exact selection_ok .lt named
    | max => exact selection_ok .gt named
    | count => exact ⟨.count, rfl⟩
  · cases function with
    | min => cases needless
    | max => cases needless
    | count => exact ⟨.count, rfl⟩

theorem ofRule?_of_none {groupBy : List String} {aggregation : Option Aggregation}
    (schema : Schema R) (cache : ShapeCache)
    (idle : aggregation = none ∨ groupBy = []) :
    (ofRule? schema groupBy aggregation).outcome cache = .ok none ∧
      (ofRule? schema groupBy aggregation).after cache = cache := by
  cases aggregation with
  | none => exact ⟨rfl, rfl⟩
  | some aggregation =>
    obtain rfl : groupBy = [] := by simpa using idle
    exact ⟨rfl, rfl⟩

theorem ofRule?_of_some {groupBy : List String} {aggregation : Aggregation} {shape : SharedShape}
    {reduction : Reduction R} (grouped : groupBy ≠ [])
    (shared : (KeyShape.shared schema groupBy).outcome cache = .ok shape)
    (reduced : reductionOf schema aggregation = .ok reduction) :
    (ofRule? schema groupBy (some aggregation)).outcome cache =
        .ok (some ⟨schema, shape, reduction⟩) ∧
      (ofRule? schema groupBy (some aggregation)).after cache =
        (KeyShape.shared schema groupBy).after cache := by
  have notEmpty : groupBy.isEmpty = false := by simpa using grouped
  have built : (build schema groupBy aggregation).outcome cache = .ok ⟨schema, shape, reduction⟩ :=
    build_eq_ok_iff.mpr ⟨shape, reduction, shared, reduced, rfl⟩
  simp only [ofRule?, notEmpty, Bool.false_eq_true, if_false]
  constructor
  · rw [outcome_bind, built]
    rfl
  · rw [after_bind_of_ok built, after_pure, after_build shared]

end AggregationPlan

namespace KeyShape

theorem exists_shared_eq_ok {names : List String}
    (known : ∀ name ∈ names, schema.contains name = true) (cache : ShapeCache) :
    ∃ shape, (shared schema names).outcome cache = .ok shape := by
  obtain ⟨kept, -, yields, -⟩ | ⟨e, -, fails, -⟩ | ⟨shape, -, -, yields, -⟩ :=
    shared_cases schema names cache
  · exact ⟨kept, yields⟩
  · obtain ⟨shape, built⟩ := exists_build_eq_ok_iff.mpr known
    rw [fails] at built
    cases built
  · exact ⟨_, yields⟩

end KeyShape

namespace CompiledRule

theorem predicateOf_eq_ok_iff {predicate : Option (Predicate R)} :
    predicateOf schema params rule = .ok predicate ↔ rule.Fits schema ∧
      (rule.conditions = none ∧ predicate = none ∨ ∃ group, rule.conditions = some group ∧
        group.compile? schema params = .ok predicate) := by
  unfold predicateOf
  rw [check_bind_eq_ok_iff, Rule.validate_eq_ok_iff]
  refine and_congr Iff.rfl ?_
  cases rule.conditions with
  | none => simp [pure, Except.pure, eq_comm]
  | some group => simp

end CompiledRule

namespace Rule

def yieldsCounts (rule : Rule) : Bool :=
  !rule.groupBy.isEmpty && rule.aggregation.any fun aggregation => aggregation.function == .count

/-- What compiling yields and leaves, when the conditions are fine: the plan is that of the
aggregation, over the shape that the cache hands out. -/
inductive Planned (schema : Schema R) (rule : Rule) (cache : ShapeCache) :
    Option (AggregationPlan R) → ShapeCache → Prop where
  | none : rule.aggregation = none ∨ rule.groupBy = [] → Planned schema rule cache none cache
  | some {aggregation : Aggregation} {shape : SharedShape} {reduction : Reduction R} :
      rule.aggregation = some aggregation → rule.groupBy ≠ [] →
      (KeyShape.shared schema rule.groupBy).outcome cache = .ok shape →
      AggregationPlan.reductionOf schema aggregation = .ok reduction →
      Planned schema rule cache (some ⟨schema, shape, reduction⟩)
        ((KeyShape.shared schema rule.groupBy).after cache)

theorem not_idle {aggregation : Aggregation} (given : rule.aggregation = some aggregation)
    (grouped : rule.groupBy ≠ []) : ¬ (rule.aggregation = none ∨ rule.groupBy = []) := by
  rintro (absent | empty)
  · rw [absent] at given
    cases given
  · exact grouped empty

theorem ofRule?_of_fits (fits : rule.Fits schema) (cache : ShapeCache) :
    ∃ plan, (AggregationPlan.ofRule? schema rule.groupBy rule.aggregation).outcome cache =
        .ok plan ∧ Planned schema rule cache plan
          ((AggregationPlan.ofRule? schema rule.groupBy rule.aggregation).after cache) := by
  by_cases idle : rule.aggregation = none ∨ rule.groupBy = []
  · obtain ⟨done, leaves⟩ := AggregationPlan.ofRule?_of_none schema cache idle
    rw [leaves]
    exact ⟨none, done, .none idle⟩
  · obtain ⟨aggregation, given⟩ := Option.ne_none_iff_exists'.mp (fun absent => idle (.inl absent))
    have grouped : rule.groupBy ≠ [] := fun empty => idle (.inr empty)
    obtain ⟨shape, shared⟩ := KeyShape.exists_shared_eq_ok fits.grouping cache
    obtain ⟨reduction, reduced⟩ :=
      AggregationPlan.exists_reductionOf_eq_ok (fits.property aggregation given)
    obtain ⟨done, leaves⟩ := AggregationPlan.ofRule?_of_some grouped shared reduced
    rw [← given] at done leaves
    rw [leaves]
    exact ⟨_, done, .some given grouped shared reduced⟩

theorem compile_of_error {e : QueryError}
    (fails : CompiledRule.predicateOf schema params rule = .error e) :
    (rule.compile schema params).outcome cache = .error e ∧
      (rule.compile schema params).after cache = cache := by
  have first : (Cached.ofExcept (CompiledRule.predicateOf schema params rule)).outcome cache =
      .error e := fails
  unfold compile
  rw [outcome_bind, after_bind_of_error first, first]
  exact ⟨rfl, rfl⟩

/-- Any other rule compiles, whatever the cache is. -/
theorem compile_of_predicate {predicate : Option (Predicate R)}
    (fine : CompiledRule.predicateOf schema params rule = .ok predicate) (cache : ShapeCache) :
    ∃ plan, (rule.compile schema params).outcome cache = .ok ⟨rule.name, predicate, plan⟩ ∧
      Planned schema rule cache plan ((rule.compile schema params).after cache) := by
  have first : (Cached.ofExcept (CompiledRule.predicateOf schema params rule)).outcome cache =
      .ok predicate := fine
  obtain ⟨fits, -⟩ := CompiledRule.predicateOf_eq_ok_iff.mp fine
  obtain ⟨plan, done, planned⟩ := ofRule?_of_fits fits cache
  refine ⟨plan, ?_, ?_⟩
  · unfold compile
    rw [outcome_bind, first]
    change Cached.outcome _ _ = _
    rw [outcome_bind, after_ofExcept, done]
    rfl
  · unfold compile
    rw [after_bind_of_ok first, after_ofExcept, after_bind_of_ok done]
    exact planned

theorem execute_of_compile {compiled : CompiledRule R} (records : List R)
    (done : (rule.compile schema params).outcome cache = .ok compiled) :
    (rule.execute schema params records).outcome cache = .ok (compiled.apply records) ∧
      (rule.execute schema params records).after cache =
        (rule.compile schema params).after cache := by
  unfold execute
  rw [outcome_bind, after_bind_of_ok done, done, after_pure]
  exact ⟨outcome_pure _ ((rule.compile schema params).after cache), rfl⟩

theorem execute_of_plain {predicate : Option (Predicate R)}
    (fine : CompiledRule.predicateOf schema params rule = .ok predicate)
    (plain : rule.aggregation = none) (records : List R) (cache : ShapeCache) :
    (rule.execute schema params records).outcome cache =
      .ok (.records (records.filter fun record => predicate.getD (fun _ => true) record)) := by
  obtain ⟨plan, compiled, planned⟩ := compile_of_predicate fine cache
  obtain rfl : plan = none := by
    generalize (rule.compile schema params).after cache = left at planned
    cases planned with
    | none => rfl
    | some given =>
      rw [plain] at given
      cases given
  rw [(execute_of_compile records compiled).1]
  cases predicate with
  | none => rfl
  | some test => rfl

end Rule

end RuleQuery
