import RuleQuery.Proofs.Schema
import RuleQuery.Proofs.Sequence

namespace RuleQuery

variable {R : Type} {schema : Schema R}

theorem Aggregation.property?_eq_some_iff {aggregation : Aggregation} {name : String} :
    aggregation.property? = some name ↔
      (∃ written, aggregation.propertyName = some written ∧ Text.trim written = name) ∧
        name.isEmpty = false := by
  simp [property?, Option.filter_eq_some_iff]

namespace Rule

/-- The rule is meant for records of the type, as far as it says. -/
def NamesTarget (schema : Schema R) (rule : Rule) : Prop :=
  (Text.trim rule.targetType).isEmpty = true ∨
    Text.sameIgnoringCase (Text.trim rule.targetType) schema.typeName = true

/-- The aggregation names a field, or needs none and names none. -/
def NamesProperty (schema : Schema R) (aggregation : Aggregation) : Prop :=
  (∃ name, aggregation.property? = some name ∧ schema.contains name = true) ∨
    aggregation.property? = none ∧ aggregation.function.requiresProperty = false

theorem validateTarget_eq_ok_iff {rule : Rule} :
    rule.validateTarget schema = .ok () ↔ rule.NamesTarget schema := by
  simp only [validateTarget, NamesTarget, ← Bool.or_eq_true]
  split <;> simp_all

theorem validateAggregation_eq_ok_iff {aggregation : Aggregation} :
    validateAggregation schema aggregation = .ok () ↔ NamesProperty schema aggregation := by
  unfold validateAggregation NamesProperty
  split
  · simp_all [Schema.require_eq_ok_iff]
  · split <;> simp_all

structure Fits (schema : Schema R) (rule : Rule) : Prop where
  target : rule.NamesTarget schema
  conditions : ∀ name ∈ rule.conditions.elim [] ConditionGroup.properties,
    schema.contains name = true
  grouping : ∀ name ∈ rule.groupBy, schema.contains name = true
  aggregated : rule.groupBy ≠ [] → rule.aggregation ≠ none
  property : ∀ aggregation, rule.aggregation = some aggregation →
    NamesProperty schema aggregation

theorem validate_eq_ok_iff {rule : Rule} : rule.validate schema = .ok () ↔ rule.Fits schema := by
  have names : ∀ names : List String, names.forM schema.require = .ok () ↔
      ∀ name ∈ names, schema.contains name = true := by
    intro names
    simp only [forM_eq_ok_iff, Schema.require_eq_ok_iff]
  have aggregation : rule.aggregation.forM (validateAggregation schema) = .ok () ↔
      ∀ aggregation, rule.aggregation = some aggregation → NamesProperty schema aggregation := by
    cases rule.aggregation with
    | none => simp [Option.forM, pure, Except.pure]
    | some aggregation => simp [Option.forM, validateAggregation_eq_ok_iff]
  unfold validate
  simp only [check_bind_eq_ok_iff, validateTarget_eq_ok_iff, names]
  constructor
  · rintro ⟨target, conditions, grouping, rest⟩
    split at rest
    · cases rest
    · rename_i aggregated
      refine ⟨target, conditions, grouping, ?_, aggregation.mp rest⟩
      simp_all
  · intro fits
    refine ⟨fits.target, fits.conditions, fits.grouping, ?_⟩
    rw [if_neg, aggregation]
    · exact fits.property
    · have aggregated := fits.aggregated
      simp_all

end Rule

end RuleQuery
