import RuleQuery.Proofs.Predicate.Nested
import RuleQuery.Proofs.Predicate.Tree
import RuleQuery.Proofs.Rule.Compiled

namespace RuleQuery

theorem Operator.mem_all (op : Operator) : op ∈ all := by
  cases op <;> decide

namespace Rule

variable {R : Type}

/-- Every name in the rule is known: the target type, the field and the operator of each condition
in the tree and of each condition nested in one by `if`, the grouped fields and the field of an
aggregation that looks at one. -/
structure NamesResolve (schema : Schema R) (rule : Rule) : Prop where
  target : (Text.trim rule.targetType).isEmpty = true ∨
    Text.sameIgnoringCase (Text.trim rule.targetType) schema.typeName = true
  conditions : ∀ tree, rule.conditions = some tree → ∀ group ∈ tree.subgroups,
    ∀ c ∈ group.conditions, ∀ d, c.Reaches d →
      (∃ op ∈ Operator.all, Operator.ofName? d.operator = some op) ∧
        ∃ field, schema.field? d.property = some field
  grouping : ∀ name ∈ rule.groupBy, ∃ field, schema.field? name = some field
  aggregated : rule.groupBy ≠ [] → ∃ aggregation, rule.aggregation = some aggregation
  property : ∀ aggregation, rule.aggregation = some aggregation → aggregation.function ≠ .count →
    ∃ written, aggregation.propertyName = some written ∧ (Text.trim written).isEmpty = false ∧
      ∃ field, schema.field? (Text.trim written) = some field

theorem namesResolve_of_predicateOf {schema : Schema R} {params : Parameters} {rule : Rule}
    {predicate : Option (Predicate R)}
    (fine : CompiledRule.predicateOf schema params rule = .ok predicate) :
    rule.NamesResolve schema := by
  obtain ⟨fits, tree⟩ := CompiledRule.predicateOf_eq_ok_iff.mp fine
  refine ⟨fits.target, ?_, ?_, ?_, ?_⟩
  · intro root given group within c own d reaches
    obtain ⟨absent, -⟩ | ⟨_, same, compiled⟩ := tree
    · rw [absent] at given
      cases given
    · rw [given] at same
      cases same
      have errors := ConditionGroup.compile?_eq_error_iff schema params root
      have each := (exists_ok_iff_of_error_iff errors).mp ⟨predicate, compiled⟩ c
        (List.mem_flatMap.mpr ⟨group, within, own⟩)
      obtain ⟨test, nested⟩ := Condition.compile_of_reaches reaches each
      obtain ⟨⟨op, operator⟩, property⟩ := Condition.resolves_of_compile nested
      exact ⟨⟨op, op.mem_all, operator⟩, property⟩
  · exact fun name inside => Schema.contains_iff.mp (fits.grouping name inside)
  · exact fun grouped => Option.ne_none_iff_exists'.mp (fits.aggregated grouped)
  · intro aggregation given notCount
    obtain ⟨name, named, known⟩ | ⟨-, needless⟩ := fits.property aggregation given
    · obtain ⟨⟨written, written_given, rfl⟩, visible⟩ :=
        Aggregation.property?_eq_some_iff.mp named
      exact ⟨written, written_given, visible, Schema.contains_iff.mp known⟩
    · cases function : aggregation.function with
      | min => simp [function, AggregateFunction.requiresProperty] at needless
      | max => simp [function, AggregateFunction.requiresProperty] at needless
      | count => exact absurd function notCount

/-- Names are sound: a rule that compiles uses known names only, and a rule with an unknown one
fails with one error, whatever the cache and the records are. -/
theorem compile_resolves_names (schema : Schema R) (params : Parameters) (rule : Rule) :
    (∀ cache compiled, (rule.compile schema params).outcome cache = .ok compiled →
      rule.NamesResolve schema) ∧
    (¬ rule.NamesResolve schema → ∃ e, ∀ cache,
      (rule.compile schema params).outcome cache = .error e ∧
        ∀ records, (rule.execute schema params records).outcome cache = .error e) := by
  cases fine : CompiledRule.predicateOf schema params rule with
  | ok predicate =>
    have resolve := namesResolve_of_predicateOf fine
    exact ⟨fun _ _ _ => resolve, fun unresolved => absurd resolve unresolved⟩
  | error e =>
    refine ⟨?_, ?_⟩
    · intro cache compiled done
      rw [(compile_of_error fine).1] at done
      cases done
    · intro _
      refine ⟨e, fun cache => ⟨(compile_of_error fine).1, fun records => ?_⟩⟩
      rw [execute, Cached.outcome_bind, (compile_of_error fine).1]
      rfl

end Rule

end RuleQuery
