import RuleQuery.Proofs.Grouping.Settled
import RuleQuery.Proofs.Rule.Compiled

namespace RuleQuery

open Cached

variable {R : Type} {schema : Schema R} {params : Parameters}

namespace AggregationPlan

theorem reductionOf_cases {aggregation : Aggregation} {reduction : Reduction R}
    (reduced : reductionOf schema aggregation = .ok reduction) :
    (aggregation.function = .count ∧ reduction = .count) ∨
      (aggregation.function ≠ .count ∧ ∃ preferred get, reduction = .select preferred get) := by
  have selection_cases : ∀ preferred, selection schema aggregation preferred = .ok reduction →
      ∃ preferred get, reduction = .select preferred get := by
    intro preferred selected
    unfold selection at selected
    split at selected
    · cases selected
    · split at selected
      · cases selected
      · cases selected
        exact ⟨_, _, rfl⟩
  unfold reductionOf at reduced
  cases given : aggregation.function with
  | count =>
    rw [given] at reduced
    cases reduced
    exact .inl ⟨rfl, rfl⟩
  | min =>
    rw [given] at reduced
    exact .inr ⟨nofun, selection_cases _ reduced⟩
  | max =>
    rw [given] at reduced
    exact .inr ⟨nofun, selection_cases _ reduced⟩

theorem isProjection_of_reductionOf {aggregation : Aggregation} {reduction : Reduction R}
    (reduced : reductionOf schema aggregation = .ok reduction) (shape : SharedShape) :
    (⟨schema, shape, reduction⟩ : AggregationPlan R).isProjection =
      (aggregation.function == .count) := by
  rcases reductionOf_cases reduced with ⟨counts, rfl⟩ | ⟨selects, preferred, get, rfl⟩
  · simp [isProjection, counts]
  · simp [isProjection, selects]

def unnumbered (plan : AggregationPlan R) : AggregationPlan R :=
  ⟨plan.schema, ⟨0, plan.shape.shape⟩, plan.reduction⟩

theorem apply_unnumbered (plan : AggregationPlan R) (records : List R) :
    plan.unnumbered.apply records = plan.apply records := by
  obtain ⟨schema, ⟨serial, content⟩, reduction⟩ := plan
  cases reduction with
  | count => rfl
  | select preferred get => rfl

theorem settles_ofRule? (groupBy : List String) (aggregation : Option Aggregation) :
    Settles (ofRule? schema groupBy aggregation) := by
  cases aggregation with
  | none => exact settles_pure none
  | some aggregation =>
    simp only [ofRule?]
    cases groupBy.isEmpty with
    | true => exact settles_pure none
    | false =>
      refine settles_bind ?_ fun plan => settles_pure (some plan)
      exact settles_bind (settles_shared schema groupBy) fun _ =>
        settles_bind (settles_ofExcept _) fun _ => settles_pure _

theorem keepsReached_ofRule? (groupBy : List String) (aggregation : Option Aggregation) :
    KeepsReached schema (ofRule? schema groupBy aggregation) := by
  cases aggregation with
  | none => exact keepsReached_pure none
  | some aggregation =>
    simp only [ofRule?]
    cases groupBy.isEmpty with
    | true => exact keepsReached_pure none
    | false =>
      refine keepsReached_bind ?_ fun plan => keepsReached_pure (some plan)
      exact keepsReached_bind (keepsReached_shared groupBy) fun _ =>
        keepsReached_bind (keepsReached_ofExcept _) fun _ => keepsReached_pure _

end AggregationPlan

namespace CompiledRule

def unnumbered (compiled : CompiledRule R) : CompiledRule R :=
  ⟨compiled.name, compiled.predicate, compiled.plan.map .unnumbered⟩

/-- What a rule yields depends on the content of its shape and not on its number. -/
theorem apply_unnumbered (compiled : CompiledRule R) (records : List R) :
    compiled.unnumbered.apply records = compiled.apply records := by
  obtain ⟨name, predicate, plan⟩ := compiled
  cases plan with
  | none => rfl
  | some plan => exact plan.apply_unnumbered _

end CompiledRule

namespace Rule

variable {rule : Rule} {cache other : ShapeCache} {compiled again : CompiledRule R}

theorem settles_compile (rule : Rule) : Settles (rule.compile schema params) :=
  settles_bind (settles_ofExcept _) fun _ =>
    settles_bind (AggregationPlan.settles_ofRule? _ _) fun _ => settles_pure _

theorem keepsReached_compile (rule : Rule) : KeepsReached schema (rule.compile schema params) :=
  keepsReached_bind (keepsReached_ofExcept _) fun _ =>
    keepsReached_bind (AggregationPlan.keepsReached_ofRule? _ _) fun _ => keepsReached_pure _

theorem failsAlike_compile (rule : Rule) : FailsAlike (rule.compile schema params) := by
  intro cache e fails other
  cases fine : CompiledRule.predicateOf schema params rule with
  | error e' =>
    rw [(compile_of_error fine).1] at fails ⊢
    exact fails
  | ok predicate =>
    obtain ⟨plan, compiled, -⟩ := compile_of_predicate fine cache
    rw [compiled] at fails
    cases fails

theorem planned_of_compile (done : (rule.compile schema params).outcome cache = .ok compiled) :
    ∃ predicate plan left, CompiledRule.predicateOf schema params rule = .ok predicate ∧
      compiled = ⟨rule.name, predicate, plan⟩ ∧ Planned schema rule cache plan left := by
  cases fine : CompiledRule.predicateOf schema params rule with
  | error e =>
    rw [(compile_of_error fine).1] at done
    cases done
  | ok predicate =>
    obtain ⟨plan, yields, planned⟩ := compile_of_predicate fine cache
    rw [yields] at done
    exact ⟨predicate, plan, _, rfl, (Except.ok.inj done).symm, planned⟩

theorem isProjection_of_compile
    (done : (rule.compile schema params).outcome cache = .ok compiled) :
    compiled.isProjection = rule.yieldsCounts := by
  obtain ⟨predicate, plan, left, -, rfl, planned⟩ := planned_of_compile done
  cases planned with
  | none idle =>
    rcases idle with absent | empty
    · simp [CompiledRule.isProjection, yieldsCounts, absent]
    · simp [CompiledRule.isProjection, yieldsCounts, empty]
  | some given grouped shared reduced =>
    rename_i aggregation shape reduction
    have counts := AggregationPlan.isProjection_of_reductionOf reduced shape
    simp [CompiledRule.isProjection, yieldsCounts, given, grouped, counts]

/-- Rules that group by the same fields and reduce groups alike, whatever they call the fields. -/
structure PlansAlike (schema : Schema R) (rule twin : Rule) : Prop where
  name : rule.name = twin.name
  grouping : rule.groupBy.map schema.position? = twin.groupBy.map schema.position?
  aggregation :
    rule.aggregation.map (fun asked => (AggregationPlan.reductionOf schema asked).toOption) =
      twin.aggregation.map fun asked => (AggregationPlan.reductionOf schema asked).toOption

/-- Rules that plan alike are compiled alike with all caches of the process. -/
theorem unnumbered_eq_of_plansAlike {twin : Rule} {predicate : Option (Predicate R)}
    (apart : schema.NamesStayApart) (faithful : cache.Faithful schema)
    (otherFaithful : other.Faithful schema) (alike : PlansAlike schema rule twin)
    (fine : CompiledRule.predicateOf schema params rule = .ok predicate)
    (twinFine : CompiledRule.predicateOf schema params twin = .ok predicate)
    (done : (rule.compile schema params).outcome cache = .ok compiled)
    (there : (twin.compile schema params).outcome other = .ok again) :
    compiled.unnumbered = again.unnumbered := by
  obtain ⟨_, plan, left, found, rfl, planned⟩ := planned_of_compile done
  obtain ⟨_, plan', left', found', rfl, planned'⟩ := planned_of_compile there
  rw [fine] at found
  rw [twinFine] at found'
  cases found
  cases found'
  obtain ⟨fits, -⟩ := CompiledRule.predicateOf_eq_ok_iff.mp fine
  obtain ⟨twinFits, -⟩ := CompiledRule.predicateOf_eq_ok_iff.mp twinFine
  have idle_iff : (rule.aggregation = none ∨ rule.groupBy = []) ↔
      (twin.aggregation = none ∨ twin.groupBy = []) := by
    have asked := congrArg Option.isNone alike.aggregation
    have grouped := congrArg List.isEmpty alike.grouping
    simp only [Option.isNone_map, List.isEmpty_map] at asked grouped
    rw [← Option.isNone_iff_eq_none, ← Option.isNone_iff_eq_none, ← List.isEmpty_iff,
      ← List.isEmpty_iff, asked, grouped]
  cases planned with
  | none idle =>
    cases planned' with
    | none => simp only [CompiledRule.unnumbered, alike.name, Option.map_none]
    | some given grouped => exact absurd (idle_iff.mp idle) (not_idle given grouped)
  | some given grouped shared reduced =>
    cases planned' with
    | none idle => exact absurd (idle_iff.mpr idle) (not_idle given grouped)
    | some given' grouped' shared' reduced' =>
      have reductions := alike.aggregation
      rw [given, given', Option.map_some, Option.map_some, reduced, reduced'] at reductions
      cases reductions
      obtain ⟨kept, obtained, built⟩ := KeyShape.shared_eq_build apart faithful fits.grouping
      obtain ⟨kept', obtained', built'⟩ :=
        KeyShape.shared_eq_build apart otherFaithful twinFits.grouping
      rw [shared] at obtained
      rw [shared'] at obtained'
      cases obtained
      cases obtained'
      rw [KeyShape.build_congr alike.grouping twinFits.grouping, built'] at built
      have same := Except.ok.inj built
      simp only [CompiledRule.unnumbered, Option.map_some, AggregationPlan.unnumbered, same,
        alike.name]

theorem unnumbered_eq_of_faithful (apart : schema.NamesStayApart) (faithful : cache.Faithful schema)
    (otherFaithful : other.Faithful schema)
    (done : (rule.compile schema params).outcome cache = .ok compiled)
    (there : (rule.compile schema params).outcome other = .ok again) :
    compiled.unnumbered = again.unnumbered := by
  obtain ⟨predicate, plan, left, fine, -, -⟩ := planned_of_compile done
  exact unnumbered_eq_of_plansAlike apart faithful otherFaithful ⟨rfl, rfl, rfl⟩ fine fine done
    there

theorem apply_eq_of_faithful (apart : schema.NamesStayApart) (faithful : cache.Faithful schema)
    (otherFaithful : other.Faithful schema)
    (done : (rule.compile schema params).outcome cache = .ok compiled)
    (there : (rule.compile schema params).outcome other = .ok again) (records : List R) :
    compiled.apply records = again.apply records := by
  rw [← compiled.apply_unnumbered,
    unnumbered_eq_of_faithful apart faithful otherFaithful done there, again.apply_unnumbered]

theorem map_unnumbered_compile (apart : schema.NamesStayApart) (faithful : cache.Faithful schema)
    (otherFaithful : other.Faithful schema) (rule : Rule) :
    ((rule.compile schema params).outcome cache).map CompiledRule.unnumbered =
      ((rule.compile schema params).outcome other).map CompiledRule.unnumbered := by
  cases fine : CompiledRule.predicateOf schema params rule with
  | error e => rw [(compile_of_error fine).1, (compile_of_error fine).1]
  | ok predicate =>
    obtain ⟨plan, done, -⟩ := compile_of_predicate fine cache
    obtain ⟨plan', there, -⟩ := compile_of_predicate fine other
    have same := unnumbered_eq_of_faithful apart faithful otherFaithful done there
    rw [done, there]
    exact congrArg Except.ok same

theorem outcome_execute (rule : Rule) (records : List R) (cache : ShapeCache) :
    (rule.execute schema params records).outcome cache =
      (((rule.compile schema params).outcome cache).map CompiledRule.unnumbered).map
        fun compiled => compiled.apply records := by
  cases done : (rule.compile schema params).outcome cache with
  | error e =>
    rw [execute, outcome_bind, done]
    rfl
  | ok compiled =>
    rw [(execute_of_compile records done).1, ← compiled.apply_unnumbered]
    rfl

end Rule

end RuleQuery
