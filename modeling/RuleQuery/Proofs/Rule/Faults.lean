import RuleQuery.Proofs.Predicate.Nested
import RuleQuery.Proofs.Predicate.Tree
import RuleQuery.Proofs.Rule.Compiled

namespace RuleQuery

def QueryError.ruleName? : QueryError → Option String
  | .projectionInUnion name => some name
  | _ => none

/-- A computation whose errors name no rule. -/
def Nameless {α : Type} (x : Except QueryError α) : Prop :=
  ∀ e, x = .error e → e.ruleName? = none

section Sequence

variable {α β : Type} {x : Except QueryError α}

theorem nameless_ok (a : α) : Nameless (.ok a : Except QueryError α) := nofun

theorem nameless_error {e : QueryError} (nameless : e.ruleName? = none) :
    Nameless (.error e : Except QueryError α) := by
  rintro e' ⟨⟩
  exact nameless

theorem nameless_bind {f : α → Except QueryError β} (first : Nameless x)
    (second : ∀ a, Nameless (f a)) : Nameless (x >>= f) := by
  intro e fails
  rcases bind_eq_error_iff.mp fails with fails | ⟨a, -, fails⟩
  · exact first e fails
  · exact second a e fails

theorem nameless_map {f : α → β} (nameless : Nameless x) : Nameless (x.map f) := by
  cases x with
  | error e => exact nameless_error (nameless e rfl)
  | ok a => exact nameless_ok (f a)

theorem nameless_mapM {f : α → Except QueryError β} {items : List α}
    (each : ∀ item ∈ items, Nameless (f item)) : Nameless (items.mapM f) := by
  intro e fails
  obtain ⟨before, item, after, rfl, -, here⟩ := mapM_eq_error_iff.mp fails
  exact each item (by simp) e here

theorem nameless_forM {check : α → Except QueryError Unit} (items : List α)
    (each : ∀ item, Nameless (check item)) : Nameless (items.forM check) := by
  induction items with
  | nil => exact nameless_ok ()
  | cons item rest ih => exact nameless_bind (each item) fun _ => ih

end Sequence

namespace Literal

theorem nameless_value (literal : Json) (type : FieldType) (field : String) :
    Nameless (value literal type field) := by
  unfold value
  split
  · exact nameless_ok _
  · exact nameless_error rfl

theorem nameless_decimal (literal : Json) (field : String) : Nameless (decimal literal field) := by
  unfold decimal
  split
  · exact nameless_ok _
  · exact nameless_error rfl

theorem nameless_bool (literal : Json) (field : String) : Nameless (bool literal field) := by
  unfold bool
  split
  · exact nameless_ok _
  · exact nameless_error rfl

end Literal

namespace Condition

open Literal

variable {R : Type}

section Tests

variable (op : Operator) (field : Field R) (literal : Json)

theorem nameless_equalTest : Nameless (equalTest field literal) :=
  nameless_bind (nameless_value _ _ _) fun _ => nameless_ok _

theorem nameless_orderedTest : Nameless (orderedTest op field literal) := by
  unfold orderedTest
  split
  · exact nameless_error rfl
  · exact nameless_error rfl
  · exact nameless_bind (nameless_decimal _ _) fun _ => nameless_ok _
  all_goals exact nameless_bind (nameless_value _ _ _) fun _ => nameless_ok _

theorem nameless_membershipTest : Nameless (membershipTest op field literal) := by
  unfold membershipTest
  split
  · refine nameless_bind (nameless_mapM fun item _ => ?_) fun _ => nameless_ok _
    exact nameless_value _ _ _
  · exact nameless_error rfl

theorem nameless_textTest (kinds : List FieldKind) (test : Value → String → Bool) :
    Nameless (textTest op kinds test field literal) := by
  unfold textTest
  split
  · refine nameless_bind ?_ fun _ => nameless_ok _
    refine nameless_bind (nameless_map (nameless_value _ _ _)) fun part => ?_
    cases part with
    | none => exact nameless_error rfl
    | some s => exact nameless_ok s
  · exact nameless_error rfl

theorem nameless_emptinessTest : Nameless (emptinessTest op field) := by
  unfold emptinessTest
  split
  · exact nameless_ok _
  · exact nameless_error rfl

theorem nameless_countPayload : Nameless (countPayload op literal) := by
  unfold countPayload
  cases literal.members?.isNone with
  | true => exact nameless_error rfl
  | false =>
    cases (literal.member? "target").bind Json.text? with
    | none => exact nameless_error rfl
    | some target =>
      dsimp only
      cases Pattern.ofText? target with
      | none => exact nameless_error rfl
      | some pattern =>
        cases (literal.member? "threshold").bind threshold? with
        | none => exact nameless_error rfl
        | some threshold => exact nameless_ok (pattern, threshold)

theorem nameless_countTest (wanted : Ordering) : Nameless (countTest op wanted literal) :=
  nameless_bind (nameless_countPayload _ _) fun _ => nameless_ok _

theorem nameless_requiredCountTest : Nameless (requiredCountTest op literal) := by
  refine nameless_bind (nameless_countPayload _ _) fun payload => ?_
  obtain ⟨pattern, threshold⟩ := payload
  dsimp only
  cases (literal.member? "required").bind Json.text? with
  | none => exact nameless_error rfl
  | some required => exact nameless_ok _

variable (params : Parameters) (condition : Condition)

theorem nameless_dynamicLiteral : Nameless (dynamicLiteral params condition) := by
  unfold dynamicLiteral
  split
  · split
    · exact nameless_ok _
    · exact nameless_error rfl
  · exact nameless_ok _

theorem nameless_switched {base : Except QueryError Test} (nameless : Nameless base) :
    Nameless (switched params field condition base) :=
  nameless_bind (nameless_dynamicLiteral _ _) fun _ =>
    nameless_bind (nameless_bool _ _) fun _ => nameless_bind nameless fun _ => nameless_ok _

theorem nameless_negated {base : Except QueryError Test} (nameless : Nameless base) :
    Nameless (do return (← base).negated) :=
  nameless_bind nameless fun _ => nameless_ok _

theorem nameless_fieldTest (plain : op ≠ .implies) :
    Nameless (fieldTest params field condition op plain) := by
  cases op with
  | implies => exact absurd rfl plain
  | equal => exact nameless_equalTest _ _
  | notEqual => exact nameless_negated (nameless_equalTest _ _)
  | greaterThan | greaterThanOrEqual | lessThan | lessThanOrEqual =>
    exact nameless_orderedTest _ _ _
  | isIn => exact nameless_membershipTest _ _ _
  | notIn => exact nameless_negated (nameless_membershipTest _ _ _)
  | contains | startsWith | endsWith => exact nameless_textTest _ _ _ _ _
  | notContains => exact nameless_negated (nameless_textTest _ _ _ _ _)
  | null | notNull | nullOrEmpty | notNullOrEmpty => exact nameless_ok _
  | empty => exact nameless_emptinessTest _ _
  | notEmpty => exact nameless_negated (nameless_emptinessTest _ _)
  | mustContainIfCountIsGreater => exact nameless_requiredCountTest _ _
  | containIfCountIsGreater | containIfCountIsLess => exact nameless_countTest _ _ _
  | dynamicEqual =>
    exact nameless_bind (nameless_dynamicLiteral _ _) fun _ => nameless_equalTest _ _
  | dynamicEmpty => exact nameless_switched _ _ _ (nameless_emptinessTest _ _)
  | dynamicNotEmpty => exact nameless_switched _ _ _ (nameless_negated (nameless_emptinessTest _ _))
  | dynamicNullOrEmpty | dynamicNotNullOrEmpty => exact nameless_switched _ _ _ (nameless_ok _)

end Tests

theorem nameless_branch (payload : Json) (key : String) : Nameless (branch payload key) := by
  unfold branch
  split
  · split
    · split
      · exact nameless_ok _
      · exact nameless_error rfl
    · exact nameless_error rfl
  · exact nameless_error rfl

theorem nameless_compileBranch {payload : Json} {compile : (c : Condition) →
    sizeOf c.value < sizeOf payload → Except QueryError (Predicate R)}
    (each : ∀ c smaller, Nameless (compile c smaller)) (key : String) :
    Nameless (compileBranch payload compile key) := by
  unfold compileBranch
  split
  · rename_i e read
    exact nameless_error (nameless_branch payload key e read)
  · exact each _ _

theorem nameless_implication {payload : Json} {compile : (c : Condition) →
    sizeOf c.value < sizeOf payload → Except QueryError (Predicate R)}
    (each : ∀ c smaller, Nameless (compile c smaller)) :
    Nameless (implication payload compile) := by
  unfold implication
  split
  · exact nameless_error rfl
  · exact nameless_bind (nameless_compileBranch each _) fun _ =>
      nameless_bind (nameless_compileBranch each _) fun _ => nameless_ok _

variable {schema : Schema R} {params : Parameters}

theorem nameless_resolve (c : Condition) : Nameless (c.resolve schema) := by
  unfold resolve
  split
  · exact nameless_error rfl
  · split
    · exact nameless_error rfl
    · exact nameless_ok _

theorem nameless_compile (c : Condition) : Nameless (c.compile schema params) := by
  rw [compile]
  refine nameless_bind (nameless_resolve c) fun resolved => ?_
  obtain ⟨op, field⟩ := resolved
  change Nameless (compileResolved params c op field _)
  unfold compileResolved
  split
  · exact nameless_implication fun nested smaller => nameless_compile nested
  · exact nameless_map (nameless_fieldTest _ _ _ _ _)
termination_by sizeOf c.value

end Condition

variable {R : Type} {schema : Schema R} {params : Parameters}

namespace Rule

theorem nameless_require (name : String) : Nameless (schema.require name) := by
  unfold Schema.require
  split
  · exact nameless_ok _
  · exact nameless_error rfl

theorem nameless_validateTarget (rule : Rule) : Nameless (rule.validateTarget schema) := by
  unfold validateTarget
  dsimp only
  split
  · exact nameless_ok _
  · exact nameless_error rfl

theorem nameless_validateAggregation (aggregation : Aggregation) :
    Nameless (validateAggregation schema aggregation) := by
  unfold validateAggregation
  split
  · exact nameless_require _
  · split
    · exact nameless_error rfl
    · exact nameless_ok _

theorem nameless_validate (rule : Rule) : Nameless (rule.validate schema) := by
  refine nameless_bind (nameless_validateTarget rule) fun _ => ?_
  refine nameless_bind (nameless_forM _ nameless_require) fun _ => ?_
  refine nameless_bind (nameless_forM _ nameless_require) fun _ => ?_
  split
  · exact nameless_error rfl
  · cases rule.aggregation with
    | none => exact nameless_ok ()
    | some aggregation => exact nameless_validateAggregation aggregation

end Rule

theorem ConditionGroup.nameless_compile? (group : ConditionGroup) :
    Nameless (group.compile? schema params) := by
  intro e fails
  rw [compile?_eq_error_iff] at fails
  obtain ⟨before, condition, after, -, -, here⟩ := fails
  exact Condition.nameless_compile condition e here

theorem CompiledRule.nameless_predicateOf (rule : Rule) :
    Nameless (predicateOf schema params rule) := by
  refine nameless_bind (Rule.nameless_validate rule) fun _ => ?_
  split
  · exact nameless_ok _
  · exact ConditionGroup.nameless_compile? _

theorem Rule.nameless_compile (rule : Rule) (cache : ShapeCache) :
    Nameless ((rule.compile schema params).outcome cache) := by
  cases fine : CompiledRule.predicateOf schema params rule with
  | error e =>
    rw [(compile_of_error fine).1]
    exact nameless_error (CompiledRule.nameless_predicateOf rule e fine)
  | ok predicate =>
    obtain ⟨plan, compiles, -⟩ := compile_of_predicate fine cache
    rw [compiles]
    exact nameless_ok _

end RuleQuery
