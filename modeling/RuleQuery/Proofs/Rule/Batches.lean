import RuleQuery.Proofs.Grouping.Count
import RuleQuery.Proofs.Grouping.Select
import RuleQuery.Rule.Compiled
import RuleQuery.User.Basic

/-!
Compiled rules applied batch by batch. Rows of groups are merged by adding their sizes. Records are
run through the rule once more, which gives what the rule gives for all records at once, provided
that the values it picks by are of one sort. What a rule yields it yields again.
-/
namespace RuleQuery.CompiledRule

open AggregationPlan (mergeCounts)

variable {R : Type} {compiled : CompiledRule R} {plan : AggregationPlan R}

/-- The rule keeps all records that it selects, or of each group the one with the least or greatest
value, and these values are alike. -/
inductive Mergeable (compiled : CompiledRule R) (records : List R) : Prop
  | unplanned (none : compiled.plan = none)
  | best (plan : AggregationPlan R) (preferred : Ordering) (get : R → Value)
      (planned : compiled.plan = some plan) (reduces : plan.reduction = .select preferred get)
      (strict : preferred = .lt ∨ preferred = .gt)
      (alike : Value.Alike ((records.filter compiled.selects).map get))

theorem apply_of_unplanned (none : compiled.plan = none) (records : List R) :
    compiled.apply records = .records (records.filter compiled.selects) := by
  rw [apply, none]

theorem apply_of_count (planned : compiled.plan = some plan) (counts : plan.reduction = .count)
    (records : List R) :
    compiled.apply records = .counts (plan.count (records.filter compiled.selects)) := by
  rw [apply, planned]
  simp only [AggregationPlan.apply, counts]

section Best

variable {preferred : Ordering} {get : R → Value} (planned : compiled.plan = some plan)
  (reduces : plan.reduction = .select preferred get)
include planned reduces

theorem apply_of_select (records : List R) : compiled.apply records =
    .records (plan.select preferred get (records.filter compiled.selects)) := by
  rw [apply, planned]
  simp only [AggregationPlan.apply, reduces]

end Best

/-- The best of what was selected is selected. -/
theorem filter_select (preferred : Ordering) (get : R → Value) (records : List R) :
    (plan.select preferred get (records.filter compiled.selects)).filter compiled.selects =
      plan.select preferred get (records.filter compiled.selects) := by
  refine List.filter_eq_self.mpr fun record kept => ?_
  exact (List.mem_filter.mp (plan.mem_of_mem_select preferred get kept)).2

theorem apply_append_of_mergeable {a b : List R} (mergeable : compiled.Mergeable (a ++ b)) :
    ∃ as bs all, compiled.apply a = .records as ∧ compiled.apply b = .records bs ∧
      compiled.apply (a ++ b) = .records all ∧ compiled.apply (as ++ bs) = .records all := by
  cases mergeable with
  | unplanned none =>
    refine ⟨_, _, _, apply_of_unplanned none a, apply_of_unplanned none b,
      apply_of_unplanned none (a ++ b), ?_⟩
    rw [apply_of_unplanned none, List.filter_append, List.filter_append, List.filter_filter,
      List.filter_filter]
    simp only [Bool.and_self]
  | best plan preferred get planned reduces strict alike =>
    have yields := apply_of_select planned reduces
    rw [List.filter_append] at alike
    have merged := plan.select_append get strict alike.arranged
      (fun _ inside => List.mem_map_of_mem (List.mem_append_left (b.filter compiled.selects) inside))
      (fun _ inside => List.mem_map_of_mem (List.mem_append_right (a.filter compiled.selects) inside))
    refine ⟨_, _, _, yields a, yields b, yields (a ++ b), ?_⟩
    rw [yields, List.filter_append, filter_select, filter_select, merged, ← List.filter_append]

theorem apply_append_of_count (planned : compiled.plan = some plan)
    (counts : plan.reduction = .count) (a b : List R) :
    ∃ rows others, compiled.apply a = .counts rows ∧ compiled.apply b = .counts others ∧
      compiled.apply (a ++ b) = .counts (mergeCounts rows others) := by
  have yields := apply_of_count planned counts
  refine ⟨_, _, yields a, yields b, ?_⟩
  rw [yields, List.filter_append, AggregationPlan.count_append]

theorem apply_apply (keeps : compiled.isProjection = false) (records : List R) :
    ∃ kept, compiled.apply records = .records kept ∧ compiled.apply kept = .records kept := by
  cases planned : compiled.plan with
  | none =>
    refine ⟨_, apply_of_unplanned planned records, ?_⟩
    rw [apply_of_unplanned planned, List.filter_filter]
    simp only [Bool.and_self]
  | some plan =>
    cases reduces : plan.reduction with
    | count => simp [isProjection, planned, AggregationPlan.isProjection, reduces] at keeps
    | select preferred get =>
      have yields := apply_of_select planned reduces
      refine ⟨_, yields records, ?_⟩
      rw [yields, filter_select, AggregationPlan.select_select]

/-- What a rule gives for two batches is found in what it gives for each. -/
theorem apply_batches (compiled : CompiledRule R) (a b : List R) :
    (compiled.Mergeable (a ++ b) →
      ∃ as bs all, compiled.apply a = .records as ∧ compiled.apply b = .records bs ∧
        compiled.apply (a ++ b) = .records all ∧ compiled.apply (as ++ bs) = .records all) ∧
    (∀ plan, compiled.plan = some plan → plan.reduction = .count →
      ∃ rows others, compiled.apply a = .counts rows ∧ compiled.apply b = .counts others ∧
        compiled.apply (a ++ b) = .counts (mergeCounts rows others)) ∧
    (compiled.isProjection = false →
      ∃ kept, compiled.apply a = .records kept ∧ compiled.apply kept = .records kept) :=
  ⟨apply_append_of_mergeable, fun _ planned counts => apply_append_of_count planned counts a b,
    fun keeps => apply_apply keeps a⟩

def byDepartment (reduction : Reduction User) : CompiledRule User :=
  ⟨"", none, some ⟨User.schema, ⟨0, ⟨"User", [("Department", 3)]⟩⟩, reduction⟩⟩

theorem apply_batches_of_departments :
    (∃ as bs all,
      (byDepartment (.select .lt fun u => .text u.name)).apply [.new 1 "Ann" "IT"] = .records as ∧
      (byDepartment (.select .lt fun u => .text u.name)).apply
        [.new 2 "Bob" "IT", .new 3 "Cy" "HR"] = .records bs ∧
      (byDepartment (.select .lt fun u => .text u.name)).apply
        [.new 1 "Ann" "IT", .new 2 "Bob" "IT", .new 3 "Cy" "HR"] = .records all ∧
      (byDepartment (.select .lt fun u => .text u.name)).apply (as ++ bs) = .records all) ∧
    (∃ rows others,
      (byDepartment .count).apply [.new 1 "Ann" "IT"] = .counts rows ∧
      (byDepartment .count).apply [.new 2 "Bob" "IT", .new 3 "Cy" "HR"] = .counts others ∧
      (byDepartment .count).apply [.new 1 "Ann" "IT", .new 2 "Bob" "IT", .new 3 "Cy" "HR"] =
        .counts (mergeCounts rows others)) ∧
    ∃ kept,
      (byDepartment (.select .gt fun u => .text u.name)).apply [.new 1 "Ann" "IT"] =
        .records kept ∧
      (byDepartment (.select .gt fun u => .text u.name)).apply kept = .records kept := by
  have alike : Value.Alike [.text "Ann", .text "Bob", .text "Cy"] := by
    refine .inr ⟨"text", by decide, fun v inside _ => ?_⟩
    simp only [List.mem_cons, List.not_mem_nil, or_false] at inside
    rcases inside with rfl | rfl | rfl <;> exact ⟨by decide, rfl⟩
  exact ⟨(apply_batches (byDepartment (.select .lt fun u => .text u.name)) [.new 1 "Ann" "IT"]
      [.new 2 "Bob" "IT", .new 3 "Cy" "HR"]).1 (.best _ _ _ rfl rfl (.inl rfl) alike),
    (apply_batches (byDepartment .count) [.new 1 "Ann" "IT"]
      [.new 2 "Bob" "IT", .new 3 "Cy" "HR"]).2.1 _ rfl rfl,
    (apply_batches (byDepartment (.select .gt fun u => .text u.name)) [.new 1 "Ann" "IT"] []).2.2
      rfl⟩

end RuleQuery.CompiledRule
