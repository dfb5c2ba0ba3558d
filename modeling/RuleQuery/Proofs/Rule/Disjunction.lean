import RuleQuery.Proofs.Predicate.Dynamic
import RuleQuery.Proofs.Rule.Union

/-!
Rules that only filter, against one rule that has all their condition trees as alternatives. The
union of the rules and the one rule fail together, and where they do not they yield the same
records: the union in the order of the rules and each record once, the one rule in the order of the
records and as often as they are given. A tree that sets nothing is no alternative, and so it may
not be among them.
-/
namespace RuleQuery

namespace ConditionGroup

def anyOf (trees : List ConditionGroup) : ConditionGroup := mk .or [] trees false

variable {trees : List ConditionGroup}

theorem mem_conditionsWithin_anyOf {c : Condition} :
    c ∈ (anyOf trees).conditionsWithin ↔ ∃ tree ∈ trees, c ∈ tree.conditionsWithin := by
  simp only [anyOf, mem_conditionsWithin_mk, List.not_mem_nil, false_or]

theorem mem_properties_anyOf {name : String} :
    name ∈ (anyOf trees).properties ↔ ∃ tree ∈ trees, name ∈ tree.properties := by
  rw [anyOf, properties, List.map_nil, List.nil_append]
  induction trees with
  | nil => simp [propertiesOf]
  | cons tree trees ih => simp [propertiesOf, ih]

theorem evaluate_anyOf (holds : Condition → Bool) (nonempty : trees ≠ [])
    (setting : ∀ tree ∈ trees, ¬ tree.SetsNothing) :
    (anyOf trees).evaluate holds = trees.any (evaluate holds) := by
  have parts : (trees.map (evaluate holds)).isEmpty = false := by simpa using nonempty
  simp only [anyOf, evaluate, List.map_nil, List.nil_append, evaluateParts_of_setting holds setting,
    LogicalOperator.combine, parts, Bool.false_or, Bool.false_eq_true, if_false, List.any_map,
    Function.id_comp]

variable {R : Type} {schema : Schema R} {params : Parameters}

theorem exists_compile?_anyOf_iff :
    (∃ outcome, (anyOf trees).compile? schema params = .ok outcome) ↔
      ∀ tree ∈ trees, ∃ outcome, tree.compile? schema params = .ok outcome := by
  simp only [exists_compile?_iff, mem_conditionsWithin_anyOf]
  constructor
  · intro all tree inside c within
    exact all c ⟨tree, inside, within⟩
  · rintro all c ⟨tree, inside, within⟩
    exact all tree inside c within

end ConditionGroup

open ConditionGroup

namespace Rule

variable {R : Type} {schema : Schema R} {params : Parameters} {records : List R}
  {rule whole : Rule} {target : String} {tree : ConditionGroup} {cache : ShapeCache}

/-- The rule selects records of a type by a condition tree and leaves them as they are. -/
structure Filters (target : String) (tree : ConditionGroup) (rule : Rule) : Prop where
  target : rule.targetType = target
  conditions : rule.conditions = some tree
  ungrouped : rule.groupBy = []
  plain : rule.aggregation = none

namespace Filters

theorem fits_iff (filters : rule.Filters target tree) :
    rule.Fits schema ↔ rule.NamesTarget schema ∧
      ∀ name ∈ tree.properties, schema.contains name = true := by
  constructor
  · intro fits
    have known := fits.conditions
    rw [filters.conditions] at known
    exact ⟨fits.target, known⟩
  · rintro ⟨names, known⟩
    refine ⟨names, ?_, ?_, fun grouped => absurd filters.ungrouped grouped, ?_⟩
    · rw [filters.conditions]
      exact known
    · simp [filters.ungrouped]
    · simp [filters.plain]

theorem predicateOf_eq_ok_iff (filters : rule.Filters target tree)
    {predicate : Option (Predicate R)} :
    CompiledRule.predicateOf schema params rule = .ok predicate ↔
      rule.NamesTarget schema ∧ (∀ name ∈ tree.properties, schema.contains name = true) ∧
        tree.compile? schema params = .ok predicate := by
  rw [CompiledRule.predicateOf_eq_ok_iff, filters.fits_iff, filters.conditions, and_assoc]
  simp

theorem exists_compile_iff (filters : rule.Filters target tree) (cache : ShapeCache) :
    (∃ compiled : CompiledRule R, (rule.compile schema params).outcome cache = .ok compiled ∧
        compiled.isProjection = false) ↔
      ∃ predicate, CompiledRule.predicateOf schema params rule = .ok predicate := by
  constructor
  · rintro ⟨compiled, done, -⟩
    obtain ⟨predicate, plan, left, fine, -⟩ := planned_of_compile done
    exact ⟨predicate, fine⟩
  · rintro ⟨predicate, fine⟩
    obtain ⟨plan, done, -⟩ := compile_of_predicate fine cache
    refine ⟨_, done, ?_⟩
    rw [isProjection_of_compile done, yieldsCounts, filters.ungrouped]
    rfl

/-- What such a rule yields are the records of which its tree holds. -/
theorem execute_eq (filters : rule.Filters target tree) {predicate : Option (Predicate R)}
    (fine : CompiledRule.predicateOf schema params rule = .ok predicate) (records : List R)
    (cache : ShapeCache) :
    (rule.execute schema params records).outcome cache = .ok (.records (records.filter
      fun record => tree.evaluate (Condition.holds schema params record))) := by
  obtain ⟨-, -, compiled⟩ := filters.predicateOf_eq_ok_iff.mp fine
  rw [execute_of_plain fine filters.plain]
  simp only [(compile?_eq_ok schema params tree predicate compiled).2]

theorem exists_execute_iff (filters : rule.Filters target tree) (records : List R)
    (cache : ShapeCache) :
    (∃ output, (rule.execute schema params records).outcome cache = .ok output) ↔
      ∃ predicate, CompiledRule.predicateOf schema params rule = .ok predicate := by
  cases fine : CompiledRule.predicateOf schema params rule with
  | error e =>
    rw [execute, Cached.outcome_bind, (compile_of_error fine).1]
    simp [bind, Except.bind]
  | ok predicate => simp [filters.execute_eq fine records cache]

theorem recordsAt_eq (filters : rule.Filters target tree) {predicate : Option (Predicate R)}
    (fine : CompiledRule.predicateOf schema params rule = .ok predicate) (records : List R)
    (cache : ShapeCache) :
    recordsAt schema params records cache rule = records.filter
      fun record => tree.evaluate (Condition.holds schema params record) := by
  obtain ⟨compiled, done, keeps⟩ := (filters.exists_compile_iff cache).mpr ⟨predicate, fine⟩
  have yields := filters.execute_eq fine records cache
  rw [execute_of_fits done keeps] at yields
  exact QueryOutput.records.inj (Except.ok.inj yields)

end Filters

section Union

variable {rules : List Rule} {trees : Rule → ConditionGroup}

theorem exists_predicateOf_anyOf_iff (nonempty : rules ≠ [])
    (each : ∀ rule ∈ rules, rule.Filters target (trees rule))
    (together : whole.Filters target (anyOf (rules.map trees))) :
    (∃ predicate, CompiledRule.predicateOf schema params whole = .ok predicate) ↔
      ∀ rule ∈ rules, ∃ predicate, CompiledRule.predicateOf schema params rule = .ok predicate := by
  have targets : ∀ rule ∈ rules, rule.NamesTarget schema ↔ whole.NamesTarget schema := by
    intro rule inside
    rw [NamesTarget, NamesTarget, (each rule inside).target, together.target]
  simp only [together.predicateOf_eq_ok_iff, exists_and_left, exists_compile?_anyOf_iff,
    mem_properties_anyOf, List.mem_map]
  constructor
  · rintro ⟨target, known, compile⟩ rule inside
    obtain ⟨predicate, compiled⟩ := compile (trees rule) ⟨rule, inside, rfl⟩
    refine ⟨predicate, (each rule inside).predicateOf_eq_ok_iff.mpr ⟨?_, ?_, compiled⟩⟩
    · exact (targets rule inside).mpr target
    · exact fun name asked => known name ⟨trees rule, ⟨rule, inside, rfl⟩, asked⟩
  · intro all
    have parts := fun rule inside =>
      (all rule inside).imp fun _ fine => (each rule inside).predicateOf_eq_ok_iff.mp fine
    refine ⟨?_, ?_, ?_⟩
    · obtain ⟨rule, inside⟩ := List.exists_mem_of_ne_nil rules nonempty
      obtain ⟨_, target, -⟩ := parts rule inside
      exact (targets rule inside).mp target
    · rintro name ⟨tree, ⟨rule, inside, rfl⟩, asked⟩
      obtain ⟨_, -, known, -⟩ := parts rule inside
      exact known name asked
    · rintro tree ⟨rule, inside, rfl⟩
      obtain ⟨predicate, -, -, compiled⟩ := parts rule inside
      exact ⟨predicate, compiled⟩

theorem not_setsNothing_of_filters (each : ∀ rule ∈ rules, rule.Filters target (trees rule))
    (setting : ∀ rule ∈ rules, (trees rule).compile? schema params ≠ .ok none)
    (fine : ∀ rule ∈ rules, ∃ predicate,
      CompiledRule.predicateOf schema params rule = .ok predicate) :
    ∀ tree ∈ rules.map trees, ¬ tree.SetsNothing := by
  intro tree among nothing
  obtain ⟨rule, inside, rfl⟩ := List.mem_map.mp among
  obtain ⟨predicate, compiles⟩ := fine rule inside
  obtain ⟨-, -, compiled⟩ := (each rule inside).predicateOf_eq_ok_iff.mp compiles
  rw [(compile?_eq_ok schema params _ predicate compiled).1.mpr nothing] at compiled
  exact setting rule inside compiled

variable [BEq R]

theorem exists_executeAll_of_filters_iff (each : ∀ rule ∈ rules, rule.Filters target (trees rule))
    (records : List R) (cache : ShapeCache) :
    (∃ merged, (executeAll schema params records rules).outcome cache = .ok merged) ↔
      ∀ rule ∈ rules, ∃ predicate,
        CompiledRule.predicateOf schema params rule = .ok predicate := by
  rw [exists_executeAll_eq_ok_iff records cache cache]
  exact forall₂_congr fun rule inside => (each rule inside).exists_compile_iff cache

variable [EquivBEq R]

/-- A record is in the union if it is one of the given ones of which some tree holds. -/
theorem contains_executeAll_of_filters (each : ∀ rule ∈ rules, rule.Filters target (trees rule))
    {merged : List R}
    (done : (executeAll schema params records rules).outcome cache = .ok merged) (record : R) :
    merged.contains record = (records.filter fun record => (rules.map trees).any
      (evaluate (Condition.holds schema params record))).contains record := by
  have fine := (exists_executeAll_of_filters_iff each records cache).mp ⟨merged, done⟩
  have outputs : rules.map (recordsAt schema params records
      ((executeAll schema params records rules).after cache)) =
      rules.map fun rule => records.filter
        fun record => (trees rule).evaluate (Condition.holds schema params record) := by
    refine List.map_congr_left fun rule inside => ?_
    obtain ⟨predicate, compiles⟩ := fine rule inside
    exact (each rule inside).recordsAt_eq compiles records _
  rw [executeAll_eq_firstOccurrences done, contains_firstOccurrences, List.flatMap_def, outputs,
    ← List.flatMap_def, Bool.eq_iff_iff]
  simp only [List.contains_iff_exists_mem_beq, List.mem_flatMap, List.mem_filter, List.any_map,
    List.any_eq_true, Function.comp_apply]
  constructor
  · rintro ⟨kept, ⟨rule, inside, among, held⟩, same⟩
    exact ⟨kept, ⟨among, rule, inside, held⟩, same⟩
  · rintro ⟨kept, ⟨among, rule, inside, held⟩, same⟩
    exact ⟨kept, ⟨rule, inside, among, held⟩, same⟩

/-- The union of rules that filter by condition trees is the filter by any of the trees: one fails
exactly if the other does, and otherwise both have the same records. No tree may set nothing, and
there has to be one, as a group without alternatives holds everywhere. -/
theorem union_of_filters_eq_anyOf (schema : Schema R) (params : Parameters) (records : List R)
    (target : String) (rules : List Rule) (trees : Rule → ConditionGroup) (whole : Rule)
    (nonempty : rules ≠ []) (each : ∀ rule ∈ rules, rule.Filters target (trees rule))
    (setting : ∀ rule ∈ rules, (trees rule).compile? schema params ≠ .ok none)
    (together : whole.Filters target (anyOf (rules.map trees))) (cache other : ShapeCache) :
    ((∃ e, (executeAll schema params records rules).outcome cache = .error e) ↔
      ∃ e, (whole.execute schema params records).outcome other = .error e) ∧
    ∀ merged output, (executeAll schema params records rules).outcome cache = .ok merged →
      (whole.execute schema params records).outcome other = .ok output →
      ∃ selected, output = .records selected ∧ SameItems merged selected := by
  have unionFits : (∃ merged, (executeAll schema params records rules).outcome cache = .ok merged) ↔
      ∀ rule ∈ rules, ∃ predicate, CompiledRule.predicateOf schema params rule = .ok predicate :=
    exists_executeAll_of_filters_iff each records cache
  have alike : (∃ predicate, CompiledRule.predicateOf schema params whole = .ok predicate) ↔
      ∀ rule ∈ rules, ∃ predicate, CompiledRule.predicateOf schema params rule = .ok predicate :=
    exists_predicateOf_anyOf_iff nonempty each together
  constructor
  · rw [exists_eq_error_iff, exists_eq_error_iff, unionFits, ← alike,
      together.exists_execute_iff records other]
  · intro merged output done wholeDone
    have fine := unionFits.mp ⟨merged, done⟩
    obtain ⟨predicate, wholeFine⟩ := alike.mpr fine
    rw [together.execute_eq wholeFine records other] at wholeDone
    refine ⟨_, (Except.ok.inj wholeDone).symm, fun record => ?_⟩
    have sets := not_setsNothing_of_filters each setting fine
    have notEmpty : rules.map trees ≠ [] := by simpa using nonempty
    simp only [contains_executeAll_of_filters each done, evaluate_anyOf _ notEmpty sets]

def inDepartmentTree (department : String) : ConditionGroup :=
  .ofConditions .and [⟨"Department", "equal", .string department⟩]

theorem exists_compile?_inDepartmentTree (department : String) :
    ∃ predicate, (inDepartmentTree department).compile? User.schema .empty =
      .ok (some predicate) := by
  have compiles : ∃ outcome, (inDepartmentTree department).compile? User.schema .empty =
      .ok outcome := by
    rw [exists_compile?_iff]
    intro c inside
    obtain rfl : c = ⟨"Department", "equal", .string department⟩ := by
      simpa [inDepartmentTree, ofConditions, conditionsWithin_mk, subgroupsOf] using inside
    have property : User.schema.field? "Department" =
        some ⟨"Department", .required .text, fun user => .text user.department⟩ := rfl
    exact ⟨_, Condition.compile_equal (Operator.ofName?_name .equal) property rfl⟩
  obtain ⟨outcome, compiled⟩ := compiles
  cases outcome with
  | some predicate => exact ⟨predicate, compiled⟩
  | none =>
    have nothing := (compile?_eq_ok _ _ _ _ compiled).1.mp rfl
    simp [inDepartmentTree, ofConditions, setsNothing_mk] at nothing

def ofDepartment (department : String) : Rule :=
  { ofName department .epoch with conditions := some (inDepartmentTree department) }

def ofDepartments (one other : String) : Rule :=
  { ofName "either" .epoch with
    conditions := some (anyOf [inDepartmentTree one, inDepartmentTree other]) }

theorem filters_ofDepartment (department : String) :
    (ofDepartment department).Filters "" (inDepartmentTree department) := ⟨rfl, rfl, rfl, rfl⟩

theorem exists_predicateOf_ofDepartment (department : String) :
    ∃ predicate, CompiledRule.predicateOf User.schema .empty (ofDepartment department) =
      .ok predicate := by
  obtain ⟨predicate, compiled⟩ := exists_compile?_inDepartmentTree department
  refine ⟨_, (filters_ofDepartment department).predicateOf_eq_ok_iff.mpr ⟨.inl rfl, ?_, compiled⟩⟩
  intro name inside
  obtain rfl : name = "Department" := by
    simpa [inDepartmentTree, ofConditions, properties, propertiesOf] using inside
  rfl

theorem union_of_departments : ∃ merged selected,
    (executeAll User.schema .empty [.new 1 "Ann" "IT", .new 2 "Bob" "HR", .new 1 "Ann" "IT"]
      [ofDepartment "HR", ofDepartment "IT"]).outcome .empty = .ok merged ∧
    ((ofDepartments "HR" "IT").execute User.schema .empty
      [.new 1 "Ann" "IT", .new 2 "Bob" "HR", .new 1 "Ann" "IT"]).outcome .empty =
        .ok (.records selected) ∧
    SameItems merged selected := by
  let trees := fun rule : Rule => rule.conditions.getD (anyOf [])
  have named : ∀ rule ∈ [ofDepartment "HR", ofDepartment "IT"], ∃ department,
      rule = ofDepartment department := by
    intro rule inside
    simp only [List.mem_cons, List.not_mem_nil, or_false] at inside
    rcases inside with rfl | rfl
    · exact ⟨"HR", rfl⟩
    · exact ⟨"IT", rfl⟩
  have each : ∀ rule ∈ [ofDepartment "HR", ofDepartment "IT"], rule.Filters "" (trees rule) := by
    intro rule inside
    obtain ⟨department, rfl⟩ := named rule inside
    exact filters_ofDepartment department
  have setting : ∀ rule ∈ [ofDepartment "HR", ofDepartment "IT"],
      (trees rule).compile? User.schema .empty ≠ .ok none := by
    intro rule inside
    obtain ⟨department, rfl⟩ := named rule inside
    obtain ⟨predicate, compiled⟩ := exists_compile?_inDepartmentTree department
    change (inDepartmentTree department).compile? User.schema .empty ≠ .ok none
    rw [compiled]
    simp
  have fine : ∀ rule ∈ [ofDepartment "HR", ofDepartment "IT"], ∃ predicate,
      CompiledRule.predicateOf User.schema .empty rule = .ok predicate := by
    intro rule inside
    obtain ⟨department, rfl⟩ := named rule inside
    exact exists_predicateOf_ofDepartment department
  have nonempty : [ofDepartment "HR", ofDepartment "IT"] ≠ [] := List.cons_ne_nil _ _
  have together : (ofDepartments "HR" "IT").Filters ""
      (anyOf ([ofDepartment "HR", ofDepartment "IT"].map trees)) := ⟨rfl, rfl, rfl, rfl⟩
  have wholeFine := (exists_predicateOf_anyOf_iff nonempty each together).mpr fine
  obtain ⟨merged, done⟩ := (exists_executeAll_of_filters_iff each
    [.new 1 "Ann" "IT", .new 2 "Bob" "HR", .new 1 "Ann" "IT"] .empty).mpr fine
  obtain ⟨output, wholeDone⟩ := (together.exists_execute_iff
    [.new 1 "Ann" "IT", .new 2 "Bob" "HR", .new 1 "Ann" "IT"] .empty).mpr wholeFine
  obtain ⟨-, items⟩ := union_of_filters_eq_anyOf User.schema .empty
    [.new 1 "Ann" "IT", .new 2 "Bob" "HR", .new 1 "Ann" "IT"] "" _ trees (ofDepartments "HR" "IT")
    nonempty each setting together .empty .empty
  obtain ⟨selected, rfl, same⟩ := items merged output done wholeDone
  exact ⟨merged, selected, done, wholeDone, same⟩

end Union

end Rule

end RuleQuery
