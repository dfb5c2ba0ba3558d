import RuleQuery.Predicate.Basic
import RuleQuery.Proofs.Sequence

/-!
Condition trees read directly. `evaluate` interprets a tree on one record from what its conditions
say of that record; a compiled tree says the same of every record. Child groups that set nothing
take no part in their parent, so they cannot be read as true or false there.
-/
namespace RuleQuery

/-- What a condition says of a record. A condition that does not compile says nothing and counts
as false; a tree that compiles has none. -/
def Condition.holds {R : Type} (schema : Schema R) (params : Parameters) (record : R)
    (condition : Condition) : Bool :=
  match condition.compile schema params with
  | .ok test => test record
  | .error _ => false

/-- The parts of a group joined by its operator; no part at all counts as true. -/
def LogicalOperator.combine (op : LogicalOperator) (parts : List Bool) : Bool :=
  parts.isEmpty || match op with
    | .and => parts.all id
    | .or => parts.any id

namespace ConditionGroup

mutual

def subgroups : ConditionGroup → List ConditionGroup
  | mk op conditions groups negate => mk op conditions groups negate :: subgroupsOf groups

def subgroupsOf : List ConditionGroup → List ConditionGroup
  | [] => []
  | group :: rest => subgroups group ++ subgroupsOf rest

end

def conditionsWithin (group : ConditionGroup) : List Condition :=
  group.subgroups.flatMap conditions

/-- No group of the tree has a condition or is negated. -/
def SetsNothing (group : ConditionGroup) : Prop :=
  ∀ g ∈ group.subgroups, g.conditions.isEmpty = true ∧ g.negate = false

instance (group : ConditionGroup) : Decidable group.SetsNothing :=
  inferInstanceAs (Decidable (∀ g ∈ group.subgroups, _ ∧ _))

mutual

/-- What a tree says of a record, given what its conditions say of it; negation comes last. -/
def evaluate (holds : Condition → Bool) : ConditionGroup → Bool
  | mk op conditions groups negate =>
    let joined := op.combine (conditions.map holds ++ evaluateParts holds groups)
    if negate then !joined else joined

/-- What those groups say that set something. -/
def evaluateParts (holds : Condition → Bool) : List ConditionGroup → List Bool
  | [] => []
  | group :: rest =>
    if group.SetsNothing then evaluateParts holds rest
    else evaluate holds group :: evaluateParts holds rest

end

section Shape

theorem conditionsWithin_mk (op : LogicalOperator) (own : List Condition)
    (groups : List ConditionGroup) (negate : Bool) :
    (mk op own groups negate).conditionsWithin =
      own ++ (subgroupsOf groups).flatMap conditions := by
  simp [conditionsWithin, subgroups, conditions]

theorem mem_subgroupsOf {g : ConditionGroup} {groups : List ConditionGroup} :
    g ∈ subgroupsOf groups ↔ ∃ group ∈ groups, g ∈ group.subgroups := by
  induction groups with
  | nil => simp [subgroupsOf]
  | cons group rest ih => simp [subgroupsOf, ih]

theorem mem_conditionsWithin_mk {op : LogicalOperator} {own : List Condition}
    {groups : List ConditionGroup} {negate : Bool} {c : Condition} :
    c ∈ (mk op own groups negate).conditionsWithin ↔
      c ∈ own ∨ ∃ group ∈ groups, c ∈ group.conditionsWithin := by
  rw [conditionsWithin_mk, List.mem_append]
  simp only [conditionsWithin, List.mem_flatMap, mem_subgroupsOf]
  refine or_congr Iff.rfl ?_
  constructor
  · rintro ⟨group, ⟨child, inside, within⟩, own⟩
    exact ⟨child, inside, group, within, own⟩
  · rintro ⟨child, inside, group, within, own⟩
    exact ⟨group, ⟨child, inside, within⟩, own⟩

theorem evaluateParts_eq (holds : Condition → Bool) (groups : List ConditionGroup) :
    evaluateParts holds groups =
      (groups.filter fun group => ¬ group.SetsNothing).map (evaluate holds) := by
  induction groups with
  | nil => rfl
  | cons group groups ih =>
    rw [evaluateParts, ih]
    by_cases nothing : group.SetsNothing
    · simp [nothing]
    · simp [nothing]

theorem evaluateParts_of_setting (holds : Condition → Bool) {groups : List ConditionGroup}
    (setting : ∀ group ∈ groups, ¬ group.SetsNothing) :
    evaluateParts holds groups = groups.map (evaluate holds) := by
  rw [evaluateParts_eq, List.filter_eq_self.mpr]
  intro group inside
  exact decide_eq_true (setting group inside)

theorem setsNothing_mk (op : LogicalOperator) (own : List Condition)
    (groups : List ConditionGroup) (negate : Bool) :
    (mk op own groups negate).SetsNothing ↔
      own = [] ∧ negate = false ∧ ∀ group ∈ groups, group.SetsNothing := by
  simp only [SetsNothing, subgroups, List.forall_mem_cons, mem_subgroupsOf, conditions,
    ConditionGroup.negate, List.isEmpty_iff, and_assoc]
  refine and_congr Iff.rfl (and_congr Iff.rfl ?_)
  constructor
  · intro below group inside g within
    exact below g ⟨group, inside, within⟩
  · rintro below g ⟨group, inside, within⟩
    exact below group inside g within

theorem conditionsWithin_of_setsNothing {group : ConditionGroup} (nothing : group.SetsNothing) :
    group.conditionsWithin = [] := by
  refine List.flatMap_eq_nil_iff.mpr fun g within => ?_
  exact List.isEmpty_iff.mp (nothing g within).1

theorem evaluate_negated (holds : Condition → Bool) (group : ConditionGroup) :
    group.negated.evaluate holds = !group.evaluate holds := by
  obtain ⟨op, own, groups, negate⟩ := group
  cases negate <;> simp [negated, evaluate, operator, conditions, ConditionGroup.groups,
    ConditionGroup.negate]

theorem conditionsWithin_negated (group : ConditionGroup) :
    group.negated.conditionsWithin = group.conditionsWithin := by
  obtain ⟨op, own, groups, negate⟩ := group
  simp [negated, conditionsWithin_mk, operator, conditions, ConditionGroup.groups]

end Shape

section Compiled

variable {R : Type} (schema : Schema R) (params : Parameters)

theorem map_holds {own : List Condition} {tests : List (Predicate R)}
    (compiled : own.mapM (Condition.compile schema params) = .ok tests) (record : R) :
    tests.map (fun test => test record) = own.map (Condition.holds schema params record) := by
  have each := mapM_eq_ok_iff.mp compiled
  let read : Except QueryError (Predicate R) → Bool
    | .ok test => test record
    | .error _ => false
  calc tests.map (fun test => test record)
      = (tests.map .ok).map read := by simp [read]
    _ = (own.map (Condition.compile schema params)).map read := by rw [each]
    _ = own.map (Condition.holds schema params record) := by
        rw [List.map_map]
        exact List.map_congr_left fun c _ => rfl

theorem join_eq_none_iff (op : LogicalOperator) (parts : List (Predicate R)) :
    join op parts = none ↔ parts = [] := by
  match parts with
  | [] => simp [join]
  | [part] => simp [join]
  | part :: next :: rest => cases op <;> simp [join]

theorem join_getD (op : LogicalOperator) (parts : List (Predicate R)) (record : R) :
    (join op parts).getD (fun _ => true) record =
      op.combine (parts.map fun part => part record) := by
  match parts with
  | [] => rfl
  | [part] => cases op <;> simp [join, LogicalOperator.combine]
  | part :: next :: rest =>
    cases op <;> simp [join, LogicalOperator.combine]

theorem negateIf_eq_none_iff {negate : Bool} {inner : Option (Predicate R)} :
    negateIf negate inner = none ↔ inner = none ∧ negate = false := by
  cases negate <;> cases inner <;> simp [negateIf]

theorem negateIf_getD (negate : Bool) (inner : Option (Predicate R)) (record : R) :
    (negateIf negate inner).getD (fun _ => true) record =
      if negate then !inner.getD (fun _ => true) record
      else inner.getD (fun _ => true) record := by
  cases negate <;> cases inner <;> rfl

mutual

theorem compile?_eq_error_iff : ∀ (group : ConditionGroup) (e : QueryError),
    group.compile? schema params = .error e ↔
      FirstFailure (Condition.compile schema params) group.conditionsWithin e
  | mk op own groups negate, e => by
    rw [conditionsWithin_mk, firstFailure_append, ← mapM_eq_error_iff, ← exists_mapM_eq_ok_iff,
      ← compileAll_eq_error_iff groups, compile?, bind_eq_error_iff]
    simp only [bind_eq_error_iff, pure, Except.pure, reduceCtorEq, and_false, exists_false,
      or_false, exists_and_right]

theorem compileAll_eq_error_iff : ∀ (groups : List ConditionGroup) (e : QueryError),
    compileAll schema params groups = .error e ↔
      FirstFailure (Condition.compile schema params) ((subgroupsOf groups).flatMap conditions) e
  | [], e => by simp [compileAll, subgroupsOf, not_firstFailure_nil, pure, Except.pure]
  | group :: rest, e => by
    have first := compile?_eq_error_iff group
    rw [subgroupsOf, List.flatMap_append, firstFailure_append,
      ← compileAll_eq_error_iff rest, compileAll, bind_eq_error_iff]
    change _ ↔ FirstFailure _ group.conditionsWithin e ∨ (∀ c ∈ group.conditionsWithin, _) ∧ _
    rw [← first, ← exists_ok_iff_of_error_iff first]
    simp only [bind_eq_error_iff, pure, Except.pure, reduceCtorEq, and_false, exists_false,
      or_false, exists_and_right]

end

mutual

/-- What a compiled tree is: nothing if the tree sets nothing, else a predicate that says of every
record what the tree says of it. -/
theorem compile?_eq_ok : ∀ (group : ConditionGroup) (outcome : Option (Predicate R)),
    group.compile? schema params = .ok outcome →
      (outcome = none ↔ group.SetsNothing) ∧ ∀ record,
        outcome.getD (fun _ => true) record =
          group.evaluate (Condition.holds schema params record)
  | mk op own groups negate, outcome, done => by
    rw [compile?] at done
    obtain ⟨tests, ownDone, done⟩ := bind_eq_ok_iff.mp done
    obtain ⟨children, childrenDone, done⟩ := bind_eq_ok_iff.mp done
    cases done
    obtain ⟨noChild, childParts⟩ := compileAll_eq_ok groups children childrenDone
    have noOwn : tests = [] ↔ own = [] := by
      have each := congrArg List.length (mapM_eq_ok_iff.mp ownDone)
      simp only [List.length_map] at each
      rw [← List.length_eq_zero_iff, ← List.length_eq_zero_iff, each]
    constructor
    · rw [negateIf_eq_none_iff, join_eq_none_iff, List.append_eq_nil_iff, noOwn, noChild,
        setsNothing_mk, and_assoc]
      exact and_congr_right fun _ => and_comm
    · intro record
      rw [negateIf_getD, join_getD, List.map_append, map_holds schema params ownDone, childParts,
        evaluate]

theorem compileAll_eq_ok : ∀ (groups : List ConditionGroup) (parts : List (Predicate R)),
    compileAll schema params groups = .ok parts →
      (parts = [] ↔ ∀ group ∈ groups, group.SetsNothing) ∧ ∀ record,
        parts.map (fun part => part record) =
          evaluateParts (Condition.holds schema params record) groups
  | [], parts, done => by
    cases done
    simp [evaluateParts]
  | group :: rest, parts, done => by
    rw [compileAll] at done
    obtain ⟨first, firstDone, done⟩ := bind_eq_ok_iff.mp done
    obtain ⟨others, othersDone, done⟩ := bind_eq_ok_iff.mp done
    cases done
    obtain ⟨noFirst, meaning⟩ := compile?_eq_ok group first firstDone
    obtain ⟨noOther, otherParts⟩ := compileAll_eq_ok rest others othersDone
    rw [List.forall_mem_cons, ← noFirst, ← noOther]
    cases first with
    | none => simp [evaluateParts, noFirst.mp rfl, otherParts]
    | some predicate =>
      have something : ¬ group.SetsNothing := by simp [← noFirst]
      simp [evaluateParts, something, otherParts, ← meaning]

end

theorem exists_compile?_iff {schema : Schema R} {params : Parameters} {tree : ConditionGroup} :
    (∃ outcome, tree.compile? schema params = .ok outcome) ↔
      ∀ c ∈ tree.conditionsWithin, ∃ test, c.compile schema params = .ok test :=
  exists_ok_iff_of_error_iff (compile?_eq_error_iff schema params tree)

theorem compile?_eq_none_iff {schema : Schema R} {params : Parameters} {tree : ConditionGroup} :
    tree.compile? schema params = .ok none ↔ tree.SetsNothing := by
  constructor
  · intro done
    exact (compile?_eq_ok schema params tree none done).1.mp rfl
  · intro nothing
    have noCondition : ∀ c ∈ tree.conditionsWithin, ∃ test, c.compile schema params = .ok test := by
      intro c inside
      rw [conditionsWithin_of_setsNothing nothing] at inside
      cases inside
    obtain ⟨outcome, done⟩ := exists_compile?_iff.mpr noCondition
    rw [done, (compile?_eq_ok schema params tree outcome done).1.mpr nothing]

/-- Compiling is interpreting. A tree fails with the error of its first condition that fails; it
compiles to nothing exactly if it has no condition and no negated group; else its predicate says of
every record what `evaluate` says. Where nothing is read as true, negation is the complement. -/
theorem compile?_agrees_with_evaluate (group : ConditionGroup) :
    (∀ e, group.compile? schema params = .error e ↔
      FirstFailure (Condition.compile schema params) group.conditionsWithin e) ∧
    ((∃ e, group.compile? schema params = .error e) ↔
      ∃ g ∈ group.subgroups, ∃ c ∈ g.conditions, ∃ e, c.compile schema params = .error e) ∧
    (group.compile? schema params = .ok none ↔
      ∀ g ∈ group.subgroups, g.conditions = [] ∧ g.negate = false) ∧
    (∀ predicate, group.compile? schema params = .ok (some predicate) →
      ∀ record, predicate record = group.evaluate (Condition.holds schema params record)) ∧
    group.compile schema params =
      (group.compile? schema params).map (fun outcome => outcome.getD fun _ => true) ∧
    (∀ predicate, group.compile schema params = .ok predicate →
      (∀ record, predicate record = group.evaluate (Condition.holds schema params record)) ∧
      ∃ opposite, group.negated.compile schema params = .ok opposite ∧
        ∀ record, opposite record = !predicate record) := by
  have errors := compile?_eq_error_iff schema params group
  have nothing : group.SetsNothing ↔
      ∀ g ∈ group.subgroups, g.conditions = [] ∧ g.negate = false := by
    simp only [SetsNothing, List.isEmpty_iff]
  have total : group.compile schema params =
      (group.compile? schema params).map (fun outcome => outcome.getD fun _ => true) := by
    rw [compile]
    cases group.compile? schema params <;> rfl
  refine ⟨errors, ?_, ?_, ?_, total, ?_⟩
  · simp only [errors, exists_firstFailure_iff, conditionsWithin, List.mem_flatMap]
    constructor
    · rintro ⟨c, ⟨g, within, inside⟩, fails⟩
      exact ⟨g, within, c, inside, fails⟩
    · rintro ⟨g, within, c, inside, fails⟩
      exact ⟨c, ⟨g, within, inside⟩, fails⟩
  · rw [← nothing]
    constructor
    · intro done
      exact (compile?_eq_ok schema params group none done).1.mp rfl
    · intro setsNothing
      have noCondition : ∀ c ∈ group.conditionsWithin, ∃ test,
          c.compile schema params = .ok test := by
        intro c inside
        obtain ⟨g, within, own⟩ := List.mem_flatMap.mp inside
        rw [((nothing.mp setsNothing) g within).1] at own
        cases own
      obtain ⟨outcome, done⟩ := (exists_ok_iff_of_error_iff errors).mpr noCondition
      rw [done, ((compile?_eq_ok schema params group outcome done).1.mpr setsNothing)]
  · intro predicate done record
    exact (compile?_eq_ok schema params group _ done).2 record
  · intro predicate done
    rw [total] at done
    obtain ⟨outcome, compiled, rfl⟩ := map_eq_ok_iff.mp done
    have meaning := (compile?_eq_ok schema params group outcome compiled).2
    refine ⟨meaning, ?_⟩
    have fine := (exists_ok_iff_of_error_iff errors).mp ⟨outcome, compiled⟩
    rw [← conditionsWithin_negated] at fine
    obtain ⟨turned, turnedDone⟩ :=
      (exists_ok_iff_of_error_iff (compile?_eq_error_iff schema params group.negated)).mpr fine
    refine ⟨turned.getD fun _ => true, ?_, ?_⟩
    · rw [compile, turnedDone]
      rfl
    · intro record
      rw [(compile?_eq_ok schema params group.negated turned turnedDone).2 record,
        evaluate_negated, meaning]

end Compiled

end ConditionGroup

end RuleQuery
