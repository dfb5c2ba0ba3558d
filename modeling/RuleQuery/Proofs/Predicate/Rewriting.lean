import Mathlib.Logic.Basic
import Mathlib.Logic.Relation
import RuleQuery.Proofs.Predicate.Nested
import RuleQuery.Proofs.Predicate.Tree
import RuleQuery.User.Basic

/-!
Rewriting condition trees. The laws of Boolean algebra hold for groups as far as the groups that set
nothing allow: such a group vanishes from its parent, but its negation holds nowhere. Trees that
compile under the same conditions, set nothing alike and read alike may replace each other anywhere
in a tree, and each law relates two such trees.
-/
namespace RuleQuery

namespace LogicalOperator

def opposite : LogicalOperator → LogicalOperator
  | and => or
  | or => and

variable {op : LogicalOperator} {parts others rest : List Bool}

theorem combine_and : combine .and parts = true ↔ ∀ part ∈ parts, part = true := by
  cases parts <;> simp [combine]

theorem combine_or : combine .or parts = true ↔ parts = [] ∨ true ∈ parts := by
  simp [combine]

theorem combine_single (part : Bool) : op.combine [part] = part := by
  cases op <;> simp [combine]

theorem combine_perm (same : parts.Perm others) : op.combine parts = op.combine others := by
  rw [Bool.eq_iff_iff]
  cases op with
  | and => simp only [combine_and, same.mem_iff]
  | or => simp only [combine_or, List.eq_nil_iff_forall_not_mem, same.mem_iff]

/-- Parts joined by the same operator may be joined at once, if there are any. -/
theorem combine_nested (nonempty : others ≠ []) :
    op.combine (parts ++ op.combine others :: rest) = op.combine (parts ++ others ++ rest) := by
  rw [Bool.eq_iff_iff]
  cases op with
  | and => simp only [combine_and, List.forall_mem_append, List.forall_mem_cons, and_assoc]
  | or =>
    have nested : true = combine .or others ↔ true ∈ others := by
      rw [eq_comm, combine_or, or_iff_right nonempty]
    simp only [combine_or, List.append_eq_nil_iff, List.mem_append, List.mem_cons, nested, nonempty,
      reduceCtorEq, and_false, false_and, false_or, or_assoc]

theorem combine_opposite (nonempty : parts ≠ []) :
    op.opposite.combine (parts.map (!·)) = !op.combine parts := by
  have full : parts.isEmpty = false := by simpa using nonempty
  cases op with
  | and => simp [opposite, combine, full, List.not_all_eq_any_not]
  | or => simp [opposite, combine, full, List.not_any_eq_all_not]

end LogicalOperator

namespace ConditionGroup

def unnegated (group : ConditionGroup) : ConditionGroup :=
  mk group.operator group.conditions group.groups false

def notCondition (op : LogicalOperator) (condition : Condition) : ConditionGroup :=
  mk op [condition] [] true

/-- The parts of a group, each negated. -/
def negatedParts (single : Condition → LogicalOperator) (own : List Condition)
    (groups : List ConditionGroup) : List ConditionGroup :=
  own.map (fun c => notCondition (single c) c) ++ groups.map negated

/-- One step of rewriting at any place in a tree. What `flatten` moves to the parent may go anywhere
among its parts; `deMorgan` and `doubleNegation` leave aside groups that vanish unless negated. -/
inductive Rewrites {R : Type} (schema : Schema R) (params : Parameters) :
    ConditionGroup → ConditionGroup → Prop where
  | flatten {op : LogicalOperator} {own inner own' : List Condition}
      (before : List ConditionGroup) {children after groups' : List ConditionGroup}
      {negate : Bool} :
      own'.Perm (own ++ inner) → groups'.Perm (before ++ children ++ after) →
      Rewrites schema params
        (mk op own (before ++ mk op inner children false :: after) negate)
        (mk op own' groups' negate)
  | prune {op : LogicalOperator} {own : List Condition} (before : List ConditionGroup)
      {child : ConditionGroup} {after : List ConditionGroup} {negate : Bool} :
      child.compile? schema params = .ok none →
      Rewrites schema params (mk op own (before ++ child :: after) negate)
        (mk op own (before ++ after) negate)
  | deMorgan {op : LogicalOperator} {own : List Condition} {groups : List ConditionGroup}
      (single : Condition → LogicalOperator) : own ≠ [] ∨ groups ≠ [] →
      (∀ child ∈ groups, child.unnegated.compile? schema params ≠ .ok none) →
      Rewrites schema params (mk op own groups true)
        (mk op.opposite [] (negatedParts single own groups) false)
  | doubleNegation {group : ConditionGroup} (outer inner : LogicalOperator) :
      group.compile? schema params ≠ .ok none →
      Rewrites schema params group (mk outer [] [mk inner [] [group] true] true)
  | inside {op : LogicalOperator} {own : List Condition} (before : List ConditionGroup)
      {child child' : ConditionGroup} {after : List ConditionGroup} {negate : Bool} :
      Rewrites schema params child child' →
      Rewrites schema params (mk op own (before ++ child :: after) negate)
        (mk op own (before ++ child' :: after) negate)

/-- The trees have the same conditions in them, and one sets nothing if the other does not. Whatever
the conditions say of a record, the trees say the same. -/
structure SameMeaning (one other : ConditionGroup) : Prop where
  conditions : ∀ c, c ∈ one.conditionsWithin ↔ c ∈ other.conditionsWithin
  nothing : one.SetsNothing ↔ other.SetsNothing
  evaluate : ∀ holds, one.evaluate holds = other.evaluate holds

section SameMeaning

variable {op : LogicalOperator} {own own' inner : List Condition} {negate : Bool}
  {before after groups groups' children : List ConditionGroup} {one other third : ConditionGroup}

theorem sameMeaning_refl (tree : ConditionGroup) : SameMeaning tree tree :=
  ⟨fun _ => Iff.rfl, Iff.rfl, fun _ => rfl⟩

theorem sameMeaning_symm (same : SameMeaning one other) : SameMeaning other one :=
  ⟨fun c => (same.conditions c).symm, same.nothing.symm, fun holds => (same.evaluate holds).symm⟩

theorem sameMeaning_trans (first : SameMeaning one other) (second : SameMeaning other third) :
    SameMeaning one third :=
  ⟨fun c => (first.conditions c).trans (second.conditions c), first.nothing.trans second.nothing,
    fun holds => (first.evaluate holds).trans (second.evaluate holds)⟩

/-- Trees of the same meaning may replace each other in a group, and so at every depth. -/
theorem sameMeaning_inside (same : SameMeaning one other) :
    SameMeaning (mk op own (before ++ one :: after) negate)
      (mk op own (before ++ other :: after) negate) where
  conditions c := by
    simp only [mem_conditionsWithin_mk, List.mem_append, List.mem_cons, or_and_right, exists_or,
      exists_eq_left, same.conditions c]
  nothing := by
    simp only [setsNothing_mk, List.forall_mem_append, List.forall_mem_cons, same.nothing]
  evaluate holds := by
    simp only [ConditionGroup.evaluate, evaluateParts_eq, List.filter_append, List.filter_cons,
      same.nothing, apply_ite (List.map _), List.map_append, List.map_cons, same.evaluate holds]

theorem evaluateParts_eq_nil_iff (holds : Condition → Bool) :
    evaluateParts holds groups = [] ↔ ∀ group ∈ groups, group.SetsNothing := by
  simp [evaluateParts_eq]

theorem evaluateParts_append (holds : Condition → Bool) (xs ys : List ConditionGroup) :
    evaluateParts holds (xs ++ ys) = evaluateParts holds xs ++ evaluateParts holds ys := by
  simp only [evaluateParts_eq, List.filter_append, List.map_append]

theorem sameMeaning_of_perm (conditions : own.Perm own') (children : groups.Perm groups') :
    SameMeaning (mk op own groups negate) (mk op own' groups' negate) where
  conditions c := by simp only [mem_conditionsWithin_mk, conditions.mem_iff, children.mem_iff]
  nothing := by
    simp only [setsNothing_mk, List.eq_nil_iff_forall_not_mem, conditions.mem_iff, children.mem_iff]
  evaluate holds := by
    have parts : (own.map holds ++ evaluateParts holds groups).Perm
        (own'.map holds ++ evaluateParts holds groups') := by
      rw [evaluateParts_eq, evaluateParts_eq]
      exact (conditions.map _).append ((children.filter _).map _)
    rw [evaluate, evaluate, LogicalOperator.combine_perm parts]

/-- The parts of a child group may stand in its parent: if the child sets nothing, neither do its
parts, and else there are some to be joined. -/
theorem combine_flatten (holds : Condition → Bool) :
    op.combine (own.map holds ++
        evaluateParts holds (before ++ mk op inner children false :: after)) =
      op.combine ((own ++ inner).map holds ++
        evaluateParts holds (before ++ children ++ after)) := by
  by_cases nothing : (mk op inner children false).SetsNothing
  · obtain ⟨rfl, -, vanish⟩ := (setsNothing_mk ..).mp nothing
    rw [← evaluateParts_eq_nil_iff holds] at vanish
    simp only [evaluateParts_append, evaluateParts, nothing, vanish, if_true, List.append_nil]
  · have nonempty : inner.map holds ++ evaluateParts holds children ≠ [] := by
      rw [setsNothing_mk, ← evaluateParts_eq_nil_iff holds] at nothing
      simpa using nothing
    have moved : (own.map holds ++ evaluateParts holds before ++
          (inner.map holds ++ evaluateParts holds children) ++ evaluateParts holds after).Perm
        ((own ++ inner).map holds ++ evaluateParts holds (before ++ children ++ after)) := by
      simp only [evaluateParts_append, List.map_append, List.append_assoc]
      exact List.Perm.append_left _ (List.perm_append_comm_assoc ..)
    rw [← LogicalOperator.combine_perm moved, ← LogicalOperator.combine_nested nonempty]
    simp only [evaluateParts_append, evaluateParts, nothing, if_false, evaluate,
      Bool.false_eq_true, List.append_assoc]

theorem sameMeaning_flatten :
    SameMeaning (mk op own (before ++ mk op inner children false :: after) negate)
      (mk op (own ++ inner) (before ++ children ++ after) negate) where
  conditions c := by
    simp only [mem_conditionsWithin_mk, List.mem_append, List.mem_cons, or_and_right, exists_or,
      exists_eq_left, or_assoc, or_left_comm]
  nothing := by
    simp only [setsNothing_mk, List.forall_mem_append, List.forall_mem_cons,
      List.append_eq_nil_iff, true_and, and_assoc, and_left_comm]
  evaluate holds := by rw [evaluate, evaluate, combine_flatten]

theorem sameMeaning_prune (nothing : one.SetsNothing) :
    SameMeaning (mk op own (before ++ one :: after) negate)
      (mk op own (before ++ after) negate) where
  conditions c := by
    simp only [mem_conditionsWithin_mk, List.mem_append, List.mem_cons, or_and_right, exists_or,
      exists_eq_left, conditionsWithin_of_setsNothing nothing, List.not_mem_nil, false_or]
  nothing := by
    simp only [setsNothing_mk, List.forall_mem_append, List.forall_mem_cons, nothing, true_and]
  evaluate holds := by
    simp only [evaluate, evaluateParts_append, evaluateParts, nothing, if_true]

theorem unnegated_of_setsNothing (nothing : one.SetsNothing) : one.unnegated.SetsNothing := by
  obtain ⟨op, own, groups, negate⟩ := one
  obtain ⟨none, -, children⟩ := (setsNothing_mk ..).mp nothing
  exact (setsNothing_mk ..).mpr ⟨none, rfl, children⟩

theorem conditionsWithin_notCondition (op : LogicalOperator) (c : Condition) :
    (notCondition op c).conditionsWithin = [c] := by
  simp [notCondition, conditionsWithin_mk, subgroupsOf]

theorem not_setsNothing_notCondition (op : LogicalOperator) (c : Condition) :
    ¬ (notCondition op c).SetsNothing := by
  simp [notCondition, setsNothing_mk]

theorem evaluate_notCondition (op : LogicalOperator) (holds : Condition → Bool) (c : Condition) :
    (notCondition op c).evaluate holds = !holds c := by
  simp [notCondition, evaluate, evaluateParts, LogicalOperator.combine_single]

theorem mem_conditionsWithin_negatedParts {single : Condition → LogicalOperator} {c : Condition} :
    (∃ part ∈ negatedParts single own groups, c ∈ part.conditionsWithin) ↔
      c ∈ own ∨ ∃ child ∈ groups, c ∈ child.conditionsWithin := by
  simp [negatedParts, or_and_right, exists_or,
    conditionsWithin_notCondition, conditionsWithin_negated]

theorem not_setsNothing_of_mem_negatedParts {single : Condition → LogicalOperator}
    (setting : ∀ child ∈ groups, ¬ child.unnegated.SetsNothing) :
    ∀ part ∈ negatedParts single own groups, ¬ part.SetsNothing := by
  unfold negatedParts
  rw [List.forall_mem_append, List.forall_mem_map, List.forall_mem_map]
  refine ⟨fun c _ => not_setsNothing_notCondition _ c, fun child inside nothing => ?_⟩
  have cleared : child.negated.unnegated.SetsNothing := unnegated_of_setsNothing nothing
  exact setting child inside cleared

theorem map_evaluate_negatedParts (single : Condition → LogicalOperator)
    (holds : Condition → Bool) : (negatedParts single own groups).map (evaluate holds) =
      (own.map holds ++ groups.map (evaluate holds)).map (!·) := by
  simp only [negatedParts, List.map_append, List.map_map, Function.comp_def, evaluate_notCondition,
    evaluate_negated]

/-- The parts negated under the opposite operator. All of them set something, so none vanishes on
either side. -/
theorem sameMeaning_deMorgan (single : Condition → LogicalOperator)
    (nonempty : own ≠ [] ∨ groups ≠ [])
    (setting : ∀ child ∈ groups, ¬ child.unnegated.SetsNothing) :
    SameMeaning (mk op own groups true)
      (mk op.opposite [] (negatedParts single own groups) false) where
  conditions c := by
    simp only [mem_conditionsWithin_mk, mem_conditionsWithin_negatedParts, List.not_mem_nil,
      false_or]
  nothing := by
    refine iff_of_false (by simp [setsNothing_mk]) fun nothing => ?_
    obtain ⟨-, -, vanish⟩ := (setsNothing_mk ..).mp nothing
    have nonempty : negatedParts single own groups ≠ [] := by
      simpa [negatedParts, or_iff_not_imp_left] using nonempty
    obtain ⟨part, inside⟩ := List.exists_mem_of_ne_nil _ nonempty
    exact not_setsNothing_of_mem_negatedParts setting part inside (vanish part inside)
  evaluate holds := by
    have settingOwn : ∀ child ∈ groups, ¬ child.SetsNothing := fun child inside nothing =>
      setting child inside (unnegated_of_setsNothing nothing)
    have nonempty : own.map holds ++ groups.map (evaluate holds) ≠ [] := by
      simpa [or_iff_not_imp_left] using nonempty
    rw [evaluate, evaluate, evaluateParts_of_setting holds settingOwn,
      evaluateParts_of_setting holds (not_setsNothing_of_mem_negatedParts setting),
      map_evaluate_negatedParts]
    exact (LogicalOperator.combine_opposite nonempty).symm

/-- An empty child group vanishes beside a condition, but the negation of it does not. -/
example : ∃ (c : Condition) (empty : ConditionGroup) (holds : Condition → Bool),
    (mk .or [c] [empty] true).evaluate holds = true ∧
      (mk .and [] (negatedParts (fun _ => .and) [c] [empty]) false).evaluate holds = false :=
  ⟨⟨"Name", "equal", .null⟩, mk .and [] [] false, fun _ => false, by decide, by decide⟩

theorem sameMeaning_doubleNegation (outer inner : LogicalOperator) (setting : ¬ one.SetsNothing) :
    SameMeaning one (mk outer [] [mk inner [] [one] true] true) where
  conditions c := by simp [mem_conditionsWithin_mk]
  nothing := by simp [setsNothing_mk, setting]
  evaluate holds := by
    simp [evaluate, evaluateParts, setting, setsNothing_mk, LogicalOperator.combine_single]

end SameMeaning

section Compiled

variable {R : Type} {schema : Schema R} {params : Parameters} {tree other : ConditionGroup}

/-- Each law relates trees of the same meaning, at the root and then at every depth. -/
theorem sameMeaning_of_rewrites (step : Rewrites schema params tree other) :
    SameMeaning tree other := by
  induction step with
  | flatten before conditions children =>
    exact sameMeaning_trans sameMeaning_flatten
      (sameMeaning_of_perm conditions.symm children.symm)
  | prune before vanishes => exact sameMeaning_prune (compile?_eq_none_iff.mp vanishes)
  | deMorgan single nonempty setting =>
    refine sameMeaning_deMorgan single nonempty fun child inside nothing => ?_
    exact setting child inside (compile?_eq_none_iff.mpr nothing)
  | doubleNegation outer inner setting =>
    exact sameMeaning_doubleNegation outer inner fun nothing =>
      setting (compile?_eq_none_iff.mpr nothing)
  | inside before _ same => exact sameMeaning_inside same

theorem sameMeaning_of_eqvGen (rewritten : Relation.EqvGen (Rewrites schema params) tree other) :
    SameMeaning tree other := by
  induction rewritten with
  | rel one other step => exact sameMeaning_of_rewrites step
  | refl one => exact sameMeaning_refl one
  | symm one other _ same => exact sameMeaning_symm same
  | trans one middle other _ _ first second => exact sameMeaning_trans first second

theorem compile_eq_ok_iff {predicate : Predicate R} :
    tree.compile schema params = .ok predicate ↔
      ∃ outcome, tree.compile? schema params = .ok outcome ∧
        outcome.getD (fun _ => true) = predicate := by
  rw [compile, bind_eq_ok_iff]
  simp only [pure, Except.pure, Except.ok.injEq]

theorem exists_compile_iff : (∃ predicate, tree.compile schema params = .ok predicate) ↔
    ∀ c ∈ tree.conditionsWithin, ∃ test, c.compile schema params = .ok test := by
  rw [← exists_compile?_iff]
  constructor
  · rintro ⟨predicate, done⟩
    obtain ⟨outcome, compiled, -⟩ := compile_eq_ok_iff.mp done
    exact ⟨outcome, compiled⟩
  · rintro ⟨outcome, compiled⟩
    exact ⟨_, compile_eq_ok_iff.mpr ⟨outcome, compiled, rfl⟩⟩

theorem compile_eq_evaluate {predicate : Predicate R}
    (done : tree.compile schema params = .ok predicate) (record : R) :
    predicate record = tree.evaluate (Condition.holds schema params record) := by
  obtain ⟨outcome, compiled, rfl⟩ := compile_eq_ok_iff.mp done
  exact (compile?_eq_ok schema params tree outcome compiled).2 record

/-- Rewriting keeps the meaning of a tree, in any number of steps, forth or back. Both trees compile
or neither does, none of them vanishes alone, and their predicates agree on every record. -/
theorem rewriting_keeps_meaning (rewritten : Relation.EqvGen (Rewrites schema params) tree other) :
    ((∃ p, tree.compile schema params = .ok p) ↔ ∃ p, other.compile schema params = .ok p) ∧
    (tree.compile? schema params = .ok none ↔ other.compile? schema params = .ok none) ∧
    ∀ p q, tree.compile schema params = .ok p → other.compile schema params = .ok q →
      ∀ record, p record = q record := by
  have same := sameMeaning_of_eqvGen rewritten
  refine ⟨?_, ?_, ?_⟩
  · simp only [exists_compile_iff, same.conditions]
  · rw [compile?_eq_none_iff, compile?_eq_none_iff, same.nothing]
  · intro p q done otherDone record
    rw [compile_eq_evaluate done, compile_eq_evaluate otherDone, same.evaluate]

section AnnOfIt

def inIt : Condition := ⟨"Department", "equal", .string "IT"⟩

def namedAnn : Condition := ⟨"Name", "equal", .string "Ann"⟩

def notAnnOfIt : ConditionGroup :=
  mk .or [] [mk .and [inIt, namedAnn] [mk .and [] [] false] true] false

def notInItOrNotAnn : ConditionGroup :=
  mk .or [] [notCondition .and inIt, notCondition .and namedAnn] false

theorem notAnnOfIt_rewritten :
    Relation.EqvGen (Rewrites User.schema .empty) notAnnOfIt notInItOrNotAnn ∧
    ∃ p q, notAnnOfIt.compile User.schema .empty = .ok p ∧
      notInItOrNotAnn.compile User.schema .empty = .ok q ∧ ∀ user, p user = q user := by
  have pruned : Rewrites User.schema .empty notAnnOfIt
      (mk .or [] [mk .and [inIt, namedAnn] [] true] false) :=
    .inside [] (.prune [] rfl)
  have turned : Rewrites User.schema .empty (mk .or [] [mk .and [inIt, namedAnn] [] true] false)
      (mk .or [] [mk .or [] [notCondition .and inIt, notCondition .and namedAnn] false] false) :=
    .inside [] (.deMorgan (fun _ => .and) (.inl (List.cons_ne_nil _ _)) nofun)
  have flattened : Rewrites User.schema .empty
      (mk .or [] [mk .or [] [notCondition .and inIt, notCondition .and namedAnn] false] false)
      notInItOrNotAnn := .flatten [] (.refl _) (.refl _)
  have rewritten := Relation.EqvGen.trans _ _ _ (.rel _ _ pruned)
    (.trans _ _ _ (.rel _ _ turned) (.rel _ _ flattened))
  have department : User.schema.field? "Department" =
      some ⟨"Department", .required .text, fun user => .text user.department⟩ := rfl
  have name : User.schema.field? "Name" =
      some ⟨"Name", .required .text, fun user => .text user.name⟩ := rfl
  have compiles : ∃ p, notAnnOfIt.compile User.schema .empty = .ok p := by
    rw [exists_compile_iff]
    intro c inside
    have either : c = inIt ∨ c = namedAnn := by
      simpa [notAnnOfIt, conditionsWithin_mk, subgroupsOf, subgroups, conditions] using inside
    rcases either with rfl | rfl
    · exact ⟨_, Condition.compile_equal rfl department rfl⟩
    · exact ⟨_, Condition.compile_equal rfl name rfl⟩
  obtain ⟨together, -, agree⟩ := rewriting_keeps_meaning rewritten
  obtain ⟨p, done⟩ := compiles
  obtain ⟨q, otherDone⟩ := together.mp ⟨p, done⟩
  exact ⟨rewritten, p, q, done, otherDone, agree p q done otherDone⟩

end AnnOfIt

end Compiled

end ConditionGroup

end RuleQuery
