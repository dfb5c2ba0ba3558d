import RuleQuery.Proofs.Json.Lookup
import RuleQuery.Proofs.Predicate.Dynamic
import RuleQuery.Proofs.Predicate.Tree
import RuleQuery.User.Basic

/-!
`if` as implication. The payload of an `if` is looked up without regard to case, and the conditions
in it are compiled like all others. Replacing each `if` by an `or` group of the negated check and
the conclusion leaves a tree in which none is left, and which compiles to the same predicate.
-/
namespace RuleQuery

namespace Condition

/-- The condition that an object gives. Without a member for the value it has null. -/
structure GivenBy (members : List (String × Json)) (c : Condition) : Prop where
  property : Json.Named members "property" (.string c.property)
  operator : Json.Named members "operator" (.string c.operator)
  value : Json.Named members "value" c.value ∨
    c.value = .null ∧ ∀ m ∈ members, Text.sameIgnoringCase m.1 "value" = false

/-- The condition is an `if` with these conditions under `Check` and `Then`. -/
inductive IfThen : Condition → Condition → Condition → Prop where
  | mk {property operator : String} {members first second : List (String × Json)}
      {check conclusion : Condition} :
      Operator.ofName? operator = some .implies →
      Json.Named members "check" (.object first) → check.GivenBy first →
      Json.Named members "then" (.object second) → conclusion.GivenBy second →
      IfThen ⟨property, operator, .object members⟩ check conclusion

/-- Every `if` is replaced by the disjunction of its negated check and its conclusion, at every
depth; any other condition stands for itself. -/
inductive Unfolds : Condition → ConditionGroup → Prop where
  | plain {c : Condition} : (∀ check conclusion, ¬ c.IfThen check conclusion) →
      Unfolds c (.mk .and [c] [] false)
  | ifThen {c check conclusion : Condition} {first second : ConditionGroup} :
      c.IfThen check conclusion → Unfolds check first → Unfolds conclusion second →
      Unfolds c (.mk .or [] [first.negated, second] false)

end Condition

namespace ConditionGroup

variable {R : Type} {schema : Schema R} {params : Parameters} {tree first second : ConditionGroup}

theorem not_setsNothing (nonempty : tree.conditionsWithin ≠ []) : ¬ tree.SetsNothing :=
  fun nothing => nonempty (conditionsWithin_of_setsNothing nothing)

theorem compile?_of_conditions (nonempty : tree.conditionsWithin ≠ []) :
    tree.compile? schema params = (tree.compile schema params).map Option.some := by
  unfold compile
  cases done : tree.compile? schema params with
  | error e => rfl
  | ok outcome =>
    cases outcome with
    | none => exact absurd (compile?_eq_none_iff.mp done) (not_setsNothing nonempty)
    | some test => rfl

theorem compile_negated (tree : ConditionGroup) :
    tree.negated.compile schema params =
      (tree.compile schema params).map fun test record => !test record := by
  obtain ⟨op, own, groups, negate⟩ := tree
  simp only [negated, compile, compile?, operator, conditions, ConditionGroup.groups,
    ConditionGroup.negate]
  cases own.mapM (Condition.compile schema params) with
  | error e => rfl
  | ok tests =>
    cases compileAll schema params groups with
    | error e => rfl
    | ok children =>
      refine congrArg Except.ok (funext fun record => ?_)
      cases negate <;> simp [negateIf_getD]

theorem compile_single (c : Condition) :
    (mk .and [c] [] false).compile schema params = c.compile schema params := by
  simp only [compile, compile?, compileAll, List.mapM_cons, List.mapM_nil]
  cases c.compile schema params <;> rfl

/-- The first group implies the second. Both have conditions, so that neither vanishes from the
disjunction, and the error of the first one counts. -/
theorem compile_implication (nonempty : first.conditionsWithin ≠ [])
    (someLater : second.conditionsWithin ≠ []) :
    (mk .or [] [first.negated, second] false).compile schema params = do
      let check ← first.compile schema params
      let conclusion ← second.compile schema params
      return fun record => !check record || conclusion record := by
  rw [← conditionsWithin_negated] at nonempty
  have left : first.negated.compile? schema params = _ := compile?_of_conditions nonempty
  have right : second.compile? schema params = _ := compile?_of_conditions someLater
  rw [compile_negated] at left
  rw [compile]
  simp only [compile?, compileAll, List.mapM_nil, left, right]
  cases first.compile schema params with
  | error e => rfl
  | ok check =>
    cases second.compile schema params with
    | error e => rfl
    | ok conclusion =>
      simp [bind, Except.bind, pure, Except.pure, Except.map, join, negateIf]

theorem conditionsWithin_implication (first second : ConditionGroup) :
    (mk .or [] [first.negated, second] false).conditionsWithin =
      first.conditionsWithin ++ second.conditionsWithin := by
  rw [← conditionsWithin_negated first, conditionsWithin_mk]
  simp [conditionsWithin, subgroupsOf]

theorem conditionsWithin_single (c : Condition) :
    (mk .and [c] [] false).conditionsWithin = [c] := by
  simp [conditionsWithin_mk, subgroupsOf]

end ConditionGroup

namespace Condition

variable {R : Type} {schema : Schema R} {params : Parameters} {c check conclusion : Condition}
  {tree : ConditionGroup}

theorem branch_of_given {members inner : List (String × Json)} {key : String}
    (named : Json.Named members key (.object inner)) (given : c.GivenBy inner) :
    branch (.object members) key = .ok c := by
  have property : ((Json.object inner).member? "property").bind Json.text? = some c.property := by
    simp [Json.member?_of_named given.property, Json.text?]
  have operator : ((Json.object inner).member? "operator").bind Json.text? = some c.operator := by
    simp [Json.member?_of_named given.operator, Json.text?]
  have value : ((Json.object inner).member? "value").getD .null = c.value := by
    rcases given.value with named | ⟨null, unalike⟩
    · simp [Json.member?_of_named named]
    · simp [Json.member?_eq_none unalike, null]
  rw [branch_eq_ok (Json.member?_of_named named) property operator, value]

/-- What the compiler reads from a well-formed `if`. -/
theorem branches_of_ifThen (given : c.IfThen check conclusion) :
    Operator.ofName? c.operator = some .implies ∧ c.value.members?.isNone = false ∧
      branch c.value "check" = .ok check ∧ branch c.value "then" = .ok conclusion := by
  cases given with
  | mk operator first check second conclusion =>
    exact ⟨operator, rfl, branch_of_given first check, branch_of_given second conclusion⟩

theorem compile_ifThen {field : Field R} (given : c.IfThen check conclusion)
    (property : schema.field? c.property = some field) :
    c.compile schema params = do
      let first ← check.compile schema params
      let second ← conclusion.compile schema params
      return fun record => !first record || second record := by
  obtain ⟨operator, members, first, second⟩ := branches_of_ifThen given
  simp only [compile_implies operator property, members, first, second]
  rfl

theorem compile_eq_group {field : Field R} (given : c.IfThen check conclusion)
    (property : schema.field? c.property = some field) :
    c.compile schema params =
      (ConditionGroup.mk .or [] [.mk .and [check] [] true, .mk .and [conclusion] [] false]
        false).compile schema params := by
  have nonempty : ∀ d : Condition, (ConditionGroup.mk .and [d] [] false).conditionsWithin ≠ [] := by
    simp [ConditionGroup.conditionsWithin_single]
  rw [compile_ifThen given property, ← ConditionGroup.compile_single check,
    ← ConditionGroup.compile_single conclusion]
  exact (ConditionGroup.compile_implication (nonempty check)
    (nonempty conclusion)).symm

theorem ifThen_value_lt (given : c.IfThen check conclusion) :
    sizeOf check.value < sizeOf c.value ∧ sizeOf conclusion.value < sizeOf c.value := by
  obtain ⟨-, -, first, second⟩ := branches_of_ifThen given
  exact ⟨branch_value_lt first, branch_value_lt second⟩

theorem exists_unfolds (c : Condition) : ∃ tree, c.Unfolds tree := by
  by_cases shaped : ∃ check conclusion, c.IfThen check conclusion
  · obtain ⟨check, conclusion, given⟩ := shaped
    have smaller := ifThen_value_lt given
    obtain ⟨first, checkUnfolds⟩ := exists_unfolds check
    obtain ⟨second, conclusionUnfolds⟩ := exists_unfolds conclusion
    exact ⟨_, .ifThen given checkUnfolds conclusionUnfolds⟩
  · exact ⟨_, .plain fun check conclusion given => shaped ⟨check, conclusion, given⟩⟩
termination_by sizeOf c.value

theorem conditionsWithin_of_unfolds (unfolds : c.Unfolds tree) :
    tree.conditionsWithin ≠ [] ∧
      ∀ d ∈ tree.conditionsWithin, ∀ check conclusion, ¬ d.IfThen check conclusion := by
  induction unfolds with
  | plain plain => simpa [ConditionGroup.conditionsWithin_single] using plain
  | ifThen given _ _ first second =>
    obtain ⟨nonempty, plain⟩ := first
    obtain ⟨-, plainLater⟩ := second
    rw [ConditionGroup.conditionsWithin_implication]
    refine ⟨by simp [nonempty], fun d inside => ?_⟩
    rcases List.mem_append.mp inside with inside | inside
    · exact plain d inside
    · exact plainLater d inside

/-- An `if` that names an unknown field fails, but the tree does not mention that field. -/
theorem compile_eq_of_unfolds (unfolds : c.Unfolds tree)
    (known : ∀ d, c.Reaches d → Operator.ofName? d.operator = some .implies →
      ∃ field, schema.field? d.property = some field) :
    c.compile schema params = tree.compile schema params := by
  induction unfolds with
  | plain => exact (ConditionGroup.compile_single _).symm
  | ifThen given first second checkSame conclusionSame =>
    obtain ⟨operator, -, checkRead, conclusionRead⟩ := branches_of_ifThen given
    obtain ⟨field, property⟩ := known _ (.self _) operator
    rw [compile_ifThen given property,
      checkSame fun d reaches => known d (reaches_of_branch operator (.inl rfl) checkRead reaches),
      conclusionSame fun d reaches =>
        known d (reaches_of_branch operator (.inr rfl) conclusionRead reaches),
      ConditionGroup.compile_implication (conditionsWithin_of_unfolds first).1
        (conditionsWithin_of_unfolds second).1]

theorem compile_eq_ok_of_unfolds {test : Predicate R} (unfolds : c.Unfolds tree)
    (compiled : c.compile schema params = .ok test) : tree.compile schema params = .ok test := by
  rw [← compiled, eq_comm]
  refine compile_eq_of_unfolds unfolds fun d reaches _ => ?_
  obtain ⟨inner, done⟩ := compile_of_reaches reaches ⟨test, compiled⟩
  exact (resolves_of_compile done).2

theorem ifThen_of_property (property : String) (given : c.IfThen check conclusion) :
    IfThen { c with property := property } check conclusion := by
  cases given with
  | mk operator first check second conclusion => exact .mk operator first check second conclusion

/-- `if` is implication, whatever its payload nests. It compiles exactly if its field is known and
both conditions in it compile; with a known field the error is that of `Check`, or else that of
`Then`. Its predicate is that of the `or` group of the negated check and the conclusion, for any
known field. Unfolding that at every depth ends, in a tree without any such `if` that compiles
alike. -/
theorem if_is_implication (given : c.IfThen check conclusion) :
    (sizeOf check.value < sizeOf c.value ∧ sizeOf conclusion.value < sizeOf c.value) ∧
    ((∃ test, c.compile schema params = .ok test) ↔
      (∃ field, schema.field? c.property = some field) ∧
        (∃ first, check.compile schema params = .ok first) ∧
        ∃ second, conclusion.compile schema params = .ok second) ∧
    (∀ field, schema.field? c.property = some field → ∀ e,
      c.compile schema params = .error e ↔
        check.compile schema params = .error e ∨
        (∃ first, check.compile schema params = .ok first) ∧
          conclusion.compile schema params = .error e) ∧
    (∀ test, c.compile schema params = .ok test → ∃ joined,
      (ConditionGroup.mk .or [] [.mk .and [check] [] true, .mk .and [conclusion] [] false]
        false).compile schema params = .ok joined ∧ ∀ record, test record = joined record) ∧
    (∀ property field other, schema.field? c.property = some field →
      schema.field? property = some other →
        compile schema params { c with property := property } = c.compile schema params) ∧
    (∃ tree, c.Unfolds tree) ∧ ∀ tree, c.Unfolds tree →
      (∀ d ∈ tree.conditionsWithin, ∀ check conclusion, ¬ d.IfThen check conclusion) ∧
      (∀ test, c.compile schema params = .ok test → tree.compile schema params = .ok test) ∧
      ((∀ d, c.Reaches d → Operator.ofName? d.operator = some .implies →
        ∃ field, schema.field? d.property = some field) →
          c.compile schema params = tree.compile schema params) := by
  refine ⟨ifThen_value_lt given, ?_, ?_, ?_, ?_, exists_unfolds c, fun tree unfolds =>
    ⟨(conditionsWithin_of_unfolds unfolds).2, fun test => compile_eq_ok_of_unfolds unfolds,
      compile_eq_of_unfolds unfolds⟩⟩
  · constructor
    · rintro ⟨test, compiled⟩
      obtain ⟨-, field, property⟩ := resolves_of_compile compiled
      rw [compile_ifThen given property] at compiled
      obtain ⟨first, firstDone, compiled⟩ := bind_eq_ok_iff.mp compiled
      obtain ⟨second, secondDone, -⟩ := bind_eq_ok_iff.mp compiled
      exact ⟨⟨field, property⟩, ⟨first, firstDone⟩, second, secondDone⟩
    · rintro ⟨⟨field, property⟩, ⟨first, firstDone⟩, second, secondDone⟩
      simp only [compile_ifThen given property, firstDone, secondDone]
      exact ⟨_, rfl⟩
  · intro field property e
    simp [compile_ifThen given property, bind_eq_error_iff, pure, Except.pure]
  · intro test compiled
    obtain ⟨-, field, property⟩ := resolves_of_compile compiled
    exact ⟨test, (compile_eq_group given property).symm.trans compiled, fun _ => rfl⟩
  · intro property field other known otherKnown
    rw [compile_ifThen given known, compile_ifThen (ifThen_of_property property given) otherKnown]

theorem compile_null {field : Field R} (operator : Operator.ofName? c.operator = some .null)
    (property : schema.field? c.property = some field) :
    c.compile schema params = .ok fun record => (field.get record).isNull := by
  rw [compile_plain operator property nofun]
  rfl

section AnnOfIt

def membersFor (property operator : String) (value : Json) : List (String × Json) :=
  [("OPERATOR", .string operator), ("Property", .string property), ("value", value)]

theorem givenBy_membersFor (property operator : String) (value : Json) :
    GivenBy (membersFor property operator value) ⟨property, operator, value⟩ where
  property := Json.named_of_unlike [_] [_] rfl (by simp [Text.sameIgnoringCase])
  operator := Json.named_of_unlike [] [_, _] rfl (by simp [Text.sameIgnoringCase])
  value := .inl (Json.named_of_unlike [_, _] [] rfl (by simp [Text.sameIgnoringCase]))

def lacksEmail : List (String × Json) :=
  [("Operator", .string "null"), ("property", .string "Email")]

/-- Whoever has no address is Ann. `THEN` takes second place to `then`. -/
def onlyAnnLacksEmail : Json :=
  .object [("Check", .object lacksEmail), ("THEN", .null),
    ("then", .object (membersFor "Name" "equal" (.string "Ann")))]

def onlyAnnOfItLacksEmail : Json :=
  .object [("CHECK", .object (membersFor "Department" "equal" (.string "IT"))), ("Check", .null),
    ("Then", .object (membersFor "Age" " IF " onlyAnnLacksEmail))]

theorem compile_onlyAnnOfItLacksEmail :
    IfThen ⟨"Salary", "If", onlyAnnOfItLacksEmail⟩ ⟨"Department", "equal", .string "IT"⟩
      ⟨"Age", " IF ", onlyAnnLacksEmail⟩ ∧
    IfThen ⟨"Age", " IF ", onlyAnnLacksEmail⟩ ⟨"Email", "null", .null⟩
      ⟨"Name", "equal", .string "Ann"⟩ ∧
    ∃ test, compile User.schema .empty ⟨"Salary", "If", onlyAnnOfItLacksEmail⟩ = .ok test := by
  have lacking : GivenBy lacksEmail ⟨"Email", "null", .null⟩ :=
    ⟨Json.named_of_unlike [_] [] rfl (by decide), Json.named_of_unlike [] [_] rfl (by decide),
      .inr ⟨rfl, by decide⟩⟩
  have inner : IfThen ⟨"Age", " IF ", onlyAnnLacksEmail⟩ ⟨"Email", "null", .null⟩
      ⟨"Name", "equal", .string "Ann"⟩ :=
    .mk (by decide +kernel) (Json.named_of_unlike [] [_, _] rfl (by decide)) lacking
      (@Json.Named.exact _ _ [_, _] _ _ rfl (by decide)) (givenBy_membersFor ..)
  have outer : IfThen ⟨"Salary", "If", onlyAnnOfItLacksEmail⟩
      ⟨"Department", "equal", .string "IT"⟩ ⟨"Age", " IF ", onlyAnnLacksEmail⟩ :=
    .mk (by decide +kernel)
      (@Json.Named.folded _ _ [] _ _ _ rfl (by decide) rfl (by decide) (by decide))
      (givenBy_membersFor ..) (Json.named_of_unlike [_, _] [] rfl (by decide))
      (givenBy_membersFor ..)
  have emailField : User.schema.field? "Email" =
      some ⟨"Email", .optional .text, fun user => User.orNull .text user.email⟩ := rfl
  have nameField : User.schema.field? "Name" =
      some ⟨"Name", .required .text, fun user => .text user.name⟩ := rfl
  have departmentField : User.schema.field? "Department" =
      some ⟨"Department", .required .text, fun user => .text user.department⟩ := rfl
  have email : compile User.schema .empty ⟨"Email", "null", .null⟩ = _ :=
    compile_null (Operator.ofName?_name .null) emailField
  have name : compile User.schema .empty ⟨"Name", "equal", .string "Ann"⟩ = _ :=
    compile_equal (Operator.ofName?_name .equal) nameField rfl
  have department : compile User.schema .empty ⟨"Department", "equal", .string "IT"⟩ = _ :=
    compile_equal (Operator.ofName?_name .equal) departmentField rfl
  have age : ∃ field, User.schema.field? "Age" = some field := ⟨_, rfl⟩
  have salary : ∃ field, User.schema.field? "Salary" = some field := ⟨_, rfl⟩
  have innerCompiles : ∃ test, compile User.schema .empty _ = .ok test :=
    (if_is_implication inner).2.1.mpr ⟨age, ⟨_, email⟩, _, name⟩
  exact ⟨outer, inner,
    (if_is_implication outer).2.1.mpr ⟨salary, ⟨_, department⟩, innerCompiles⟩⟩

end AnnOfIt

end Condition

end RuleQuery
