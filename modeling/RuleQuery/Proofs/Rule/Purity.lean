import RuleQuery.Proofs.Grouping.Transparency
import RuleQuery.Proofs.Predicate.Dynamic
import RuleQuery.Proofs.Rule.Recompiled

/-!
What the outcome of a rule depends on. It does not depend on what the process did before: the cache
of key shapes does not show, as validation has resolved the names by the schema when the cache is
asked. Of the parameters it depends on what they answer to the names that conditions ask for. That
is not always settled by the object that the parameters are given as, since its members have no
order and two names in it may fold to one.
-/
namespace RuleQuery

variable {R : Type} {schema : Schema R} {params other : Parameters} {rule : Rule}

namespace Rule

def AsksFor (rule : Rule) (name : String) : Prop :=
  ∃ tree, rule.conditions = some tree ∧ tree.AsksFor name

theorem predicateOf_congr (schema : Schema R)
    (agree : ∀ name, rule.AsksFor name → params.get? name = other.get? name) :
    CompiledRule.predicateOf schema params rule = CompiledRule.predicateOf schema other rule := by
  unfold CompiledRule.predicateOf
  cases given : rule.conditions with
  | none => rfl
  | some tree =>
    have same := tree.compile?_congr schema fun name asks => agree name ⟨tree, given, asks⟩
    simp only [same]

theorem compile_congr (schema : Schema R)
    (agree : ∀ name, rule.AsksFor name → params.get? name = other.get? name) :
    rule.compile schema params = rule.compile schema other := by
  rw [compile, compile, predicateOf_congr schema agree]

theorem execute_congr (schema : Schema R) (records : List R)
    (agree : ∀ name, rule.AsksFor name → params.get? name = other.get? name) :
    rule.execute schema params records = rule.execute schema other records := by
  rw [execute, execute, compile_congr schema agree]

section Members

open Parameters

/-- The members of an object settle what its table answers for a name exactly if those whose names
fold to that one have one value; every such value is the answer of a table that is made of them. A
rule yields the same with all these tables if its conditions ask for settled names only. -/
theorem members_settle_unambiguous_names (members : List (String × Json)) :
    (∀ document params, Parameters.ofDocument? (.object document) = some params →
      Document.membersToJson? document = some members → MadeOf members params) ∧
    (∀ asked answer, (∃ params, MadeOf members params ∧ params.get? asked = answer) ↔
      (∃ member ∈ members, foldName member.1 = foldName asked ∧ answer = some member.2) ∨
      (∀ member ∈ members, foldName member.1 ≠ foldName asked) ∧ answer = none) ∧
    (∀ asked, Unambiguous members asked ↔ ∀ params other, MadeOf members params →
      MadeOf members other → params.get? asked = other.get? asked) ∧
    (∀ rule : Rule, (∀ name, rule.AsksFor name → Unambiguous members name) →
      ∀ params other, MadeOf members params → MadeOf members other →
        ∀ (R : Type) (schema : Schema R) (records : List R),
          rule.execute schema params records = rule.execute schema other records) := by
  refine ⟨?_, fun _ _ => exists_madeOf_iff, fun _ => unambiguous_iff, ?_⟩
  · intro document params read converted
    obtain ⟨members', converted', made⟩ := madeOf_of_ofDocument? read
    rw [converted] at converted'
    cases converted'
    exact made
  · intro rule settled params other made otherMade R schema records
    refine execute_congr schema records fun name asks => ?_
    exact get?_eq_of_unambiguous (settled name asks) made otherMade

def inDepartment : Rule :=
  { ofName "in department" .epoch with
    conditions := some (.ofConditions .and [⟨"Department", "dynamicequal", .null⟩]) }

theorem predicateOf_inDepartment {department : String}
    (given : params.get? "Department" = some (.string department))
    (conditions : rule.conditions = inDepartment.conditions)
    (valid : rule.validate User.schema = .ok ()) :
    CompiledRule.predicateOf User.schema params rule =
      .ok (some fun user => (Value.text user.department).equals (.text department)) := by
  have property : User.schema.field? "Department" =
      some ⟨"Department", .required .text, fun user => .text user.department⟩ := rfl
  have asked := Condition.compile_dynamicEqual_of_read
    (c := ⟨"Department", "dynamicequal", .null⟩) rfl property (.inr ⟨rfl, given⟩) rfl
  refine CompiledRule.predicateOf_eq_ok_iff.mpr
    ⟨validate_eq_ok_iff.mp valid, .inr ⟨_, conditions, ?_⟩⟩
  -- Nothing else stands in the tree; what is left evaluates.
  rw [ConditionGroup.ofConditions, ConditionGroup.compile?, List.mapM_cons, asked]
  rfl

theorem execute_inDepartment {department : String} (users : List User)
    (given : params.get? "Department" = some (.string department)) :
    (inDepartment.execute User.schema params users).outcome .empty =
      .ok (.records (users.filter fun user =>
        (Value.text user.department).equals (.text department))) := by
  rw [execute_of_plain (predicateOf_inDepartment given rfl rfl) rfl]
  rfl

def departmentTwice : List (String × Json) :=
  [("Department", .string "IT"), ("department", .string "HR")]

/-- Which of the two values counts depends on the order in which the table takes the members, and
with it what a rule yields. -/
theorem execute_depends_on_order_of_members :
    (departmentTwice.map (·.1)).Nodup ∧
    ∃ params other, MadeOf departmentTwice params ∧ MadeOf departmentTwice other ∧
      params.get? "department" ≠ other.get? "department" ∧
      (inDepartment.execute User.schema params [.new 1 "Ann" "IT"]).outcome .empty =
        .ok (.records []) ∧
      (inDepartment.execute User.schema other [.new 1 "Ann" "IT"]).outcome .empty =
        .ok (.records [.new 1 "Ann" "IT"]) := by
  have fold : foldName "Department" = foldName "department" := by decide +kernel
  have last : (ofList departmentTwice).get? "Department" = some (.string "HR") := by
    simp [get?_ofList, departmentTwice, fold]
  have first : (ofList departmentTwice.reverse).get? "Department" = some (.string "IT") := by
    simp [get?_ofList, departmentTwice, fold]
  refine ⟨by decide, _, _, madeOf_ofList _, ⟨_, departmentTwice.reverse_perm, rfl⟩, ?_, ?_, ?_⟩
  · simp [get?_ofList, departmentTwice, fold]
  · rw [execute_inDepartment _ last]
    rfl
  · rw [execute_inDepartment _ first]
    rfl

end Members

/-- Whatever the process asked for before, a rule compiles to the same and yields the same as in a
fresh process, be it an error, records or counts. -/
theorem outcome_ignores_reached_cache (schema : Schema R) (ascii : schema.AsciiNames)
    (cache : ShapeCache) (reached : ShapeCache.Reached schema cache) (params : Parameters)
    (rule : Rule) (records : List R) :
    ((rule.compile schema params).outcome cache).map CompiledRule.unnumbered =
        ((rule.compile schema params).outcome .empty).map CompiledRule.unnumbered ∧
      (rule.execute schema params records).outcome cache =
        (rule.execute schema params records).outcome .empty := by
  have same : ((rule.compile schema params).outcome cache).map CompiledRule.unnumbered =
      ((rule.compile schema params).outcome .empty).map CompiledRule.unnumbered :=
    map_unnumbered_compile ascii.namesStayApart (ShapeCache.faithful_of_reached reached)
      (ShapeCache.faithful_of_reached .empty) rule
  exact ⟨same, by rw [outcome_execute, outcome_execute, same]⟩

/-- The cache knows a shape for the first name and gives it to whoever asks; a rule that groups by
that name fails all the same, and one that groups by the second name counts. -/
theorem execute_after_request_for_marker : ∃ cache, ShapeCache.Reached Schema.labels cache ∧
    KeyShape.handedOut .labels ["Mar\u212aer"] cache = .ok ⟨"Label", [("Marker", 1)]⟩ ∧
    (Rule.execute Schema.labels .empty [("a", "new"), ("b", "new")]
      { Rule.ofName "markers" .epoch with
        groupBy := ["Mar\u212aer"], aggregation := some ⟨.count, none⟩ }).outcome cache =
      .error (.unknownField "Mar\u212aer" "Label") ∧
    (Rule.execute Schema.labels .empty [("a", "new"), ("b", "new")]
      { Rule.ofName "markers" .epoch with
        groupBy := [" MARKER"], aggregation := some ⟨.count, none⟩ }).outcome cache =
      .ok (.counts [⟨.single (.text "new"), 2⟩]) := by
  have letters : KeyShape.build .labels (["Mar\u212aer"].map Text.withoutKelvin) =
      .ok ⟨"Label", [("Marker", 1)]⟩ := rfl
  have reached : ShapeCache.Reached Schema.labels
      ((KeyShape.shared .labels ["Marker"]).after .empty) := .own ["Marker"] .empty
  have ignored := outcome_ignores_reached_cache _ Schema.asciiNames_labels _ reached .empty
  refine ⟨_, reached, KeyShape.handedOut_after_letters Schema.asciiNames_labels letters, ?_, ?_⟩
  · rw [(ignored _ _).2]
    rfl
  · rw [(ignored _ _).2]
    rfl

end Rule

end RuleQuery
