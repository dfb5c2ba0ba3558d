import RuleQuery.Predicate.Test

/-!
Compiled conditions. A condition tree becomes a predicate on the records of a schema once, and the
first fault in it is reported. A tree that sets no condition at all compiles to none.
-/
namespace RuleQuery

abbrev Predicate (R : Type) := R → Bool

namespace Condition

def branch (payload : Json) (key : String) : Except QueryError Condition := do
  let some nested := payload.member? key
    | throw (.invalidPayload .implies (.missingBranch key))
  let some property := (nested.member? "property").bind Json.text?
    | throw (.invalidPayload .implies (.missingPart key "property"))
  let some operator := (nested.member? "operator").bind Json.text?
    | throw (.invalidPayload .implies (.missingPart key "operator"))
  return ⟨property, operator, (nested.member? "value").getD .null⟩

theorem branch_value_lt {payload : Json} {key : String} {c : Condition}
    (h : branch payload key = .ok c) : sizeOf c.value < sizeOf payload := by
  unfold branch at h
  split at h <;> try cases h
  rename_i nested found
  split at h <;> try cases h
  split at h <;> try cases h
  have smaller := Json.sizeOf_member?_lt found
  cases present : nested.member? "value" with
  | none =>
    have positive := Json.sizeOf_pos nested
    simp
    omega
  | some v =>
    have part := Json.sizeOf_member?_lt present
    simp
    omega

def compileBranch {R : Type} (payload : Json)
    (compile : (c : Condition) → sizeOf c.value < sizeOf payload → Except QueryError (Predicate R))
    (key : String) : Except QueryError (Predicate R) :=
  match read : branch payload key with
  | .error e => .error e
  | .ok c => compile c (branch_value_lt read)

/-- The payload of `if` as a predicate: the first condition fails or the second holds. -/
def implication {R : Type} (payload : Json)
    (compile : (c : Condition) → sizeOf c.value < sizeOf payload →
      Except QueryError (Predicate R)) :
    Except QueryError (Predicate R) := do
  if payload.members?.isNone then throw (.invalidPayload .implies .notImplication)
  let check ← compileBranch payload compile "check"
  let conclusion ← compileBranch payload compile "then"
  return fun record => !check record || conclusion record

def resolve {R : Type} (schema : Schema R) (condition : Condition) :
    Except QueryError (Operator × Field R) :=
  match Operator.ofName? condition.operator with
  | none => .error (.unsupportedOperator condition.operator)
  | some op =>
    match schema.field? condition.property with
    | none => .error (.unknownField condition.property schema.typeName)
    | some field => .ok (op, field)

/-- A condition with its operator and field as a predicate; conditions nested in its value are
compiled by the given function. `if` does not look at its own field. -/
def compileResolved {R : Type} (params : Parameters) (condition : Condition) (op : Operator)
    (field : Field R)
    (compile : (c : Condition) → sizeOf c.value < sizeOf condition.value →
      Except QueryError (Predicate R)) : Except QueryError (Predicate R) :=
  if h : op = .implies then implication condition.value compile
  else (fieldTest params field condition op h).map fun test record => test (field.get record)

def compile {R : Type} (schema : Schema R) (params : Parameters) (condition : Condition) :
    Except QueryError (Predicate R) := do
  let (op, field) ← resolve schema condition
  compileResolved params condition op field fun c _smaller => compile schema params c
termination_by sizeOf condition.value

end Condition

namespace ConditionGroup

variable {R : Type}

/-- The parts of a group under its operator. No part sets no condition, and a single part stands
for itself. -/
def join (op : LogicalOperator) (parts : List (Predicate R)) : Option (Predicate R) :=
  match parts with
  | [] => none
  | [part] => some part
  | parts =>
    match op with
    | .and => some fun record => parts.all fun part => part record
    | .or => some fun record => parts.any fun part => part record

/-- Negation of what a group sets; the negation of no condition holds nowhere. -/
def negateIf (negate : Bool) (inner : Option (Predicate R)) : Option (Predicate R) :=
  match negate, inner with
  | false, inner => inner
  | true, none => some fun _ => false
  | true, some inner => some fun record => !inner record

mutual

/-- A group as a predicate, or none if it sets no condition. Conditions are compiled before child
groups, and the first error counts. -/
def compile? (schema : Schema R) (params : Parameters) :
    ConditionGroup → Except QueryError (Option (Predicate R))
  | mk op conditions groups negate => do
    let own ← conditions.mapM (Condition.compile schema params)
    let children ← compileAll schema params groups
    return negateIf negate (join op (own ++ children))

def compileAll (schema : Schema R) (params : Parameters) :
    List ConditionGroup → Except QueryError (List (Predicate R))
  | [] => return []
  | group :: rest => do
    let first ← compile? schema params group
    let others ← compileAll schema params rest
    return first.toList ++ others

end

def compile (schema : Schema R) (params : Parameters) (group : ConditionGroup) :
    Except QueryError (Predicate R) :=
  return (← compile? schema params group).getD fun _ => true

end ConditionGroup

end RuleQuery
