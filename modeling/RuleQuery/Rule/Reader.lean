import RuleQuery.Json.Parts
import RuleQuery.Rule.Basic

namespace RuleQuery

open Document (text? bool? binary64? instant? nullable? listOf?)

def LogicalOperator.ofDocument? (d : Document) : Option LogicalOperator := d.text?.bind ofName?

def AggregateFunction.ofDocument? : Document → Option AggregateFunction
  | .string s => ofName? s
  | .number (.integer i _) => ofIndex? i
  | _ => none

def Aggregation.ofDocument? (d : Document) : Option Aggregation := do
  guard (d.hasParts 2)
  return {
    function := ← d.required? 0 ["aggregateFunction", "AggregateFunction"]
      AggregateFunction.ofDocument?
    propertyName := ← d.optional? 1 ["aggregateProperty", "AggregateProperty"] none
      (nullable? text?) }

def Integration.ofDocument? (d : Document) : Option Integration := do
  guard (d.hasParts 1)
  return { compositeId := ← d.optional? 0 ["compositeId", "CompositeId"] none (nullable? text?) }

def Condition.ofDocument? (d : Document) : Option Condition := do
  guard (d.hasParts 3)
  return {
    property := ← d.required? 0 ["property", "Property"] text?
    operator := ← d.required? 1 ["operator", "Operator"] text?
    value := ← d.optional? 2 ["value", "Value"] .null Document.toJson? }

namespace ConditionGroup

/-- The documents of the child groups; null is no list. -/
def childDocuments? (d : Document) : Option (List Document) :=
  match d.part? 2 ["groups", "Groups"] with
  | none => none
  | some none => some []
  | some (some (.array items)) => some items
  | some (some _) => none

theorem sizeOf_child_lt {d child : Document} {children : List Document}
    (h : childDocuments? d = some children) (inside : child ∈ children) :
    sizeOf child < sizeOf d := by
  unfold childDocuments? at h
  split at h <;> cases h
  · cases inside
  · rename_i items found
    have part := Document.sizeOf_part?_lt found
    have less := List.sizeOf_lt_of_mem inside
    simp only [Document.array.sizeOf_spec] at part
    omega

def ofDocument? (d : Document) : Option ConditionGroup :=
  if d.hasParts 4 then do
    let operator ← d.optional? 0 ["logicalOperator", "LogicalOperator"] .and
      LogicalOperator.ofDocument?
    let conditions ← d.optional? 1 ["conditions", "Conditions"] []
      (listOf? Condition.ofDocument?)
    let groups ←
      match _listed : childDocuments? d with
      | none => none
      | some children => children.attach.mapM fun ⟨child, _inside⟩ => ofDocument? child
    let negate ← d.optional? 3 ["negate", "Negate"] false bool?
    return mk operator conditions groups negate
  else none
termination_by sizeOf d
decreasing_by exact sizeOf_child_lt _listed _inside

end ConditionGroup

def Rule.ofDocument? (now : Instant) (d : Document) : Option Rule := do
  guard (d.hasParts 13)
  return {
    name := ← d.optional? 0 ["name", "Name"] "" text?
    comment := ← d.optional? 1 ["comment", "Comment"] none (nullable? text?)
    version := ← d.optional? 2 ["version", "Version"] initialVersion binary64?
    isActive := ← d.optional? 3 ["isActive", "IsActive"] true bool?
    createdBy := ← d.optional? 4 ["createdBy", "CreatedBy"] "" text?
    createdAt := ← d.optional? 5 ["createdAt", "CreatedAt"] now instant?
    sourceType := ← d.optional? 6 ["sourceType", "SourceType"] "" text?
    targetType := ← d.optional? 7 ["targetType", "TargetType"] "" text?
    integration := ← d.optional? 8 ["integration", "Integration"] none
      (nullable? Integration.ofDocument?)
    conditions := ← d.optional? 9 ["conditions", "Conditions"] none
      (nullable? ConditionGroup.ofDocument?)
    groupBy := ← d.optional? 10 ["groupBy", "GroupBy"] []
      (fun d => (nullable? (listOf? text?) d).map (·.getD []))
    aggregation := ← d.optional? 11 ["aggregation", "Aggregation"] none
      (nullable? Aggregation.ofDocument?)
    errorMessage := ← d.optional? 12 ["errorMessage", "ErrorMessage"] none (nullable? text?) }

end RuleQuery
