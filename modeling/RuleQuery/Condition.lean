import RuleQuery.Json.Basic
import RuleQuery.Operator

namespace RuleQuery

/-- A question about one field. What the value has to be depends on the operator. -/
structure Condition where
  property : String
  operator : String
  value : Json

inductive ConditionGroup where
  | mk (operator : LogicalOperator) (conditions : List Condition) (groups : List ConditionGroup)
    (negate : Bool)

namespace ConditionGroup

def operator : ConditionGroup → LogicalOperator
  | mk op _ _ _ => op

def conditions : ConditionGroup → List Condition
  | mk _ conditions _ _ => conditions

def groups : ConditionGroup → List ConditionGroup
  | mk _ _ groups _ => groups

def negate : ConditionGroup → Bool
  | mk _ _ _ negate => negate

def ofConditions (op : LogicalOperator) (conditions : List Condition) : ConditionGroup :=
  mk op conditions [] false

def addGroup (group child : ConditionGroup) : ConditionGroup :=
  mk group.operator group.conditions (group.groups ++ [child]) group.negate

def negated (group : ConditionGroup) : ConditionGroup :=
  mk group.operator group.conditions group.groups (!group.negate)

def isEmpty (group : ConditionGroup) : Bool := group.conditions.isEmpty && group.groups.isEmpty

end ConditionGroup

end RuleQuery
