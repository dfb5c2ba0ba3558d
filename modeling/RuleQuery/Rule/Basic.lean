import RuleQuery.Aggregation
import RuleQuery.Condition
import RuleQuery.Instant.Basic

namespace RuleQuery

structure Integration where
  compositeId : Option String

structure Rule where
  name : String
  comment : Option String
  version : Binary64
  isActive : Bool
  createdBy : String
  createdAt : Instant
  sourceType : String
  /-- The type of the records the rule is meant for; blank if it is meant for any. -/
  targetType : String
  integration : Option Integration
  conditions : Option ConditionGroup
  groupBy : List String
  aggregation : Option Aggregation
  /-- What to tell a caller in place of the error when the rule fails. -/
  errorMessage : Option String

namespace Rule

def initialVersion : Binary64 := .ofNat 1

def ofName (name : String) (createdAt : Instant) : Rule where
  name := name
  comment := none
  version := initialVersion
  isActive := true
  createdBy := ""
  createdAt := createdAt
  sourceType := ""
  targetType := ""
  integration := none
  conditions := none
  groupBy := []
  aggregation := none
  errorMessage := none

def hasConditions (rule : Rule) : Bool := rule.conditions.any fun group => !group.isEmpty

end Rule

end RuleQuery
