import RuleQuery.Error
import RuleQuery.Rule.Basic

/-!
Fitness of a rule for a record type. The names that a rule uses have to be those of fields, and its
grouping has to agree with its aggregation. Of several faults the first in this order is reported:
target type, conditions in the order of the tree, grouping, aggregation.
-/
namespace RuleQuery

variable {R : Type}

def Schema.require (schema : Schema R) (name : String) : Except QueryError Unit :=
  if schema.contains name then .ok () else .error (.unknownField name schema.typeName)

namespace ConditionGroup

mutual

def properties : ConditionGroup → List String
  | mk _ conditions groups _ => conditions.map (·.property) ++ propertiesOf groups

def propertiesOf : List ConditionGroup → List String
  | [] => []
  | group :: rest => properties group ++ propertiesOf rest

end

end ConditionGroup

namespace Rule

def validateTarget (schema : Schema R) (rule : Rule) : Except QueryError Unit :=
  let target := Text.trim rule.targetType
  if target.isEmpty || Text.sameIgnoringCase target schema.typeName then .ok ()
  else .error (.targetTypeMismatch rule.targetType schema.typeName)

def validateAggregation (schema : Schema R) (aggregation : Aggregation) : Except QueryError Unit :=
  match aggregation.property? with
  | some property => schema.require property
  | none =>
    if aggregation.function.requiresProperty then
      .error (.missingAggregateProperty aggregation.function)
    else .ok ()

def validate (schema : Schema R) (rule : Rule) : Except QueryError Unit := do
  validateTarget schema rule
  (rule.conditions.elim [] ConditionGroup.properties).forM schema.require
  rule.groupBy.forM schema.require
  if !rule.groupBy.isEmpty && rule.aggregation.isNone then throw .missingAggregation
  rule.aggregation.forM (validateAggregation schema)

end Rule

end RuleQuery
