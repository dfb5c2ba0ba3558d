import RuleQuery.Rule.Basic

namespace RuleQuery

def Json.ofText (s : Option String) : Json := s.elim .null .string

def Aggregation.toJson (aggregation : Aggregation) : Json :=
  .object [
    ("aggregateFunction", .string aggregation.function.name),
    ("aggregateProperty", .ofText aggregation.propertyName)]

def Integration.toJson (integration : Integration) : Json :=
  .object [("compositeId", .ofText integration.compositeId)]

def Condition.toJson (condition : Condition) : Json :=
  .object [
    ("property", .string condition.property),
    ("operator", .string condition.operator),
    ("value", condition.value)]

namespace ConditionGroup

mutual

def toJson : ConditionGroup → Json
  | mk operator conditions groups negate =>
    .object [
      ("logicalOperator", .string operator.name),
      ("conditions", .array (conditions.map Condition.toJson)),
      ("groups", .array (toJsons groups)),
      ("negate", .bool negate)]

def toJsons : List ConditionGroup → List Json
  | [] => []
  | group :: rest => toJson group :: toJsons rest

end

end ConditionGroup

namespace Rule

def memberIf (key : String) (value : Option Json) : List (String × Json) :=
  value.toList.map fun v => (key, v)

def toJson (rule : Rule) : Json :=
  .object (
    [("name", .string rule.name)] ++
    memberIf "comment" (rule.comment.map .string) ++
    [ ("version", (JsonNumber.ofBinary64? rule.version).elim .null .number),
      ("isActive", .bool rule.isActive),
      ("createdBy", .string rule.createdBy),
      ("createdAt", .string rule.createdAt.toDocumentText),
      ("sourceType", .string rule.sourceType),
      ("targetType", .string rule.targetType)] ++
    memberIf "integration" (rule.integration.map Integration.toJson) ++
    [ ("conditions", rule.conditions.elim .null ConditionGroup.toJson),
      ("groupBy", .array (rule.groupBy.map .string)),
      ("aggregation", rule.aggregation.elim .null Aggregation.toJson)] ++
    memberIf "errorMessage" (rule.errorMessage.map .string))

end Rule

end RuleQuery
