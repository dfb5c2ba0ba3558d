import RuleQuery.Aggregation
import RuleQuery.Operator
import RuleQuery.Schema

namespace RuleQuery

inductive PayloadFault where
  | notArray
  | notObject
  | notImplication
  | missingTarget
  | badPattern (pattern : String)
  | missingThreshold
  | missingRequired
  | missingOperand
  | missingBranch (branch : String)
  | missingPart (branch part : String)
deriving DecidableEq

def PayloadFault.message : PayloadFault → String
  | notArray => "需要数组值"
  | notObject => "需要对象参数"
  | notImplication => "需要对象参数 \x7bCheck, Then\x7d"
  | missingTarget => "缺少 Target"
  | badPattern pattern => "无效的正则表达式 '" ++ pattern ++ "': <regex error>"
  | missingThreshold => "缺少数值类型的 Threshold"
  | missingRequired => "缺少 Required"
  | missingOperand => "缺少比较值"
  | missingBranch branch => "缺少 " ++ branch
  | missingPart branch part => branch ++ " 缺少 " ++ part

inductive QueryError where
  | unknownField (field recordType : String)
  | targetTypeMismatch (expected actual : String)
  | missingAggregation
  | missingAggregateProperty (function : AggregateFunction)
  | unsupportedOperator (name : String)
  | operatorTypeMismatch (operator : Operator) (field : String) (type : FieldType)
  | invalidPayload (operator : Operator) (fault : PayloadFault)
  | typeCoercion (field : String) (expected : FieldType) (actual : String)
  | missingParameter (name : String)
  | projectionInUnion (ruleName : String)
deriving DecidableEq

namespace QueryError

def code : QueryError → String
  | unknownField .. => "UNKNOWN_FIELD"
  | targetTypeMismatch .. => "TARGET_TYPE_MISMATCH"
  | missingAggregation => "MISSING_AGGREGATION"
  | missingAggregateProperty _ => "MISSING_AGGREGATE_PROPERTY"
  | unsupportedOperator _ => "UNSUPPORTED_OPERATOR"
  | operatorTypeMismatch .. => "OPERATOR_TYPE_MISMATCH"
  | invalidPayload .. => "INVALID_OPERATOR_PAYLOAD"
  | typeCoercion .. => "TYPE_COERCION_ERROR"
  | missingParameter _ => "MISSING_EXTERNAL_PARAMETER"
  | projectionInUnion _ => "PROJECTION_IN_UNION"

def message : QueryError → String
  | unknownField field recordType => "字段不存在: " ++ field ++ " (记录类型 " ++ recordType ++ ")"
  | targetTypeMismatch expected actual =>
    "规则目标类型不匹配: 期望 " ++ expected ++ ", 实际 " ++ actual
  | missingAggregation => "定义了 GroupBy 时必须提供聚合定义"
  | missingAggregateProperty function => function.name ++ " 聚合必须指定聚合字段"
  | unsupportedOperator name => "不支持的操作符: " ++ name
  | operatorTypeMismatch operator field type =>
    "操作符 " ++ operator.name ++ " 不支持字段 " ++ field ++ " 的类型 " ++ type.name
  | invalidPayload operator fault =>
    "操作符 " ++ operator.name ++ " 的参数无效: " ++ fault.message
  | typeCoercion field expected actual =>
    "字段 " ++ field ++ " 类型转换失败: 期望 " ++ expected.name ++ ", 实际 " ++ actual
  | missingParameter name => "缺少外部参数: " ++ name
  | projectionInUnion ruleName => "规则 " ++ ruleName ++ " 输出为计数投影，不能参与合并执行"

end QueryError

end RuleQuery
