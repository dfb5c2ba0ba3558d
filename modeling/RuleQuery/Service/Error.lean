import RuleQuery.Error
import RuleQuery.Json.Basic

namespace RuleQuery

inductive ServiceError where
  | query (source : QueryError) (message : Option String)
  | recordLimit (limit actual : Nat)
  | ruleLimit (limit actual : Nat)
  | invalidRequest (detail : String)
  | internal (detail : String)
deriving DecidableEq

namespace ServiceError

def code : ServiceError → String
  | query source _ => source.code
  | recordLimit .. => "RECORD_LIMIT_EXCEEDED"
  | ruleLimit .. => "RULE_LIMIT_EXCEEDED"
  | invalidRequest _ => "INVALID_REQUEST"
  | internal _ => "INTERNAL_ERROR"

def message : ServiceError → String
  | query source message => message.getD source.message
  | recordLimit limit actual => "记录数量超出限制: " ++ toString actual ++ " > " ++ toString limit
  | ruleLimit limit actual => "规则数量超出限制: " ++ toString actual ++ " > " ++ toString limit
  | invalidRequest detail => "请求体无效: " ++ detail
  | internal detail => "内部错误: " ++ detail

def publicMessage : ServiceError → String
  | internal _ => "服务内部错误，请稍后重试"
  | error => error.message

def status : ServiceError → Nat
  | query .. | invalidRequest _ => 400
  | recordLimit .. | ruleLimit .. => 413
  | internal _ => 500

def toJson (error : ServiceError) : Json :=
  .object [("success", .bool false), ("code", .string error.code),
    ("error", .string error.publicMessage)]

end ServiceError

end RuleQuery
