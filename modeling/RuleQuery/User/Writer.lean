import RuleQuery.User.Basic
import RuleQuery.Value.Text

namespace RuleQuery.User

def toJson (user : User) : Json :=
  .object [
    ("id", .number (.ofInt64 user.id)),
    ("name", .string user.name),
    ("email", user.email.elim .null .string),
    ("department", .string user.department),
    ("salary", .string user.salary.toText),
    ("age", user.age.elim .null fun age => .number (.ofInt64 age.toInt64)),
    ("employeeCode", .string user.employeeCode),
    ("bio", .string user.bio),
    ("isActive", .bool user.isActive),
    ("managerId", user.managerId.elim .null fun id => .number (.ofInt64 id)),
    ("tags", .array (user.tags.map .string)),
    ("createdAt", .string user.createdAt.toDocumentText)]

end RuleQuery.User
