import RuleQuery.Binary64.Notation
import RuleQuery.Decimal.Numeral
import RuleQuery.Decimal.Binary
import RuleQuery.Json.Parts
import RuleQuery.User.Basic

namespace RuleQuery

open Document (text? bool? integer? instant? nullable? listOf?)

def Decimal.ofDocument? : Document → Option Decimal
  | .number (.integer i _) => ofParts? (decide (i < 0)) i.natAbs 0
  | .number (.float x _) => ofPlain? x.toText.toList
  | .string s => ofNumeral? s
  | _ => none

namespace User

def age? : Document → Option Int32
  | .number (.integer i _) =>
    if -0x80000000 ≤ i ∧ i < 0x80000000 then some (Int32.ofInt i) else none
  | _ => none

def ofDocument? (now : Instant) (d : Document) : Option User := do
  guard (d.hasParts 12)
  return {
    id := ← d.required? 0 ["id"] integer?
    name := ← d.required? 1 ["name"] text?
    email := ← d.optional? 2 ["email"] none (nullable? text?)
    department := ← d.optional? 3 ["department"] "" text?
    salary := ← d.optional? 4 ["salary"] .zero Decimal.ofDocument?
    age := ← d.optional? 5 ["age"] none (nullable? age?)
    employeeCode := ← d.optional? 6 ["employeeCode"] "" text?
    bio := ← d.optional? 7 ["bio"] "" text?
    isActive := ← d.optional? 8 ["isActive"] true bool?
    managerId := ← d.optional? 9 ["managerId"] none (nullable? integer?)
    tags := ← d.optional? 10 ["tags"] [] (listOf? text?)
    createdAt := ← d.optional? 11 ["createdAt"] now instant? }

end User

end RuleQuery
