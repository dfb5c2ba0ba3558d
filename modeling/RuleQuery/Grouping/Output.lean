import RuleQuery.Grouping.Key

namespace RuleQuery

structure GroupCount where
  key : GroupKey
  count : Nat
deriving BEq

def GroupCount.toJson (row : GroupCount) : Json :=
  .object [("groupKey", row.key.toJson), ("count", .ofNat row.count)]

inductive QueryOutput (R : Type) where
  | records (items : List R)
  | counts (rows : List GroupCount)

namespace QueryOutput

variable {R : Type}

def size : QueryOutput R → Nat
  | records items => items.length
  | counts rows => rows.length

def isEmpty (output : QueryOutput R) : Bool := output.size == 0

def records? : QueryOutput R → Option (List R)
  | records items => some items
  | counts _ => none

def counts? : QueryOutput R → Option (List GroupCount)
  | records _ => none
  | counts rows => some rows

def toJson (writeRecord : R → Json) : QueryOutput R → Json
  | records items =>
    .object [("kind", .string "records"), ("items", .array (items.map writeRecord))]
  | counts rows =>
    .object [("kind", .string "counts"), ("items", .array (rows.map GroupCount.toJson))]

end QueryOutput

end RuleQuery
