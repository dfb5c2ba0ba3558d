import RuleQuery.Grouping.Output
import RuleQuery.Grouping.ShapeCache
import RuleQuery.Value.Order

/-!
Aggregation plans. A plan partitions records by key and counts each group, or picks from each the
first record with the least or the greatest value of a field. Groups come in the order in which
their keys first appear.
-/
namespace RuleQuery

/-- What a group is reduced to: its size, or the record whose value stands to those of all others as
preferred. -/
inductive Reduction (R : Type) where
  | count
  | select (preferred : Ordering) (get : R → Value)

structure AggregationPlan (R : Type) where
  schema : Schema R
  shape : SharedShape
  reduction : Reduction R

namespace AggregationPlan

variable {R : Type}

def selection (schema : Schema R) (aggregation : Aggregation) (preferred : Ordering) :
    Except QueryError (Reduction R) :=
  match aggregation.property? with
  | none => .error (.missingAggregateProperty aggregation.function)
  | some property =>
    match schema.field? property with
    | none => .error (.unknownField property schema.typeName)
    | some field => .ok (.select preferred field.get)

def reductionOf (schema : Schema R) (aggregation : Aggregation) : Except QueryError (Reduction R) :=
  match aggregation.function with
  | .count => .ok .count
  | .min => selection schema aggregation .lt
  | .max => selection schema aggregation .gt

def build (schema : Schema R) (groupBy : List String) (aggregation : Aggregation) :
    Cached (AggregationPlan R) := do
  let shape ← KeyShape.shared schema groupBy
  let reduction ← Cached.ofExcept (reductionOf schema aggregation)
  return ⟨schema, shape, reduction⟩

/-- The plan of a rule. Without fields to group by, an aggregation is left aside. -/
def ofRule? (schema : Schema R) (groupBy : List String) (aggregation : Option Aggregation) :
    Cached (Option (AggregationPlan R)) :=
  match aggregation with
  | none => return none
  | some aggregation =>
    if groupBy.isEmpty then return none
    else return some (← build schema groupBy aggregation)

def isProjection (plan : AggregationPlan R) : Bool :=
  match plan.reduction with
  | .count => true
  | .select .. => false

def keyFor (plan : AggregationPlan R) (record : R) : GroupKey :=
  plan.shape.shape.keyFor plan.schema record

def addKey (key : GroupKey) : List GroupCount → List GroupCount
  | [] => [⟨key, 1⟩]
  | row :: rest =>
    if row.key == key then ⟨row.key, row.count + 1⟩ :: rest else row :: addKey key rest

def count (plan : AggregationPlan R) (records : List R) : List GroupCount :=
  records.foldl (fun rows record => addKey (plan.keyFor record) rows) []

structure Candidate (R : Type) where
  key : GroupKey
  record : R
  value : Value

/-- Enters a record of this key and value; it takes the place of an earlier one only if its value
is strictly better. -/
def addCandidate (preferred : Ordering) (next : Candidate R) :
    List (Candidate R) → List (Candidate R)
  | [] => [next]
  | best :: rest =>
    if best.key == next.key then
      (if next.value.aggregateCompare best.value == preferred then next else best) :: rest
    else best :: addCandidate preferred next rest

def select (plan : AggregationPlan R) (preferred : Ordering) (get : R → Value)
    (records : List R) : List R :=
  let candidates := records.foldl
    (fun best record => addCandidate preferred ⟨plan.keyFor record, record, get record⟩ best) []
  candidates.map (·.record)

def apply (plan : AggregationPlan R) (records : List R) : QueryOutput R :=
  match plan.reduction with
  | .count => .counts (plan.count records)
  | .select preferred get => .records (plan.select preferred get records)

end AggregationPlan

end RuleQuery
