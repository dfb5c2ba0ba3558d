import RuleQuery.Value.Basic

/-!
Orders on values. `compare?` compares within one domain, numbers of all kinds being one domain, and
leaves other pairs incomparable. `aggregateCompare` extends it for the choice of the least and the
greatest value of a group: null comes first, and texts that read as numbers count as numbers.
-/
namespace RuleQuery.Value

/-- The value as a decimal number, if it is a number or a text that reads as one. -/
def toDecimal? : Value → Option Decimal
  | integer i => some (.ofInt64 i)
  | float x => Decimal.ofBinary64? x
  | decimal d => some d
  | text s => Decimal.ofText? s
  | _ => none

def toBinary64? : Value → Option Binary64
  | float x => some x
  | v => v.toDecimal?.map Decimal.toBinary64

def compareAsFloats (a b : Value) : Option Ordering := do
  (← a.toBinary64?).compare? (← b.toBinary64?)

/-- Order within one domain. Null compares with nothing, and neither do sequences. -/
def compare? : Value → Value → Option Ordering
  | bool a, bool b => some (Ord.compare a b)
  | integer a, integer b => some (Ord.compare a b)
  | float a, float b => a.compare? b
  | decimal a, decimal b => some (a.compare b)
  | float a, integer b => compareAsFloats (float a) (integer b)
  | float a, decimal b => compareAsFloats (float a) (decimal b)
  | integer a, float b => compareAsFloats (integer a) (float b)
  | decimal a, float b => compareAsFloats (decimal a) (float b)
  | integer a, decimal b => some ((Decimal.ofInt64 a).compare b)
  | decimal a, integer b => some (a.compare (Decimal.ofInt64 b))
  | text a, text b => some (Ord.compare a b)
  | timestamp a, timestamp b => some (a.compare b)
  | _, _ => none

/-- Order of values that are not null: as decimal numbers if both can be read so, else within their
domain, else by the names of their kinds. -/
def comparePresent (a b : Value) : Ordering :=
  match a.toDecimal?, b.toDecimal? with
  | some x, some y => x.compare y
  | _, _ => (a.compare? b).getD (Ord.compare a.typeName b.typeName)

/-- The order in which the least and the greatest value of a group are sought; null is least. -/
def aggregateCompare (a b : Value) : Ordering :=
  match a.isNull, b.isNull with
  | true, true => .eq
  | true, false => .lt
  | false, true => .gt
  | false, false => comparePresent a b

end RuleQuery.Value
