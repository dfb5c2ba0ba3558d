import RuleQuery.Decimal.Binary
import RuleQuery.Instant.Basic

/-!
Field values. A record's fields are read as values of eight kinds. Identity, written `==`, is
strict in the kind: it decides which records fall into one group and which records are duplicates.
-/
namespace RuleQuery

inductive Value where
  | null
  | bool (value : Bool)
  | integer (value : Int64)
  | float (value : Binary64)
  | decimal (value : Decimal)
  | text (value : String)
  | timestamp (value : Instant)
  | sequence (items : List Value)

namespace Value

def typeName : Value → String
  | null => "null"
  | bool _ => "bool"
  | integer _ => "integer"
  | float _ => "float"
  | decimal _ => "decimal"
  | text _ => "text"
  | timestamp _ => "timestamp"
  | sequence _ => "sequence"

def isNull : Value → Bool
  | null => true
  | _ => false

def text? : Value → Option String
  | text s => some s
  | _ => none

mutual

/-- Identity: values of one kind with the same content. Decimals are compared by value, floats by
their bits. -/
def same : Value → Value → Bool
  | null, null => true
  | bool a, bool b => a == b
  | integer a, integer b => a == b
  | float a, float b => a == b
  | decimal a, decimal b => a.same b
  | text a, text b => a == b
  | timestamp a, timestamp b => a == b
  | sequence a, sequence b => sameItems a b
  | _, _ => false

def sameItems : List Value → List Value → Bool
  | [], [] => true
  | a :: as, b :: bs => same a b && sameItems as bs
  | _, _ => false

end

instance : BEq Value := ⟨same⟩

mutual

/-- What a hash table sees of a value: the kind, then the content, a decimal in canonical form and
texts and sequences with their lengths. Identical values give the same words. -/
def hashWords : Value → List Int
  | null => [0]
  | bool b => [1, if b then 1 else 0]
  | integer i => [2, i.toInt]
  | float x => [3, x.bits.toNat]
  | decimal d =>
    let (negative, mantissa, scale) := d.canonical
    [4, if negative then 1 else 0, mantissa, scale]
  | text s => 5 :: (s.length : Int) :: s.toList.map fun c => (c.toNat : Int)
  | timestamp t => [6, t.seconds, t.nanos]
  | sequence items => 7 :: (items.length : Int) :: hashItems items

def hashItems : List Value → List Int
  | [] => []
  | v :: rest => hashWords v ++ hashItems rest

end

def isEmpty : Value → Bool
  | null => true
  | text s => s.isEmpty
  | sequence items => items.isEmpty
  | _ => false

def isNullOrEmpty : Value → Bool
  | null => true
  | text s => s.isEmpty
  | _ => false

end Value

end RuleQuery
