import RuleQuery.Powers

namespace RuleQuery

def Decimal.bound : Nat := 0x1000000000000000000000000

/-- The number `mantissa / 10 ^ scale` with a sign. -/
structure Decimal where
  negative : Bool
  mantissa : Nat
  scale : Nat
  mantissa_lt : mantissa < Decimal.bound
  scale_le : scale ≤ 28
deriving DecidableEq

namespace Decimal

def ofParts? (negative : Bool) (mantissa scale : Nat) : Option Decimal :=
  if h : mantissa < bound ∧ scale ≤ 28 then some ⟨negative, mantissa, scale, h.1, h.2⟩ else none

def zero : Decimal := ⟨false, 0, 0, by decide, by decide⟩

def ofInt64 (i : Int64) : Decimal where
  negative := decide (i.toInt < 0)
  mantissa := i.toInt.natAbs
  scale := 0
  mantissa_lt := by
    have low := i.le_toInt
    have high := i.toInt_lt
    unfold bound
    omega
  scale_le := by decide

def numerator (d : Decimal) : Int := if d.negative then -(d.mantissa : Int) else (d.mantissa : Int)

def compare (a b : Decimal) : Ordering :=
  Ord.compare (a.numerator * pow10 b.scale) (b.numerator * pow10 a.scale)

def same (a b : Decimal) : Bool := a.compare b == .eq

def stripZeros (mantissa : Nat) : Nat → Nat × Nat
  | 0 => (mantissa, 0)
  | scale + 1 =>
    if mantissa % 10 = 0 then stripZeros (mantissa / 10) scale else (mantissa, scale + 1)

/-- What identifies a value: sign, mantissa and scale without trailing zeros. Zero has no sign
and no places. -/
def canonical (d : Decimal) : Bool × Nat × Nat :=
  if d.mantissa = 0 then (false, 0, 0) else (d.negative, stripZeros d.mantissa d.scale)

end Decimal

end RuleQuery
