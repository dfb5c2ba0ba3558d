import RuleQuery.Powers

/-!
Floating point numbers of 64 bits, kept as their bit patterns. Every finite value is a whole
number of units of 2^-1074, so order and arithmetic are exact arithmetic on whole numbers
followed by one rounding.
-/
namespace RuleQuery

/-- A number in the 64-bit binary format: sign, 11 bits of exponent, 52 bits of fraction. -/
structure Binary64 where
  bits : UInt64
deriving DecidableEq

namespace Binary64

def signBit : Nat := 0x8000000000000000

/-- The lowest bit of the exponent; the 52 bits below it are the fraction. -/
def exponentBit : Nat := 0x10000000000000

def magnitudeBits (x : Binary64) : Nat := x.bits.toNat % signBit

def negative (x : Binary64) : Bool := decide (signBit ≤ x.bits.toNat)

/-- The magnitude that stands for infinity; larger ones are not numbers. -/
def infinityBits : Nat := 2047 * exponentBit

def isNaN (x : Binary64) : Bool := decide (infinityBits < x.magnitudeBits)

def isFinite (x : Binary64) : Bool := decide (x.magnitudeBits < infinityBits)

/-- The value of a magnitude in units of 2^-1074. The pattern of infinity yields 2^2098, one step
above the largest finite value, which keeps it in order with them. -/
def unitsOf (magnitude : Nat) : Nat :=
  if magnitude < exponentBit then magnitude
  else (exponentBit + magnitude % exponentBit) * pow2 (magnitude / exponentBit - 1)

def one : Nat := pow2 1074

def units (x : Binary64) : Nat := unitsOf x.magnitudeBits

def signedUnits (x : Binary64) : Int :=
  if x.negative then -(x.units : Int) else (x.units : Int)

def isZero (x : Binary64) : Bool := x.magnitudeBits == 0

def ofMagnitude (negative : Bool) (magnitude : Nat) : Binary64 :=
  ⟨UInt64.ofNat (if negative then signBit + magnitude else magnitude)⟩

def zero (negative : Bool) : Binary64 := ofMagnitude negative 0

def infinity (negative : Bool) : Binary64 := ofMagnitude negative infinityBits

def nan (negative : Bool) : Binary64 := ofMagnitude negative (infinityBits + exponentBit / 2)

def negate (x : Binary64) : Binary64 := ofMagnitude (!x.negative) x.magnitudeBits

/-- Order by value: both zeros are equal, and nothing compares with a value that is not a
number. -/
def compare? (x y : Binary64) : Option Ordering :=
  if x.isNaN || y.isNaN then none else some (compare x.signedUnits y.signedUnits)

def roundHalfEven (num den : Nat) : Nat :=
  let q := num / den
  let r := num % den
  if 2 * r < den then q
  else if den < 2 * r then q + 1
  else q + q % 2

def roundHalfUp (num den : Nat) : Nat := (2 * num + den) / (2 * den)

/-- The number nearest to `num / den`, with ties to the even pattern; beyond the largest finite
number it is infinity. The unit of the result is `pow2 shift` units of 2^-1074. -/
def ofRatio (negative : Bool) (num den : Nat) : Binary64 :=
  let scaled := num * one
  let shift := (scaled / den).log2 - 52
  let magnitude := roundHalfEven scaled (den * pow2 shift) + shift * exponentBit
  ofMagnitude negative (min magnitude infinityBits)

def ofNat (n : Nat) : Binary64 := ofRatio false n 1

def ofInt (i : Int) : Binary64 := ofRatio (decide (i < 0)) i.natAbs 1

def mul (x y : Binary64) : Binary64 :=
  ofRatio (x.negative != y.negative) (x.units * y.units) (one * one)

def div (x y : Binary64) : Binary64 :=
  ofRatio (x.negative != y.negative) x.units y.units

def addMagnitudes (x y : Binary64) : Binary64 := ofRatio false (x.units + y.units) one

def toIntHalfEven (x : Binary64) : Int :=
  let n : Int := roundHalfEven x.units one
  if x.negative then -n else n

def toNatHalfUp (x : Binary64) : Nat := roundHalfUp x.units one

def isWhole (x : Binary64) : Bool := x.isFinite && x.units % one == 0

end Binary64

end RuleQuery
