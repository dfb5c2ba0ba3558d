import RuleQuery.Binary64.Basic
import RuleQuery.Decimal.Numeral

/-!
Decimal numbers and binary floating point numbers. A float becomes a decimal by exchanging powers
of two for powers of ten in a 96-bit mantissa and cutting what exceeds the precision of a float;
a decimal becomes a float by adding its whole and fractional parts and rounding at its last place.
-/
namespace RuleQuery.Decimal

/-- Exchanges `fives` factors of one half: an even mantissa is halved, an odd one is multiplied by
five and its power of ten lowered, or halved with loss when five times it does not fit. -/
def absorbHalves (mantissa : Nat) (power : Int) : (fives : Nat) → Nat × Int
  | 0 => (mantissa, power)
  | fives + 1 =>
    if mantissa % 2 = 0 then absorbHalves (mantissa / 2) (power + 1) fives
    else if 5 * mantissa < bound then absorbHalves (5 * mantissa) power fives
    else absorbHalves (mantissa / 2) (power + 1) fives

def absorbTwos (mantissa : Nat) (power : Int) : (fives : Nat) → Nat × Int
  | 0 => (mantissa, power)
  | fives + 1 =>
    if 2 * mantissa < bound then absorbTwos (2 * mantissa) (power - 1) fives
    else absorbTwos (mantissa / 5) power fives

def appendZeros? (mantissa : Nat) : Nat → Option Nat
  | 0 => some mantissa
  | n + 1 => if 10 * mantissa < bound then appendZeros? (10 * mantissa) n else none

def dropDigit (mantissa : Nat) : Nat := mantissa / 10 + (if 5 ≤ mantissa % 10 then 1 else 0)

/-- Gives up places beyond the 28th; a number that vanishes on the way is zero without places. -/
def dropPlaces (mantissa places : Nat) : (excess : Nat) → Nat × Nat
  | 0 => (mantissa, places)
  | excess + 1 =>
    if mantissa / 10 = 0 then (0, 0) else dropPlaces (dropDigit mantissa) (places - 1) excess

def limitPrecision (mantissa : Nat) : (places : Nat) → Nat × Nat
  | 0 => (mantissa, 0)
  | places + 1 =>
    if Binary64.exponentBit ≤ mantissa then limitPrecision (dropDigit mantissa) places
    else (mantissa, places + 1)

def ofBinary64? (x : Binary64) : Option Decimal :=
  if !x.isFinite ∨ bound * Binary64.one ≤ x.units then none
  else if x.isZero then ofParts? x.negative 0 0
  else
    let field := x.magnitudeBits / Binary64.exponentBit
    let fraction := x.magnitudeBits % Binary64.exponentBit
    let significand := if field = 0 then fraction else Binary64.exponentBit + fraction
    let power : Int := (max field 1 : Nat) - 1075
    let (mantissa, power) :=
      if power < 0 then absorbHalves significand power (-power).toNat
      else absorbTwos significand power power.toNat
    match appendZeros? mantissa power.toNat with
    | none => none
    | some mantissa =>
      let places := (-power).toNat
      let (mantissa, places) := dropPlaces mantissa places (places - 28)
      let (mantissa, places) := limitPrecision mantissa places
      let (mantissa, places) := stripZeros mantissa places
      ofParts? x.negative mantissa places

def toBinary64 (d : Decimal) : Binary64 :=
  let unit := pow10 d.scale
  let whole := Binary64.ofNat (d.mantissa / unit)
  let fraction := Binary64.div (Binary64.ofNat (d.mantissa % unit)) (Binary64.ofNat unit)
  let magnitude :=
    if d.scale = 0 then Binary64.ofNat d.mantissa
    else if fraction.isZero then whole
    else
      let power := Binary64.ofNat unit
      let shifted := Binary64.mul (Binary64.addMagnitudes whole fraction) power
      Binary64.div (Binary64.ofNat shifted.toNatHalfUp) power
  if d.negative && !(d.scale = 0 && magnitude.isZero) then magnitude.negate else magnitude

def toIntHalfEven (d : Decimal) : Int :=
  let n : Int := Binary64.roundHalfEven d.mantissa (pow10 d.scale)
  if d.negative then -n else n

end RuleQuery.Decimal
