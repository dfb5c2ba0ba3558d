import RuleQuery.Binary64.Numeral
import RuleQuery.Json.Basic

/-!
Number literals. A literal without point and exponent is a whole number when it fits 64 bits, and
minus zero is a float. Every other literal is a float: its digits are gathered in an unsigned
64-bit significand, later digits only move the power of ten, and the rounded significand is
multiplied or divided by the rounded power. A literal too large for a float has no value.
-/
namespace RuleQuery.Json

structure Literal where
  negative : Bool
  whole : List Char
  fraction : Option (List Char)
  exponent : Option (Bool × List Char)

/-- Gathers digits while the significand fits 64 bits; yields how many digits were left over. -/
def gather (significand : Nat) : List Char → Nat × Nat
  | [] => (significand, 0)
  | c :: rest =>
    let extended := 10 * significand + (c.toNat - '0'.toNat)
    if extended < UInt64.size then gather extended rest else (significand, rest.length + 1)

/-- Divides by 10^308 until the exponent is within the table of powers or the value is zero. -/
def lowerExponent (x : Binary64) (exponent : Int) : (steps : Nat) → Binary64 × Int
  | 0 => (x, exponent)
  | steps + 1 =>
    if exponent < -308 && !x.isZero then
      lowerExponent (Binary64.div x (Binary64.ofNat (pow10 308))) (exponent + 308) steps
    else (x, exponent)

def scale? (significand : Nat) (exponent : Int) : Option Binary64 :=
  let (x, exponent) := lowerExponent (Binary64.ofNat significand) exponent 4
  if x.isZero then some x
  else if 308 < exponent then none
  else if 0 ≤ exponent then
    let product := Binary64.mul x (Binary64.ofNat (pow10 exponent.toNat))
    if product.isFinite then some product else none
  else some (Binary64.div x (Binary64.ofNat (pow10 (-exponent).toNat)))

def Literal.float? (lit : Literal) : Option Binary64 :=
  let (significand, dropped) := gather 0 lit.whole
  let fraction := lit.fraction.getD []
  let (significand, unread) := gather significand fraction
  let start : Int := (dropped : Int) - ((fraction.length - unread : Nat) : Int)
  let magnitude :=
    match lit.exponent with
    | none => scale? significand start
    | some (negative, digits) =>
      let power := decimalValue digits
      if power < 0x80000000 then
        scale? significand (start + if negative then -(power : Int) else power)
      else if significand ≠ 0 ∧ !negative then none
      else some (Binary64.zero false)
  magnitude.map fun x => if lit.negative then x.negate else x

def Literal.value? (lit : Literal) : Option JsonNumber :=
  let magnitude : Int := decimalValue lit.whole
  let isWhole := lit.fraction.isNone && lit.exponent.isNone
  if isWhole && !(lit.negative && magnitude == 0) then
    match JsonNumber.ofInt? (if lit.negative then -magnitude else magnitude) with
    | some n => some n
    | none => lit.float?.bind JsonNumber.ofBinary64?
  else lit.float?.bind JsonNumber.ofBinary64?

def readDigits? (cs : List Char) : Option (List Char × List Char) :=
  match spanDigits cs with
  | ([], _) => none
  | found => some found

def readLiteral? (cs : List Char) : Option (Literal × List Char) := do
  let (negative, cs) := match cs with
    | '-' :: rest => (true, rest)
    | _ => (false, cs)
  let (whole, cs) ← readDigits? cs
  if whole.head? = some '0' ∧ whole.length ≠ 1 then none
  else
    let (fraction, cs) ← match cs with
      | '.' :: rest => (readDigits? rest).map fun (digits, rest) => (some digits, rest)
      | _ => some (none, cs)
    let (exponent, cs) ← match cs with
      | c :: rest =>
        if c = 'e' ∨ c = 'E' then
          let (minus, rest) := splitSign rest
          (readDigits? rest).map fun (digits, rest) => (some (minus, digits), rest)
        else some (none, cs)
      | [] => some (none, cs)
    some (⟨negative, whole, fraction, exponent⟩, cs)

end RuleQuery.Json
