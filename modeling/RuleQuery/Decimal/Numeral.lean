import RuleQuery.Binary64.Numeral
import RuleQuery.Decimal.Basic
import RuleQuery.Text.Blank

namespace RuleQuery.Decimal

def maxScale : Nat := 28

/-- Rounds at a digit that does not fit. If rounding leaves the range, one place is given up. -/
def roundLast? (mantissa scale : Nat) (next : Char) : Option (Nat × Nat) :=
  if next.toNat - '0'.toNat < 5 then some (mantissa, scale)
  else if mantissa + 1 < bound then some (mantissa + 1, scale)
  else if scale = 0 then none
  else some ((mantissa + 5) / 10, scale - 1)

/-- Ends a numeral that has no room for more places: the next digit rounds, and the digits behind
it count no more. -/
def cut? (mantissa scale : Nat) (cs : List Char) : Option (Nat × Nat) :=
  match cs.filter (· != '_') with
  | [] => some (mantissa, scale)
  | next :: rest =>
    if next.isDigit ∧ rest.all Char.isDigit then roundLast? mantissa scale next else none

def readDigits? (point seen : Bool) (mantissa scale : Nat) : List Char → Option (Nat × Nat)
  | [] => if seen then some (mantissa, scale) else none
  | c :: rest =>
    if c.isDigit then
      let extended := 10 * mantissa + (c.toNat - '0'.toNat)
      let places := if point then scale + 1 else 0
      if bound ≤ extended then if point then cut? mantissa scale (c :: rest) else none
      else if point && maxScale ≤ places then cut? extended places rest
      else readDigits? point true extended places rest
    else if c = '.' ∧ !point then readDigits? true seen mantissa scale rest
    else if c = '_' ∧ seen then readDigits? point true mantissa scale rest
    else none

def ofPlain? (cs : List Char) : Option Decimal := do
  let (negative, digits) := splitSign cs
  let (mantissa, scale) ← readDigits? false false 0 0 digits
  ofParts? (negative && mantissa != 0) mantissa scale

def readPower? (cs : List Char) : Option Nat :=
  let digits := match cs with
    | '+' :: rest => rest
    | _ => cs
  if digits ≠ [] ∧ digits.all Char.isDigit ∧ decimalValue digits < UInt32.size then
    some (decimalValue digits)
  else none

def raise? (d : Decimal) (power : Nat) : Option Decimal :=
  if power ≤ d.scale then ofParts? d.negative d.mantissa (d.scale - power)
  else ofParts? d.negative (d.mantissa * pow10 (power - d.scale)) 0

/-- Divides by a power of ten. Places beyond the last one are rounded away, a half up; a number
that vanishes keeps its sign. -/
def lower? (d : Decimal) (power : Nat) : Option Decimal :=
  let excess := d.scale + power - maxScale
  ofParts? d.negative (Binary64.roundHalfUp d.mantissa (pow10 excess)) (d.scale + power - excess)

def ofScientific? (cs : List Char) : Option Decimal := do
  let isMark := fun c => c = 'e' ∨ c = 'E'
  let base ← ofPlain? (cs.takeWhile fun c => !isMark c)
  match cs.dropWhile fun c => !isMark c with
  | [] => none
  | _ :: '-' :: digits =>
    let power ← (readPower? digits).filter (· ≤ maxScale)
    base.lower? power
  | _ :: digits =>
    let power ← (readPower? digits).filter (· ≤ maxScale)
    base.raise? power

def ofNumeral? (s : String) : Option Decimal :=
  (ofPlain? s.toList).or (ofScientific? s.toList)

def ofText? (s : String) : Option Decimal := ofNumeral? (Text.trim s)

def toText (d : Decimal) : String :=
  let digits := (toString d.mantissa).toList
  let padded := List.replicate (d.scale + 1 - digits.length) '0' ++ digits
  let whole := padded.take (padded.length - d.scale)
  let places := padded.drop (padded.length - d.scale)
  let sign := if d.negative then "-" else ""
  sign ++ String.ofList whole ++ (if d.scale = 0 then "" else "." ++ String.ofList places)

end RuleQuery.Decimal
