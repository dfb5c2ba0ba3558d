import RuleQuery.Binary64.Basic

/-!
The fewest decimal digits that identify a finite number. The numbers that round to `x` form an
interval between the midpoints to its two neighbours, ends included when the pattern of `x` is
even. For 1, 2, … 17 digits the two neighbours of `x` on that decimal grid are tested; the first
grid with a hit wins, and of two hits the nearer one.
-/
namespace RuleQuery.Binary64

structure Digits where
  digits : Nat
  exponent : Int
deriving DecidableEq

inductive Tie where
  | toEven
  | up
deriving DecidableEq

def decimalLength (n : Nat) : Nat :=
  if n < 10 then 1 else decimalLength (n / 10) + 1
termination_by n
decreasing_by omega

/-- All decimals are scaled by this power of ten, so that every grid step is a whole number. -/
def gridScale : Nat := 400

def readsBack (magnitude candidate : Nat) : Bool :=
  let here := unitsOf magnitude
  let low := (unitsOf (magnitude - 1) + here) * pow10 gridScale
  let high := (here + unitsOf (magnitude + 1)) * pow10 gridScale
  let twice := 2 * candidate * one
  if magnitude % 2 == 0 then low ≤ twice && twice ≤ high else low < twice && twice < high

def pick? (tie : Tie) (magnitude step : Nat) : Option Nat :=
  let scaled := unitsOf magnitude * pow10 gridScale
  let below := scaled / (one * step)
  let lowHit := readsBack magnitude (below * step)
  let highHit := readsBack magnitude ((below + 1) * step)
  if lowHit && highHit then
    match compare (2 * scaled) ((2 * below + 1) * step * one) with
    | .lt => some below
    | .gt => some (below + 1)
    | .eq =>
      match tie with
      | .toEven => some (below + below % 2)
      | .up => some (below + 1)
  else if lowHit then some below
  else if highHit then some (below + 1)
  else none

/-- Tries grids of increasing fineness: `top` is the power of ten just above the scaled value. -/
def searchGrids (tie : Tie) (magnitude top : Nat) : (tries digits : Nat) → Nat × Nat
  | 0, digits =>
    (unitsOf magnitude * pow10 gridScale / (one * pow10 (top - digits)), top - digits)
  | tries + 1, digits =>
    match pick? tie magnitude (pow10 (top - digits)) with
    | some d => (d, top - digits)
    | none => searchGrids tie magnitude top tries (digits + 1)

def stripZeros (digits : Nat) (exponent : Int) : Digits :=
  if h : digits ≠ 0 ∧ digits % 10 = 0 then stripZeros (digits / 10) (exponent + 1)
  else ⟨digits, exponent⟩
termination_by digits
decreasing_by omega

def shortest (tie : Tie) (x : Binary64) : Digits :=
  let top := decimalLength (x.units * pow10 gridScale / one)
  let (digits, power) := searchGrids tie x.magnitudeBits top 17 1
  stripZeros digits ((power : Int) - gridScale)

end RuleQuery.Binary64
