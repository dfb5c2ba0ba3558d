import RuleQuery.Binary64.Shortest

namespace RuleQuery.Binary64

/-- The decisions of a written form; the scale of a number is the power of ten just above it. -/
structure Layout where
  tie : Tie
  positional : Int → Bool
  wholeSuffix : String

def plainLayout : Layout := ⟨.up, fun _ => true, ""⟩

/-- Number literals: positional from 10^-5 to below 10^16, whole numbers end in `.0`. -/
def literalLayout : Layout := ⟨.toEven, fun scale => -4 ≤ scale && scale ≤ 16, ".0"⟩

def zeros (n : Nat) : String := String.ofList (List.replicate n '0')

def Layout.write (layout : Layout) (d : Digits) : String :=
  let text := (toString d.digits).toList
  let scale : Int := text.length + d.exponent
  if layout.positional scale then
    if 0 ≤ d.exponent then
      String.ofList text ++ zeros d.exponent.toNat ++ layout.wholeSuffix
    else if 0 < scale then
      String.ofList (text.take scale.toNat) ++ "." ++ String.ofList (text.drop scale.toNat)
    else "0." ++ zeros (-scale).toNat ++ String.ofList text
  else
    let head := String.ofList (text.take 1)
    let tail := if text.length ≤ 1 then "" else "." ++ String.ofList (text.drop 1)
    let power := scale - 1
    head ++ tail ++ "e" ++ (if power < 0 then "-" else "+") ++ toString power.natAbs

def writeFinite (layout : Layout) (x : Binary64) : String :=
  let sign := if x.negative then "-" else ""
  if x.isZero then sign ++ "0" ++ layout.wholeSuffix
  else sign ++ layout.write (shortest layout.tie x)

def toText (x : Binary64) : String :=
  if x.isNaN then "NaN"
  else if x.isFinite then writeFinite plainLayout x
  else if x.negative then "-inf" else "inf"

def toLiteral (x : Binary64) : String := writeFinite literalLayout x

end RuleQuery.Binary64
