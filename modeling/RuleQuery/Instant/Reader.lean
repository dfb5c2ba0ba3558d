import RuleQuery.Binary64.Numeral
import RuleQuery.Instant.Basic
import RuleQuery.Text.Blank

/-!
Reading points in time. The strict form is `YYYY-MM-DDThh:mm:ss[.f]` with an offset, with `t` or
one space in place of `T`; a plain date means midnight UTC. The lenient form, used for stored
documents, allows white space between its parts, a year with a sign, and single digits.
-/
namespace RuleQuery.Instant

def readNumber? (least most : Nat) (cs : List Char) : Option (Nat × List Char) :=
  let digits := (cs.take most).takeWhile Char.isDigit
  if digits.length < least then none else some (decimalValue digits, cs.drop digits.length)

def readChar? (expected : Char) : List Char → Option (List Char)
  | c :: rest => if c = expected then some rest else none
  | [] => none

def readSeparator? : List Char → Option (List Char)
  | c :: rest => if c = 'T' ∨ c = 't' ∨ c = ' ' then some rest else none
  | [] => none

def readFraction? : List Char → Option (Nat × List Char)
  | '.' :: rest =>
    let digits := (rest.take 9).takeWhile Char.isDigit
    if digits = [] then none
    else some (decimalValue digits * pow10 (9 - digits.length), rest.dropWhile Char.isDigit)
  | cs => some (0, cs)

/-- Reads an offset from UTC: `Z`, or a sign, two digits of hours, what `between` accepts, and two
digits of minutes. A minus sign may also be U+2212. -/
def readOffset? (between : List Char → Option (List Char)) :
    List Char → Option (Int × List Char)
  | [] => none
  | c :: rest =>
    if c = 'Z' ∨ c = 'z' then some (0, rest)
    else if c = '+' ∨ c = '-' ∨ c = '−' then do
      let (hours, rest) ← readNumber? 2 2 rest
      let rest ← between rest
      let (minutes, rest) ← readNumber? 2 2 rest
      if 59 < minutes then none
      else
        let seconds : Int := (hours * 3600 + minutes * 60 : Nat)
        some (if c = '+' then seconds else -seconds, rest)
    else none

def ofStrict? (cs : List Char) : Option Instant := do
  let (year, cs) ← readNumber? 4 4 cs
  let cs ← readChar? '-' cs
  let (month, cs) ← readNumber? 2 2 cs
  let cs ← readChar? '-' cs
  let (day, cs) ← readNumber? 2 2 cs
  let cs ← readSeparator? cs
  let (hour, cs) ← readNumber? 2 2 cs
  let cs ← readChar? ':' cs
  let (minute, cs) ← readNumber? 2 2 cs
  let cs ← readChar? ':' cs
  let (second, cs) ← readNumber? 2 2 cs
  let (nanos, cs) ← readFraction? cs
  let (offset, cs) ← readOffset? (readChar? ':') cs
  if cs = [] then ofParts? ⟨⟨year, month, day⟩, hour, minute, second, nanos, offset⟩ else none

def readLoose? (cs : List Char) : Option (Nat × List Char) := readNumber? 1 2 (Text.trimStart cs)

def readYear? (cs : List Char) : Option (Int × List Char) :=
  match Text.trimStart cs with
  | '-' :: rest => (readNumber? 1 rest.length rest).map fun (n, rest) => (-(n : Int), rest)
  | '+' :: rest => (readNumber? 1 rest.length rest).map fun (n, rest) => ((n : Int), rest)
  | cs => (readNumber? 1 4 cs).map fun (n, rest) => ((n : Int), rest)

def readDate? (gap : List Char → List Char) (cs : List Char) : Option (Date × List Char) := do
  let (year, cs) ← readYear? cs
  let cs ← readChar? '-' (gap cs)
  let (month, cs) ← readLoose? cs
  let cs ← readChar? '-' (gap cs)
  let (day, cs) ← readLoose? cs
  some (⟨year, month, day⟩, cs)

def ofDate? (cs : List Char) : Option Instant := do
  let (date, cs) ← readDate? id cs
  if cs = [] then ofParts? ⟨date, 0, 0, 0, 0, 0⟩ else none

def ofLenient? (s : String) : Option Instant := do
  let (date, cs) ← readDate? Text.trimStart s.toList
  let cs ← readSeparator? cs
  let (hour, cs) ← readLoose? cs
  let cs ← readChar? ':' (Text.trimStart cs)
  let (minute, cs) ← readLoose? cs
  let cs ← readChar? ':' (Text.trimStart cs)
  let (second, cs) ← readLoose? cs
  let (nanos, cs) ← readFraction? cs
  let cs := Text.trimStart cs
  let (offset, cs) ←
    if (cs.take 3).map Char.toLower = ['u', 't', 'c'] then some (0, cs.drop 3)
    else readOffset? (fun cs => some (cs.dropWhile fun c => c = ':' || Text.isBlank c)) cs
  if Text.trimStart cs = [] then ofParts? ⟨date, hour, minute, second, nanos, offset⟩ else none

/-- Reads the strict form or a plain date between white space. -/
def ofText? (s : String) : Option Instant :=
  let cs := Text.trimChars s.toList
  (ofStrict? cs).or (ofDate? cs)

end RuleQuery.Instant
