import RuleQuery.Json.Document
import RuleQuery.Settings.Tree

namespace RuleQuery.Toml

def isBlank (c : Char) : Bool := c == ' ' || c == '\t'

def skipBlanks (cs : List Char) : List Char := cs.dropWhile isBlank

def isPlain (c : Char) : Bool := c == '\t' || (0x20 ≤ c.toNat && c.toNat != 0x7f)

def readLineEnd? : List Char → Option (List Char)
  | '\n' :: rest => some rest
  | '\r' :: '\n' :: rest => some rest
  | _ => none

def skipComment (cs : List Char) : List Char :=
  match cs with
  | '#' :: rest => rest.dropWhile isPlain
  | cs => cs

def finishLine? (cs : List Char) : Option (List Char) :=
  match skipComment (skipBlanks cs) with
  | [] => some []
  | cs => readLineEnd? cs

def skipLines (fuel : Nat) (cs : List Char) : List Char :=
  match fuel with
  | 0 => skipBlanks cs
  | fuel + 1 =>
    match skipComment (skipBlanks cs) with
    | [] => []
    | cs => (readLineEnd? cs).elim cs (skipLines fuel)

def readCode? (digits : Nat) (cs : List Char) : Option (Char × List Char) := do
  let head := cs.take digits
  guard (head.length = digits)
  let values ← head.mapM Document.hexDigit?
  let code := values.foldl (fun n d => 16 * n + d) 0
  guard (code.isValidChar)
  return (Char.ofNat code, cs.drop digits)

def readEscape? : List Char → Option (Char × List Char)
  | 'b' :: rest => some ('\x08', rest)
  | 't' :: rest => some ('\t', rest)
  | 'n' :: rest => some ('\n', rest)
  | 'f' :: rest => some ('\x0c', rest)
  | 'r' :: rest => some ('\r', rest)
  | '"' :: rest => some ('"', rest)
  | '\\' :: rest => some ('\\', rest)
  | 'u' :: rest => readCode? 4 rest
  | 'U' :: rest => readCode? 8 rest
  | _ => none

def readBasic? (fuel : Nat) (cs : List Char) : Option (List Char × List Char) :=
  match fuel, cs with
  | _, '"' :: rest => some ([], rest)
  | fuel + 1, '\\' :: rest => do
    let (c, rest) ← readEscape? rest
    (readBasic? fuel rest).map fun (text, rest) => (c :: text, rest)
  | fuel + 1, c :: rest =>
    if isPlain c then (readBasic? fuel rest).map fun (text, rest) => (c :: text, rest) else none
  | _, _ => none

def readLiteral? (cs : List Char) : Option (List Char × List Char) :=
  match cs.span fun c => isPlain c && c != '\'' with
  | (text, '\'' :: rest) => some (text, rest)
  | _ => none

/-- Closes a string of several lines after three quotes; up to two more belong to it. -/
def closeLong (quote : Char) (cs : List Char) : List Char × List Char :=
  let extra := (cs.takeWhile (· == quote)).take 2
  (extra, cs.drop extra.length)

def skipContinuation? (cs : List Char) : Option (List Char) := do
  let rest ← readLineEnd? (skipBlanks cs)
  return rest.dropWhile fun c => isBlank c || c == '\n' || c == '\r'

def readLong? (quote : Char) (fuel : Nat) (cs : List Char) : Option (List Char × List Char) :=
  match fuel with
  | 0 => none
  | fuel + 1 =>
    if [quote, quote, quote].isPrefixOf cs then some (closeLong quote (cs.drop 3))
    else
      match cs with
      | '\\' :: rest =>
        if quote == '"' then
          match skipContinuation? rest with
          | some rest => readLong? quote fuel rest
          | none => do
            let (c, rest) ← readEscape? rest
            (readLong? quote fuel rest).map fun (text, rest) => (c :: text, rest)
        else (readLong? quote fuel rest).map fun (text, rest) => ('\\' :: text, rest)
      | '\r' :: '\n' :: rest =>
        (readLong? quote fuel rest).map fun (text, rest) => ('\n' :: text, rest)
      | c :: rest =>
        if isPlain c || c == '\n' then
          (readLong? quote fuel rest).map fun (text, rest) => (c :: text, rest)
        else none
      | [] => none

/-- A line end right behind the opening quotes is left out. -/
def skipFirstLineEnd (cs : List Char) : List Char := (readLineEnd? cs).getD cs

def readString? (cs : List Char) : Option (String × List Char) :=
  let text? :=
    match cs with
    | '"' :: '"' :: '"' :: rest => readLong? '"' cs.length (skipFirstLineEnd rest)
    | '\'' :: '\'' :: '\'' :: rest => readLong? '\'' cs.length (skipFirstLineEnd rest)
    | '"' :: rest => readBasic? cs.length rest
    | '\'' :: rest => readLiteral? rest
    | _ => none
  text?.map fun (text, rest) => (String.ofList text, rest)

def digits? (isDigit : Char → Bool) (cs : List Char) : Option (List Char) :=
  let groups := (String.ofList cs).splitOn "_"
  if groups.all fun group => !group.isEmpty && group.toList.all isDigit then
    some (cs.filter (· != '_'))
  else none

def wholeDigits? (cs : List Char) : Option (List Char) :=
  (digits? Char.isDigit cs).filter fun ds => ds == ['0'] || ds.head? != some '0'

def basedNat? (base : Nat) (cs : List Char) : Option Nat := do
  let isDigit (c : Char) : Bool := (Document.hexDigit? c).any fun d => d < base
  let ds ← digits? isDigit cs
  return ds.foldl (fun n c => base * n + (Document.hexDigit? c).getD 0) 0

/-- An integer; its range is 64 bits. -/
def integer? (cs : List Char) : Option Int := do
  let i : Int ←
    match cs with
    | '0' :: 'x' :: rest => (basedNat? 16 rest).map Int.ofNat
    | '0' :: 'o' :: rest => (basedNat? 8 rest).map Int.ofNat
    | '0' :: 'b' :: rest => (basedNat? 2 rest).map Int.ofNat
    | cs => do
      let (negative, body) := splitSign cs
      let n : Int := decimalValue (← wholeDigits? body)
      return if negative then -n else n
  if -0x8000000000000000 ≤ i ∧ i < 0x8000000000000000 then some i else none

def isFraction (cs : List Char) : Bool :=
  match cs with
  | [] => true
  | '.' :: rest => (digits? Char.isDigit rest).isSome
  | _ => false

def float? (cs : List Char) : Option Binary64 :=
  let (_, body) := splitSign cs
  if ["inf", "nan"].contains (String.ofList body) then Binary64.ofText? (String.ofList cs)
  else
    let (mantissa, exponent) := body.span fun c => c != 'e' && c != 'E'
    let (whole, fraction) := mantissa.span (· != '.')
    let exponentGood :=
      match exponent with
      | [] => !fraction.isEmpty
      | _ :: power => (digits? Char.isDigit (splitSign power).2).isSome
    if (wholeDigits? whole).isSome && isFraction fraction && exponentGood then
      Binary64.ofText? (String.ofList (cs.filter (· != '_')))
    else none

def isWordChar (c : Char) : Bool :=
  c.isAlphanum || c == '_' || c == '+' || c == '-' || c == '.'

def readWord? (cs : List Char) : Option (Setting × List Char) :=
  let (word, rest) := cs.span isWordChar
  let value? : Option Setting :=
    if word = "true".toList then some (.bool true)
    else if word = "false".toList then some (.bool false)
    else ((integer? word).map .integer).orElse fun _ => (float? word).map .float
  value?.map fun value => (value, rest)

def readKey? (fuel : Nat) (cs : List Char) : Option (List String × List Char) :=
  match fuel with
  | 0 => none
  | fuel + 1 => do
    let (part, rest) ←
      match skipBlanks cs with
      | '"' :: rest => (readBasic? rest.length.succ rest).map fun (text, rest) => (text, rest)
      | '\'' :: rest => readLiteral? rest
      | cs =>
        match cs.span Setting.isNameChar with
        | ([], _) => none
        | found => some found
    match skipBlanks rest with
    | '.' :: rest =>
      (readKey? fuel rest).map fun (parts, rest) => (String.ofList part :: parts, rest)
    | rest => some ([String.ofList part], rest)

end RuleQuery.Toml
