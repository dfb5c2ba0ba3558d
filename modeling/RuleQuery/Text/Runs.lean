import RuleQuery.Text.Ranges

/-!
Tables that are written as text. A word of a table starts with a code point or a range of them, in
hexadecimal; what follows is the value. In a table of runs each entry reaches to the start of the
next one.
-/
namespace RuleQuery.Text

/-- A run of code points that share a value, from `start` to the next run. -/
structure Run where
  start : Nat
  code : String

def spanHex (n : Nat) : List Char → Nat × List Char
  | [] => (n, [])
  | c :: rest =>
    if c.isDigit then spanHex (16 * n + (c.toNat - '0'.toNat)) rest
    else if 'a' ≤ c ∧ c ≤ 'f' then spanHex (16 * n + (c.toNat - 'a'.toNat + 10)) rest
    else (n, c :: rest)

def spanRange (word : List Char) : (Nat × Nat) × List Char :=
  match spanHex 0 word with
  | (first, '-' :: rest) =>
    let (last, rest) := spanHex 0 rest
    ((first, last), rest)
  | (first, rest) => ((first, first), rest)

def tableWords (table : String) : List (List Char) :=
  (table.splitOn "\n").flatMap fun line =>
    ((line.splitOn " ").filter (! ·.isEmpty)).map String.toList

def runsOfText (table : String) : Array Run :=
  (tableWords table).toArray.map fun word =>
    let (start, code) := spanHex 0 word
    ⟨start, String.ofList code⟩

def rangesOfText (table : String) : List (Nat × Nat) :=
  (tableWords table).map fun word => (spanRange word).1

def lookupRun (runs : Array Run) (c : Char) : String :=
  match lastStarting? runs (·.start) c.toNat with
  | some run => run.code
  | none => ""

def runRanges (accepts : String → Bool) : List Run → List (Nat × Nat)
  | [] => []
  | [run] => if accepts run.code then [(run.start, 0x10ffff)] else []
  | run :: next :: rest =>
    if accepts run.code then (run.start, next.start - 1) :: runRanges accepts (next :: rest)
    else runRanges accepts (next :: rest)

end RuleQuery.Text
