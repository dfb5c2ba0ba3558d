import RuleQuery.Binary64.Numeral
import RuleQuery.Pattern.Basic
import RuleQuery.Pattern.Flags

namespace RuleQuery.Pattern

inductive Atom where
  | literal (c : Char)
  | set (chars : CharSet)
  | place (condition : Place)

def isEscapable (c : Char) : Bool :=
  c.toNat < 0x80 && !c.isAlphanum && c != '<' && c != '>'

def hexDigit? (c : Char) : Option Nat :=
  if c.isDigit then some (c.toNat - '0'.toNat)
  else if 'a' ≤ c ∧ c ≤ 'f' then some (c.toNat - 'a'.toNat + 10)
  else if 'A' ≤ c ∧ c ≤ 'F' then some (c.toNat - 'A'.toNat + 10)
  else none

def hexChar? (digits : List Char) : Option Char := do
  let values ← digits.mapM hexDigit?
  let n := values.foldl (fun n d => min (16 * n + d) 0x110000) 0
  if values ≠ [] ∧ n.isValidChar then some (Char.ofNat n) else none

def takeSignificant? (flags : Flags) : (width : Nat) → List Char → Option (List Char × List Char)
  | 0, cs => some ([], cs)
  | width + 1, cs =>
    match flags.skip cs with
    | [] => none
    | c :: rest =>
      match takeSignificant? flags width rest with
      | some (taken, rest) => some (c :: taken, rest)
      | none => none

/-- Reads the number of a character: digits in braces, or a fixed number of them. Two digits alone
number a byte unless the Unicode flag is set. -/
def readHex? (flags : Flags) (width : Nat) (cs : List Char) : Option (Char × List Char) :=
  match flags.skip cs with
  | '\x7b' :: rest =>
    match flags.span (· != '\x7d') rest with
    | (digits, _ :: rest) => (hexChar? digits).map (·, rest)
    | (_, []) => none
  | cs => do
    let (digits, rest) ← takeSignificant? flags width cs
    let c ← hexChar? digits
    if width = 2 ∧ !flags.unicode ∧ 0x80 ≤ c.toNat then none else some (c, rest)

/-- The set of a property, given as it stands in a pattern. Every sign between a property and its
value asks for the characters that have this value. -/
def property? (name : String) : Option CharSet :=
  let split (separator : String) : Option (String × String) :=
    match name.splitOn separator with
    | first :: second :: rest => some (first, separator.intercalate (second :: rest))
    | _ => none
  match ((split "!=").or (split ":")).or (split "=") with
  | some (property, value) => CharSet.withValue? property value
  | none => CharSet.named? name

def readProperty? (flags : Flags) (negated : Bool) (cs : List Char) :
    Option (CharSet × List Char) := do
  let (set, rest) ← match flags.skip cs with
    | '\x7b' :: rest =>
      match flags.span (· != '\x7d') rest with
      | (name, _ :: rest) => (property? (String.ofList name)).map (·, rest)
      | (_, []) => none
    | '\\' :: _ => none
    | c :: rest => (CharSet.named? c.toString).map (·, rest)
    | [] => none
  if flags.unicode then
    let set ← flags.negate? negated (flags.foldSet set)
    some (set, rest)
  else none

/-- Reads a boundary after its letter: a plain one, or a named one in braces. A brace that holds no
name starts a repetition. -/
def readBoundary? (flags : Flags) (cs : List Char) : Option (Place × List Char) :=
  let word := flags.wordSet
  match cs with
  | '\x7b' :: inside =>
    match flags.skip inside with
    | [] => none
    | inside =>
      let (name, rest) := flags.span (fun c => c.isAlpha || c == '-') inside
      if name = [] then some (.boundary word, cs)
      else
        match rest with
        | '\x7d' :: rest =>
          match String.ofList name with
          | "start" => some (.wordStart word, rest)
          | "end" => some (.wordEnd word, rest)
          | "start-half" => some (.halfStart word, rest)
          | "end-half" => some (.halfEnd word, rest)
          | _ => none
        | _ => none
  | _ => some (.boundary word, cs)

def readEscape? (flags : Flags) : List Char → Option (Atom × List Char)
  | [] => none
  | c :: rest =>
    let class? (negated : Bool) (set : CharSet) : Option (Atom × List Char) :=
      (flags.negate? negated set).map fun set => (.set set, rest)
    match c with
    | 'x' => (readHex? flags 2 rest).map fun (c, rest) => (.literal c, rest)
    | 'u' => (readHex? flags 4 rest).map fun (c, rest) => (.literal c, rest)
    | 'U' => (readHex? flags 8 rest).map fun (c, rest) => (.literal c, rest)
    | 'p' => (readProperty? flags false rest).map fun (set, rest) => (.set set, rest)
    | 'P' => (readProperty? flags true rest).map fun (set, rest) => (.set set, rest)
    | 'd' => class? false flags.digitSet
    | 'D' => class? true flags.digitSet
    | 's' => class? false flags.spaceSet
    | 'S' => class? true flags.spaceSet
    | 'w' => class? false flags.wordSet
    | 'W' => class? true flags.wordSet
    | 'a' => some (.literal '\x07', rest)
    | 'f' => some (.literal '\x0c', rest)
    | 't' => some (.literal '\t', rest)
    | 'n' => some (.literal '\n', rest)
    | 'r' => some (.literal '\r', rest)
    | 'v' => some (.literal '\x0b', rest)
    | 'A' => some (.place .textStart, rest)
    | 'z' => some (.place .textEnd, rest)
    | 'b' => (readBoundary? flags rest).map fun (condition, rest) => (.place condition, rest)
    | 'B' => some (.place (.inside flags.wordSet), rest)
    | '<' => some (.place (.wordStart flags.wordSet), rest)
    | '>' => some (.place (.wordEnd flags.wordSet), rest)
    | c => if isEscapable c then some (.literal c, rest) else none

end RuleQuery.Pattern
