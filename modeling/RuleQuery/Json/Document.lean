import RuleQuery.Json.Numeral

/-!
Document text. Reading a text yields its tree with members in the order written. Parts that are
well formed but denote nothing (a number out of range, an escaped half of a surrogate pair, nesting
deeper than 127) are kept as `unreadable`: they fail only where their value is asked for, so a part
that is ignored does no harm.
-/
namespace RuleQuery

inductive Document where
  | null
  | bool (value : Bool)
  | number (value : JsonNumber)
  | string (value : String)
  | array (items : List Document)
  | object (members : List (String × Document))
  | unreadable

namespace Document

def isSpace (c : Char) : Bool := c == ' ' || c == '\n' || c == '\t' || c == '\r'

def skipSpace (cs : List Char) : List Char := cs.dropWhile isSpace

def hexDigit? (c : Char) : Option Nat :=
  let n := c.toNat
  if '0'.toNat ≤ n ∧ n ≤ '9'.toNat then some (n - '0'.toNat)
  else if 'a'.toNat ≤ n ∧ n ≤ 'f'.toNat then some (n - 'a'.toNat + 10)
  else if 'A'.toNat ≤ n ∧ n ≤ 'F'.toNat then some (n - 'A'.toNat + 10)
  else none

def hexValue? (a b c d : Char) : Option Nat := do
  return 4096 * (← hexDigit? a) + 256 * (← hexDigit? b) + 16 * (← hexDigit? c) + (← hexDigit? d)

def escaped? (c : Char) : Option Char :=
  match c with
  | '"' => some '"'
  | '\\' => some '\\'
  | '/' => some '/'
  | 'b' => some '\x08'
  | 'f' => some '\x0c'
  | 'n' => some '\n'
  | 'r' => some '\r'
  | 't' => some '\t'
  | _ => none

def readUnits? (units : List Nat) : List Char → Option (List Nat × List Char)
  | [] => none
  | '"' :: rest => some (units, rest)
  | '\\' :: 'u' :: a :: b :: c :: d :: rest =>
    match hexValue? a b c d with
    | some unit => readUnits? ((unit + 0x200000) :: units) rest
    | none => none
  | '\\' :: c :: rest =>
    match escaped? c with
    | some e => readUnits? (e.toNat :: units) rest
    | none => none
  | c :: rest => if c.toNat < 0x20 then none else readUnits? (c.toNat :: units) rest

/-- Joins escaped units, which are marked by an added 2^21, to characters: a high surrogate needs a
low one right behind it. -/
def joinUnits? : List Nat → Option (List Char)
  | [] => some []
  | unit :: rest =>
    if unit < 0x200000 then (joinUnits? rest).map (Char.ofNat unit :: ·)
    else
      let u := unit - 0x200000
      if u < 0xd800 ∨ 0xdfff < u then (joinUnits? rest).map (Char.ofNat u :: ·)
      else
        match rest with
        | next :: rest =>
          let low := next - 0x200000
          if u < 0xdc00 ∧ 0x20dc00 ≤ next ∧ next ≤ 0x20dfff then
            (joinUnits? rest).map
              (Char.ofNat (0x10000 + (u - 0xd800) * 0x400 + (low - 0xdc00)) :: ·)
          else none
        | [] => none

def readString? (cs : List Char) : Option (Option String × List Char) :=
  (readUnits? [] cs).map fun (units, rest) =>
    ((joinUnits? units.reverse).map String.ofList, rest)

def readWord? (word : String) (cs : List Char) : Option (List Char) :=
  if word.toList.isPrefixOf cs then some (cs.drop word.length) else none

def nested (depth : Nat) (d : Document) : Document := if depth < 127 then d else unreadable

def ofRawMembers (members : List (Option String × Document)) : Document :=
  match members.mapM fun (key, value) => key.map (·, value) with
  | some members => object members
  | none => unreadable

mutual

/-- Reads one value. Each step spends fuel; twice the length of the text is enough. -/
def readValue? (fuel depth : Nat) (cs : List Char) : Option (Document × List Char) :=
  match fuel with
  | 0 => none
  | fuel + 1 =>
    match skipSpace cs with
    | [] => none
    | '"' :: rest =>
      (readString? rest).map fun (text, rest) => (text.elim unreadable string, rest)
    | '[' :: rest =>
      match skipSpace rest with
      | ']' :: rest => some (nested depth (array []), rest)
      | _ =>
        (readItems? fuel depth rest).map fun (items, rest) => (nested depth (array items), rest)
    | '\x7b' :: rest =>
      match skipSpace rest with
      | '\x7d' :: rest => some (nested depth (object []), rest)
      | _ =>
        (readMembers? fuel depth rest).map fun (members, rest) =>
          (nested depth (ofRawMembers members), rest)
    | 't' :: rest => (readWord? "rue" rest).map (bool true, ·)
    | 'f' :: rest => (readWord? "alse" rest).map (bool false, ·)
    | 'n' :: rest => (readWord? "ull" rest).map (null, ·)
    | cs => readLiteral cs

def readLiteral (cs : List Char) : Option (Document × List Char) :=
  (Json.readLiteral? cs).map fun (lit, rest) => (lit.value?.elim unreadable number, rest)

def readItems? (fuel depth : Nat) (cs : List Char) : Option (List Document × List Char) :=
  match fuel with
  | 0 => none
  | fuel + 1 => do
    let (item, rest) ← readValue? fuel (depth + 1) cs
    match skipSpace rest with
    | ',' :: rest => (readItems? fuel depth rest).map fun (items, rest) => (item :: items, rest)
    | ']' :: rest => some ([item], rest)
    | _ => none

def readMembers? (fuel depth : Nat) (cs : List Char) :
    Option (List (Option String × Document) × List Char) :=
  match fuel with
  | 0 => none
  | fuel + 1 =>
    match skipSpace cs with
    | '"' :: rest => do
      let (key, rest) ← readString? rest
      let rest ← match skipSpace rest with
        | ':' :: rest => some rest
        | _ => none
      let (value, rest) ← readValue? fuel (depth + 1) rest
      match skipSpace rest with
      | ',' :: rest =>
        (readMembers? fuel depth rest).map fun (members, rest) => ((key, value) :: members, rest)
      | '\x7d' :: rest => some ([(key, value)], rest)
      | _ => none
    | _ => none

end

def ofText? (text : String) : Option Document := do
  let cs := text.toList
  let (d, rest) ← readValue? (2 * cs.length + 2) 0 cs
  if skipSpace rest = [] then some d else none

mutual

def toJson? : Document → Option Json
  | null => some .null
  | bool b => some (.bool b)
  | number n => some (.number n)
  | string s => some (.string s)
  | array items => (itemsToJson? items).map .array
  | object members => (membersToJson? members).map .ofMembers
  | unreadable => none

def itemsToJson? : List Document → Option (List Json)
  | [] => some []
  | d :: rest => do return (← d.toJson?) :: (← itemsToJson? rest)

def membersToJson? : List (String × Document) → Option (List (String × Json))
  | [] => some []
  | (key, d) :: rest => do return (key, ← d.toJson?) :: (← membersToJson? rest)

end

mutual

def ofJson : Json → Document
  | .null => null
  | .bool b => bool b
  | .number n => number n
  | .string s => string s
  | .array items => array (ofItems items)
  | .object members => object (ofMembers members)

def ofItems : List Json → List Document
  | [] => []
  | v :: rest => ofJson v :: ofItems rest

def ofMembers : List (String × Json) → List (String × Document)
  | [] => []
  | (key, v) :: rest => (key, ofJson v) :: ofMembers rest

end

end Document

def Json.ofText? (text : String) : Option Json := (Document.ofText? text).bind Document.toJson?

end RuleQuery
