import RuleQuery.Pattern.Bracket
import RuleQuery.Pattern.Size

namespace RuleQuery.Pattern

structure Term where
  pattern : Pattern
  depth : Nat

structure Item extends Term where
  repeatable : Bool

def Item.settings : Item := ⟨⟨.empty, 0⟩, false⟩

def deepest (terms : List Term) : Nat := terms.foldl (fun depth term => max depth term.depth) 0

def joinItems (items : List Item) : Term :=
  match items with
  | [] => ⟨.empty, 0⟩
  | [item] => item.toTerm
  | _ =>
    let terms := (items.map Item.toTerm).reverse
    ⟨inSequence (terms.map (·.pattern)), deepest terms + 1⟩

def joinAlternatives (before : List Term) (last : Term) : Term :=
  match before with
  | [] => last
  | _ =>
    let terms := (last :: before).reverse
    ⟨oneOf (terms.map (·.pattern)), deepest terms + 1⟩

def literalSet (flags : Flags) (c : Char) : CharSet :=
  if flags.unicode || c.toNat < 0x80 then flags.foldSet (.single c) else .single c

def Atom.toPattern (flags : Flags) : Atom → Pattern
  | literal c => .char (literalSet flags c)
  | set chars => .char chars
  | place condition => .place condition

def undotted (flags : Flags) : CharSet :=
  if flags.dotAll then .empty
  else if flags.crlf then .ofRanges [('\n'.toNat, '\n'.toNat), ('\r'.toNat, '\r'.toNat)]
  else .single '\n'

def readAtom? (flags : Flags) : List Char → Option (Term × List Char)
  | [] => none
  | '\\' :: rest =>
    (readEscape? flags rest).map fun (atom, rest) => (⟨atom.toPattern flags, 0⟩, rest)
  | '[' :: rest =>
    (readSet? flags rest).map fun (set, rest) => (⟨.char set.chars, set.depth⟩, rest)
  | '.' :: rest =>
    (flags.negate? true (undotted flags)).map fun set => (⟨.char set, 0⟩, rest)
  | '^' :: rest =>
    some (⟨.place (if flags.multiline then .lineStart flags.crlf else .textStart), 0⟩, rest)
  | '$' :: rest =>
    some (⟨.place (if flags.multiline then .lineEnd flags.crlf else .textEnd), 0⟩, rest)
  | c :: rest => some (⟨.char (literalSet flags c), 0⟩, rest)

def readCount? (flags : Flags) (cs : List Char) : Option (Nat × List Char) :=
  let (digits, rest) := flags.span Char.isDigit (Text.trimStart cs)
  if digits ≠ [] ∧ decimalValue digits < UInt32.size then
    some (decimalValue digits, Text.trimStart rest)
  else none

def readBounds? (flags : Flags) (cs : List Char) : Option ((Nat × Option Nat) × List Char) := do
  let (least, rest) ← readCount? flags (flags.skip cs)
  match rest with
  | '\x7d' :: rest => some ((least, some least), rest)
  | ',' :: rest =>
    match flags.skip rest with
    | '\x7d' :: rest => some ((least, none), rest)
    | rest =>
      let (most, rest) ← readCount? flags rest
      match rest with
      | '\x7d' :: rest => if most < least then none else some ((least, some most), rest)
      | _ => none
  | _ => none

def readGreed (flags : Flags) (cs : List Char) : Bool × List Char :=
  match cs with
  | '?' :: rest => (flags.swapGreed, rest)
  | _ => (!flags.swapGreed, cs)

def repeatLast? (bounds : Nat × Option Nat) (greedy : Bool) : List Item → Option (List Item)
  | item :: items =>
    if item.repeatable then
      let repeated := item.pattern.repeated bounds.1 bounds.2 greedy
      some (⟨⟨repeated, item.depth + 1⟩, true⟩ :: items)
    else none
  | [] => none

def readFlags? (flags : Flags) (on : Bool) (used : List Char) :
    List Char → Option (Flags × List Char × List Char)
  | [] => none
  | c :: rest =>
    if c = ':' ∨ c = ')' then
      if used.head? = some '-' then none else some (flags, used, c :: rest)
    else if used.contains c then none
    else if c = '-' then readFlags? flags false (c :: used) rest
    else
      match flags.set? c on with
      | some flags => readFlags? flags on (c :: used) rest
      | none => none

def readName? (cs : List Char) : Option (String × List Char) :=
  let name := cs.takeWhile (· != '>')
  let isLetter (c : Char) : Bool := c == '_' || CharSet.alphabetic.contains c
  match name, cs.drop name.length with
  | first :: others, _ :: rest =>
    if isLetter first &&
        others.all fun c => isLetter c || ".[]".toList.contains c || CharSet.numeric.contains c then
      some (String.ofList name, rest)
    else none
  | _, _ => none

/-- How a group starts: it only sets flags, it matches its body under some flags, or it also
remembers the match, by name or not. -/
inductive GroupStart where
  | settings (flags : Flags)
  | plain (flags : Flags)
  | capture (name : Option String)

def readGroupStart? (flags : Flags) (cs : List Char) : Option (GroupStart × List Char) :=
  match flags.skip cs with
  | '?' :: '=' :: _ | '?' :: '!' :: _ | '?' :: '<' :: '=' :: _ | '?' :: '<' :: '!' :: _ => none
  | '?' :: 'P' :: '<' :: rest | '?' :: '<' :: rest =>
    (readName? rest).map fun (name, rest) => (.capture (some name), rest)
  | '?' :: rest => do
    let (inner, used, rest) ← readFlags? flags true [] rest
    match rest with
    | ':' :: rest => some (.plain inner, rest)
    | _ :: rest => if used = [] then none else some (.settings inner, rest)
    | [] => none
  | rest => some (.capture none, rest)

structure Cursor where
  rest : List Char
  flags : Flags
  names : List String

/-- Reads alternatives up to the end of the pattern, or of the group when `inGroup`. `before` holds
the alternatives read so far and `items` the parts of the current one, both last one first. -/
def readBody? (inGroup : Bool) :
    (fuel : Nat) → Cursor → (before : List Term) → (items : List Item) → Option (Term × Cursor)
  | 0, _, _, _ => none
  | fuel + 1, cursor, before, items =>
    let flags := cursor.flags
    let finish (rest : List Char) : Term × Cursor :=
      (joinAlternatives before (joinItems items), { cursor with rest })
    let repeated (bounds : Nat × Option Nat) (rest : List Char) : Option (Term × Cursor) :=
      let (greedy, rest) := readGreed flags rest
      match repeatLast? bounds greedy items with
      | some items => readBody? inGroup fuel { cursor with rest } before items
      | none => none
    match flags.skip cursor.rest with
    | [] => if inGroup then none else some (finish [])
    | ')' :: rest => if inGroup then some (finish rest) else none
    | '|' :: rest => readBody? inGroup fuel { cursor with rest } (joinItems items :: before) []
    | '?' :: rest => repeated (0, some 1) rest
    | '*' :: rest => repeated (0, none) rest
    | '+' :: rest => repeated (1, none) rest
    | '\x7b' :: rest =>
      match readBounds? flags rest with
      | some (bounds, rest) => repeated bounds (flags.skip rest)
      | none => none
    | '(' :: rest =>
      match readGroupStart? flags rest with
      | none => none
      | some (.settings inner, rest) =>
        readBody? inGroup fuel { cursor with rest, flags := inner } before (.settings :: items)
      | some (.plain inner, rest) =>
        match readBody? true fuel { cursor with rest, flags := inner } [] [] with
        | none => none
        | some (⟨body, depth⟩, stop) =>
          readBody? inGroup fuel { stop with flags } before (⟨⟨body, depth + 1⟩, true⟩ :: items)
      | some (.capture name, rest) =>
        if name.any cursor.names.contains then none
        else
          let start : Cursor := ⟨rest, flags, name.toList ++ cursor.names⟩
          match readBody? true fuel start [] [] with
          | none => none
          | some (⟨body, depth⟩, stop) =>
            readBody? inGroup fuel { stop with flags } before
              (⟨⟨.group body, depth + 1⟩, true⟩ :: items)
    | cs =>
      match readAtom? flags cs with
      | some (term, rest) =>
        readBody? inGroup fuel { cursor with rest } before (⟨term, true⟩ :: items)
      | none => none

def depthLimit : Nat := 250

def ofText? (text : String) : Option Pattern := do
  let cs := text.toList
  let (term, _) ← readBody? false (cs.length + 1) ⟨cs, .initial, []⟩ [] []
  if term.depth ≤ depthLimit ∧ term.pattern.fitsLimit then some term.pattern else none

end RuleQuery.Pattern
