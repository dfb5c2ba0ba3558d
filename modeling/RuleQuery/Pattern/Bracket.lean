import RuleQuery.Pattern.Escape

namespace RuleQuery.Pattern

structure SetTerm where
  chars : CharSet
  depth : Nat

def SetTerm.unite (items : List SetTerm) : SetTerm :=
  let deepest := items.foldl (fun depth item => max depth item.depth) 0
  ⟨CharSet.unions (items.map (·.chars)), if items.length < 2 then deepest else deepest + 1⟩

inductive SetOperation where
  | intersection
  | difference
  | symmetricDifference

def SetOperation.apply (op : SetOperation) (a b : CharSet) : CharSet :=
  match op with
  | intersection => a.intersection b
  | difference => a.difference b
  | symmetricDifference => a.symmetricDifference b

structure OpenSet where
  left : Option (SetTerm × SetOperation)
  items : List SetTerm

namespace OpenSet

def value (flags : Flags) (s : OpenSet) : SetTerm :=
  let right := SetTerm.unite s.items
  match s.left with
  | none => right
  | some (left, op) =>
    ⟨op.apply (flags.foldSet left.chars) (flags.foldSet right.chars),
      max left.depth right.depth + 1⟩

def add (s : OpenSet) (item : SetTerm) : OpenSet := { s with items := item :: s.items }

def operate (flags : Flags) (s : OpenSet) (op : SetOperation) : OpenSet :=
  ⟨some (s.value flags, op), []⟩

def close? (flags : Flags) (negated : Bool) (s : OpenSet) : Option SetTerm :=
  let ⟨chars, depth⟩ := s.value flags
  (flags.negate? negated (flags.foldSet chars)).map fun chars => ⟨chars, depth + 1⟩

end OpenSet

def readAsciiClass? (cs : List Char) : Option ((Bool × CharSet) × List Char) :=
  match cs with
  | ':' :: rest =>
    let (negated, rest) := match rest with
      | '^' :: rest => (true, rest)
      | _ => (false, rest)
    let name := rest.takeWhile (· != ':')
    match rest.drop name.length with
    | ':' :: ']' :: rest =>
      (CharSet.asciiClass? (String.ofList name)).map fun set => ((negated, set), rest)
    | _ => none
  | _ => none

def readSetItem? (flags : Flags) : List Char → Option (Atom × List Char)
  | [] => none
  | '\\' :: rest => readEscape? flags rest
  | c :: rest => some (.literal c, rest)

def Atom.set? (flags : Flags) : Atom → Option CharSet
  | literal c => if flags.unicode || c.toNat < 0x80 then some (.single c) else none
  | set chars => some chars
  | place _ => none

def rangeSet? (flags : Flags) : Atom → Atom → Option CharSet
  | .literal a, .literal b =>
    if b < a ∨ (!flags.unicode ∧ 0x80 ≤ b.toNat) then none else some (.range a.toNat b.toNat)
  | _, _ => none

/-- Reads an item or a range of a bracket. A hyphen in front of a closing bracket or of another
hyphen joins no range. -/
def readSetRange? (flags : Flags) (cs : List Char) : Option (CharSet × List Char) := do
  let (first, rest) ← readSetItem? flags cs
  match flags.skip rest with
  | '-' :: behind =>
    if flags.peek? behind = some ']' ∨ flags.peek? behind = some '-' then
      (first.set? flags).map (·, '-' :: behind)
    else
      let (last, rest) ← readSetItem? flags (flags.skip behind)
      (rangeSet? flags first last).map (·, rest)
  | rest => (first.set? flags).map (·, rest)

def readSetStart (flags : Flags) (cs : List Char) : Bool × OpenSet × List Char :=
  let (negated, cs) := match flags.skip cs with
    | '^' :: rest => (true, rest)
    | cs => (false, cs)
  let (hyphens, cs) := flags.span (· == '-') cs
  match hyphens, cs with
  | [], ']' :: rest => (negated, ⟨none, [⟨.single ']', 0⟩]⟩, rest)
  | _, _ => (negated, ⟨none, hyphens.map fun c => ⟨.single c, 0⟩⟩, cs)

def readSetItems? (flags : Flags) (negated : Bool) :
    (fuel : Nat) → OpenSet → List Char → Option (SetTerm × List Char)
  | 0, _, _ => none
  | fuel + 1, s, cs =>
    match flags.skip cs with
    | [] => none
    | ']' :: rest => (s.close? flags negated).map (·, rest)
    | '[' :: rest =>
      match readAsciiClass? rest with
      | some ((classNegated, set), rest) =>
        match flags.negate? classNegated (flags.foldSet set) with
        | some set => readSetItems? flags negated fuel (s.add ⟨set, 0⟩) rest
        | none => none
      | none =>
        let (innerNegated, inner, innerRest) := readSetStart flags rest
        match readSetItems? flags innerNegated fuel inner innerRest with
        | some (item, rest) => readSetItems? flags negated fuel (s.add item) rest
        | none => none
    | '&' :: '&' :: rest => readSetItems? flags negated fuel (s.operate flags .intersection) rest
    | '-' :: '-' :: rest => readSetItems? flags negated fuel (s.operate flags .difference) rest
    | '~' :: '~' :: rest =>
      readSetItems? flags negated fuel (s.operate flags .symmetricDifference) rest
    | cs =>
      match readSetRange? flags cs with
      | some (set, rest) => readSetItems? flags negated fuel (s.add ⟨set, 0⟩) rest
      | none => none

def readSet? (flags : Flags) (cs : List Char) : Option (SetTerm × List Char) :=
  let (negated, start, rest) := readSetStart flags cs
  readSetItems? flags negated (cs.length + 1) start rest

end RuleQuery.Pattern
