import RuleQuery.Toml.Scalar
import RuleQuery.Toml.Tables

namespace RuleQuery.Toml

mutual

/-- Reads a value. Each step spends fuel; three times the length of the text is enough. -/
def readValue? (fuel : Nat) (cs : List Char) : Option (Setting × List Char) :=
  match fuel with
  | 0 => none
  | fuel + 1 =>
    match cs with
    | '"' :: _ | '\'' :: _ => (readString? cs).map fun (text, rest) => (.text text, rest)
    | '[' :: rest =>
      (readItems? fuel rest).map fun (items, rest) => (.list items, rest)
    | '\x7b' :: rest =>
      match skipBlanks rest with
      | '\x7d' :: rest => some (.table [], rest)
      | rest =>
        (readEntries? fuel [] rest).map fun (entries, rest) =>
          (.table (Node.entriesToSettings entries), rest)
    | cs => readWord? cs

def readItems? (fuel : Nat) (cs : List Char) : Option (List Setting × List Char) :=
  match fuel with
  | 0 => none
  | fuel + 1 =>
    match skipLines cs.length cs with
    | ']' :: rest => some ([], rest)
    | cs => do
      let (item, rest) ← readValue? fuel cs
      match skipLines rest.length rest with
      | ',' :: rest => (readItems? fuel rest).map fun (items, rest) => (item :: items, rest)
      | ']' :: rest => some ([item], rest)
      | _ => none

def readEntries? (fuel : Nat) (entries : Node.Entries) (cs : List Char) :
    Option (Node.Entries × List Char) :=
  match fuel with
  | 0 => none
  | fuel + 1 => do
    let (key, rest) ← readKey? cs.length cs
    let rest ← match rest with
      | '=' :: rest => some (skipBlanks rest)
      | _ => none
    let (value, rest) ← readValue? fuel rest
    let entries ← Node.setKey? value key entries
    match skipBlanks rest with
    | ',' :: rest => readEntries? fuel entries rest
    | '\x7d' :: rest => some (entries, rest)
    | _ => none

end

structure Progress where
  entries : Node.Entries
  path : List String

def readHeader? (change : String → Node.Entries → Option Node.Entries) (closing : List Char)
    (entries : Node.Entries) (cs : List Char) : Option (Progress × List Char) := do
  let (path, rest) ← readKey? cs.length cs
  guard (closing.isPrefixOf rest)
  let rest ← finishLine? (rest.drop closing.length)
  let last ← path.getLast?
  let entries ← Node.descend? (change last) path.dropLast entries
  return (⟨entries, path⟩, rest)

def readAssignment? (progress : Progress) (cs : List Char) : Option (Progress × List Char) := do
  let (key, rest) ← readKey? cs.length cs
  let rest ← match rest with
    | '=' :: rest => some (skipBlanks rest)
    | _ => none
  let (value, rest) ← readValue? (3 * rest.length) rest
  let rest ← finishLine? rest
  let entries ← Node.descend? (Node.setKey? value key) progress.path progress.entries
  return (⟨entries, progress.path⟩, rest)

/-- Reads the lines of a document. Each line spends fuel; the length of the text is enough. -/
def readLines? (fuel : Nat) (progress : Progress) (cs : List Char) : Option Node.Entries :=
  match skipLines cs.length cs, fuel with
  | [], _ => some progress.entries
  | _, 0 => none
  | cs, fuel + 1 =>
    let step? :=
      match cs with
      | '[' :: '[' :: rest => readHeader? Node.addTable? [']', ']'] progress.entries rest
      | '[' :: rest => readHeader? Node.openTable? [']'] progress.entries rest
      | cs => readAssignment? progress cs
    step?.bind fun (progress, rest) => readLines? fuel progress rest

def ofText? (text : String) : Option Setting :=
  let cs := text.toList
  (readLines? cs.length ⟨[], []⟩ cs).map fun entries => .table (Node.entriesToSettings entries)

end RuleQuery.Toml
