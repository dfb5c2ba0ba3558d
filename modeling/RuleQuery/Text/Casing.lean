import RuleQuery.Text.CaseTables

/-!
Case folding of texts. Names of fields and operators are compared with the 26 ASCII letters
folded; parameter names and searched texts are put into full Unicode lower case, where a capital
sigma at the end of a word becomes `ς`.
-/
namespace RuleQuery.Text

/-- Equality of texts when the case of ASCII letters does not count. -/
def sameIgnoringCase (a b : String) : Bool :=
  a.toList.map Char.toLower == b.toList.map Char.toLower

def lowerAscii (s : String) : String :=
  String.ofList (s.toList.map Char.toLower)

def isCased (c : Char) : Bool := casedRanges.contains c

def isCaseIgnorable (c : Char) : Bool := caseIgnorableRanges.contains c

/-- The one-character mapping of `runs`; characters outside all runs stay as they are. -/
def mapByRuns (runs : Array CaseRun) (c : Char) : Char :=
  match lastStarting? runs (·.first) c.toNat with
  | some run =>
    match run.map? c.toNat with
    | some n => Char.ofNat n
    | none => c
  | none => c

def lowerChar (c : Char) : List Char :=
  if c = 'İ' then ['i', '\u0307'] else [mapByRuns lowerRuns c]

def upperChar (c : Char) : List Char :=
  match lastStarting? upperExpansions (·.1) c.toNat with
  | some (n, expansion) =>
    if n = c.toNat then expansion.map Char.ofNat else [mapByRuns upperRuns c]
  | none => [mapByRuns upperRuns c]

def startsCased (cs : List Char) : Bool :=
  match cs.dropWhile isCaseIgnorable with
  | c :: _ => isCased c
  | [] => false

/-- Lower case of `cs`, when the characters of `before` (last one first) stand in front of it.
A capital sigma ends a word if a cased character stands before it and none after it. -/
def lowerAfter (before : List Char) : List Char → List Char
  | [] => []
  | c :: rest =>
    let lowered :=
      if c = 'Σ' then [if startsCased before && !startsCased rest then 'ς' else 'σ']
      else lowerChar c
    lowered ++ lowerAfter (c :: before) rest

def lower (s : String) : String := String.ofList (lowerAfter [] s.toList)

def upper (s : String) : String := String.ofList (s.toList.flatMap upperChar)

end RuleQuery.Text
