import RuleQuery.Text.ClassTables

namespace RuleQuery

structure CharSet where
  ranges : Text.Ranges

namespace CharSet

def lastCode : Nat := 0x10ffff

def empty : CharSet := ⟨#[]⟩

def range (first last : Nat) : CharSet := ⟨#[(first, last)]⟩

def single (c : Char) : CharSet := range c.toNat c.toNat

def all : CharSet := range 0 lastCode

def contains (set : CharSet) (c : Char) : Bool := set.ranges.contains c

def joinFrom (first last : Nat) : List (Nat × Nat) → List (Nat × Nat)
  | [] => [(first, last)]
  | (a, b) :: rest =>
    if a ≤ last + 1 then joinFrom first (max last b) rest else (first, last) :: joinFrom a b rest

def ofRanges (bounds : List (Nat × Nat)) : CharSet :=
  match bounds.mergeSort fun x y => x.1 ≤ y.1 with
  | [] => empty
  | (a, b) :: rest => ⟨(joinFrom a b rest).toArray⟩

def toList (set : CharSet) : List (Nat × Nat) := set.ranges.toList

def unions (sets : List CharSet) : CharSet := ofRanges (sets.flatMap toList)

def union (a b : CharSet) : CharSet := unions [a, b]

def gapsFrom (start : Nat) : List (Nat × Nat) → List (Nat × Nat)
  | [] => if start ≤ lastCode then [(start, lastCode)] else []
  | (a, b) :: rest =>
    if start < a then (start, a - 1) :: gapsFrom (b + 1) rest else gapsFrom (b + 1) rest

def complement (set : CharSet) : CharSet := ⟨(gapsFrom 0 set.toList).toArray⟩

def intersection (a b : CharSet) : CharSet := complement (union a.complement b.complement)

def difference (a b : CharSet) : CharSet := complement (union a.complement b)

def symmetricDifference (a b : CharSet) : CharSet := union (difference a b) (difference b a)

def single? (set : CharSet) : Option Char :=
  match set.toList with
  | [(a, b)] => if a = b then some (Char.ofNat a) else none
  | _ => none

def runPairs (run : Text.CaseRun) : List (Nat × Nat) :=
  (List.range ((run.last - run.first) / run.stride + 1)).map fun i =>
    (run.first + i * run.stride, run.target + i * run.stride)

def foldPairs : List (Nat × Nat) := Text.foldRuns.toList.flatMap runPairs

/-- All characters that agree with a member in simple case folding, the members among them. -/
def folded (set : CharSet) : CharSet :=
  let has (n : Nat) : Bool := set.ranges.containsCode n
  let touched := foldPairs.filter fun (n, target) => has n || has target
  let targets := ofRanges (touched.map fun (_, target) => (target, target))
  let sources := foldPairs.filter fun (_, target) => targets.ranges.containsCode target
  unions [set, targets, ofRanges (sources.map fun (n, _) => (n, n))]

end CharSet

end RuleQuery
