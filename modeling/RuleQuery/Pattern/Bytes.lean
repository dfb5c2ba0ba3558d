import RuleQuery.Pattern.CharSet

/-!
Sets of characters as bytes in UTF-8. A range of characters becomes a few sequences of byte ranges,
each of which stands for all combinations of its bytes. The automata that read a set byte by byte
share the ends of sequences when they run forward and their starts when they run backward.
-/
namespace RuleQuery

abbrev ByteRange := Nat × Nat

def blockSize : (length : Nat) → Nat
  | 0 => 1
  | length + 1 => 64 * blockSize length

/-- The sequences for the values from `first` to `last`: one byte that counts from `base`, and
continuation bytes of the given number. -/
def byteSequences (base : Nat) : (length : Nat) → (first last : Nat) → List (List ByteRange)
  | 0, first, last => [[(base + first, base + last)]]
  | length + 1, first, last =>
    let size := blockSize (length + 1)
    let inBlock (n first last : Nat) : List (List ByteRange) :=
      (byteSequences 0x80 length first last).map ((base + n, base + n) :: ·)
    let a := first / size
    let b := last / size
    if a = b then inBlock a (first % size) (last % size)
    else
      let partialHead := first % size != 0
      let partialTail := last % size != size - 1
      let lo := if partialHead then a + 1 else a
      let hi := if partialTail then b - 1 else b
      (if partialHead then inBlock a (first % size) (size - 1) else []) ++
        (if lo ≤ hi then [(base + lo, base + hi) :: List.replicate (length + 1) (0x80, 0xbf)]
          else []) ++
        (if partialTail then inBlock b 0 (last % size) else [])

structure Utf8Form where
  first : Nat
  last : Nat
  base : Nat
  length : Nat

def utf8Forms : List Utf8Form :=
  [⟨0, 0x7f, 0, 0⟩, ⟨0x80, 0x7ff, 0xc0, 1⟩, ⟨0x800, 0xd7ff, 0xe0, 2⟩, ⟨0xe000, 0xffff, 0xe0, 2⟩,
    ⟨0x10000, 0x10ffff, 0xf0, 3⟩]

namespace CharSet

def utf8 (set : CharSet) : List (List ByteRange) :=
  set.toList.flatMap fun (first, last) =>
    utf8Forms.flatMap fun form =>
      if max first form.first ≤ min last form.last then
        byteSequences form.base form.length (max first form.first) (min last form.last)
      else []

end CharSet

def commonLength {α : Type} [BEq α] : List α → List α → Nat
  | a :: as, b :: bs => if a == b then commonLength as bs + 1 else 0
  | _, _ => 0

def startSteps (before : List ByteRange) : List (List ByteRange) → Nat
  | [] => 0
  | s :: rest => s.length - commonLength before s + startSteps s rest

def byHead {α : Type} [BEq α] (sequences : List (List α)) : List (α × List (List α)) :=
  (sequences.filterMap List.head?).eraseDups.map fun head =>
    (head, (sequences.filter (·.head? == some head)).map (·.drop 1))

/-- Every set of ends of sequences that is left after some of their elements. -/
def endSets : (length : Nat) → List (List (List ByteRange)) → List (List (List ByteRange))
  | 0, _ => []
  | length + 1, sets =>
    let next := sets.flatMap fun set => (byHead set).map fun (_, ends) => ends.filter (· != [])
    sets ++ endSets length (next.filter (· != [])).eraseDups

end RuleQuery
