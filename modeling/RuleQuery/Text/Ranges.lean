namespace RuleQuery.Text

/-- The first index in the window `[lo, hi)` whose entry starts after `n`, when the entries ascend;
each step halves the window, so `log2` of its size steps suffice. -/
def firstAfter {α : Type} (entries : Array α) (start : α → Nat) (n : Nat) :
    (steps lo hi : Nat) → Nat
  | 0, lo, _ => lo
  | steps + 1, lo, hi =>
    if lo < hi then
      let mid := (lo + hi) / 2
      match entries[mid]? with
      | some entry =>
        if start entry ≤ n then firstAfter entries start n steps (mid + 1) hi
        else firstAfter entries start n steps lo mid
      | none => lo
    else lo

def lastStarting? {α : Type} (entries : Array α) (start : α → Nat) (n : Nat) : Option α :=
  match firstAfter entries start n (entries.size.log2 + 1) 0 entries.size with
  | 0 => none
  | i + 1 => entries[i]?

/-- Ascending closed ranges of code points. -/
abbrev Ranges := Array (Nat × Nat)

/-- A code point belongs to a table when the last range that starts before it reaches it. -/
def Ranges.containsCode (table : Ranges) (n : Nat) : Bool :=
  match lastStarting? table (·.1) n with
  | some (_, last) => decide (n ≤ last)
  | none => false

def Ranges.contains (table : Ranges) (c : Char) : Bool := table.containsCode c.toNat

end RuleQuery.Text
