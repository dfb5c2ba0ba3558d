import RuleQuery.Instant.Reader
import RuleQuery.Json.Document

/-!
Documents that stand for records of named parts. An object gives each part under one of its names;
an array gives the first parts in their order. Members under other names are ignored; a part given
twice, and more items than there are parts, make the whole unreadable.
-/
namespace RuleQuery.Document

def hasParts (d : Document) (count : Nat) : Bool :=
  match d with
  | object _ => true
  | array items => decide (items.length ≤ count)
  | _ => false

/-- The document of a part, or an inner none where it is left out; none if it is given twice. -/
def part? (d : Document) (position : Nat) (names : List String) : Option (Option Document) :=
  match d with
  | object members =>
    match members.filter fun m => names.contains m.1 with
    | [] => some none
    | [m] => some (some m.2)
    | _ => none
  | array items => some items[position]?
  | _ => none

theorem sizeOf_part?_lt {d part : Document} {position : Nat} {names : List String}
    (h : d.part? position names = some (some part)) : sizeOf part < sizeOf d := by
  unfold part? at h
  split at h
  · rename_i members
    split at h <;> try cases h
    rename_i m only
    have inside : m ∈ members.filter fun m => names.contains m.1 := by
      rw [only]
      exact List.mem_singleton_self m
    have less := List.sizeOf_lt_of_mem (List.mem_filter.1 inside).1
    have inner : sizeOf m.2 < sizeOf m := by
      cases m
      simp only [Prod.mk.sizeOf_spec]
      omega
    simp only [object.sizeOf_spec]
    omega
  · rename_i items
    have less := List.sizeOf_lt_of_mem (List.mem_of_getElem? (Option.some.inj h))
    simp only [array.sizeOf_spec]
    omega
  · cases h

def required? {α : Type} (d : Document) (position : Nat) (names : List String)
    (read : Document → Option α) : Option α := do
  read (← ← d.part? position names)

def optional? {α : Type} (d : Document) (position : Nat) (names : List String) (absent : α)
    (read : Document → Option α) : Option α := do
  (← d.part? position names).elim (some absent) read

def text? : Document → Option String
  | string s => some s
  | _ => none

def bool? : Document → Option Bool
  | bool b => some b
  | _ => none

def binary64? : Document → Option Binary64
  | number n => some n.toBinary64
  | _ => none

def integer? : Document → Option Int64
  | number (.integer i _) => if i < 0x8000000000000000 then some (Int64.ofInt i) else none
  | _ => none

def instant? : Document → Option Instant
  | string s => Instant.ofLenient? s
  | _ => none

def nullable? {α : Type} (read : Document → Option α) : Document → Option (Option α)
  | null => some none
  | d => (read d).map some

def listOf? {α : Type} (read : Document → Option α) : Document → Option (List α)
  | array items => items.mapM read
  | _ => none

end RuleQuery.Document
