import Mathlib.Data.List.Induction
import RuleQuery.Proofs.Grouping.Slots
import RuleQuery.Proofs.Value.Hash

/-!
Keys in hash tables. Identical keys feed one sequence of words to a hash, so a table finds a key
under any hash of these words exactly if an identical one was entered. Numbering keys by such a
table yields the groups that searching them one by one yields.
-/
namespace RuleQuery

@[reducible] def GroupKey.hashedBy (digest : List Int → UInt64) : Hashable GroupKey :=
  ⟨fun key => digest key.hashWords⟩

theorem GroupKey.lawfulHashable (digest : List Int → UInt64) :
    @LawfulHashable GroupKey _ (hashedBy digest) :=
  @LawfulHashable.mk _ _ (hashedBy digest) fun _ _ same =>
    congrArg digest (hashWords_eq_of_beq same)

namespace AggregationPlan

/-- As `Slots`, with the numbers of the keys in a hash table. -/
structure HashedSlots (α : Type) [Hashable GroupKey] where
  numbers : Std.HashMap GroupKey Nat
  held : List α

section Slots

variable {α β : Type}

theorem Slots.numbers_foldl (key : β → GroupKey) (first : β → α) (again : β → α → α)
    (items : List β) :
    (items.foldl (fun slots item => slots.enter (key item) (first item) (again item))
      Slots.empty).Numbers (firstOccurrences (items.map key)) := by
  induction items using List.reverseRecOn with
  | nil => exact numbers_empty
  | append_singleton seen item ih =>
    rw [List.foldl_concat, List.map_append, List.map_singleton, firstOccurrences_concat,
      ← contains_firstOccurrences, contains_eq_isSome]
    cases found : (firstOccurrences (seen.map key)).findIdx? (· == key item) with
    | some i =>
      rw [Option.isSome_some, if_pos rfl, List.append_nil]
      exact (enter_of_known _ _ ih found).2
    | none => exact (enter_of_new _ _ ih found).2

end Slots

namespace HashedSlots

variable [Hashable GroupKey] {α β : Type} {table : HashedSlots α} {slots : Slots α}

def empty : HashedSlots α := ⟨∅, []⟩

def enter (key : GroupKey) (first : α) (again : α → α) (table : HashedSlots α) : HashedSlots α :=
  match table.numbers[key]? with
  | some i => ⟨table.numbers, table.held.modify i again⟩
  | none => ⟨table.numbers.insert key table.held.length, table.held ++ [first]⟩

/-- The table gives every key the number that a search among the entered keys gives it. -/
structure Mirrors (table : HashedSlots α) (slots : Slots α) : Prop where
  number : ∀ key, table.numbers[key]? = slots.number? key
  held : table.held = slots.held

theorem mirrors_empty : (empty : HashedSlots α).Mirrors .empty :=
  ⟨fun _ => Std.HashMap.getElem?_empty, rfl⟩

variable [LawfulHashable GroupKey]

theorem mirrors_enter (mirrors : table.Mirrors slots) (key : GroupKey) (first : α)
    (again : α → α) : (table.enter key first again).Mirrors (slots.enter key first again) := by
  obtain ⟨number, held⟩ := mirrors
  rw [enter, Slots.enter, number, held]
  cases slots.number? key with
  | some i => exact ⟨number, rfl⟩
  | none =>
    refine ⟨fun other => ?_, rfl⟩
    rw [Std.HashMap.getElem?_insert, Slots.number?, List.find?_cons, number]
    cases key == other with
    | true => rfl
    | false => rfl

theorem mirrors_foldl (key : β → GroupKey) (first : β → α) (again : β → α → α) (items : List β)
    (mirrors : table.Mirrors slots) :
    (items.foldl (fun table item => table.enter (key item) (first item) (again item))
      table).Mirrors
    (items.foldl (fun slots item => slots.enter (key item) (first item) (again item)) slots) := by
  induction items generalizing table slots with
  | nil => exact mirrors
  | cons item items ih => exact ih (mirrors_enter mirrors _ _ _)

end HashedSlots

section Table

variable [Hashable GroupKey] {R : Type} (plan : AggregationPlan R) (preferred : Ordering)
  (get : R → Value) (records : List R)

def sizesByTable : HashedSlots GroupCount :=
  records.foldl (fun table record =>
    table.enter (plan.keyFor record) ⟨plan.keyFor record, 1⟩ addOne) .empty

def bestPositionsByTable : HashedSlots (Nat × Value) :=
  records.zipIdx.foldl (fun table item =>
    table.enter (plan.keyFor item.1) (item.2, get item.1) fun best =>
      if (get item.1).aggregateCompare best.2 == preferred then (item.2, get item.1) else best)
    .empty

def selectByTable : List R :=
  takeAt (records.map some) ((plan.bestPositionsByTable preferred get records).held.map (·.1))

variable [LawfulHashable GroupKey]

theorem sizesByTable_spec :
    (plan.sizesByTable records).held = plan.count records ∧
      ∀ key, (plan.sizesByTable records).numbers[key]? =
        (firstOccurrences (records.map plan.keyFor)).findIdx? (· == key) := by
  have mirrors := HashedSlots.mirrors_foldl plan.keyFor (⟨plan.keyFor ·, 1⟩) (fun _ => addOne)
    records HashedSlots.mirrors_empty
  have numbers := Slots.numbers_foldl plan.keyFor (⟨plan.keyFor ·, 1⟩) (fun _ => addOne) records
  refine ⟨?_, fun key => (mirrors.number key).trans (numbers.number key)⟩
  rw [← countBySlots_eq_count]
  exact mirrors.held

theorem selectByTable_spec :
    plan.selectByTable preferred get records = plan.select preferred get records ∧
      ∀ key, (plan.bestPositionsByTable preferred get records).numbers[key]? =
        (firstOccurrences (records.map plan.keyFor)).findIdx? (· == key) := by
  have mirrors : (plan.bestPositionsByTable preferred get records).Mirrors
      (plan.bestPositions preferred get records) :=
    HashedSlots.mirrors_foldl _ _ _ records.zipIdx HashedSlots.mirrors_empty
  have numbers := (plan.remembers_bestPositions preferred get records).numbers
  refine ⟨?_, fun key => (mirrors.number key).trans (numbers.number key)⟩
  rw [← selectByPosition_eq_select, selectByTable, selectByPosition, mirrors.held]

end Table

end AggregationPlan

/-- Identity of values and of keys is an equivalence; floats are identical as far as their total
order leaves them together. What is identical feeds the same words to a hash. So whatever the hash
is, tables of keys find a key by identity alone, and the groups are those that a search for
identical keys yields. -/
theorem tables_find_by_identity :
    Equivalence (fun a b : Value => (a == b) = true) ∧
    (∀ x y : Binary64, (Value.float x == .float y) = (x.totalCompare y == .eq)) ∧
    (∀ a b : Value, (a == b) = true → a.hashWords = b.hashWords) ∧
    Equivalence (fun k l : GroupKey => (k == l) = true) ∧
    (∀ k l : GroupKey, (k == l) = true → k.hashWords = l.hashWords) ∧
    ∀ (digest : List Int → UInt64) {R : Type} (plan : AggregationPlan R) (preferred : Ordering)
      (get : R → Value) (records : List R),
      letI := GroupKey.hashedBy digest
      (plan.sizesByTable records).held = plan.count records ∧
      plan.selectByTable preferred get records = plan.select preferred get records ∧
      ∀ key,
        (plan.sizesByTable records).numbers[key]? =
          (firstOccurrences (records.map plan.keyFor)).findIdx? (· == key) ∧
        (plan.bestPositionsByTable preferred get records).numbers[key]? =
          (firstOccurrences (records.map plan.keyFor)).findIdx? (· == key) := by
  refine ⟨⟨fun _ => BEq.rfl, BEq.symm, BEq.trans⟩, fun x y => ?_,
    fun _ _ => Value.hashWords_eq_of_beq, ⟨fun _ => BEq.rfl, BEq.symm, BEq.trans⟩,
    fun _ _ => GroupKey.hashWords_eq_of_beq, fun digest R plan preferred get records => ?_⟩
  · change (x == y) = (x.totalCompare y == .eq)
    rw [Bool.eq_iff_iff, beq_iff_eq, beq_iff_eq, Binary64.totalCompare_eq_iff]
  · let _ := GroupKey.hashedBy digest
    have lawful := GroupKey.lawfulHashable digest
    obtain ⟨counts, countNumbers⟩ := plan.sizesByTable_spec records
    obtain ⟨picks, pickNumbers⟩ := plan.selectByTable_spec preferred get records
    exact ⟨counts, picks, fun key => ⟨countNumbers key, pickNumbers key⟩⟩

end RuleQuery
