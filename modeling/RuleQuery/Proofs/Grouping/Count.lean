import RuleQuery.Grouping.Plan
import RuleQuery.Proofs.Distinct
import RuleQuery.Proofs.Value.Identity

namespace RuleQuery.AggregationPlan

def sizes (keys : List GroupKey) : List GroupCount :=
  (firstOccurrences keys).map fun key => ⟨key, keys.countP (· == key)⟩

theorem addKey_map {keys : List GroupKey} (distinct : keys.Pairwise fun k l => (k == l) = false)
    (size : GroupKey → Nat) (key : GroupKey) :
    addKey key (keys.map fun k => ⟨k, size k⟩) =
      (keys.map fun k => ⟨k, size k + if k == key then 1 else 0⟩) ++
        if keys.contains key then [] else [⟨key, 1⟩] := by
  induction keys with
  | nil => rfl
  | cons k keys ih =>
    rw [List.pairwise_cons] at distinct
    rw [List.map_cons, List.map_cons, addKey, List.contains_cons, BEq.comm (a := key)]
    cases same : k == key with
    | true =>
      have others : ∀ l ∈ keys, (l == key) = false := by
        intro l inside
        rw [← BEq.congr_right same, BEq.comm]
        exact distinct.1 l inside
      have unchanged : (keys.map fun l => (⟨l, size l + if l == key then 1 else 0⟩ : GroupCount)) =
          keys.map fun l => ⟨l, size l⟩ := by
        refine List.map_congr_left fun l inside => ?_
        rw [others l inside]
        rfl
      rw [unchanged]
      simp
    | false => simp [ih distinct.2]

theorem addKey_sizes (keys : List GroupKey) (key : GroupKey) :
    addKey key (sizes keys) = sizes (keys ++ [key]) := by
  rw [sizes, addKey_map (pairwise_firstOccurrences keys), sizes, firstOccurrences_concat,
    List.map_append, contains_firstOccurrences]
  congr 1
  · refine List.map_congr_left fun k _ => ?_
    rw [List.countP_append, List.countP_singleton, BEq.comm (a := k)]
  · cases seen : keys.contains key with
    | true => rfl
    | false =>
      have none : keys.countP (· == key) = 0 := by
        rw [List.countP_eq_zero]
        intro k inside same
        have found := List.contains_iff_exists_mem_beq.mpr ⟨k, inside, BEq.symm same⟩
        rw [seen] at found
        cases found
      simp [List.countP_append, none]

variable {R : Type} (plan : AggregationPlan R)

/-- Counting record by record is counting all keys at once. -/
theorem count_eq_sizes (records : List R) :
    plan.count records = sizes (records.map plan.keyFor) := by
  have counted : ∀ keys, records.foldl (fun rows record => addKey (plan.keyFor record) rows)
      (sizes keys) = sizes (keys ++ records.map plan.keyFor) := by
    induction records with
    | nil =>
      intro keys
      rw [List.map_nil, List.append_nil]
      rfl
    | cons record records ih =>
      intro keys
      rw [List.foldl_cons, addKey_sizes, ih, List.map_cons, List.append_assoc]
      rfl
  exact counted []

theorem mem_count {records : List R} {row : GroupCount} (inside : row ∈ plan.count records) :
    (∃ record ∈ records, plan.keyFor record = row.key) ∧
      row.count = (records.filter fun record => plan.keyFor record == row.key).length := by
  rw [count_eq_sizes, sizes] at inside
  obtain ⟨key, first, rfl⟩ := List.mem_map.mp inside
  refine ⟨List.mem_map.mp (mem_of_mem_newItems first), ?_⟩
  rw [List.countP_map, List.countP_eq_length_filter]
  rfl

def sizeUnder (key : GroupKey) : List GroupCount → Nat
  | [] => 0
  | row :: rest => (if row.key == key then row.count else 0) + sizeUnder key rest

/-- The rows of both lists, those of the second only for keys that the first has not, each with
the sum of the sizes that both give to its key. -/
def mergeCounts (rows others : List GroupCount) : List GroupCount :=
  (rows ++ others.filter fun row => !rows.any (·.key == row.key)).map fun row =>
    ⟨row.key, sizeUnder row.key (rows ++ others)⟩

theorem sizeUnder_append (key : GroupKey) (rows others : List GroupCount) :
    sizeUnder key (rows ++ others) = sizeUnder key rows + sizeUnder key others := by
  induction rows with
  | nil => exact (Nat.zero_add _).symm
  | cons row rows ih => rw [List.cons_append, sizeUnder, sizeUnder, ih, Nat.add_assoc]

theorem sizeUnder_addKey (key added : GroupKey) (rows : List GroupCount) :
    sizeUnder key (addKey added rows) = sizeUnder key rows + if added == key then 1 else 0 := by
  induction rows with
  | nil => simp [addKey, sizeUnder]
  | cons row rows ih =>
    rw [addKey]
    cases there : row.key == added with
    | true =>
      rw [if_pos rfl, ← BEq.congr_left there]
      cases same : row.key == key with
      | true => simp [sizeUnder, same]; omega
      | false => simp [sizeUnder, same]
    | false =>
      rw [if_neg Bool.false_ne_true, sizeUnder, sizeUnder, ih, Nat.add_assoc]

theorem sizeUnder_sizes (key : GroupKey) (keys : List GroupKey) :
    sizeUnder key (sizes keys) = keys.countP (· == key) := by
  -- Keys are counted from the first to the last, so the induction is on the reversed list.
  obtain ⟨reversed, rfl⟩ : ∃ reversed, keys = reversed.reverse := ⟨keys.reverse, by simp⟩
  induction reversed with
  | nil => rfl
  | cons k reversed ih =>
    rw [List.reverse_cons, ← addKey_sizes, sizeUnder_addKey, ih, List.countP_append,
      List.countP_singleton]

theorem any_sizes (key : GroupKey) (keys : List GroupKey) :
    ((sizes keys).any (·.key == key)) = keys.contains key := by
  rw [← contains_firstOccurrences, List.contains_eq_any_beq, sizes, List.any_map]
  congr 1
  funext k
  exact BEq.comm

/-- Two batches have together the sizes that they have merged. -/
theorem sizes_append (keys others : List GroupKey) :
    sizes (keys ++ others) = mergeCounts (sizes keys) (sizes others) := by
  have sum : ∀ key, sizeUnder key (sizes keys ++ sizes others) =
      (keys ++ others).countP (· == key) := by
    intro key
    rw [sizeUnder_append, sizeUnder_sizes, sizeUnder_sizes, List.countP_append]
  simp only [mergeCounts, any_sizes, sum]
  rw [sizes, firstOccurrences_append, sizes, sizes, List.filter_map, List.map_append,
    List.map_append, List.map_map, List.map_map]
  rfl

theorem count_append (a b : List R) :
    plan.count (a ++ b) = mergeCounts (plan.count a) (plan.count b) := by
  rw [count_eq_sizes, count_eq_sizes, count_eq_sizes, List.map_append, sizes_append]

end RuleQuery.AggregationPlan
