import Mathlib.Algebra.GroupWithZero.Nat
import RuleQuery.Proofs.Grouping.FirstBest
import RuleQuery.Proofs.Grouping.Key

namespace RuleQuery.AggregationPlan

open Cached

variable {R : Type} (plan : AggregationPlan R)

def Agree (r s : R) : Prop :=
  ∀ part ∈ plan.shape.shape.fields,
    (KeyShape.valueAt plan.schema r part.2 == KeyShape.valueAt plan.schema s part.2) = true

def GroupsBy (names : List String) : Prop :=
  KeyShape.build plan.schema names = .ok plan.shape.shape

/-- The rows are the groups of the records with their sizes. -/
structure Partitions (records : List R) (rows : List GroupCount) : Prop where
  order : rows.map (·.key) = firstOccurrences (records.map plan.keyFor)
  apart : rows.Pairwise fun row other => (row.key == other.key) = false
  covers : ∀ record ∈ records, ∃ row ∈ rows, (plan.keyFor record == row.key) = true
  sizes : ∀ row ∈ rows, row.count = records.countP fun record => plan.keyFor record == row.key
  total : (rows.map (·.count)).sum = records.length
  together : ∀ r ∈ records, ∀ s ∈ records, (∃ row ∈ rows, (plan.keyFor r == row.key) = true ∧
    (plan.keyFor s == row.key) = true) ↔ plan.Agree r s

variable {plan} {records : List R}

theorem keyFor_beq_iff_agree {r s : R} :
    (plan.keyFor r == plan.keyFor s) = true ↔ plan.Agree r s :=
  KeyShape.keyFor_beq_iff plan.schema plan.shape.shape r s

theorem agree_iff_of_groupsBy {names : List String} (grouped : plan.GroupsBy names) (r s : R) :
    plan.Agree r s ↔ ∀ name ∈ names, ∀ field, plan.schema.field? name = some field →
      (field.get r == field.get s) = true := by
  constructor
  · intro agree name inside field found
    obtain ⟨i, position, there⟩ := Schema.field?_eq_some_iff.mp found
    have same := agree (field.name, i) ((KeyShape.mem_fields_of_build grouped).mpr
      ⟨name, inside, KeyShape.resolve_eq_ok_iff.mpr ⟨field, position, there, rfl⟩⟩)
    rw [KeyShape.valueAt_of_field there, KeyShape.valueAt_of_field there] at same
    exact same
  · rintro each ⟨declared, i⟩ part
    obtain ⟨name, inside, resolved⟩ := (KeyShape.mem_fields_of_build grouped).mp part
    obtain ⟨field, position, there, -⟩ := KeyShape.resolve_eq_ok_iff.mp resolved
    rw [KeyShape.valueAt_of_field there, KeyShape.valueAt_of_field there]
    exact each name inside field (Schema.field?_eq_some_iff.mpr ⟨i, position, there⟩)

theorem map_key_sizes (keys : List GroupKey) :
    (sizes keys).map (·.key) = firstOccurrences keys := by
  rw [sizes, List.map_map]
  exact List.map_id _

theorem sum_addKey (key : GroupKey) (rows : List GroupCount) :
    ((addKey key rows).map (·.count)).sum = (rows.map (·.count)).sum + 1 := by
  induction rows with
  | nil => rfl
  | cons row rows ih =>
    rw [addKey]
    split
    · simp only [List.map_cons, List.sum_cons]
      omega
    · simp only [List.map_cons, List.sum_cons, ih]
      omega

theorem sum_sizes (keys : List GroupKey) : ((sizes keys).map (·.count)).sum = keys.length := by
  induction keys using List.reverseRecOn with
  | nil => rfl
  | append_singleton keys key ih => rw [← addKey_sizes, sum_addKey, ih, List.length_append]; rfl

theorem partitions_count (records : List R) : plan.Partitions records (plan.count records) := by
  have covers : ∀ record ∈ records, ∃ row ∈ plan.count records,
      (plan.keyFor record == row.key) = true := by
    intro record inside
    have keyed : plan.keyFor record ∈ records.map plan.keyFor := List.mem_map_of_mem inside
    obtain ⟨key, listed, same⟩ := exists_first_occurrence keyed
    rw [← map_key_sizes, ← count_eq_sizes] at listed
    obtain ⟨row, there, rfl⟩ := List.mem_map.mp listed
    exact ⟨row, there, same⟩
  refine ⟨?_, ?_, covers, ?_, ?_, ?_⟩
  · rw [count_eq_sizes, map_key_sizes]
  · have keys := pairwise_firstOccurrences (records.map plan.keyFor)
    rw [← map_key_sizes, ← count_eq_sizes] at keys
    exact List.pairwise_map.mp keys
  · intro row there
    rw [(mem_count plan there).2, List.countP_eq_length_filter]
  · rw [count_eq_sizes, sum_sizes, List.length_map]
  · intro r insideR s insideS
    rw [← keyFor_beq_iff_agree]
    constructor
    · rintro ⟨row, -, ofR, ofS⟩
      exact BEq.trans ofR (BEq.symm ofS)
    · intro same
      obtain ⟨row, there, ofR⟩ := covers r insideR
      exact ⟨row, there, ofR, BEq.trans (BEq.symm same) ofR⟩

/-- One process built the plans for the same names, and the first of them earlier; the cache may
have grown in between. -/
def BuiltBefore (first second : AggregationPlan R) : Prop :=
  ∃ (schema : Schema R) (names : List String) (a b : Aggregation) (cache later : ShapeCache),
    (build schema names a).outcome cache = .ok first ∧
    later.Extends ((build schema names a).after cache) ∧
    (build schema names b).outcome later = .ok second

/-- The plans partition records alike: they have one shape, or were built for the same names. -/
inductive SharesGroups (plan picker : AggregationPlan R) : Prop where
  | ofShape : picker.schema = plan.schema → picker.shape.shape = plan.shape.shape →
      SharesGroups plan picker
  | later : BuiltBefore plan picker → SharesGroups plan picker
  | earlier : BuiltBefore picker plan → SharesGroups plan picker

/-- A plan leaves its shape in the cache, where later plans for the same names find it. -/
theorem shape_eq_of_builtBefore {first second : AggregationPlan R}
    (built : BuiltBefore first second) :
    second.schema = first.schema ∧ second.shape = first.shape := by
  obtain ⟨schema, names, a, b, cache, later, firstDone, grown, secondDone⟩ := built
  obtain ⟨shape, reduction, shared, -, rfl⟩ := build_eq_ok_iff.mp firstDone
  obtain ⟨shape', reduction', shared', -, rfl⟩ := build_eq_ok_iff.mp secondDone
  rw [after_build shared] at grown
  obtain ⟨found, -⟩ := KeyShape.shared_of_kept (grown _ _ (KeyShape.find?_after_shared shared))
  rw [found] at shared'
  cases shared'
  exact ⟨rfl, rfl⟩

theorem keyFor_eq_of_sharesGroups {picker : AggregationPlan R} (alike : plan.SharesGroups picker) :
    picker.keyFor = plan.keyFor := by
  have sameKeys : ∀ {first second : AggregationPlan R}, second.schema = first.schema →
      second.shape.shape = first.shape.shape → second.keyFor = first.keyFor := by
    intro first second sameSchema sameShape
    funext record
    rw [keyFor, keyFor, sameSchema, sameShape]
  cases alike with
  | ofShape sameSchema sameShape => exact sameKeys sameSchema sameShape
  | later built =>
    obtain ⟨sameSchema, sameShape⟩ := shape_eq_of_builtBefore built
    exact sameKeys sameSchema (congrArg _ sameShape)
  | earlier built =>
    obtain ⟨sameSchema, sameShape⟩ := shape_eq_of_builtBefore built
    exact (sameKeys sameSchema (congrArg _ sameShape)).symm

/-- Plans over the same groups: one counts, the other picks a record of each in the same order. -/
theorem forall₂_count_select {picker : AggregationPlan R} (alike : plan.SharesGroups picker)
    (preferred : Ordering) (get : R → Value) (records : List R) :
    List.Forall₂ (fun row record => (plan.keyFor record == row.key) = true) (plan.count records)
      (picker.select preferred get records) := by
  have sameKeys := keyFor_eq_of_sharesGroups alike
  have each := picker.keys_bestCandidates preferred get records
  rw [bestCandidates, ← map_candidate_select, List.forall₂_map_right_iff, sameKeys, ← map_key_sizes,
    ← count_eq_sizes, List.forall₂_map_left_iff] at each
  refine each.imp fun row record keyed => ?_
  rw [← sameKeys]
  exact keyed

/-- Counting partitions the records, however often a field is grouped and also if none is. -/
theorem apply_partitions (plan : AggregationPlan R) (counts : plan.reduction = .count)
    (records : List R) :
    ∃ rows, plan.apply records = .counts rows ∧ plan.Partitions records rows ∧
      plan.countBySlots records = rows ∧
      (∀ names, plan.GroupsBy names → ∀ r s, plan.Agree r s ↔
        ∀ name ∈ names, ∀ field, plan.schema.field? name = some field →
          (field.get r == field.get s) = true) ∧
      ∀ picker, plan.SharesGroups picker → ∀ preferred get,
        picker.reduction = .select preferred get → ∃ chosen,
          picker.apply records = .records chosen ∧
          List.Forall₂ (fun row record => (plan.keyFor record == row.key) = true) rows chosen := by
  refine ⟨plan.count records, by rw [apply, counts], partitions_count records,
    countBySlots_eq_count plan records, fun _ => agree_iff_of_groupsBy, ?_⟩
  intro picker alike preferred get reduces
  exact ⟨picker.select preferred get records, by rw [apply, reduces],
    forall₂_count_select alike preferred get records⟩

section PayGrades

def paid (id : Int64) (salary : Decimal) : User :=
  { User.new id "" "IT" with salary := salary }

def ten : Decimal := ⟨false, 10, 0, by decide, Decimal.zero.scale_le⟩

def tenPointZero : Decimal := ⟨false, 100, 1, by decide, by decide⟩

def payGrades : AggregationPlan User :=
  ⟨User.schema, ⟨0, ⟨"User", [("Salary", 4), ("Salary", 4)]⟩⟩, .count⟩

theorem payGrades_partitions :
    payGrades.reduction = .count ∧ payGrades.GroupsBy ["Salary", " salary"] ∧
    ∃ rows, payGrades.apply [paid 1 ten, paid 2 .zero, paid 3 tenPointZero] = .counts rows ∧
      rows.map (·.count) = [2, 1] ∧
      payGrades.Partitions [paid 1 ten, paid 2 .zero, paid 3 tenPointZero] rows ∧
      payGrades.Agree (paid 1 ten) (paid 3 tenPointZero) := by
  obtain ⟨rows, done, partitions, -, named, -⟩ := apply_partitions payGrades rfl
    [paid 1 ten, paid 2 .zero, paid 3 tenPointZero]
  have sizes : rows.map (·.count) = [2, 1] := by
    cases done
    decide
  have agree : payGrades.Agree (paid 1 ten) (paid 3 tenPointZero) := by
    intro part inside
    simp only [payGrades, List.mem_cons, List.not_mem_nil, or_false, or_self] at inside
    subst inside
    decide
  exact ⟨rfl, rfl, rows, done, sizes, partitions, agree⟩

end PayGrades

end RuleQuery.AggregationPlan
