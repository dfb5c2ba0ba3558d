import RuleQuery.Proofs.Grouping.Slots
import RuleQuery.User.Basic

/-!
The records that a plan picks: one of each group, in the order in which the keys of the groups first
appear. Of a group whose values are alike it is the first record to which none of the group is
preferred.
-/
namespace RuleQuery.AggregationPlan

variable {R : Type} (plan : AggregationPlan R)

def group (records : List R) (key : GroupKey) : List R :=
  records.filter fun record => plan.keyFor record == key

/-- A record that is preferred to all of its group before it, and to which none of its group is. -/
def FirstBest (preferred : Ordering) (get : R → Value) (records : List R) (key : GroupKey)
    (chosen : R) : Prop :=
  ∃ before after, records = before ++ chosen :: after ∧
    (∀ record ∈ plan.group before key,
      (get chosen).aggregateCompare (get record) = preferred) ∧
    ∀ record ∈ plan.group records key,
      (get record).aggregateCompare (get chosen) ≠ preferred

variable {plan} {preferred : Ordering} {get : R → Value} {records : List R}

theorem sharing_map_candidate (key : GroupKey) (records : List R) :
    sharing key (records.map (plan.candidate get)) =
      (plan.group records key).map (plan.candidate get) := by
  rw [sharing, List.filter_map]
  rfl

theorem ne_preferred_of_preferred (strict : preferred = .lt ∨ preferred = .gt) {u v : Value}
    (first : u.aggregateCompare v = preferred) : v.aggregateCompare u ≠ preferred := by
  have turned : v.aggregateCompare u = (u.aggregateCompare v).swap := Std.OrientedCmp.eq_swap
  rw [turned, first]
  rcases strict with rfl | rfl
  · exact Ordering.noConfusion
  · exact Ordering.noConfusion

/-- The leader of the candidates of a group is the first best of its records. -/
theorem firstBest_of_leads (strict : preferred = .lt ∨ preferred = .gt) {key : GroupKey}
    {c : Candidate R}
    (leads : Leads preferred (sharing key (records.map (plan.candidate get))) c) :
    plan.FirstBest preferred get records key c.record := by
  obtain ⟨ahead, behind, split, beats, unbeaten⟩ := leads
  rw [sharing_map_candidate] at split
  obtain ⟨first, rest, members, rfl, later⟩ := List.map_eq_append_iff.mp split
  obtain ⟨chosen, last, rfl, rfl, rfl⟩ := List.map_eq_cons_iff.mp later
  obtain ⟨before, tail, rfl, rfl, tailMembers⟩ := List.filter_eq_append_iff.mp members
  obtain ⟨skipped, after, rfl, foreign, -, rfl⟩ := List.filter_eq_cons_iff.mp tailMembers
  have none : plan.group skipped key = [] := List.filter_eq_nil_iff.mpr foreign
  have place : before ++ (skipped ++ chosen :: after) = before ++ skipped ++ chosen :: after := by
    rw [List.append_assoc]
  refine ⟨before ++ skipped, after, place, fun record inside => ?_, fun record inside => ?_⟩
  · rw [group, List.filter_append] at inside
    rw [group] at none
    rw [none, List.append_nil] at inside
    exact beats _ (List.mem_map_of_mem inside)
  · rw [members, List.mem_append, List.mem_cons] at inside
    rcases inside with before | rfl | after
    · exact ne_preferred_of_preferred strict (beats _ (List.mem_map_of_mem before))
    · exact fun same => ne_preferred_of_preferred strict same same
    · exact unbeaten _ (List.mem_map_of_mem after)

/-- The records that are picked stand beside the keys in the order of their first appearance. -/
theorem forall₂_select (plan : AggregationPlan R) (get : R → Value)
    (strict : preferred = .lt ∨ preferred = .gt) (records : List R) :
    List.Forall₂ (fun key record => record ∈ records ∧ (plan.keyFor record == key) = true ∧
        (Value.Alike ((plan.group records key).map get) →
          plan.FirstBest preferred get records key record))
      (firstOccurrences (records.map plan.keyFor)) (plan.select preferred get records) := by
  have won := winners_enterAll preferred (records.map (plan.candidate get))
  rw [← map_candidate_select, List.forall₂_map_right_iff, List.map_map] at won
  refine won.imp fun key record first => ?_
  have inside := mem_of_winner? first
  rw [sharing_map_candidate] at inside
  obtain ⟨member, among, same⟩ := List.mem_map.mp inside
  obtain rfl : member = record := congrArg Candidate.record same
  obtain ⟨there, keyed⟩ := List.mem_filter.mp among
  refine ⟨there, keyed, fun alike => ?_⟩
  have leads := leads_of_winner? strict alike.arranged (fun d own => ?_) first
  · exact firstBest_of_leads strict leads
  · rw [sharing_map_candidate] at own
    obtain ⟨member, among, rfl⟩ := List.mem_map.mp own
    exact List.mem_map_of_mem among

/-- A plan that seeks the least or the greatest values yields one record of each group, under the
keys in the order of their first appearance. Of a group whose values are alike it is the first best,
where null is least of all. No group is lost when the records are moved out by their positions. -/
theorem apply_picks_first_best (plan : AggregationPlan R) (preferred : Ordering) (get : R → Value)
    (reduces : plan.reduction = .select preferred get) (strict : preferred = .lt ∨ preferred = .gt)
    (records : List R) :
    ∃ chosen, plan.apply records = .records chosen ∧
      List.Forall₂ (fun key record => record ∈ records ∧ (plan.keyFor record == key) = true ∧
          (Value.Alike ((plan.group records key).map get) →
            plan.FirstBest preferred get records key record))
        (firstOccurrences (records.map plan.keyFor)) chosen ∧
      (∀ record ∈ records, chosen.countP (plan.keyFor · == plan.keyFor record) = 1) ∧
      plan.selectByPosition preferred get records = chosen ∧
      ∀ v : Value, v.isNull = false → Value.null.aggregateCompare v = .lt := by
  have each := plan.forall₂_select get strict records
  refine ⟨plan.select preferred get records, by rw [apply, reduces], each, ?_,
    plan.selectByPosition_eq_select preferred get records, fun v => Value.aggregateCompare_null⟩
  intro record inside
  refine countP_eq_one_of_apart (plan.pairwise_select preferred get records) ?_
  have keyed : plan.keyFor record ∈ records.map plan.keyFor := List.mem_map_of_mem inside
  obtain ⟨key, among, same⟩ := exists_first_occurrence keyed
  obtain ⟨chosen, picked, -, keyed, -⟩ := exists_mem_of_forall₂ each among
  exact ⟨chosen, picked, BEq.trans keyed (BEq.symm same)⟩

def aged (id : Int64) (department : String) (age : Option Int32) : User :=
  { User.new id "" department with age := age }

def oldest : AggregationPlan User :=
  ⟨User.schema, ⟨0, ⟨"User", [("Department", 3)]⟩⟩,
    .select .gt fun user => User.orNull (fun age => .integer age.toInt64) user.age⟩

theorem oldest_picks_first_best :
    Value.Alike [.null, .integer 40, .integer 40] ∧
    oldest.apply [aged 1 "IT" none, aged 2 "HR" none, aged 3 "IT" (some 40), aged 4 "IT" (some 40)] =
      .records [aged 3 "IT" (some 40), aged 2 "HR" none] ∧
    oldest.FirstBest .gt (fun user => User.orNull (fun age => .integer age.toInt64) user.age)
      [aged 1 "IT" none, aged 2 "HR" none, aged 3 "IT" (some 40), aged 4 "IT" (some 40)]
      (.single (.text "IT")) (aged 3 "IT" (some 40)) := by
  have alike : Value.Alike [.null, .integer 40, .integer 40] := by
    refine .inl fun v inside present => ?_
    simp only [List.mem_cons, List.not_mem_nil, or_false] at inside
    rcases inside with rfl | rfl | rfl
    · cases present
    · rfl
    · rfl
  have yields : oldest.apply
      [aged 1 "IT" none, aged 2 "HR" none, aged 3 "IT" (some 40), aged 4 "IT" (some 40)] =
      .records [aged 3 "IT" (some 40), aged 2 "HR" none] := rfl
  obtain ⟨chosen, done, each, -⟩ := apply_picks_first_best oldest .gt _ rfl (.inr rfl)
    [aged 1 "IT" none, aged 2 "HR" none, aged 3 "IT" (some 40), aged 4 "IT" (some 40)]
  obtain rfl := QueryOutput.records.inj (yields.symm.trans done)
  obtain ⟨-, -, best⟩ := (List.forall₂_cons.mp each).1
  exact ⟨alike, yields, best alike⟩

end RuleQuery.AggregationPlan
