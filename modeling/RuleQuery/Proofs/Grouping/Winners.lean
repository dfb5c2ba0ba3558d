import Mathlib.Data.List.Forall2
import Mathlib.Data.List.Induction
import RuleQuery.Proofs.Distinct
import RuleQuery.Proofs.Grouping.Select

namespace RuleQuery.AggregationPlan

variable {R : Type} {preferred : Ordering}

def sharing (key : GroupKey) (candidates : List (Candidate R)) : List (Candidate R) :=
  candidates.filter (·.key == key)

def winner? (preferred : Ordering) : List (Candidate R) → Option (Candidate R)
  | [] => none
  | c :: later => some (later.foldl (better preferred) c)

theorem winner?_concat (group : List (Candidate R)) (x : Candidate R) :
    winner? preferred (group ++ [x]) =
      some ((winner? preferred group).elim x fun c => better preferred c x) := by
  cases group with
  | nil => rfl
  | cons c later =>
    rw [List.cons_append, winner?, List.foldl_concat]
    rfl

theorem mem_of_winner? {group : List (Candidate R)} {c : Candidate R}
    (won : winner? preferred group = some c) : c ∈ group := by
  induction group using List.reverseRecOn generalizing c with
  | nil => cases won
  | append_singleton group x ih =>
    rw [winner?_concat] at won
    obtain rfl := Option.some.inj won
    cases earlier : winner? preferred group with
    | none => simp
    | some d =>
      rcases better_cases preferred d x with kept | taken
      · rw [Option.elim_some, kept]
        exact List.mem_append_left _ (ih earlier)
      · rw [Option.elim_some, taken]
        simp

theorem key_of_winner?_sharing {key : GroupKey} {candidates : List (Candidate R)} {c : Candidate R}
    (won : winner? preferred (sharing key candidates) = some c) : (c.key == key) = true :=
  (List.mem_filter.mp (mem_of_winner? won)).2

theorem sharing_concat_of_same {key : GroupKey} {x : Candidate R} (seen : List (Candidate R))
    (same : x.key == key) : sharing key (seen ++ [x]) = sharing key seen ++ [x] := by
  rw [sharing, List.filter_append, List.filter_singleton, same]
  rfl

theorem sharing_concat_of_other {key : GroupKey} {x : Candidate R} (seen : List (Candidate R))
    (other : (x.key == key) = false) : sharing key (seen ++ [x]) = sharing key seen := by
  rw [sharing, List.filter_append, List.filter_singleton, other]
  exact List.append_nil _

/-- Entering one more candidate keeps the winners of all groups, and opens a group for a new key. -/
theorem winners_addCandidate {keys : List GroupKey} {seen best : List (Candidate R)}
    {x : Candidate R} (apart : keys.Pairwise fun k l => (k == l) = false)
    (new : keys.contains x.key = false → sharing x.key seen = [])
    (won : List.Forall₂ (fun key c => winner? preferred (sharing key seen) = some c) keys best) :
    List.Forall₂ (fun key c => winner? preferred (sharing key (seen ++ [x])) = some c)
      (keys ++ if keys.contains x.key then [] else [x.key]) (addCandidate preferred x best) := by
  induction won with
  | nil =>
    refine .cons ?_ .nil
    rw [sharing_concat_of_same seen BEq.rfl, new rfl]
    rfl
  | @cons key c keys best first rest ih =>
    obtain ⟨others, apart⟩ := List.pairwise_cons.mp apart
    have keyed := key_of_winner?_sharing first
    rw [addCandidate_cons, List.contains_cons, BEq.congr_left keyed, BEq.comm (a := x.key)]
    cases same : key == x.key with
    | true =>
      -- Only the group of `x` grows.
      have unchanged : ∀ l ∈ keys, sharing l (seen ++ [x]) = sharing l seen := fun l inside =>
        sharing_concat_of_other seen ((BEq.congr_left same).symm.trans (others l inside))
      rw [Bool.true_or, if_pos rfl, if_pos rfl, List.append_nil]
      refine .cons ?_ ?_
      · rw [sharing_concat_of_same seen (BEq.symm same), winner?_concat, first]
        rfl
      · refine ((List.forall₂_and_left ..).mpr ⟨unchanged, rest⟩).imp ?_
        rintro l d ⟨same, won⟩
        rw [same, won]
    | false =>
      rw [List.contains_cons, BEq.comm, same] at new
      refine .cons ?_ (ih apart new)
      rw [sharing_concat_of_other seen (BEq.comm.trans same), first]

/-- Walking over all candidates is walking over each group. -/
theorem winners_enterAll (preferred : Ordering) (candidates : List (Candidate R)) :
    List.Forall₂ (fun key c => winner? preferred (sharing key candidates) = some c)
      (firstOccurrences (candidates.map (·.key))) (enterAll preferred [] candidates) := by
  induction candidates using List.reverseRecOn with
  | nil => exact .nil
  | append_singleton seen x ih =>
    have step : enterAll preferred [] (seen ++ [x]) =
        addCandidate preferred x (enterAll preferred [] seen) := List.foldl_concat ..
    rw [List.map_append, List.map_singleton, firstOccurrences_concat, step,
      ← contains_firstOccurrences]
    refine winners_addCandidate (pairwise_firstOccurrences _) (fun new => ?_) ih
    rw [contains_firstOccurrences] at new
    refine List.filter_eq_nil_iff.mpr fun c inside same => ?_
    have found := List.contains_iff_exists_mem_beq.mpr
      ⟨c.key, List.mem_map_of_mem inside, BEq.symm same⟩
    rw [new] at found
    cases found

/-- A candidate of a list that beats all before it and is beaten by none after it. -/
def Leads (preferred : Ordering) (group : List (Candidate R)) (c : Candidate R) : Prop :=
  ∃ before after, group = before ++ c :: after ∧
    (∀ d ∈ before, c.value.aggregateCompare d.value = preferred) ∧
    ∀ d ∈ after, d.value.aggregateCompare c.value ≠ preferred

section Ordered

variable {S : Value → Prop} (strict : preferred = .lt ∨ preferred = .gt)
  (arranged : Value.Arranged S) {u v w : Value}
include strict arranged

theorem preferred_trans (insideU : S u) (insideV : S v) (insideW : S w)
    (first : u.aggregateCompare v = preferred) (second : v.aggregateCompare w = preferred) :
    u.aggregateCompare w = preferred := by
  rw [arranged.aggregateCompare_eq insideU insideV] at first
  rw [arranged.aggregateCompare_eq insideV insideW] at second
  rw [arranged.aggregateCompare_eq insideU insideW]
  rcases strict with rfl | rfl
  · exact Std.TransCmp.lt_trans first second
  · exact Std.TransCmp.gt_trans first second

/-- What beats a value beats all that do not beat that value. -/
theorem preferred_of_not_preferred (insideU : S u) (insideV : S v) (insideW : S w)
    (first : u.aggregateCompare v = preferred) (second : w.aggregateCompare v ≠ preferred) :
    u.aggregateCompare w = preferred := by
  rw [arranged.aggregateCompare_eq insideU insideV] at first
  rw [arranged.aggregateCompare_eq insideW insideV] at second
  rw [arranged.aggregateCompare_eq insideU insideW]
  rcases strict with rfl | rfl
  · refine Std.TransCmp.lt_of_lt_of_isLE first ?_
    rw [← Std.OrientedCmp.isGE_iff_isLE, Ordering.isGE_iff_ne_lt]
    exact second
  · refine Std.TransCmp.gt_of_gt_of_isGE first ?_
    rw [Std.OrientedCmp.isGE_iff_isLE, Ordering.isLE_iff_ne_gt]
    exact second

theorem leads_of_winner? {group : List (Candidate R)} {c : Candidate R}
    (inside : ∀ d ∈ group, S d.value) (won : winner? preferred group = some c) :
    Leads preferred group c := by
  induction group using List.reverseRecOn generalizing c with
  | nil => cases won
  | append_singleton group x ih =>
    rw [winner?_concat] at won
    obtain rfl := Option.some.inj won
    rw [List.forall_mem_append, List.forall_mem_singleton] at inside
    cases earlier : winner? preferred group with
    | none =>
      cases group with
      | nil => exact ⟨[], [], rfl, by simp, by simp⟩
      | cons d later => cases earlier
    | some c =>
      obtain ⟨before, after, split, ahead, behind⟩ := ih inside.1 earlier
      have insideC := inside.1 c (mem_of_winner? earlier)
      rw [Option.elim_some, better]
      by_cases beaten : x.value.aggregateCompare c.value = preferred
      · rw [if_pos (beq_iff_eq.mpr beaten)]
        refine ⟨group, [], rfl, fun d among => ?_, by simp⟩
        have insideD := inside.1 d among
        rw [split, List.mem_append, List.mem_cons] at among
        rcases among with earlier | rfl | later
        · exact preferred_trans strict arranged inside.2 insideC insideD beaten (ahead d earlier)
        · exact beaten
        · exact preferred_of_not_preferred strict arranged inside.2 insideC insideD beaten
            (behind d later)
      · rw [if_neg (by simpa using beaten)]
        refine ⟨before, after ++ [x], by simp [split], ahead, fun d among => ?_⟩
        rcases List.mem_append.mp among with earlier | last
        · exact behind d earlier
        · rw [List.mem_singleton.mp last]
          exact beaten

end Ordered

end RuleQuery.AggregationPlan
