import RuleQuery.Grouping.Plan
import RuleQuery.Proofs.Value.Identity
import RuleQuery.Proofs.Value.Order

/-!
The best records of groups. A walk over the records keeps for each key the first record with the
best value so far. Where better is a strict weak order, the walk may skip all records of a batch
but the best of its groups.
-/
namespace RuleQuery.AggregationPlan

variable {R : Type}

def better (preferred : Ordering) (best next : Candidate R) : Candidate R :=
  if next.value.aggregateCompare best.value == preferred then next else best

def enterAll (preferred : Ordering) (best later : List (Candidate R)) : List (Candidate R) :=
  later.foldl (fun best next => addCandidate preferred next best) best

section Walk

variable {preferred : Ordering} {c d x : Candidate R} {best later : List (Candidate R)}

theorem better_cases (preferred : Ordering) (c d : Candidate R) :
    better preferred c d = c ∨ better preferred c d = d := by
  unfold better
  split
  · exact .inr rfl
  · exact .inl rfl

theorem key_better (same : c.key == d.key) : (better preferred c d).key == c.key := by
  rcases better_cases preferred c d with kept | taken
  · rw [kept]
    exact BEq.rfl
  · rw [taken]
    exact BEq.symm same

theorem addCandidate_cons : addCandidate preferred x (c :: best) =
    if c.key == x.key then better preferred c x :: best
    else c :: addCandidate preferred x best := rfl

theorem addCandidate_of_new (new : ∀ c ∈ best, (c.key == x.key) = false) :
    addCandidate preferred x best = best ++ [x] := by
  induction best with
  | nil => rfl
  | cons c best ih =>
    rw [List.forall_mem_cons] at new
    rw [addCandidate_cons, new.1, ih new.2]
    rfl

/-- What holds of all candidates still holds after one more is entered. -/
theorem forall_mem_addCandidate {P : Candidate R → Prop} (each : ∀ c ∈ best, P c) (next : P x) :
    ∀ c ∈ addCandidate preferred x best, P c := by
  induction best with
  | nil => simpa [addCandidate] using next
  | cons c best ih =>
    rw [List.forall_mem_cons] at each
    rw [addCandidate_cons]
    split
    · refine List.forall_mem_cons.mpr ⟨?_, each.2⟩
      rcases better_cases preferred c x with kept | taken
      · rw [kept]
        exact each.1
      · rw [taken]
        exact next
    · exact List.forall_mem_cons.mpr ⟨each.1, ih each.2⟩

theorem forall_mem_enterAll {P : Candidate R → Prop} (each : ∀ c ∈ best, P c)
    (next : ∀ c ∈ later, P c) : ∀ c ∈ enterAll preferred best later, P c := by
  induction later generalizing best with
  | nil => exact each
  | cons x later ih =>
    rw [List.forall_mem_cons] at next
    exact ih (forall_mem_addCandidate each next.1) next.2

def Apart (best : List (Candidate R)) : Prop := best.Pairwise fun c d => (c.key == d.key) = false

theorem Apart.addCandidate (apart : Apart best) : Apart (addCandidate preferred x best) := by
  induction best with
  | nil => exact List.pairwise_singleton _ _
  | cons c best ih =>
    obtain ⟨first, rest⟩ := List.pairwise_cons.mp apart
    rw [addCandidate_cons]
    cases same : c.key == x.key with
    | true =>
      refine List.pairwise_cons.mpr ⟨fun d inside => ?_, rest⟩
      rw [BEq.congr_left (key_better same)]
      exact first d inside
    | false => exact List.pairwise_cons.mpr ⟨forall_mem_addCandidate first same, ih rest⟩

theorem Apart.enterAll (apart : Apart best) : Apart (enterAll preferred best later) := by
  induction later generalizing best with
  | nil => exact apart
  | cons x later ih => exact ih apart.addCandidate

/-- Candidates that share no key are all kept. -/
theorem enterAll_of_apart (apart : Apart (best ++ later)) :
    enterAll preferred best later = best ++ later := by
  induction later generalizing best with
  | nil => exact (List.append_nil best).symm
  | cons x later ih =>
    have new : ∀ c ∈ best, (c.key == x.key) = false := fun c inside =>
      (List.pairwise_append.mp apart).2.2 c inside x List.mem_cons_self
    have moved : best ++ x :: later = best ++ [x] ++ later := by simp
    rw [enterAll, List.foldl_cons, addCandidate_of_new new, moved]
    rw [moved] at apart
    exact ih apart

theorem enterAll_self (later : List (Candidate R)) :
    enterAll preferred [] (enterAll preferred [] later) = enterAll preferred [] later :=
  enterAll_of_apart (Apart.enterAll .nil)

/-- Candidates of two keys may be entered in either order once one of the keys is there. -/
theorem addCandidate_comm (present : ∃ c ∈ best, c.key == x.key)
    (apart : (d.key == x.key) = false) :
    addCandidate preferred x (addCandidate preferred d best) =
      addCandidate preferred d (addCandidate preferred x best) := by
  -- Each candidate changes its own place, and none is added in front of the place of `x`.
  induction best with
  | nil => simp at present
  | cons c best ih =>
    cases atX : c.key == x.key with
    | true =>
      have atD : (c.key == d.key) = false := by
        rw [BEq.congr_left atX, BEq.comm]
        exact apart
      have atD' : ((better preferred c x).key == d.key) = false := by
        rw [BEq.congr_left (key_better atX)]
        exact atD
      simp [addCandidate_cons, atX, atD, atD']
    | false =>
      have present' : ∃ c ∈ best, c.key == x.key := by simpa [atX] using present
      cases atD : c.key == d.key with
      | true =>
        have atX' : ((better preferred c d).key == x.key) = false := by
          rw [BEq.congr_left (key_better atD)]
          exact atX
        simp [addCandidate_cons, atX, atD, atX']
      | false => simp [addCandidate_cons, atX, atD, ih present']

theorem exists_key_addCandidate {key : GroupKey} (present : ∃ c ∈ best, c.key == key) :
    ∃ c ∈ addCandidate preferred x best, c.key == key := by
  induction best with
  | nil => simp at present
  | cons c best ih =>
    obtain ⟨d, inside, found⟩ := present
    rw [addCandidate_cons]
    cases same : c.key == x.key with
    | true =>
      rcases List.mem_cons.mp inside with rfl | inside
      · exact ⟨better preferred d x, List.mem_cons_self, BEq.trans (key_better same) found⟩
      · exact ⟨d, List.mem_cons_of_mem _ inside, found⟩
    | false =>
      rcases List.mem_cons.mp inside with rfl | inside
      · exact ⟨d, List.mem_cons_self, found⟩
      · obtain ⟨d', inside', found'⟩ := ih ⟨d, inside, found⟩
        exact ⟨d', List.mem_cons_of_mem _ inside', found'⟩

theorem enterAll_addCandidate_comm (present : ∃ c ∈ best, c.key == x.key)
    (apart : ∀ d ∈ later, (d.key == x.key) = false) :
    enterAll preferred (addCandidate preferred x best) later =
      addCandidate preferred x (enterAll preferred best later) := by
  induction later generalizing best with
  | nil => rfl
  | cons d later ih =>
    rw [List.forall_mem_cons] at apart
    rw [enterAll, List.foldl_cons, ← addCandidate_comm present apart.1]
    exact ih (exists_key_addCandidate present) apart.2

theorem exists_key_addCandidate_self (preferred : Ordering) (x : Candidate R)
    (best : List (Candidate R)) : ∃ c ∈ addCandidate preferred x best, c.key == x.key := by
  induction best with
  | nil => exact ⟨x, List.mem_cons_self, BEq.rfl⟩
  | cons c best ih =>
    rw [addCandidate_cons]
    cases same : c.key == x.key with
    | true => exact ⟨_, List.mem_cons_self, BEq.trans (key_better same) same⟩
    | false =>
      obtain ⟨d, inside, found⟩ := ih
      exact ⟨d, List.mem_cons_of_mem _ inside, found⟩

end Walk

def Associative (preferred : Ordering) (S : Candidate R → Prop) : Prop :=
  ∀ c d x, S c → S d → S x →
    better preferred (better preferred c d) x = better preferred c (better preferred d x)

section Batch

variable {preferred : Ordering} {S : Candidate R → Prop} {d x : Candidate R}
  {best batch later : List (Candidate R)} (associative : Associative preferred S)
include associative

theorem addCandidate_addCandidate (same : d.key == x.key) (each : ∀ c ∈ best, S c) (insideD : S d)
    (insideX : S x) : addCandidate preferred x (addCandidate preferred d best) =
      addCandidate preferred (better preferred d x) best := by
  induction best with
  | nil =>
    change addCandidate preferred x [d] = [better preferred d x]
    rw [addCandidate_cons, if_pos same]
  | cons c best ih =>
    rw [List.forall_mem_cons] at each
    cases atD : c.key == d.key with
    | true =>
      have atX : ((better preferred c d).key == x.key) = true :=
        BEq.trans (key_better atD) (BEq.trans atD same)
      have atBoth : (c.key == (better preferred d x).key) = true :=
        BEq.trans atD (BEq.symm (key_better same))
      simp [addCandidate_cons, atD, atX, atBoth, associative c d x each.1 insideD insideX]
    | false =>
      have atX : (c.key == x.key) = false := by rw [← BEq.congr_right same, atD]
      have atBoth : (c.key == (better preferred d x).key) = false := by
        rw [BEq.congr_right (key_better same), atD]
      simp [addCandidate_cons, atD, atX, atBoth, ih each.2]

theorem enterAll_addCandidate (apart : Apart batch) (each : ∀ c ∈ best, S c)
    (eachBatch : ∀ c ∈ batch, S c) (insideX : S x) :
    enterAll preferred best (addCandidate preferred x batch) =
      addCandidate preferred x (enterAll preferred best batch) := by
  induction batch generalizing best with
  | nil => rfl
  | cons d batch ih =>
    rw [List.forall_mem_cons] at eachBatch
    obtain ⟨first, rest⟩ := List.pairwise_cons.mp apart
    rw [addCandidate_cons]
    cases same : d.key == x.key with
    | true =>
      -- Nothing behind `d` has the key of `x`, so `x` may as well be entered last.
      have others : ∀ e ∈ batch, (e.key == x.key) = false := by
        intro e inside
        rw [← BEq.congr_right same, BEq.comm]
        exact first e inside
      have present : ∃ c ∈ addCandidate preferred d best, c.key == x.key := by
        obtain ⟨c, inside, found⟩ := exists_key_addCandidate_self preferred d best
        exact ⟨c, inside, BEq.trans found same⟩
      calc enterAll preferred best (better preferred d x :: batch)
          = enterAll preferred (addCandidate preferred (better preferred d x) best) batch := rfl
        _ = enterAll preferred (addCandidate preferred x (addCandidate preferred d best)) batch := by
            rw [addCandidate_addCandidate associative same each eachBatch.1 insideX]
        _ = addCandidate preferred x (enterAll preferred (addCandidate preferred d best) batch) :=
            enterAll_addCandidate_comm present others
    | false => exact ih rest (forall_mem_addCandidate each eachBatch.1) eachBatch.2

/-- Entering the best of a batch is entering the batch. -/
theorem enterAll_enterAll (apart : Apart batch) (each : ∀ c ∈ best, S c)
    (eachBatch : ∀ c ∈ batch, S c) (eachLater : ∀ c ∈ later, S c) :
    enterAll preferred best (enterAll preferred batch later) =
      enterAll preferred (enterAll preferred best batch) later := by
  induction later generalizing batch with
  | nil => rfl
  | cons x later ih =>
    rw [List.forall_mem_cons] at eachLater
    calc enterAll preferred best (enterAll preferred (addCandidate preferred x batch) later)
        = enterAll preferred (enterAll preferred best (addCandidate preferred x batch)) later :=
          ih apart.addCandidate (forall_mem_addCandidate eachBatch eachLater.1) eachLater.2
      _ = enterAll preferred (addCandidate preferred x (enterAll preferred best batch)) later := by
          rw [enterAll_addCandidate associative apart each eachBatch eachLater.1]

/-- The best of two batches are found among the best of each. -/
theorem enterAll_append (each : ∀ c ∈ batch, S c) (eachLater : ∀ c ∈ later, S c) :
    enterAll preferred [] (enterAll preferred [] batch ++ enterAll preferred [] later) =
      enterAll preferred [] (batch ++ later) := by
  calc enterAll preferred [] (enterAll preferred [] batch ++ enterAll preferred [] later)
      = enterAll preferred (enterAll preferred [] (enterAll preferred [] batch))
          (enterAll preferred [] later) := List.foldl_append
    _ = enterAll preferred (enterAll preferred [] batch) (enterAll preferred [] later) := by
        rw [enterAll_self]
    _ = enterAll preferred (enterAll preferred [] batch) later :=
        enterAll_enterAll associative .nil (forall_mem_enterAll (by simp) each) (by simp) eachLater
    _ = enterAll preferred [] (batch ++ later) := List.foldl_append.symm

end Batch

/-- Better is transitive, and so is not better: what beats the third but not the second beats the
first only through the second. -/
theorem associative_of_arranged {preferred : Ordering} (strict : preferred = .lt ∨ preferred = .gt)
    {S : Value → Prop} (arranged : Value.Arranged S) :
    Associative (R := R) preferred fun c => S c.value := by
  intro c d x insideC insideD insideX
  have trans : x.value.arrange d.value = preferred → d.value.arrange c.value = preferred →
      x.value.arrange c.value = preferred := by
    rcases strict with rfl | rfl
    · exact Std.TransCmp.lt_trans
    · exact Std.TransCmp.gt_trans
  have not : x.value.arrange d.value ≠ preferred → d.value.arrange c.value ≠ preferred →
      x.value.arrange c.value ≠ preferred := by
    rcases strict with rfl | rfl
    · simp only [ne_eq, ← Ordering.isGE_iff_ne_lt]
      exact Std.TransCmp.isGE_trans
    · simp only [ne_eq, ← Ordering.isLE_iff_ne_gt]
      exact Std.TransCmp.isLE_trans
  simp only [better, beq_iff_eq]
  rw [arranged.aggregateCompare_eq insideD insideC]
  by_cases second : d.value.arrange c.value = preferred
  · rw [if_pos second, arranged.aggregateCompare_eq insideX insideD]
    by_cases third : x.value.arrange d.value = preferred
    · rw [if_pos third, arranged.aggregateCompare_eq insideX insideC, if_pos (trans third second)]
    · rw [if_neg third, arranged.aggregateCompare_eq insideD insideC, if_pos second]
  · rw [if_neg second, arranged.aggregateCompare_eq insideX insideD,
      arranged.aggregateCompare_eq insideX insideC]
    by_cases third : x.value.arrange d.value = preferred
    · rw [if_pos third, arranged.aggregateCompare_eq insideX insideC]
    · rw [if_neg third, arranged.aggregateCompare_eq insideD insideC, if_neg second,
        if_neg (not third second)]

section Plan

variable (plan : AggregationPlan R) (preferred : Ordering) (get : R → Value)

def candidate (record : R) : Candidate R := ⟨plan.keyFor record, record, get record⟩

theorem select_eq_enterAll (records : List R) : plan.select preferred get records =
    (enterAll preferred [] (records.map (plan.candidate get))).map (·.record) := by
  rw [select, enterAll, List.foldl_map]
  rfl

theorem map_candidate_select (records : List R) :
    (plan.select preferred get records).map (plan.candidate get) =
      enterAll preferred [] (records.map (plan.candidate get)) := by
  have each : ∀ c ∈ enterAll preferred [] (records.map (plan.candidate get)),
      plan.candidate get c.record = c := by
    refine forall_mem_enterAll (by simp) fun c inside => ?_
    obtain ⟨record, -, rfl⟩ := List.mem_map.mp inside
    rfl
  rw [select_eq_enterAll, List.map_map]
  exact (List.map_congr_left each).trans (List.map_id _)

theorem mem_of_mem_select {records : List R} {record : R}
    (kept : record ∈ plan.select preferred get records) : record ∈ records := by
  rw [select_eq_enterAll] at kept
  obtain ⟨c, inside, rfl⟩ := List.mem_map.mp kept
  refine forall_mem_enterAll (P := fun c => c.record ∈ records) (by simp) ?_ c inside
  intro c inside
  obtain ⟨record, there, rfl⟩ := List.mem_map.mp inside
  exact there

/-- The best records are of different groups, so none of them is dropped when asked again. -/
theorem select_select (records : List R) :
    plan.select preferred get (plan.select preferred get records) =
      plan.select preferred get records := by
  rw [select_eq_enterAll, map_candidate_select, enterAll_self, ← select_eq_enterAll]

variable {preferred}

theorem select_append {S : Value → Prop} (strict : preferred = .lt ∨ preferred = .gt)
    (arranged : Value.Arranged S) {a b : List R} (insideA : ∀ record ∈ a, S (get record))
    (insideB : ∀ record ∈ b, S (get record)) :
    plan.select preferred get (plan.select preferred get a ++ plan.select preferred get b) =
      plan.select preferred get (a ++ b) := by
  have each {records : List R} (inside : ∀ record ∈ records, S (get record)) :
      ∀ c ∈ records.map (plan.candidate get), S c.value := by
    intro c there
    obtain ⟨record, taken, rfl⟩ := List.mem_map.mp there
    exact inside record taken
  rw [select_eq_enterAll, List.map_append, map_candidate_select, map_candidate_select,
    enterAll_append (associative_of_arranged strict arranged) (each insideA) (each insideB),
    ← List.map_append, ← select_eq_enterAll]

end Plan

end RuleQuery.AggregationPlan
