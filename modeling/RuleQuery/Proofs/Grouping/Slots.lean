import RuleQuery.Proofs.Grouping.Count
import RuleQuery.Proofs.Grouping.Winners

/-!
Groups by number. A table numbers the keys in the order in which they first come, and what belongs
to a key is held in the place of its number and changed there. Sizes of groups are counted so, and
best records are remembered by their positions and moved out of the list at the end. Both yield what
a search for the key among the groups yields.
-/
namespace RuleQuery.AggregationPlan

/-- Numbers of keys, and what is held under each number. -/
structure Slots (α : Type) where
  numbers : List (GroupKey × Nat)
  held : List α

namespace Slots

variable {α : Type} {slots : Slots α} {key : GroupKey}

def empty : Slots α := ⟨[], []⟩

def number? (slots : Slots α) (key : GroupKey) : Option Nat :=
  (slots.numbers.find? (·.1 == key)).map (·.2)

def enter (key : GroupKey) (first : α) (again : α → α) (slots : Slots α) : Slots α :=
  match slots.number? key with
  | some i => ⟨slots.numbers, slots.held.modify i again⟩
  | none => ⟨(key, slots.held.length) :: slots.numbers, slots.held ++ [first]⟩

/-- The keys are numbered as they stand in the list, and each number holds something. -/
structure Numbers (slots : Slots α) (keys : List GroupKey) : Prop where
  number : ∀ key, slots.number? key = keys.findIdx? (· == key)
  full : slots.held.length = keys.length

theorem numbers_empty : (empty : Slots α).Numbers [] := ⟨fun _ => rfl, rfl⟩

variable {keys : List GroupKey} (first : α) (again : α → α)

theorem enter_of_known {i : Nat} (numbers : slots.Numbers keys)
    (known : keys.findIdx? (· == key) = some i) :
    (slots.enter key first again).held = slots.held.modify i again ∧
      (slots.enter key first again).Numbers keys := by
  rw [← numbers.number] at known
  rw [enter, known]
  exact ⟨rfl, numbers.number, (List.length_modify ..).trans numbers.full⟩

theorem enter_of_new (numbers : slots.Numbers keys) (new : keys.findIdx? (· == key) = none) :
    (slots.enter key first again).held = slots.held ++ [first] ∧
      (slots.enter key first again).Numbers (keys ++ [key]) := by
  have missing := new
  rw [← numbers.number] at missing
  rw [enter, missing]
  refine ⟨rfl, fun other => ?_, by simp [numbers.full]⟩
  rw [List.findIdx?_append, List.findIdx?_singleton, ← numbers.number other, number?,
    List.find?_cons]
  cases same : key == other with
  | true =>
    have alike : (fun k : GroupKey => k == key) = (· == other) :=
      funext fun _ => BEq.congr_right same
    rw [alike, ← numbers.number] at new
    simp [new, numbers.full]
  | false =>
    rw [number?]
    simp

end Slots

/-- A walk along a list that changes the first item of a kind, or puts one at the end, changes the
item at its position. -/
theorem eq_modify_findIdx? {α : Type} (walk : List α → List α) {p : α → Bool} {change : α → α}
    {new : α} (nil : walk [] = [new])
    (cons : ∀ a l, walk (a :: l) = if p a then change a :: l else a :: walk l) (l : List α) :
    walk l = (l.findIdx? p).elim (l ++ [new]) fun i => l.modify i change := by
  induction l with
  | nil => exact nil
  | cons a l ih =>
    rw [cons, List.findIdx?_cons]
    cases p a with
    | true => rfl
    | false =>
      rw [if_neg Bool.false_ne_true, if_neg Bool.false_ne_true, ih]
      cases l.findIdx? p <;> rfl

theorem findIdx?_eq_of_forall₂ {α β : Type} {p : α → Bool} {q : β → Bool} {l : List α} {m : List β}
    (alike : List.Forall₂ (fun a b => p a = q b) l m) : l.findIdx? p = m.findIdx? q := by
  induction alike with
  | nil => rfl
  | cons first _ ih => rw [List.findIdx?_cons, List.findIdx?_cons, first, ih]

theorem contains_eq_isSome (keys : List GroupKey) (key : GroupKey) :
    keys.contains key = (keys.findIdx? (· == key)).isSome := by
  rw [List.findIdx?_isSome, List.contains_eq_any_beq]
  congr 1
  funext k
  exact BEq.comm

theorem exists_mem_of_forall₂ {α β : Type} {P : α → β → Prop} {l : List α} {m : List β}
    (each : List.Forall₂ P l m) {a : α} (inside : a ∈ l) : ∃ b ∈ m, P a b := by
  induction each with
  | nil => cases inside
  | cons first _ ih =>
    rcases List.mem_cons.mp inside with rfl | inside
    · exact ⟨_, List.mem_cons_self, first⟩
    · obtain ⟨b, there, held⟩ := ih inside
      exact ⟨b, List.mem_cons_of_mem _ there, held⟩

/-- What holds of any two items of a list holds of those that stand beside them. -/
theorem pairwise_of_forall₂ {α β : Type} {P : α → β → Prop} {S : α → α → Prop} {Q : β → β → Prop}
    {l : List α} {m : List β} (carried : ∀ a b, P a b → ∀ a' b', P a' b' → Q b b' → S a a')
    (each : List.Forall₂ P l m) (apart : m.Pairwise Q) : l.Pairwise S := by
  rw [List.forall₂_iff_get] at each
  obtain ⟨length, each⟩ := each
  rw [List.pairwise_iff_getElem] at apart ⊢
  intro i j insideI insideJ less
  exact carried _ _ (each i insideI (length ▸ insideI)) _ _ (each j insideJ (length ▸ insideJ))
    (apart i j _ _ less)

theorem forall₂_modify {α β : Type} {P Q : α → β → Prop} {f : α → α} {g : β → β} {l : List α}
    {m : List β} (kept : ∀ a b, P a b → Q a b) (changed : ∀ a b, P a b → Q (f a) (g b))
    (each : List.Forall₂ P l m) (i : Nat) : List.Forall₂ Q (l.modify i f) (m.modify i g) := by
  induction each generalizing i with
  | nil =>
    rw [List.modify_nil, List.modify_nil]
    exact .nil
  | cons first rest ih =>
    cases i with
    | zero => exact .cons (changed _ _ first) (rest.imp kept)
    | succ i => exact .cons (kept _ _ first) (ih i)

section Sizes

def addOne (row : GroupCount) : GroupCount := ⟨row.key, row.count + 1⟩

theorem addKey_eq_modify (key : GroupKey) (rows : List GroupCount) :
    addKey key rows =
      (rows.findIdx? (·.key == key)).elim (rows ++ [⟨key, 1⟩]) fun i => rows.modify i addOne :=
  eq_modify_findIdx? (addKey key) rfl (fun _ _ => rfl) rows

theorem map_key_modify_addOne (rows : List GroupCount) (i : Nat) :
    (rows.modify i addOne).map (·.key) = rows.map (·.key) := by
  induction rows generalizing i with
  | nil => rw [List.modify_nil]
  | cons row rows ih =>
    cases i with
    | zero => rfl
    | succ i => rw [List.modify_succ_cons, List.map_cons, List.map_cons, ih]

theorem enter_addOne {slots : Slots GroupCount} (key : GroupKey)
    (numbers : slots.Numbers (slots.held.map (·.key))) :
    (slots.enter key ⟨key, 1⟩ addOne).held = addKey key slots.held ∧
      (slots.enter key ⟨key, 1⟩ addOne).Numbers
        ((slots.enter key ⟨key, 1⟩ addOne).held.map (·.key)) := by
  have place : (slots.held.map (·.key)).findIdx? (· == key) =
      slots.held.findIdx? (·.key == key) := List.findIdx?_map
  rw [addKey_eq_modify]
  cases found : slots.held.findIdx? (·.key == key) with
  | some i =>
    obtain ⟨changed, kept⟩ := Slots.enter_of_known ⟨key, 1⟩ addOne numbers (place.trans found)
    rw [changed, map_key_modify_addOne]
    exact ⟨rfl, kept⟩
  | none =>
    obtain ⟨added, grown⟩ := Slots.enter_of_new ⟨key, 1⟩ addOne numbers (place.trans found)
    rw [added, List.map_append]
    exact ⟨rfl, grown⟩

variable {R : Type} (plan : AggregationPlan R)

def countBySlots (records : List R) : List GroupCount :=
  (records.foldl (fun slots record =>
    slots.enter (plan.keyFor record) ⟨plan.keyFor record, 1⟩ addOne) Slots.empty).held

theorem countBySlots_eq_count (records : List R) :
    plan.countBySlots records = plan.count records := by
  have run : ∀ slots : Slots GroupCount, slots.Numbers (slots.held.map (·.key)) →
      (records.foldl (fun slots record =>
        slots.enter (plan.keyFor record) ⟨plan.keyFor record, 1⟩ addOne) slots).held =
      records.foldl (fun rows record => addKey (plan.keyFor record) rows) slots.held := by
    induction records with
    | nil => exact fun _ _ => rfl
    | cons record records ih =>
      intro slots numbers
      obtain ⟨same, numbered⟩ := enter_addOne (plan.keyFor record) numbers
      rw [List.foldl_cons, List.foldl_cons, ih _ numbered, same]
  exact run .empty Slots.numbers_empty

end Sizes

section Positions

variable {R : Type} {preferred : Ordering}

theorem addCandidate_eq_modify (x : Candidate R) (best : List (Candidate R)) :
    addCandidate preferred x best = (best.findIdx? (·.key == x.key)).elim (best ++ [x])
      fun i => best.modify i fun c => better preferred c x :=
  eq_modify_findIdx? (addCandidate preferred x) rfl (fun _ _ => rfl) best

def takeAt : List (Option R) → List Nat → List R
  | _, [] => []
  | places, position :: rest =>
    places[position]?.join.toList ++ takeAt (places.set position none) rest

theorem takeAt_of_distinct {places : List (Option R)} {positions : List Nat} {items : List R}
    (distinct : positions.Nodup)
    (there : List.Forall₂ (fun position item => places[position]? = some (some item))
      positions items) : takeAt places positions = items := by
  induction positions generalizing places items with
  | nil =>
    cases there
    rfl
  | cons position positions ih =>
    cases there with
    | @cons _ item _ items first rest =>
      obtain ⟨new, distinct⟩ := List.nodup_cons.mp distinct
      -- Moving an item out empties its place, which no later position asks for.
      have left : List.Forall₂
          (fun p item => (places.set position none)[p]? = some (some item)) positions items := by
        have others : ∀ p ∈ positions, p ≠ position := fun p inside same => new (same ▸ inside)
        refine ((List.forall₂_and_left ..).mpr ⟨others, rest⟩).imp ?_
        rintro p item ⟨other, found⟩
        rw [List.getElem?_set_ne (Ne.symm other), found]
      rw [takeAt, first, ih distinct left]
      rfl

variable (plan : AggregationPlan R) (preferred) (get : R → Value)

/-- Remembers the position and the value of a record if its key is new or its value is better than
that of the one remembered for the key. -/
def enterPosition (slots : Slots (Nat × Value)) (record : R) (position : Nat) :
    Slots (Nat × Value) :=
  slots.enter (plan.keyFor record) (position, get record) fun best =>
    if (get record).aggregateCompare best.2 == preferred then (position, get record) else best

def bestPositions (records : List R) : Slots (Nat × Value) :=
  records.zipIdx.foldl (fun slots item => plan.enterPosition preferred get slots item.1 item.2)
    Slots.empty

def selectByPosition (records : List R) : List R :=
  takeAt (records.map some) ((plan.bestPositions preferred get records).held.map (·.1))

theorem bestPositions_concat (seen : List R) (record : R) :
    plan.bestPositions preferred get (seen ++ [record]) =
      plan.enterPosition preferred get (plan.bestPositions preferred get seen) record
        seen.length := by
  rw [bestPositions, List.zipIdx_append, List.zipIdx_singleton, Nat.zero_add, List.foldl_concat]
  rfl

structure Remembers (seen : List R) (slots : Slots (Nat × Value)) (best : List (Candidate R)) :
    Prop where
  numbers : slots.Numbers (firstOccurrences (seen.map plan.keyFor))
  held : List.Forall₂ (fun w c => seen[w.1]? = some c.record ∧ w.2 = c.value) slots.held best

def bestCandidates (records : List R) : List (Candidate R) :=
  enterAll preferred [] (records.map (plan.candidate get))

theorem keys_bestCandidates (seen : List R) :
    List.Forall₂ (fun key c => (c.key == key) = true) (firstOccurrences (seen.map plan.keyFor))
      (plan.bestCandidates preferred get seen) := by
  have won := winners_enterAll preferred (seen.map (plan.candidate get))
  rw [List.map_map] at won
  exact won.imp fun _ _ => key_of_winner?_sharing

variable {plan preferred get} in
theorem remembers_enterPosition {seen : List R} {slots : Slots (Nat × Value)} (record : R)
    (remembers : plan.Remembers seen slots (plan.bestCandidates preferred get seen)) :
    plan.Remembers (seen ++ [record]) (plan.enterPosition preferred get slots record seen.length)
      (plan.bestCandidates preferred get (seen ++ [record])) := by
  obtain ⟨numbers, held⟩ := remembers
  have step : plan.bestCandidates preferred get (seen ++ [record]) =
      addCandidate preferred (plan.candidate get record)
        (plan.bestCandidates preferred get seen) := by
    rw [bestCandidates, List.map_append]
    exact List.foldl_concat ..
  have place : (firstOccurrences (seen.map plan.keyFor)).findIdx? (· == plan.keyFor record) =
      (plan.bestCandidates preferred get seen).findIdx?
        (·.key == (plan.candidate get record).key) :=
    findIdx?_eq_of_forall₂ ((plan.keys_bestCandidates preferred get seen).imp fun _ _ same =>
      (BEq.congr_left same).symm)
  have last : (seen ++ [record])[seen.length]? = some record := List.getElem?_concat_length
  have earlier : ∀ (w : Nat × Value) (c : Candidate R), seen[w.1]? = some c.record ∧ w.2 = c.value →
      (seen ++ [record])[w.1]? = some c.record ∧ w.2 = c.value := by
    rintro w c ⟨there, value⟩
    rw [List.getElem?_append_left (List.getElem?_eq_some_iff.mp there).1]
    exact ⟨there, value⟩
  rw [step, addCandidate_eq_modify, ← place]
  refine ⟨?_, ?_⟩
  · rw [List.map_append, List.map_singleton, firstOccurrences_concat, ← contains_firstOccurrences,
      contains_eq_isSome]
    cases found : (firstOccurrences (seen.map plan.keyFor)).findIdx? (· == plan.keyFor record) with
    | some i =>
      rw [Option.isSome_some, if_pos rfl, List.append_nil]
      exact (Slots.enter_of_known _ _ numbers found).2
    | none => exact (Slots.enter_of_new _ _ numbers found).2
  · cases found : (firstOccurrences (seen.map plan.keyFor)).findIdx? (· == plan.keyFor record) with
    | some i =>
      rw [enterPosition, (Slots.enter_of_known _ _ numbers found).1]
      refine forall₂_modify earlier (fun w c both => ?_) held i
      rw [both.2, better, candidate]
      cases (get record).aggregateCompare c.value == preferred with
      | true => exact ⟨last, rfl⟩
      | false => exact earlier w c both
    | none =>
      rw [enterPosition, (Slots.enter_of_new _ _ numbers found).1]
      exact List.rel_append (held.imp earlier) (.cons ⟨last, rfl⟩ .nil)

theorem remembers_bestPositions (records : List R) :
    plan.Remembers records (plan.bestPositions preferred get records)
      (plan.bestCandidates preferred get records) := by
  induction records using List.reverseRecOn with
  | nil => exact ⟨Slots.numbers_empty, .nil⟩
  | append_singleton seen record ih =>
    rw [bestPositions_concat]
    exact remembers_enterPosition record ih

theorem pairwise_select (records : List R) :
    (plan.select preferred get records).Pairwise fun r s =>
      (plan.keyFor r == plan.keyFor s) = false := by
  have apart : Apart (plan.bestCandidates preferred get records) := Apart.enterAll .nil
  rw [bestCandidates, ← map_candidate_select] at apart
  exact List.pairwise_map.mp apart

/-- No record is lost when the best ones are moved out: they are of different groups, so they stand
at different positions. -/
theorem selectByPosition_eq_select (records : List R) :
    plan.selectByPosition preferred get records = plan.select preferred get records := by
  have held := (plan.remembers_bestPositions preferred get records).held
  rw [bestCandidates, ← map_candidate_select, List.forall₂_map_right_iff] at held
  refine takeAt_of_distinct ?_ ?_
  · rw [List.Nodup, List.pairwise_map]
    refine pairwise_of_forall₂ ?_ held (plan.pairwise_select preferred get records)
    rintro w r ⟨there, -⟩ v s ⟨there', -⟩ different same
    rw [same, there'] at there
    obtain rfl : s = r := Option.some.inj there
    exact absurd BEq.rfl (ne_true_of_eq_false different)
  · rw [List.forall₂_map_left_iff]
    refine held.imp ?_
    rintro w r ⟨there, -⟩
    rw [List.getElem?_map, there]
    rfl

end Positions

end RuleQuery.AggregationPlan
