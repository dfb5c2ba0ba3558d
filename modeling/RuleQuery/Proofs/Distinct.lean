namespace RuleQuery

variable {α : Type} [BEq α]

/-- The items that equal none of the earlier ones and none before them in the list. -/
def newItems (earlier : List α) : List α → List α
  | [] => []
  | x :: rest =>
    if earlier.contains x then newItems (x :: earlier) rest
    else x :: newItems (x :: earlier) rest

def firstOccurrences (items : List α) : List α := newItems [] items

def SameItems (items others : List α) : Prop := ∀ x, items.contains x = others.contains x

theorem mem_of_mem_newItems {earlier items : List α} {x : α} (kept : x ∈ newItems earlier items) :
    x ∈ items := by
  induction items generalizing earlier with
  | nil => cases kept
  | cons y rest ih =>
    unfold newItems at kept
    split at kept
    · exact List.mem_cons_of_mem y (ih kept)
    · rcases List.mem_cons.mp kept with rfl | kept
      · exact List.mem_cons_self
      · exact List.mem_cons_of_mem y (ih kept)

theorem newItems_append (earlier front back : List α) :
    newItems earlier (front ++ back) =
      newItems earlier front ++ newItems (front.reverse ++ earlier) back := by
  induction front generalizing earlier with
  | nil => rfl
  | cons x front ih =>
    rw [List.cons_append, newItems, newItems, ih (x :: earlier), List.reverse_cons,
      List.append_assoc]
    split
    · rfl
    · rfl

theorem newItems_earlier (earlier more items : List α) :
    newItems (earlier ++ more) items = (newItems earlier items).filter fun x => !more.contains x := by
  induction items generalizing earlier with
  | nil => rfl
  | cons x items ih =>
    have later := ih (x :: earlier)
    rw [List.cons_append] at later
    rw [newItems, newItems, List.contains_append, later]
    cases earlier.contains x with
    | true => rfl
    | false => cases seen : more.contains x <;> simp [seen]

theorem firstOccurrences_append (front back : List α) :
    firstOccurrences (front ++ back) =
      firstOccurrences front ++ (firstOccurrences back).filter fun x => !front.contains x := by
  have seen : ∀ x, (front.reverse ++ []).contains x = front.contains x := by
    intro x
    rw [Bool.eq_iff_iff]
    simp only [List.contains_iff_exists_mem_beq, List.append_nil, List.mem_reverse]
  have later := newItems_earlier [] (front.reverse ++ []) back
  simp only [seen, List.nil_append] at later
  rw [firstOccurrences, newItems_append, later]
  rfl

theorem firstOccurrences_concat (items : List α) (x : α) :
    firstOccurrences (items ++ [x]) =
      firstOccurrences items ++ if items.contains x then [] else [x] := by
  have single : firstOccurrences [x] = [x] := rfl
  rw [firstOccurrences_append, single]
  cases seen : items.contains x <;> simp [seen]

theorem sameItems_flatMap {β : Type} {items others : List β} {f : β → List α}
    (same : ∀ x, x ∈ items ↔ x ∈ others) : SameItems (items.flatMap f) (others.flatMap f) := by
  intro x
  rw [Bool.eq_iff_iff]
  simp only [List.contains_iff_exists_mem_beq, List.mem_flatMap, same]

variable [EquivBEq α]

theorem contains_congr {items : List α} {x y : α} (same : x == y) :
    items.contains x = items.contains y := by
  simp only [List.contains_eq_any_beq]
  congr 1
  funext z
  exact BEq.congr_left same

theorem eraseDups_filter_eq_newItems (earlier items : List α) :
    (items.filter fun x => !earlier.contains x).eraseDups = newItems earlier items := by
  induction items generalizing earlier with
  | nil => rfl
  | cons x rest ih =>
    have later := ih (x :: earlier)
    unfold newItems
    -- An item seen before changes nothing for the rest; a new one is kept and dropped from it.
    cases seen : earlier.contains x with
    | true =>
      have kept : (rest.filter fun y => !(x :: earlier).contains y) =
          rest.filter fun y => !earlier.contains y := by
        refine List.filter_congr fun y _ => ?_
        rw [List.contains_cons]
        cases same : y == x with
        | true => simp [contains_congr same, seen]
        | false => rfl
      rw [kept] at later
      rw [List.filter_cons_of_neg (by simp [seen]), later, if_pos rfl]
    | false =>
      have kept : (rest.filter fun y => !(x :: earlier).contains y) =
          (rest.filter fun y => !earlier.contains y).filter fun y => !y == x := by
        rw [List.filter_filter]
        refine List.filter_congr fun y _ => ?_
        rw [List.contains_cons, Bool.not_or]
      rw [kept] at later
      rw [List.filter_cons_of_pos (by simp [seen]), List.eraseDups_cons, later, if_neg nofun]

theorem eraseDups_eq_firstOccurrences (items : List α) :
    items.eraseDups = firstOccurrences items := by
  have all : (items.filter fun x => !([] : List α).contains x) = items :=
    List.filter_eq_self.mpr fun _ _ => rfl
  rw [firstOccurrences, ← eraseDups_filter_eq_newItems, all]

theorem contains_newItems (earlier items : List α) (x : α) :
    (newItems earlier items).contains x = (items.contains x && !earlier.contains x) := by
  induction items generalizing earlier with
  | nil => rfl
  | cons y rest ih =>
    unfold newItems
    cases same : x == y with
    | true =>
      rw [← contains_congr same]
      cases seen : earlier.contains x with
      | true => simp [ih, same]
      | false => simp [same]
    | false =>
      cases seen : earlier.contains y with
      | true => simp [ih, same]
      | false => simp [ih, same]

theorem contains_firstOccurrences (items : List α) (x : α) :
    (firstOccurrences items).contains x = items.contains x := by
  rw [firstOccurrences, contains_newItems]
  exact Bool.and_true _

theorem exists_first_occurrence {items : List α} {x : α} (inside : x ∈ items) :
    ∃ first ∈ firstOccurrences items, (x == first) = true := by
  rw [← List.contains_iff_exists_mem_beq, contains_firstOccurrences,
    List.contains_iff_exists_mem_beq]
  exact ⟨x, inside, BEq.rfl⟩

theorem pairwise_newItems (earlier items : List α) :
    (newItems earlier items).Pairwise fun x y => (x == y) = false := by
  induction items generalizing earlier with
  | nil => exact .nil
  | cons x rest ih =>
    unfold newItems
    split
    · exact ih _
    · refine .cons (fun y inside => ?_) (ih _)
      have there : (newItems (x :: earlier) rest).contains y = true :=
        List.contains_iff_exists_mem_beq.mpr ⟨y, inside, BEq.rfl⟩
      rw [contains_newItems, List.contains_cons, Bool.not_or] at there
      rw [BEq.comm]
      cases same : y == x with
      | true => simp [same] at there
      | false => rfl

theorem pairwise_firstOccurrences (items : List α) :
    (firstOccurrences items).Pairwise fun x y => (x == y) = false := pairwise_newItems [] items

/-- Of items of which no two share a key, one has a key that is there. -/
theorem countP_eq_one_of_apart {β : Type} {f : β → α} {items : List β} {x : α}
    (apart : items.Pairwise fun a b => (f a == f b) = false)
    (present : ∃ a ∈ items, (f a == x) = true) : items.countP (fun a => f a == x) = 1 := by
  induction items with
  | nil => simp at present
  | cons a items ih =>
    obtain ⟨others, apart⟩ := List.pairwise_cons.mp apart
    rw [List.countP_cons]
    cases same : f a == x with
    | true =>
      have none : items.countP (fun b => f b == x) = 0 := by
        refine List.countP_eq_zero.mpr fun b inside equal => ?_
        rw [← BEq.congr_right equal, others b inside] at same
        cases same
      rw [none, if_pos rfl]
    | false =>
      have later : ∃ b ∈ items, (f b == x) = true := by simpa [same] using present
      rw [ih apart later, if_neg Bool.false_ne_true]

end RuleQuery
