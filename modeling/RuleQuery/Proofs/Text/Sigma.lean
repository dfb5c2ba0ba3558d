import RuleQuery.Text.Casing
import RuleQuery.Text.Search

/-!
Parts of texts in lower case. All characters but the capital sigma have one lower case; a sigma
looks at the nearest characters around it that are not case-ignorable. So a part of a text becomes
in lower case what it becomes alone exactly if each capital sigma in it is settled: what it looks at
stands in the part, or what stands there leaves no choice.
-/
namespace RuleQuery.Text

def endsSearch (cs : List Char) : Bool := cs.any fun c => !isCaseIgnorable c

/-- A capital sigma between these characters (those before it from the last one on) has the same
lower case whatever stands around them. -/
def SigmaSettled (before after : List Char) : Prop :=
  startsCased after = true ∨
    endsSearch before = true ∧ (startsCased before = true → endsSearch after = true)

instance (before after : List Char) : Decidable (SigmaSettled before after) :=
  inferInstanceAs (Decidable (_ ∨ _))

/-- All capital sigmas of the part are settled in it. -/
def Settled (part : List Char) : Prop :=
  ∀ before after, part = before ++ 'Σ' :: after → SigmaSettled before.reverse after

section Context

variable {b b' a a' cs xs ys : List Char}

theorem startsCased_append_of_endsSearch (found : endsSearch xs = true) :
    startsCased (xs ++ ys) = startsCased xs := by
  induction xs with
  | nil => cases found
  | cons c xs ih =>
    cases ignorable : isCaseIgnorable c with
    | true =>
      have later : endsSearch xs = true := by simpa [endsSearch, ignorable] using found
      simpa [startsCased, ignorable] using ih later
    | false => simp [startsCased, ignorable]

theorem startsCased_append_of_not_endsSearch (none : endsSearch xs = false) :
    startsCased (xs ++ ys) = startsCased ys := by
  have ignored : ∀ c ∈ xs, isCaseIgnorable c = true := by simpa [endsSearch] using none
  rw [startsCased, List.dropWhile_append_of_pos ignored, startsCased]

theorem startsCased_of_not_endsSearch (none : endsSearch xs = false) : startsCased xs = false := by
  have alone : startsCased (xs ++ []) = startsCased [] :=
    startsCased_append_of_not_endsSearch none
  rwa [List.append_nil] at alone

theorem endsSearch_of_startsCased (cased : startsCased xs = true) : endsSearch xs = true := by
  cases found : endsSearch xs with
  | true => rfl
  | false => rw [startsCased_of_not_endsSearch found] at cased; cases cased

/-- The lower case of a character between others, those before it from the last one on. -/
def lowerAt (before : List Char) (c : Char) (after : List Char) : List Char :=
  if c = 'Σ' then [if startsCased before && !startsCased after then 'ς' else 'σ'] else lowerChar c

def lowerBetween (before : List Char) : (cs after : List Char) → List Char
  | [], _ => []
  | c :: rest, after => lowerAt before c (rest ++ after) ++ lowerBetween (c :: before) rest after

theorem lowerAfter_eq (before cs : List Char) :
    lowerAfter before cs = lowerBetween before cs [] := by
  induction cs generalizing before with
  | nil => rfl
  | cons c rest ih => rw [lowerAfter, lowerBetween, ih, List.append_nil, lowerAt]

theorem lowerBetween_append (before xs ys after : List Char) :
    lowerBetween before (xs ++ ys) after =
      lowerBetween before xs (ys ++ after) ++ lowerBetween (xs.reverse ++ before) ys after := by
  induction xs generalizing before with
  | nil => rfl
  | cons x xs ih => simp [lowerBetween, ih]

theorem toList_lower (s : String) : (lower s).toList = lowerBetween [] s.toList [] := by
  rw [lower, String.toList_ofList, lowerAfter_eq]

theorem lowerAt_of_settled (settled : SigmaSettled b a) :
    lowerAt (b ++ b') 'Σ' (a ++ a') = lowerAt b 'Σ' a := by
  simp only [lowerAt]
  rcases settled with cased | ⟨found, after⟩
  · rw [startsCased_append_of_endsSearch (endsSearch_of_startsCased cased), cased]
    simp
  · rw [startsCased_append_of_endsSearch found]
    cases cased : startsCased b with
    | false => rfl
    | true => rw [startsCased_append_of_endsSearch (after cased)]

theorem lowerBetween_of_settled {inner : List Char}
    (settled : ∀ front back, cs = front ++ 'Σ' :: back →
      SigmaSettled (front.reverse ++ inner) back) :
    lowerBetween (inner ++ b) cs a = lowerBetween inner cs [] := by
  induction cs generalizing inner with
  | nil => rfl
  | cons c rest ih =>
    have later : lowerBetween (c :: inner ++ b) rest a = lowerBetween (c :: inner) rest [] := by
      apply ih
      intro front back split
      have shifted := settled (c :: front) back (by rw [split, List.cons_append])
      simpa using shifted
    rw [lowerBetween, lowerBetween, ← List.cons_append, later, List.append_nil]
    by_cases sigma : c = 'Σ'
    · subst sigma
      have here : SigmaSettled inner rest := settled [] rest rfl
      rw [lowerAt_of_settled here]
    · simp only [lowerAt, if_neg sigma]

theorem length_lowerAt (c : Char) : (lowerAt b c a).length = (lowerAt b' c a').length := by
  unfold lowerAt
  split <;> rfl

theorem length_lowerBetween :
    (lowerBetween b cs a).length = (lowerBetween b' cs a').length := by
  induction cs generalizing b b' with
  | nil => rfl
  | cons c rest ih =>
    rw [lowerBetween, lowerBetween, List.length_append, List.length_append, ih,
      length_lowerAt c]

/-- Lower case that agrees as a whole agrees at every sigma. -/
theorem lowerAt_eq_of_lowerBetween_eq {front back : List Char}
    (same : lowerBetween b (front ++ 'Σ' :: back) a = lowerBetween b' (front ++ 'Σ' :: back) a') :
    lowerAt (front.reverse ++ b) 'Σ' (back ++ a) =
      lowerAt (front.reverse ++ b') 'Σ' (back ++ a') := by
  rw [lowerBetween_append, lowerBetween_append] at same
  have rest := (List.append_inj same length_lowerBetween).2
  exact (List.append_inj rest (length_lowerAt 'Σ')).1

end Context

theorem occursIn_iff {part whole : List Char} : occursIn part whole = true ↔ part <:+: whole := by
  induction whole with
  | nil => simp [occursIn]
  | cons c rest ih =>
    rw [occursIn, Bool.or_eq_true, List.isPrefixOf_iff_prefix, ih, List.infix_cons_iff]

theorem contains_iff {s part : String} : contains s part = true ↔ part.toList <:+: s.toList :=
  occursIn_iff

/-- What is settled is found in lower case wherever it stands. -/
theorem lower_infix_of_settled {part whole : List Char} (settled : Settled part)
    (inside : part <:+: whole) : lowerBetween [] part [] <:+: lowerBetween [] whole [] := by
  obtain ⟨front, back, rfl⟩ := inside
  have alone : lowerBetween ([] ++ front.reverse) part back = lowerBetween [] part [] := by
    refine lowerBetween_of_settled fun before after split => ?_
    rw [List.append_nil]
    exact settled before after split
  rw [List.nil_append] at alone
  rw [List.append_assoc, lowerBetween_append, lowerBetween_append]
  simp only [List.append_nil]
  rw [alone, ← List.append_assoc]
  exact List.infix_append ..

section Unsettled

variable {part whole : List Char} {x : Char}

theorem infix_cons_cases (inside : part <:+: x :: whole) (length : part.length = whole.length)
    (other : part.head? ≠ some x) : part = whole := by
  rcases List.infix_cons_iff.mp inside with start | inside
  · rcases List.prefix_cons_iff.mp start with rfl | ⟨rest, rfl, -⟩
    · exact (List.eq_nil_of_length_eq_zero length.symm).symm
    · exact absurd rfl other
  · exact inside.eq_of_length length

theorem infix_concat_cases (inside : part <:+: whole ++ [x]) (length : part.length = whole.length)
    (other : part.getLast? ≠ some x) : part = whole := by
  rcases List.infix_concat_iff.mp inside with ending | inside
  · rcases List.suffix_concat_iff.mp ending with rfl | ⟨rest, rfl, -⟩
    · exact (List.eq_nil_of_length_eq_zero length.symm).symm
    · exact absurd (List.getLast?_concat ..) other
  · exact inside.eq_of_length length

/-- A letter that is cased, in lower case, and not the given one. -/
theorem exists_letter (taken : Option Char) : ∃ x : Char, taken ≠ some x ∧
    startsCased [x] = true ∧ ∀ before after, lowerBetween before [x] after = [x] := by
  have letter : ∀ x : Char, x ≠ 'Σ' → lowerChar x = [x] → ∀ before after,
      lowerBetween before [x] after = [x] := by
    intro x plain small before after
    simp only [lowerBetween, lowerAt, if_neg plain, small, List.append_nil]
  by_cases free : taken = some 'a'
  · refine ⟨'b', by simp [free], by decide +kernel, letter 'b' ?_ ?_⟩
    · decide
    · decide +kernel
  · refine ⟨'a', free, by decide +kernel, letter 'a' ?_ ?_⟩
    · decide
    · decide +kernel

/-- What is not settled is missed in some text: a letter put in front of it or behind it gives one
of its sigmas the other form. -/
theorem exists_missed {front back : List Char} (unsettled : ¬ SigmaSettled front.reverse back) :
    ∃ whole, front ++ 'Σ' :: back <:+: whole ∧
      ¬ lowerBetween [] (front ++ 'Σ' :: back) [] <:+: lowerBetween [] whole [] := by
  rw [SigmaSettled, not_or, Bool.not_eq_true] at unsettled
  obtain ⟨small, unsettled⟩ := unsettled
  cases shown : endsSearch front.reverse with
  | false =>
    obtain ⟨x, free, cased, letter⟩ :=
      exists_letter (lowerBetween [] (front ++ 'Σ' :: back) []).head?
    refine ⟨x :: (front ++ 'Σ' :: back), List.infix_cons List.infix_rfl, fun found => ?_⟩
    have whole := lowerBetween_append [] [x] (front ++ 'Σ' :: back) []
    rw [letter, List.singleton_append, List.singleton_append] at whole
    rw [whole] at found
    have same := infix_cons_cases found length_lowerBetween free
    have turned := lowerAt_eq_of_lowerBetween_eq same
    rw [List.append_nil, List.append_nil] at turned
    simp [lowerAt, small, startsCased_of_not_endsSearch shown,
      startsCased_append_of_not_endsSearch shown, cased] at turned
  | true =>
    obtain ⟨cased, none⟩ : startsCased front.reverse = true ∧ endsSearch back = false := by
      simpa [shown] using unsettled
    obtain ⟨x, free, letterCased, letter⟩ :=
      exists_letter (lowerBetween [] (front ++ 'Σ' :: back) []).getLast?
    refine ⟨(front ++ 'Σ' :: back) ++ [x], (List.prefix_append _ _).isInfix, fun found => ?_⟩
    rw [lowerBetween_append [] _ [x], letter] at found
    have same := infix_concat_cases found length_lowerBetween free
    have turned := lowerAt_eq_of_lowerBetween_eq same
    rw [List.append_nil, List.append_nil] at turned
    simp [lowerAt, small, cased, startsCased_append_of_not_endsSearch none, letterCased] at turned

theorem settled_iff {part : List Char} : Settled part ↔
    ∀ whole, part <:+: whole → lowerBetween [] part [] <:+: lowerBetween [] whole [] := by
  constructor
  · intro settled whole inside
    exact lower_infix_of_settled settled inside
  · rintro found front back rfl
    refine Decidable.byContradiction fun unsettled => ?_
    obtain ⟨whole, inside, missed⟩ := exists_missed unsettled
    exact missed (found whole inside)

end Unsettled

end RuleQuery.Text
