import RuleQuery.Parameters

/-!
Tables of parameters and the objects they are made of. The members of an object have no order of
their own: a table may be made of them in any. What it answers then depends on the order exactly if
two members with different values have names that fold to one.
-/
namespace RuleQuery.Parameters

variable {params : Parameters} {members order : List (String × Json)} {name asked : String}

theorem get?_insert (params : Parameters) (name asked : String) (value : Json) :
    (params.insert name value).get? asked =
      if foldName name = foldName asked then some value else params.get? asked := by
  unfold insert get?
  by_cases same : foldName name = foldName asked
  · rw [if_pos same, List.find?_cons, beq_iff_eq.mpr same]
    rfl
  · have different : (foldName name == foldName asked) = false := by simpa using same
    have kept : ∀ entry : String × Json,
        decide ((entry.1 != foldName name) = true ∧ (entry.1 == foldName asked) = true) =
          (entry.1 == foldName asked) := by
      intro entry
      by_cases hit : entry.1 = foldName asked
      · simp [hit, Ne.symm same]
      · simp [hit]
    rw [if_neg same, List.find?_cons, different, List.find?_filter]
    simp only [kept]

theorem get?_foldl_insert (order : List (String × Json)) (params : Parameters) (asked : String) :
    (order.foldl (fun params (name, value) => params.insert name value) params).get? asked =
      ((order.reverse.find? fun member => foldName member.1 == foldName asked).map (·.2)).or
        (params.get? asked) := by
  induction order generalizing params with
  | nil => rfl
  | cons first rest ih =>
    rw [List.foldl_cons, ih, get?_insert, List.reverse_cons, List.find?_append]
    by_cases same : foldName first.1 = foldName asked
    · rw [if_pos same, List.find?_singleton, if_pos (beq_iff_eq.mpr same), Option.map_or,
        Option.or_assoc, Option.map_some, Option.some_or]
    · rw [if_neg same, List.find?_singleton, if_neg (by simpa using same), Option.or_none]

/-- Of the members whose names fold to the one asked for, the last one answers. -/
theorem get?_ofList (order : List (String × Json)) (asked : String) :
    (ofList order).get? asked =
      (order.reverse.find? fun member => foldName member.1 == foldName asked).map (·.2) := by
  rw [ofList, get?_foldl_insert]
  exact Option.or_none

/-- The table is made of the members of an object, in some order. -/
def MadeOf (members : List (String × Json)) (params : Parameters) : Prop :=
  ∃ order : List (String × Json), order.Perm members ∧ params = ofList order

theorem madeOf_ofList (members : List (String × Json)) : MadeOf members (ofList members) :=
  ⟨members, .refl members, rfl⟩

theorem madeOf_of_ofDocument? {document : List (String × Document)}
    (read : ofDocument? (.object document) = some params) :
    ∃ members, Document.membersToJson? document = some members ∧ MadeOf members params := by
  obtain ⟨members, found, rfl⟩ := Option.map_eq_some_iff.mp read
  exact ⟨members, found, madeOf_ofList members⟩

theorem get?_cases_of_madeOf (made : MadeOf members params) (asked : String) :
    (∃ member ∈ members, foldName member.1 = foldName asked ∧
      params.get? asked = some member.2) ∨
    (∀ member ∈ members, foldName member.1 ≠ foldName asked) ∧ params.get? asked = none := by
  obtain ⟨order, same, rfl⟩ := made
  rw [get?_ofList]
  cases found : order.reverse.find? fun member => foldName member.1 == foldName asked with
  | some member =>
    have inside := List.mem_reverse.mp (List.mem_of_find?_eq_some found)
    have fold := List.find?_some found
    exact .inl ⟨member, same.mem_iff.mp inside, by simpa using fold, rfl⟩
  | none =>
    rw [List.find?_eq_none] at found
    refine .inr ⟨fun member inside => ?_, rfl⟩
    simpa using found member (List.mem_reverse.mpr (same.mem_iff.mpr inside))

/-- Every member can come last. -/
theorem exists_madeOf_get?_eq {member : String × Json} (inside : member ∈ members)
    (fold : foldName member.1 = foldName asked) :
    ∃ params, MadeOf members params ∧ params.get? asked = some member.2 := by
  obtain ⟨before, after, rfl⟩ := List.append_of_mem inside
  refine ⟨ofList (before ++ after ++ [member]), ⟨_, ?_, rfl⟩, ?_⟩
  · exact (List.perm_append_singleton member (before ++ after)).trans List.perm_middle.symm
  · rw [get?_ofList, List.reverse_append, List.reverse_singleton, List.singleton_append,
      List.find?_cons, beq_iff_eq.mpr fold]
    rfl

/-- The answers that tables made of the members can give for a name are the values of the members
whose names fold to it; there is no answer exactly if there is no such member. -/
theorem exists_madeOf_iff {answer : Option Json} :
    (∃ params, MadeOf members params ∧ params.get? asked = answer) ↔
      (∃ member ∈ members, foldName member.1 = foldName asked ∧ answer = some member.2) ∨
      (∀ member ∈ members, foldName member.1 ≠ foldName asked) ∧ answer = none := by
  constructor
  · rintro ⟨params, made, rfl⟩
    exact get?_cases_of_madeOf made asked
  · rintro (⟨member, inside, fold, rfl⟩ | ⟨absent, rfl⟩)
    · exact exists_madeOf_get?_eq inside fold
    · refine ⟨ofList members, madeOf_ofList members, ?_⟩
      obtain ⟨member, inside, fold, -⟩ | ⟨-, none⟩ :=
        get?_cases_of_madeOf (madeOf_ofList members) asked
      · exact absurd fold (absent member inside)
      · exact none

/-- Members whose names fold to the one asked for have one value. -/
def Unambiguous (members : List (String × Json)) (asked : String) : Prop :=
  ∀ member ∈ members, ∀ other ∈ members, foldName member.1 = foldName asked →
    foldName other.1 = foldName asked → member.2 = other.2

theorem get?_eq_of_unambiguous (unambiguous : Unambiguous members asked) {other : Parameters}
    (made : MadeOf members params) (otherMade : MadeOf members other) :
    params.get? asked = other.get? asked := by
  rcases get?_cases_of_madeOf made asked with ⟨member, inside, fold, found⟩ | ⟨absent, found⟩
  · rcases get?_cases_of_madeOf otherMade asked with
      ⟨member', inside', fold', found'⟩ | ⟨absent', -⟩
    · rw [found, found', unambiguous member inside member' inside' fold fold']
    · exact absurd fold (absent' member inside)
  · rcases get?_cases_of_madeOf otherMade asked with ⟨member', inside', fold', -⟩ | ⟨-, found'⟩
    · exact absurd fold' (absent member' inside')
    · rw [found, found']

theorem unambiguous_iff : Unambiguous members asked ↔ ∀ params other, MadeOf members params →
    MadeOf members other → params.get? asked = other.get? asked := by
  constructor
  · intro unambiguous params other made otherMade
    exact get?_eq_of_unambiguous unambiguous made otherMade
  · intro determined member inside other there fold otherFold
    obtain ⟨params, made, found⟩ := exists_madeOf_get?_eq inside fold
    obtain ⟨params', made', found'⟩ := exists_madeOf_get?_eq there otherFold
    have same := determined params params' made made'
    rw [found, found'] at same
    exact Option.some.inj same

end RuleQuery.Parameters
