import RuleQuery.Json.Basic

namespace RuleQuery.Json

/-- What stands under a name in an object: the member with this very key, or if there is none, the
one with the lowest of the keys that differ from the name in case only. Of equal keys the first
counts. -/
inductive Named (members : List (String × Json)) (name : String) : Json → Prop where
  | exact {before after : List (String × Json)} {value : Json} :
      members = before ++ (name, value) :: after → name ∉ before.map (·.1) →
      Named members name value
  | folded {before after : List (String × Json)} {key : String} {value : Json} :
      members = before ++ (key, value) :: after → key ∉ before.map (·.1) →
      Text.sameIgnoringCase key name = true → name ∉ members.map (·.1) →
      (∀ m ∈ members, Text.sameIgnoringCase m.1 name = true → key ≤ m.1) →
      Named members name value

section Members

variable {α β : Type} {before after : List (String × α)} {least m : String × α}

theorem foldl_lowerKey_map (f : String → α → β) (m : String × α) (rest : List (String × α)) :
    (rest.map fun m => (m.1, f m.1 m.2)).foldl lowerKey (m.1, f m.1 m.2) =
      ((rest.foldl lowerKey m).1, f (rest.foldl lowerKey m).1 (rest.foldl lowerKey m).2) := by
  induction rest generalizing m with
  | nil => rfl
  | cons n rest ih =>
    have lower : lowerKey (m.1, f m.1 m.2) (n.1, f n.1 n.2) =
        ((lowerKey m n).1, f (lowerKey m n).1 (lowerKey m n).2) := by
      unfold lowerKey
      split <;> rfl
    rw [List.map_cons, List.foldl_cons, List.foldl_cons, lower, ih]

/-- Members are found under the same keys when their values are replaced. -/
theorem findMember?_map (f : String → α → β) (key : String) (members : List (String × α)) :
    findMember? key (members.map fun m => (m.1, f m.1 m.2)) =
      (findMember? key members).map fun m => (m.1, f m.1 m.2) := by
  unfold findMember?
  rw [List.find?_map, List.filter_map]
  simp only [Function.comp_def]
  cases members.find? fun m => m.1 == key with
  | some m => rfl
  | none =>
    cases members.filter fun m => Text.sameIgnoringCase m.1 key with
    | nil => rfl
    | cons m rest => exact congrArg some (foldl_lowerKey_map f m rest)

theorem sameIgnoringCase_of_findMember? {key : String} {members : List (String × α)}
    {m : String × α} (found : findMember? key members = some m) :
    Text.sameIgnoringCase m.1 key = true := by
  unfold findMember? at found
  split at found
  · rename_i exact
    cases found
    have equal := List.find?_some exact
    rw [eq_of_beq equal]
    exact beq_self_eq_true _
  · split at found
    · cases found
    · rename_i first rest alike
      cases found
      have inside := foldl_lowerKey_mem rest first
      rw [← alike] at inside
      exact (List.mem_filter.mp inside).2

theorem foldl_lowerKey_le (rest : List (String × α)) (m : String × α) :
    ∀ n ∈ m :: rest, (rest.foldl lowerKey m).1 ≤ n.1 := by
  induction rest generalizing m with
  | nil => simp
  | cons a rest ih =>
    have lowest := ih (lowerKey m a)
    have kept : (lowerKey m a).1 ≤ m.1 ∧ (lowerKey m a).1 ≤ a.1 := by
      unfold lowerKey
      split
      · rename_i lower
        exact ⟨Std.le_of_lt lower, Std.le_refl _⟩
      · rename_i notLower
        exact ⟨Std.le_refl _, String.not_lt.mp notLower⟩
    simp only [List.forall_mem_cons] at lowest ⊢
    exact ⟨Std.le_trans lowest.1 kept.1, Std.le_trans lowest.1 kept.2, lowest.2⟩

theorem foldl_lowerKey_of_le {least : String × α} (lowest : ∀ n ∈ after, least.1 ≤ n.1) :
    after.foldl lowerKey least = least := by
  induction after with
  | nil => rfl
  | cons n after ih =>
    rw [List.forall_mem_cons] at lowest
    have kept : lowerKey least n = least := by simp [lowerKey, String.not_lt.mpr lowest.1]
    simp [kept, ih lowest.2]

/-- The least member wins wherever it stands, if no equal one comes before it. -/
theorem foldl_lowerKey_of_least (first : ∀ n ∈ m :: before, least.1 < n.1)
    (lowest : ∀ n ∈ after, least.1 ≤ n.1) :
    (before ++ least :: after).foldl lowerKey m = least := by
  induction before generalizing m with
  | nil =>
    have lower : lowerKey m least = least := by simp [lowerKey, first m]
    simp [lower, foldl_lowerKey_of_le lowest]
  | cons n before ih =>
    have above : ∀ n' ∈ lowerKey m n :: before, least.1 < n'.1 := by
      intro n' inside
      rcases List.mem_cons.mp inside with rfl | later
      · unfold lowerKey
        split
        · exact first n (by simp)
        · exact first m (by simp)
      · exact first n' (by simp [later])
    exact ih above

theorem find?_eq_none_of_not_mem {members : List (String × α)} {name : String}
    (absent : name ∉ members.map (·.1)) : members.find? (fun m => m.1 == name) = none := by
  rw [List.find?_eq_none]
  intro m inside same
  exact absent (List.mem_map.mpr ⟨m, inside, eq_of_beq same⟩)

theorem exists_split_of_find? {members : List (String × α)} {name : String}
    (found : members.find? (fun n => n.1 == name) = some m) :
    ∃ before after, members = before ++ (name, m.2) :: after ∧ name ∉ before.map (·.1) := by
  obtain ⟨same, before, after, split, others⟩ := List.find?_eq_some_iff_append.mp found
  obtain rfl := eq_of_beq same
  refine ⟨before, after, split, fun inside => ?_⟩
  obtain ⟨n, there, equal⟩ := List.mem_map.mp inside
  simpa [equal] using others n there

theorem findMember?_of_exact {name : String} {value : α} (first : name ∉ before.map (·.1)) :
    findMember? name (before ++ (name, value) :: after) = some (name, value) := by
  simp [findMember?, List.find?_append, find?_eq_none_of_not_mem first]

theorem findMember?_of_folded {members : List (String × α)} {name key : String} {value : α}
    (split : members = before ++ (key, value) :: after) (first : key ∉ before.map (·.1))
    (alike : Text.sameIgnoringCase key name = true) (inexact : name ∉ members.map (·.1))
    (lowest : ∀ m ∈ members, Text.sameIgnoringCase m.1 name = true → key ≤ m.1) :
    findMember? name members = some (key, value) := by
  have filtered : members.filter (fun m => Text.sameIgnoringCase m.1 name) =
      before.filter (fun m => Text.sameIgnoringCase m.1 name) ++
        (key, value) :: after.filter (fun m => Text.sameIgnoringCase m.1 name) := by
    simp [split, alike]
  have above : ∀ m ∈ before.filter (fun m => Text.sameIgnoringCase m.1 name), key < m.1 := by
    intro m inside
    obtain ⟨there, same⟩ := List.mem_filter.mp inside
    have notBelow := lowest m (by simp [split, there]) same
    have different : key ≠ m.1 := by
      rintro rfl
      exact first (List.mem_map_of_mem there)
    exact Std.lt_of_le_of_ne notBelow different
  have notBelow : ∀ m ∈ after.filter (fun m => Text.sameIgnoringCase m.1 name), key ≤ m.1 := by
    intro m inside
    obtain ⟨there, same⟩ := List.mem_filter.mp inside
    exact lowest m (by simp [split, there]) same
  unfold findMember?
  rw [find?_eq_none_of_not_mem inexact, filtered]
  cases beforeAlike : before.filter (fun m => Text.sameIgnoringCase m.1 name) with
  | nil => exact congrArg some (foldl_lowerKey_of_le notBelow)
  | cons m others =>
    rw [beforeAlike] at above
    exact congrArg some (foldl_lowerKey_of_least above notBelow)

end Members

section Without

variable {α : Type}

def without (name : String) (members : List (String × α)) : List (String × α) :=
  members.filter fun m => !Text.sameIgnoringCase m.1 name

theorem findMember?_without {key name : String} (apart : Text.sameIgnoringCase key name = false)
    (members : List (String × α)) :
    findMember? key (without name members) = findMember? key members := by
  have kept : ∀ k, Text.sameIgnoringCase k key = true → Text.sameIgnoringCase k name = false := by
    intro k same
    unfold Text.sameIgnoringCase at same apart ⊢
    rwa [eq_of_beq same]
  have exact : (fun m : String × α =>
      decide ((!Text.sameIgnoringCase m.1 name) = true ∧ (m.1 == key) = true)) =
        fun m => m.1 == key := by
    funext m
    cases same : m.1 == key with
    | false => simp
    | true =>
      have alike : Text.sameIgnoringCase m.1 key = true := by
        rw [eq_of_beq same]
        exact beq_self_eq_true _
      simp [kept m.1 alike]
  have folded : (fun m : String × α =>
      Text.sameIgnoringCase m.1 key && !Text.sameIgnoringCase m.1 name) =
        fun m => Text.sameIgnoringCase m.1 key := by
    funext m
    cases same : Text.sameIgnoringCase m.1 key with
    | false => rfl
    | true => simp [kept m.1 same]
  unfold findMember? without
  rw [List.find?_filter, List.filter_filter, exact, folded]

end Without

variable {members : List (String × Json)} {name : String} {value : Json}

/-- Objects that differ under one name only give the same under every other. -/
theorem member?_congr {others : List (String × Json)} {key : String}
    (same : without name others = without name members)
    (apart : Text.sameIgnoringCase key name = false) :
    (object others).member? key = (object members).member? key := by
  simp only [member?]
  rw [← findMember?_without apart others, same, findMember?_without apart members]

theorem member?_of_named (named : Named members name value) :
    (object members).member? name = some value := by
  cases named with
  | exact split first => simp [member?, split, findMember?_of_exact first]
  | folded split first alike inexact lowest =>
    simp [member?, findMember?_of_folded split first alike inexact lowest]

theorem named_of_member? (found : (object members).member? name = some value) :
    Named members name value := by
  obtain ⟨m, foundMember, rfl⟩ := Option.map_eq_some_iff.mp found
  unfold findMember? at foundMember
  split at foundMember
  · rename_i exact
    cases foundMember
    obtain ⟨before, after, split, first⟩ := exists_split_of_find? exact
    exact .exact split first
  · rename_i inexact
    split at foundMember
    · cases foundMember
    · rename_i first rest alike
      generalize least : rest.foldl lowerKey first = m at foundMember
      cases foundMember
      have inside : ∀ n, n ∈ first :: rest ↔
          n ∈ members ∧ Text.sameIgnoringCase n.1 name = true := by
        rw [← alike]
        exact fun n => List.mem_filter
      obtain ⟨there, same⟩ := (inside m).mp (least ▸ foldl_lowerKey_mem rest first)
      obtain ⟨n, foundKey⟩ : ∃ n, members.find? (fun n => n.1 == m.1) = some n :=
        Option.isSome_iff_exists.mp (List.find?_isSome.mpr ⟨m, there, beq_self_eq_true _⟩)
      obtain ⟨before, after, split, firstKey⟩ := exists_split_of_find? foundKey
      have named : Named members name n.2 := by
        refine .folded split firstKey same ?_ fun other otherInside otherSame => ?_
        · intro present
          obtain ⟨other, otherInside, equal⟩ := List.mem_map.mp present
          exact List.find?_eq_none.mp inexact other otherInside (beq_iff_eq.mpr equal)
        · rw [← least]
          exact foldl_lowerKey_le rest first other ((inside other).mpr ⟨otherInside, otherSame⟩)
      have value := (member?_of_named named).symm.trans found
      exact Option.some.inj value ▸ named

theorem member?_eq_some_iff : (object members).member? name = some value ↔
    Named members name value := ⟨named_of_member?, member?_of_named⟩

theorem member?_eq_none (unalike : ∀ m ∈ members, Text.sameIgnoringCase m.1 name = false) :
    (object members).member? name = none := by
  cases found : findMember? name members with
  | none => simp [member?, found]
  | some m =>
    have different := unalike m (mem_of_findMember? found)
    simp [sameIgnoringCase_of_findMember? found] at different

theorem named_of_unlike {key : String} (before after : List (String × Json))
    (alike : Text.sameIgnoringCase key name = true)
    (unlike : ∀ m ∈ before ++ after, Text.sameIgnoringCase m.1 name = false) :
    Named (before ++ (key, value) :: after) name value := by
  have alone : ∀ m ∈ before ++ (key, value) :: after,
      Text.sameIgnoringCase m.1 name = true → m.1 = key := by
    intro m inside same
    simp only [List.mem_append, List.mem_cons] at inside
    rcases inside with inside | rfl | inside
    · simp [unlike m (List.mem_append_left after inside)] at same
    · rfl
    · simp [unlike m (List.mem_append_right before inside)] at same
  have first : key ∉ before.map (·.1) := by
    intro inside
    obtain ⟨m, there, rfl⟩ := List.mem_map.mp inside
    simp [unlike m (List.mem_append_left after there)] at alike
  by_cases exact : key = name
  · subst exact
    exact .exact rfl first
  · refine .folded rfl first alike ?_ fun m inside same => ?_
    · intro inside
      obtain ⟨m, there, rfl⟩ := List.mem_map.mp inside
      exact exact (alone m there (by simp [Text.sameIgnoringCase])).symm
    · exact Std.le_of_eq (alone m inside same).symm

end RuleQuery.Json
