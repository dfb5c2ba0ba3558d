import RuleQuery.Json.Document

namespace RuleQuery.Json

def Ascending {α : Type} (members : List (String × α)) : Prop :=
  members.Pairwise fun m n => m.1 < n.1

mutual

/-- All objects in the value have their members in ascending order. -/
def Arranged : Json → Prop
  | array items => ArrangedItems items
  | object members => Ascending members ∧ ArrangedMembers members
  | _ => True

def ArrangedItems : List Json → Prop
  | [] => True
  | v :: rest => Arranged v ∧ ArrangedItems rest

def ArrangedMembers : List (String × Json) → Prop
  | [] => True
  | (_, v) :: rest => Arranged v ∧ ArrangedMembers rest

end

section Arrange

variable {α : Type}

theorem insertMember_of_above {key : String} {members : List (String × α)}
    (above : ∀ m ∈ members, m.1 < key) (value : α) :
    insertMember key value members = members ++ [(key, value)] := by
  induction members with
  | nil => rfl
  | cons m rest ih =>
    have first := above m List.mem_cons_self
    have different : key ≠ m.1 := by
      rintro rfl
      exact String.lt_irrefl _ first
    have after : ¬ key < m.1 := fun before => String.lt_irrefl _ (String.lt_trans before first)
    rw [insertMember, if_neg different, if_neg after,
      ih fun m inside => above m (List.mem_cons_of_mem _ inside)]
    rfl

theorem foldl_insertMember (members before : List (String × α))
    (ascending : Ascending (before ++ members)) :
    members.foldl (fun sorted (key, value) => insertMember key value sorted) before =
      before ++ members := by
  induction members generalizing before with
  | nil => simp
  | cons m rest ih =>
    obtain ⟨key, value⟩ := m
    have above : ∀ n ∈ before, n.1 < key := fun n inside =>
      (List.pairwise_append.mp ascending).2.2 n inside (key, value) List.mem_cons_self
    have later := ih (before ++ [(key, value)]) (by simpa using ascending)
    rw [List.append_assoc, List.singleton_append] at later
    rw [List.foldl_cons]
    dsimp only
    rw [insertMember_of_above above]
    exact later

theorem arrange_of_ascending {members : List (String × α)} (ascending : Ascending members) :
    arrange members = members := foldl_insertMember members [] ascending

end Arrange

mutual

theorem toJson?_ofJson : ∀ value : Json, value.Arranged →
    (Document.ofJson value).toJson? = some value
  | null, _ | bool _, _ | number _, _ | string _, _ => rfl
  | array items, arranged => by
    rw [Document.ofJson, Document.toJson?, itemsToJson?_ofItems items arranged]
    rfl
  | object members, ⟨ascending, arranged⟩ => by
    rw [Document.ofJson, Document.toJson?, membersToJson?_ofMembers members arranged,
      Option.map_some, ofMembers, arrange_of_ascending ascending]

theorem itemsToJson?_ofItems : ∀ items : List Json, ArrangedItems items →
    Document.itemsToJson? (Document.ofItems items) = some items
  | [], _ => rfl
  | v :: rest, ⟨first, others⟩ => by
    rw [Document.ofItems, Document.itemsToJson?, toJson?_ofJson v first,
      itemsToJson?_ofItems rest others]
    rfl

theorem membersToJson?_ofMembers : ∀ members : List (String × Json), ArrangedMembers members →
    Document.membersToJson? (Document.ofMembers members) = some members
  | [], _ => rfl
  | (key, v) :: rest, ⟨first, others⟩ => by
    rw [Document.ofMembers, Document.membersToJson?, toJson?_ofJson v first,
      membersToJson?_ofMembers rest others]
    rfl

end

end RuleQuery.Json
