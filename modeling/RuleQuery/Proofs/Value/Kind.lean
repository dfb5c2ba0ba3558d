import RuleQuery.Literal
import RuleQuery.Proofs.Value.Number

namespace RuleQuery

namespace Value

def kind? : Value → Option FieldKind
  | null => none
  | bool _ => some .bool
  | integer _ => some .integer
  | float _ => some .float
  | decimal _ => some .decimal
  | text _ => some .text
  | timestamp _ => some .timestamp
  | sequence _ => some .sequence

def isNaN : Value → Bool
  | float x => x.isNaN
  | _ => false

variable {v w : Value} {kind : FieldKind}

theorem exists_compare?_eq_some (ofV : v.kind? = some kind) (ofW : w.kind? = some kind)
    (ordered : kind ≠ .sequence) (numberV : v.isNaN = false) (numberW : w.isNaN = false) :
    ∃ outcome, v.compare? w = some outcome := by
  cases v <;> cases ofV <;> cases w <;> cases ofW <;> first
    | exact absurd rfl ordered
    | exact ⟨_, Binary64.compare?_of_numbers numberV numberW⟩
    | exact ⟨_, rfl⟩

end Value

namespace FieldType

def Admits (type : FieldType) (v : Value) : Prop :=
  v = .null ∧ type.acceptsNull = true ∨ v.kind? = some type.kind

end FieldType

namespace Literal

variable {kind : FieldKind} {w : Value}

theorem kind?_of_ofNumber? {n : JsonNumber} (read : ofNumber? n kind = some w) :
    w.kind? = some kind ∧ kind ≠ .sequence := by
  cases kind <;> simp only [ofNumber?, Option.map_eq_some_iff, Option.some.injEq] at read
  case float | text =>
    subst read
    exact ⟨rfl, nofun⟩
  case integer | decimal =>
    obtain ⟨_, -, rfl⟩ := read
    exact ⟨rfl, nofun⟩
  all_goals cases read

theorem kind?_of_ofText? {s : String} (read : ofText? s kind = some w) :
    w.kind? = some kind ∧ kind ≠ .sequence := by
  cases kind <;> simp only [ofText?, Option.map_eq_some_iff, Option.some.injEq] at read
  case text =>
    subst read
    exact ⟨rfl, nofun⟩
  case sequence => cases read
  all_goals
    obtain ⟨_, -, rfl⟩ := read
    exact ⟨rfl, nofun⟩

/-- A literal stands for null or for a value of the kind of its field, and for no sequence. -/
theorem value_cases {literal : Json} {type : FieldType} {name : String}
    (read : value literal type name = .ok w) :
    w = .null ∧ type.acceptsNull = true ∨ w.kind? = some type.kind ∧ type.kind ≠ .sequence := by
  have read : value? literal type = some w := by
    unfold value at read
    split at read <;> cases read
    assumption
  cases literal with
  | null =>
    by_cases accepted : type.acceptsNull = true
    · rw [value?, if_pos accepted] at read
      exact .inl ⟨(Option.some.inj read).symm, accepted⟩
    · rw [value?, if_neg accepted] at read
      cases read
  | bool b =>
    by_cases truth : type.kind = .bool
    · rw [value?, if_pos truth] at read
      cases read
      exact .inr ⟨congrArg some truth.symm, by rw [truth]; nofun⟩
    · rw [value?, if_neg truth] at read
      cases read
  | number n => exact .inr (kind?_of_ofNumber? read)
  | string s => exact .inr (kind?_of_ofText? read)
  | array | object => cases read

theorem kind?_of_value {literal : Json} {type : FieldType} {name : String}
    (read : value literal type name = .ok w) (present : w ≠ .null) : w.kind? = some type.kind := by
  rcases value_cases read with ⟨null, -⟩ | ⟨of, -⟩
  · exact absurd null present
  · exact of

theorem admits_of_value {literal : Json} {type : FieldType} {name : String}
    (read : value literal type name = .ok w) : type.Admits w :=
  (value_cases read).imp_right And.left

end Literal

end RuleQuery
