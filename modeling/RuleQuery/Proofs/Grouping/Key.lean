import RuleQuery.Proofs.Grouping.ShapeCache
import RuleQuery.Proofs.Value.Identity

namespace RuleQuery

namespace GroupKey

def document (key : GroupKey) (field : String) : Json :=
  match key with
  | single _ => key.toJson
  | composite _ => (key.toJson.member? field).getD .null

end GroupKey

namespace KeyShape

variable {R : Type} {schema : Schema R} {names : List String} {shape : KeyShape}

theorem mem_fields_of_build (built : build schema names = .ok shape) {part : String × Nat} :
    part ∈ shape.fields ↔ ∃ name ∈ names, resolve schema name = .ok part := by
  obtain ⟨fields, resolved, made⟩ := bind_eq_ok_iff.mp built
  cases made
  have each := mapM_eq_ok_iff.mp resolved
  constructor
  · exact exists_mem_of_map_eq each.symm
  · rintro ⟨name, inside, found⟩
    obtain ⟨part', inside', same⟩ := exists_mem_of_map_eq each inside
    rw [found] at same
    cases same
    exact inside'

theorem resolve_eq_ok_iff {name declared : String} {i : Nat} :
    resolve schema name = .ok (declared, i) ↔ ∃ field, schema.position? name = some i ∧
      schema.fields[i]? = some field ∧ field.name = declared := by
  unfold resolve
  cases position : schema.position? name with
  | none => simp
  | some j =>
    obtain ⟨field, there, -⟩ := Schema.exists_field_at position
    constructor
    · intro same
      cases same
      exact ⟨field, rfl, there, by rw [there]; rfl⟩
    · rintro ⟨field', same, there', rfl⟩
      cases same
      simp [there']

theorem valueAt_of_field {i : Nat} {field : Field R} (there : schema.fields[i]? = some field)
    (record : R) : valueAt schema record i = field.get record := by
  rw [valueAt, there]
  rfl

theorem keyFor_beq_iff (schema : Schema R) (shape : KeyShape) (r s : R) :
    (shape.keyFor schema r == shape.keyFor schema s) = true ↔
      ∀ part ∈ shape.fields, (valueAt schema r part.2 == valueAt schema s part.2) = true := by
  have parts : ∀ fields : List (String × Nat),
      ((fields.map fun part => (⟨part.1, valueAt schema r part.2⟩ : KeyPart)) ==
        (fields.map fun part => (⟨part.1, valueAt schema s part.2⟩ : KeyPart))) = true ↔
      ∀ part ∈ fields, (valueAt schema r part.2 == valueAt schema s part.2) = true := by
    intro fields
    induction fields with
    | nil => simp
    | cons part fields ih =>
      rw [List.map_cons, List.map_cons, List.cons_beq_cons, Bool.and_eq_true, KeyPart.beq_iff, ih,
        List.forall_mem_cons]
      simp
  obtain ⟨type, fields⟩ := shape
  cases fields with
  | nil => exact parts []
  | cons part fields =>
    cases fields with
    | nil =>
      change (valueAt schema r part.2 == valueAt schema s part.2) = true ↔ _
      simp
    | cons next fields => exact parts (part :: next :: fields)

theorem find?_member_at {fields : List (String × Nat)} {declared : String} {i : Nat}
    (value : Nat → Json) (inside : (declared, i) ∈ fields)
    (unique : ∀ j, (declared, j) ∈ fields → j = i) :
    (fields.map fun part => (part.1, value part.2)).find? (fun m => m.1 == declared) =
      some (declared, value i) := by
  induction fields with
  | nil => cases inside
  | cons part fields ih =>
    obtain ⟨name, j⟩ := part
    rw [List.map_cons, List.find?_cons]
    by_cases same : name = declared
    · subst same
      obtain rfl := unique j List.mem_cons_self
      simp
    · have later : (declared, i) ∈ fields := by
        rcases List.mem_cons.mp inside with first | later
        · cases first
          exact absurd rfl same
        · exact later
      have different : (name == declared) = false := by simpa using same
      simp only [different]
      exact ih later fun j there => unique j (List.mem_cons_of_mem _ there)

/-- The document of a key gives back the values of its fields, if no two fields have one name. -/
theorem document_keyFor (distinct : (schema.fields.map (·.name)).Nodup)
    (built : build schema names = .ok shape) {name : String} {field : Field R}
    (inside : name ∈ names) (found : schema.field? name = some field) (record : R) :
    (shape.keyFor schema record).document field.name = (field.get record).toJson := by
  obtain ⟨i, position, there⟩ := Schema.field?_eq_some_iff.mp found
  have part : (field.name, i) ∈ shape.fields := (mem_fields_of_build built).mpr
    ⟨name, inside, resolve_eq_ok_iff.mpr ⟨field, position, there, rfl⟩⟩
  have unique : ∀ j, (field.name, j) ∈ shape.fields → j = i := by
    intro j other
    obtain ⟨_, -, resolved⟩ := (mem_fields_of_build built).mp other
    obtain ⟨field', -, there', same⟩ := resolve_eq_ok_iff.mp resolved
    have bound := (List.getElem?_eq_some_iff.mp there').1
    refine (List.getElem?_inj (by rw [List.length_map]; exact bound) distinct).mp ?_
    rw [List.getElem?_map, List.getElem?_map, there, there']
    exact congrArg some same
  have value := valueAt_of_field there record
  obtain ⟨type, fields⟩ := shape
  cases fields with
  | nil => cases part
  | cons first fields =>
    cases fields with
    | nil =>
      obtain rfl := List.mem_singleton.mp part
      exact congrArg Value.toJson value
    | cons next fields =>
      have member := find?_member_at (fun j => (valueAt schema record j).toJson) part unique
      rw [value] at member
      have written : (keyFor schema ⟨type, first :: next :: fields⟩ record).toJson =
          .object ((first :: next :: fields).map fun part =>
            (part.1, (valueAt schema record part.2).toJson)) := by
        change Json.object (List.map _ (List.map _ _)) = _
        rw [List.map_map]
        rfl
      change (Json.member? (keyFor schema ⟨type, first :: next :: fields⟩ record).toJson _).getD _
        = _
      rw [written, Json.member?, Json.findMember?, member]
      rfl

end KeyShape

end RuleQuery
