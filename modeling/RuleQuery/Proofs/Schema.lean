import RuleQuery.Proofs.Text.Folding
import RuleQuery.Rule.Validation

namespace RuleQuery.Schema

variable {R : Type} {schema : Schema R} {name other : String} {field : Field R}

theorem field?_eq_some_iff :
    schema.field? name = some field ↔
      ∃ i, schema.position? name = some i ∧ schema.fields[i]? = some field := by
  simp only [field?, Option.bind_eq_some_iff]

theorem position?_congr (same : Text.fold name = Text.fold other) :
    schema.position? name = schema.position? other := by
  have letters := congrArg String.toList same
  simp only [Text.fold, Text.lowerAscii, String.toList_ofList] at letters
  simp only [position?, Text.sameIgnoringCase, letters]

theorem field?_congr (same : schema.position? name = schema.position? other) :
    schema.field? name = schema.field? other := by
  rw [field?, field?, same]

theorem exists_field_at {i : Nat} (found : schema.position? name = some i) :
    ∃ field, schema.fields[i]? = some field ∧
      Text.sameIgnoringCase field.name (Text.trim name) = true := by
  obtain ⟨inside, same, -⟩ := List.findIdx?_eq_some_iff_getElem.mp found
  exact ⟨schema.fields[i], List.getElem?_eq_getElem inside, same⟩

theorem contains_iff : schema.contains name = true ↔ ∃ field, schema.field? name = some field := by
  rw [contains, Option.isSome_iff_exists]
  constructor
  · rintro ⟨i, found⟩
    obtain ⟨field, there, -⟩ := exists_field_at found
    exact ⟨field, field?_eq_some_iff.mpr ⟨i, found, there⟩⟩
  · rintro ⟨field, found⟩
    obtain ⟨i, position, -⟩ := field?_eq_some_iff.mp found
    exact ⟨i, position⟩

theorem mem_of_field? (found : schema.field? name = some field) : field ∈ schema.fields := by
  obtain ⟨i, -, there⟩ := field?_eq_some_iff.mp found
  exact List.mem_of_getElem? there

theorem require_eq_ok_iff : schema.require name = .ok () ↔ schema.contains name = true := by
  unfold require
  split <;> simp_all

end RuleQuery.Schema
