import Mathlib.Data.List.Nodup
import RuleQuery.Proofs.Grouping.Cached
import RuleQuery.Proofs.Schema
import RuleQuery.Proofs.Text.Casing
import RuleQuery.User.Basic

/-!
What the cache of key shapes holds. Its keys fold names by full lower case and schemas resolve them
by ASCII letters; on names that are resolved the two agree where full lower case keeps the declared
names apart, and a kept shape is then the one that would be built.
-/
namespace RuleQuery

namespace Schema

variable {R : Type} {schema : Schema R} {name other : String}

def AsciiNames (schema : Schema R) : Prop := ∀ field ∈ schema.fields, Text.IsAscii field.name

instance (schema : Schema R) : Decidable schema.AsciiNames :=
  inferInstanceAs (Decidable (∀ field ∈ schema.fields, Text.IsAscii field.name))

/-- Full lower case makes one name only of names that differ in ASCII letters at most. -/
def NamesStayApart (schema : Schema R) : Prop :=
  ∀ field ∈ schema.fields, ∀ other ∈ schema.fields,
    Text.lower field.name = Text.lower other.name →
      Text.sameIgnoringCase field.name other.name = true

theorem namesStayApart_of_distinct
    (distinct : (schema.fields.map fun field => Text.lower field.name).Nodup) :
    schema.NamesStayApart := by
  intro field inside other there same
  obtain rfl := List.inj_on_of_nodup_map distinct inside there same
  exact Text.sameIgnoringCase_iff.mpr rfl

example : NamesStayApart (R := String × String) ⟨1, "员工",
    [⟨"部门", .required .text, fun r => .text r.1⟩, ⟨"姓名", .optional .text, fun r => .text r.2⟩]⟩ :=
  namesStayApart_of_distinct (by decide +kernel)

theorem AsciiNames.namesStayApart (ascii : schema.AsciiNames) : schema.NamesStayApart := by
  intro field inside other there same
  rw [Text.lower_ascii (ascii field inside), Text.lower_ascii (ascii other there)] at same
  exact Text.sameIgnoringCase_iff.mpr same

theorem isAscii_of_contains (ascii : schema.AsciiNames) (known : schema.contains name = true) :
    Text.IsAscii (Text.trim name) := by
  obtain ⟨i, found⟩ := Option.isSome_iff_exists.mp known
  obtain ⟨field, there, same⟩ := exists_field_at found
  exact Text.isAscii_of_sameIgnoringCase same (ascii field (List.mem_of_getElem? there))

/-- A name that is resolved folds as the name of its field does. -/
theorem exists_field_folded (known : schema.contains name = true) :
    ∃ field ∈ schema.fields, Text.lowerAscii field.name = Text.fold name ∧
      Text.lower field.name = Text.lower (Text.trim name) := by
  obtain ⟨i, found⟩ := Option.isSome_iff_exists.mp known
  obtain ⟨field, there, same⟩ := exists_field_at found
  exact ⟨field, List.mem_of_getElem? there, Text.sameIgnoringCase_iff.mp same,
    Text.lower_eq_of_sameIgnoringCase same⟩

/-- Names that fold alike and are both resolved denote one field. -/
theorem position?_eq_of_fold_eq (apart : schema.NamesStayApart)
    (known : schema.contains name = true) (otherKnown : schema.contains other = true)
    (fold : Text.lower (Text.trim name) = Text.lower (Text.trim other)) :
    schema.position? name = schema.position? other := by
  obtain ⟨field, inside, letters, folds⟩ := exists_field_folded known
  obtain ⟨field', inside', letters', folds'⟩ := exists_field_folded otherKnown
  have same : Text.lower field.name = Text.lower field'.name := by rw [folds, folds', fold]
  have one := Text.sameIgnoringCase_iff.mp (apart field inside field' inside' same)
  exact position?_congr (by rw [← letters, ← letters', one])

end Schema

theorem User.namesStayApart_schema : User.schema.NamesStayApart :=
  Schema.AsciiNames.namesStayApart (by decide)

namespace KeyShape

variable {R : Type} {schema : Schema R} {names others : List String}

theorem resolve_eq_ok {name : String} (known : schema.contains name = true) :
    ∃ part, resolve schema name = .ok part := by
  obtain ⟨i, found⟩ := Option.isSome_iff_exists.mp known
  exact ⟨_, by rw [resolve, found]⟩

theorem contains_of_resolve_eq_ok {name : String} {part : String × Nat}
    (resolved : resolve schema name = .ok part) : schema.contains name = true := by
  rw [Schema.contains, Option.isSome_iff_exists]
  unfold resolve at resolved
  split at resolved
  · rename_i i found
    exact ⟨i, found⟩
  · cases resolved

theorem exists_build_eq_ok_iff :
    (∃ shape, build schema names = .ok shape) ↔ ∀ name ∈ names, schema.contains name = true := by
  have parts : (∃ shape, build schema names = .ok shape) ↔
      ∃ fields, names.mapM (resolve schema) = .ok fields := by
    unfold build
    constructor
    · rintro ⟨shape, built⟩
      obtain ⟨fields, resolved, -⟩ := bind_eq_ok_iff.mp built
      exact ⟨fields, resolved⟩
    · rintro ⟨fields, resolved⟩
      exact ⟨_, bind_eq_ok_iff.mpr ⟨fields, resolved, rfl⟩⟩
  rw [parts, exists_mapM_eq_ok_iff]
  constructor
  · intro each name inside
    obtain ⟨part, resolved⟩ := each name inside
    exact contains_of_resolve_eq_ok resolved
  · exact fun known name inside => resolve_eq_ok (known name inside)

/-- A shape is decided by the positions of its fields. -/
theorem build_congr (same : names.map schema.position? = others.map schema.position?)
    (known : ∀ name ∈ others, schema.contains name = true) :
    build schema names = build schema others := by
  have parts : names.map (resolve schema) = others.map (resolve schema) := by
    refine map_eq_map_of_forall same fun name _ other there position => ?_
    obtain ⟨i, found⟩ := Option.isSome_iff_exists.mp (known other there)
    rw [resolve, resolve, position, found]
  obtain ⟨fields, resolved⟩ := exists_mapM_eq_ok_iff.mpr fun name inside =>
    resolve_eq_ok (known name inside)
  rw [build, build, resolved, mapM_eq_ok_iff.mpr (parts.trans (mapM_eq_ok_iff.mp resolved))]

theorem build_eq_of_key_eq (apart : schema.NamesStayApart)
    (known : ∀ name ∈ names, schema.contains name = true)
    (othersKnown : ∀ name ∈ others, schema.contains name = true)
    (same : ShapeKey.of schema names = ShapeKey.of schema others) :
    build schema names = build schema others := by
  have folds : names.map (fun name => Text.lower (Text.trim name)) =
      others.map (fun name => Text.lower (Text.trim name)) := congrArg ShapeKey.names same
  refine build_congr ?_ othersKnown
  exact map_eq_map_of_forall folds fun name inside other there =>
    Schema.position?_eq_of_fold_eq apart (known name inside) (othersKnown other there)

end KeyShape

namespace ShapeCache

open Cached

variable {R : Type} {schema : Schema R} {cache : ShapeCache}

/-- A cache after any requests for shapes, successful or not, of the record type of the schema and
of other ones. -/
inductive Reached (schema : Schema R) : ShapeCache → Prop where
  | empty : Reached schema .empty
  | own {cache : ShapeCache} (names : List String) :
      Reached schema cache → Reached schema ((KeyShape.shared schema names).after cache)
  | other {cache : ShapeCache} {S : Type} (foreign : Schema S) (names : List String) :
      foreign.typeId ≠ schema.typeId → Reached schema cache →
      Reached schema ((KeyShape.shared foreign names).after cache)

/-- Every shape that is kept for the record type was built for a list of names under its key. -/
def Faithful (schema : Schema R) (cache : ShapeCache) : Prop :=
  ∀ key kept, cache.find? key = some kept → key.typeId = schema.typeId →
    ∃ names, ShapeKey.of schema names = key ∧ KeyShape.build schema names = .ok kept.shape

theorem find?_after_shared_cases {S : Type} {asked : Schema S} {names : List String}
    {key : ShapeKey} {kept : SharedShape}
    (found : ((KeyShape.shared asked names).after cache).find? key = some kept) :
    cache.find? key = some kept ∨
      key = .of asked names ∧ KeyShape.build asked names = .ok kept.shape := by
  obtain ⟨_, -, -, leaves⟩ | ⟨e, -, -, -, leaves⟩ | ⟨shape, -, built, -, leaves⟩ :=
    KeyShape.shared_cases asked names cache
  · rw [leaves] at found
    exact .inl found
  · rw [leaves] at found
    exact .inl found
  · rw [leaves, find?_cons _ _ _ _ _ cache.nextSerial] at found
    split at found
    · rename_i same
      cases found
      exact .inr ⟨same.symm, built⟩
    · exact .inl found

theorem faithful_of_reached (reached : Reached schema cache) : cache.Faithful schema := by
  induction reached with
  | empty =>
    intro key kept found
    cases found
  | own names _ ih =>
    intro key kept found type
    obtain old | ⟨rfl, built⟩ := find?_after_shared_cases found
    · exact ih key kept old type
    · exact ⟨names, rfl, built⟩
  | other foreign names different _ ih =>
    intro key kept found type
    obtain old | ⟨rfl, built⟩ := find?_after_shared_cases found
    · exact ih key kept old type
    · exact absurd type different

end ShapeCache

namespace KeyShape

open Cached

variable {R : Type} {schema : Schema R} {names : List String} {cache : ShapeCache}

/-- For known names the shape that is handed out is the one that would be built. -/
theorem shared_eq_build (apart : schema.NamesStayApart) (faithful : cache.Faithful schema)
    (known : ∀ name ∈ names, schema.contains name = true) :
    ∃ kept, (shared schema names).outcome cache = .ok kept ∧
      build schema names = .ok kept.shape := by
  obtain ⟨kept, found, yields, -⟩ | ⟨e, -, fails, -⟩ | ⟨shape, -, built, yields, -⟩ :=
    shared_cases schema names cache
  · refine ⟨kept, yields, ?_⟩
    obtain ⟨others, same, built⟩ := faithful _ kept found rfl
    have othersKnown := exists_build_eq_ok_iff.mp ⟨_, built⟩
    rw [build_eq_of_key_eq apart known othersKnown same.symm, built]
  · obtain ⟨shape, built⟩ := exists_build_eq_ok_iff.mpr known
    rw [fails] at built
    cases built
  · exact ⟨_, yields, built⟩

end KeyShape

end RuleQuery
