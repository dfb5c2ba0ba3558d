import RuleQuery.Proofs.Grouping.Partition
import RuleQuery.Proofs.Grouping.Transparency

/-!
Grouping by one set of fields. Order, repetitions and spellings of the names decide the form of the
keys, and whether a key has parts at all, but not which records share one. Two plans over the same
fields walk along the records side by side: their groups open at the same records, grow at the same
records and keep the same candidates.
-/
namespace RuleQuery

namespace Schema

variable {R : Type} {schema : Schema R} {names others : List String}

/-- The names of both lists are names of fields, and they name the same fields. -/
structure SameFields (schema : Schema R) (names others : List String) : Prop where
  known : ∀ name ∈ names, schema.contains name = true
  othersKnown : ∀ name ∈ others, schema.contains name = true
  same : ∀ i, (∃ name ∈ names, schema.position? name = some i) ↔
    ∃ name ∈ others, schema.position? name = some i

theorem SameFields.exists_field (fields : schema.SameFields names others) {name : String}
    {field : Field R} (inside : name ∈ names) (found : schema.field? name = some field) :
    ∃ other ∈ others, schema.field? other = some field := by
  obtain ⟨i, position, there⟩ := field?_eq_some_iff.mp found
  obtain ⟨other, inside, position⟩ := (fields.same i).mp ⟨name, inside, position⟩
  exact ⟨other, inside, field?_eq_some_iff.mpr ⟨i, position, there⟩⟩

theorem SameFields.symm (fields : schema.SameFields names others) :
    schema.SameFields others names :=
  ⟨fields.othersKnown, fields.known, fun i => (fields.same i).symm⟩

/-- Of the fields that names denote, no two have names that differ in case only: the later one of
the two would never be found. -/
theorem position_eq_of_sameIgnoringCase {name other asked : String} {i j : Nat} {f g : Field R}
    (first : schema.position? name = some i) (second : schema.position? other = some j)
    (thereF : schema.fields[i]? = some f) (thereG : schema.fields[j]? = some g)
    (askedF : Text.sameIgnoringCase f.name asked = true)
    (askedG : Text.sameIgnoringCase g.name asked = true) : i = j := by
  obtain ⟨boundI, sameF, beforeI⟩ := List.findIdx?_eq_some_iff_getElem.mp first
  obtain ⟨boundJ, sameG, beforeJ⟩ := List.findIdx?_eq_some_iff_getElem.mp second
  obtain ⟨_, rfl⟩ := List.getElem?_eq_some_iff.mp thereF
  obtain ⟨_, rfl⟩ := List.getElem?_eq_some_iff.mp thereG
  simp only [Text.sameIgnoringCase, beq_iff_eq] at askedF askedG sameF sameG beforeI beforeJ
  rcases Nat.lt_trichotomy i j with less | rfl | greater
  · exact absurd (askedF.trans (askedG.symm.trans sameG)) (beforeJ i less)
  · rfl
  · exact absurd (askedG.trans (askedF.symm.trans sameF)) (beforeI j greater)

end Schema

namespace KeyShape

variable {R : Type} {schema : Schema R} {names : List String} {shape : KeyShape}

theorem find?_part {fields : List (String × Nat)} {asked : String} {i : Nat} (value : Nat → Value)
    (there : ∃ part ∈ fields, Text.sameIgnoringCase part.1 asked = true)
    (only : ∀ part ∈ fields, Text.sameIgnoringCase part.1 asked = true → part.2 = i) :
    ((fields.map fun part => (⟨part.1, value part.2⟩ : KeyPart)).find? fun part =>
      Text.sameIgnoringCase part.name asked).map (·.value) = some (value i) := by
  induction fields with
  | nil => simp at there
  | cons part fields ih =>
    rw [List.forall_mem_cons] at only
    rw [List.map_cons, List.find?_cons]
    cases same : Text.sameIgnoringCase part.1 asked with
    | true => simp [only.1 same]
    | false =>
      apply ih
      · simpa [same] using there
      · exact only.2

/-- A key answers the value of each grouped field under all spellings of its name. -/
theorem get?_keyFor (built : build schema names = .ok shape) {name asked : String}
    {field : Field R} (inside : name ∈ names) (found : schema.field? name = some field)
    (spelled : Text.sameIgnoringCase field.name asked = true) (record : R) :
    (shape.keyFor schema record).get? asked = some (field.get record) := by
  obtain ⟨i, position, there⟩ := Schema.field?_eq_some_iff.mp found
  have part : (field.name, i) ∈ shape.fields := (mem_fields_of_build built).mpr
    ⟨name, inside, resolve_eq_ok_iff.mpr ⟨field, position, there, rfl⟩⟩
  have only : ∀ p ∈ shape.fields, Text.sameIgnoringCase p.1 asked = true → p.2 = i := by
    rintro ⟨declared, j⟩ other same
    obtain ⟨_, -, resolved⟩ := (mem_fields_of_build built).mp other
    obtain ⟨field', position', there', rfl⟩ := resolve_eq_ok_iff.mp resolved
    exact Schema.position_eq_of_sameIgnoringCase position' position there' there same spelled
  have answer := find?_part (valueAt schema record) ⟨_, part, spelled⟩ only
  rw [valueAt_of_field there] at answer
  obtain ⟨type, fields⟩ := shape
  match fields with
  | [] => exact answer
  | [_] =>
    obtain rfl := List.mem_singleton.mp part
    exact congrArg some (valueAt_of_field there record)
  | _ :: _ :: _ => exact answer

/-- Asking for a shape yields what would be built for the names: nothing else is kept for them. -/
def ShownAsBuilt (schema : Schema R) (names : List String) (cache : ShapeCache) : Prop :=
  handedOut schema names cache = build schema names

theorem shownAsBuilt_empty (schema : Schema R) (names : List String) :
    ShownAsBuilt schema names .empty := by
  obtain ⟨_, found, -⟩ | ⟨e, -, fails, yields, -⟩ | ⟨shape, -, built, yields, -⟩ :=
    shared_cases schema names .empty
  · cases found
  · simp [ShownAsBuilt, handedOut, yields, fails, Except.map]
  · simp [ShownAsBuilt, handedOut, yields, built, Except.map]

theorem shownAsBuilt_of_reached {cache : ShapeCache} (apart : schema.NamesStayApart)
    (reached : cache.Reached schema) (known : ∀ name ∈ names, schema.contains name = true) :
    ShownAsBuilt schema names cache := by
  obtain ⟨kept, yields, built⟩ :=
    shared_eq_build apart (ShapeCache.faithful_of_reached reached) known
  simp [ShownAsBuilt, handedOut, yields, built, Except.map]

end KeyShape

namespace AggregationPlan

open Cached

variable {R : Type}

section Walk

variable {plan other : AggregationPlan R}

def GroupAlike (plan other : AggregationPlan R) : Prop :=
  ∀ r s, (plan.keyFor r == plan.keyFor s) = (other.keyFor r == other.keyFor s)

def Twin (plan other : AggregationPlan R) (row row' : GroupCount) : Prop :=
  row.count = row'.count ∧
    ∃ record, row.key = plan.keyFor record ∧ row'.key = other.keyFor record

theorem forall₂_addKey (alike : GroupAlike plan other) {rows rows' : List GroupCount}
    (each : List.Forall₂ (Twin plan other) rows rows') (record : R) :
    List.Forall₂ (Twin plan other) (addKey (plan.keyFor record) rows)
      (addKey (other.keyFor record) rows') := by
  induction each with
  | nil => exact .cons ⟨rfl, record, rfl, rfl⟩ .nil
  | @cons row row' rows rows' first rest ih =>
    obtain ⟨size, opener, key, key'⟩ := first
    have together := alike opener record
    rw [← key, ← key'] at together
    rw [addKey, addKey, together]
    split
    · exact .cons ⟨by rw [size], opener, key, key'⟩ rest
    · exact .cons ⟨size, opener, key, key'⟩ ih

theorem forall₂_count (alike : GroupAlike plan other) (records : List R) :
    List.Forall₂ (Twin plan other) (plan.count records) (other.count records) := by
  have run : ∀ rows rows', List.Forall₂ (Twin plan other) rows rows' →
      List.Forall₂ (Twin plan other)
        (records.foldl (fun rows record => addKey (plan.keyFor record) rows) rows)
        (records.foldl (fun rows record => addKey (other.keyFor record) rows) rows') := by
    induction records with
    | nil => exact fun _ _ each => each
    | cons record records ih =>
      intro rows rows' each
      exact ih _ _ (forall₂_addKey alike each record)
  exact run [] [] .nil

/-- Both plans enter a record in the same place of their lists of candidates, or in neither. -/
theorem exists_addCandidate (alike : GroupAlike plan other) (preferred : Ordering)
    (get : R → Value) (kept : List R) (record : R) :
    ∃ kept' : List R,
      addCandidate preferred (plan.candidate get record) (kept.map (plan.candidate get)) =
        kept'.map (plan.candidate get) ∧
      addCandidate preferred (other.candidate get record) (kept.map (other.candidate get)) =
        kept'.map (other.candidate get) := by
  induction kept with
  | nil => exact ⟨[record], rfl, rfl⟩
  | cons best kept ih =>
    obtain ⟨kept', left, right⟩ := ih
    simp only [List.map_cons, addCandidate, candidate] at left right ⊢
    rw [alike best record]
    split
    · split
      · exact ⟨record :: kept, rfl, rfl⟩
      · exact ⟨best :: kept, rfl, rfl⟩
    · exact ⟨best :: kept', by rw [left]; rfl, by rw [right]; rfl⟩

theorem select_eq_select (alike : GroupAlike plan other) (preferred : Ordering) (get : R → Value)
    (records : List R) :
    plan.select preferred get records = other.select preferred get records := by
  -- The walks keep the same records throughout, each under the keys of its own plan.
  have run : ∀ kept : List R, ∃ kept' : List R,
      enterAll preferred (kept.map (plan.candidate get)) (records.map (plan.candidate get)) =
        kept'.map (plan.candidate get) ∧
      enterAll preferred (kept.map (other.candidate get)) (records.map (other.candidate get)) =
        kept'.map (other.candidate get) := by
    induction records with
    | nil => exact fun kept => ⟨kept, rfl, rfl⟩
    | cons record records ih =>
      intro kept
      obtain ⟨next, left, right⟩ := exists_addCandidate alike preferred get kept record
      obtain ⟨kept', leftRun, rightRun⟩ := ih next
      rw [← left] at leftRun
      rw [← right] at rightRun
      exact ⟨kept', leftRun, rightRun⟩
  obtain ⟨kept, left, right⟩ := run []
  rw [select_eq_enterAll, select_eq_enterAll]
  change (enterAll preferred ([].map (plan.candidate get)) _).map _ =
    (enterAll preferred ([].map (other.candidate get)) _).map _
  rw [left, right, List.map_map, List.map_map]
  rfl

end Walk

variable {schema : Schema R} {names others : List String} {cache : ShapeCache}

theorem groupAlike_of_sameFields {plan other : AggregationPlan R}
    (schemas : other.schema = plan.schema) (fields : plan.schema.SameFields names others)
    (grouped : plan.GroupsBy names) (otherGrouped : other.GroupsBy others) :
    GroupAlike plan other := by
  intro r s
  rw [Bool.eq_iff_iff, keyFor_beq_iff_agree, keyFor_beq_iff_agree, agree_iff_of_groupsBy grouped,
    agree_iff_of_groupsBy otherGrouped, schemas]
  constructor
  · intro agree name inside field found
    obtain ⟨twin, there, found⟩ := fields.symm.exists_field inside found
    exact agree twin there field found
  · intro agree name inside field found
    obtain ⟨twin, there, found⟩ := fields.exists_field inside found
    exact agree twin there field found

/-- Outputs for the named fields that differ in the form of their keys only: the rows have the same
sizes, and their keys answer alike for each of the fields; records are the same. -/
inductive GroupedAlike (schema : Schema R) (names : List String) :
    QueryOutput R → QueryOutput R → Prop where
  | counts {rows rows' : List GroupCount} :
      List.Forall₂ (fun row row' => row.count = row'.count ∧
        ∀ name ∈ names, ∀ field, schema.field? name = some field →
          ∀ asked, Text.sameIgnoringCase field.name asked = true →
            ∃ v, row.key.get? asked = some v ∧ row'.key.get? asked = some v) rows rows' →
      GroupedAlike schema names (.counts rows) (.counts rows')
  | records (chosen : List R) : GroupedAlike schema names (.records chosen) (.records chosen)

theorem groupedAlike_apply {first second : SharedShape} (reduction : Reduction R)
    (fields : schema.SameFields names others)
    (built : KeyShape.build schema names = .ok first.shape)
    (otherBuilt : KeyShape.build schema others = .ok second.shape) (records : List R) :
    GroupedAlike schema names (AggregationPlan.apply ⟨schema, first, reduction⟩ records)
      (AggregationPlan.apply ⟨schema, second, reduction⟩ records) := by
  have alike : GroupAlike ⟨schema, first, reduction⟩ ⟨schema, second, reduction⟩ :=
    groupAlike_of_sameFields rfl fields built otherBuilt
  cases reduction with
  | count =>
    refine .counts ((forall₂_count alike records).imp ?_)
    rintro row row' ⟨size, record, key, key'⟩
    refine ⟨size, fun name inside field found asked spelled => ⟨field.get record, ?_, ?_⟩⟩
    · rw [key]
      exact KeyShape.get?_keyFor built inside found spelled record
    · obtain ⟨twin, there, found⟩ := fields.exists_field inside found
      rw [key']
      exact KeyShape.get?_keyFor otherBuilt there found spelled record
  | select preferred get =>
    have same := select_eq_select alike preferred get records
    simp only [apply, same]
    exact .records _

theorem outcome_build (aggregation : Aggregation)
    (known : ∀ name ∈ names, schema.contains name = true)
    (shown : KeyShape.ShownAsBuilt schema names cache) :
    ∃ shape : SharedShape, KeyShape.build schema names = .ok shape.shape ∧
      (build schema names aggregation).outcome cache =
        (reductionOf schema aggregation).map fun reduction => ⟨schema, shape, reduction⟩ := by
  obtain ⟨shape, built⟩ := KeyShape.exists_build_eq_ok_iff.mpr known
  have handed := shown.trans built
  obtain ⟨kept, shared, rfl⟩ := map_eq_ok_iff.mp handed
  refine ⟨kept, built, ?_⟩
  rw [build, outcome_bind, shared]
  change ((Cached.ofExcept _) >>= _).outcome _ = _
  rw [outcome_bind, outcome_ofExcept]
  cases reductionOf schema aggregation <;> rfl

/-- What a plan yields depends on the set of the fields that it groups by, up to the form of the
keys. The names of one list may stand in the other in any order and spelling and more than once. Of
the plans that are built for them both fail, and with one error, or both succeed. -/
theorem apply_depends_on_set_of_fields (fields : schema.SameFields names others) :
    (∃ shape other, KeyShape.build schema names = .ok shape ∧
      KeyShape.build schema others = .ok other) ∧
    (∀ (first second : SharedShape) (reduction : Reduction R),
      KeyShape.build schema names = .ok first.shape →
      KeyShape.build schema others = .ok second.shape →
      ∀ records, GroupedAlike schema names (apply ⟨schema, first, reduction⟩ records)
        (apply ⟨schema, second, reduction⟩ records)) ∧
    ∀ (aggregation : Aggregation) (cache later : ShapeCache),
      KeyShape.ShownAsBuilt schema names cache → KeyShape.ShownAsBuilt schema others later →
      (∀ e, (build schema names aggregation).outcome cache = .error e ↔
        (build schema others aggregation).outcome later = .error e) ∧
      ((∃ plan, (build schema names aggregation).outcome cache = .ok plan) ↔
        ∃ reduction, reductionOf schema aggregation = .ok reduction) ∧
      ∀ plan, (build schema names aggregation).outcome cache = .ok plan →
        ∃ other, (build schema others aggregation).outcome later = .ok other ∧
          ∀ records, GroupedAlike schema names (plan.apply records) (other.apply records) := by
  obtain ⟨shape, built⟩ := KeyShape.exists_build_eq_ok_iff.mpr fields.known
  obtain ⟨other, otherBuilt⟩ := KeyShape.exists_build_eq_ok_iff.mpr fields.othersKnown
  refine ⟨⟨shape, other, built, otherBuilt⟩,
    fun _ _ reduction => groupedAlike_apply reduction fields, ?_⟩
  intro aggregation cache later shown otherShown
  obtain ⟨first, built, yields⟩ := outcome_build aggregation fields.known shown
  obtain ⟨second, otherBuilt, otherYields⟩ :=
    outcome_build aggregation fields.othersKnown otherShown
  rw [yields, otherYields]
  cases reductionOf schema aggregation with
  | error e => simp [Except.map]
  | ok reduction =>
    refine ⟨by simp [Except.map], by simp [Except.map], ?_⟩
    intro plan done
    obtain rfl := Except.ok.inj done
    exact ⟨_, rfl, groupedAlike_apply reduction fields built otherBuilt⟩

/-- The department alone, and named twice, so that the keys have parts. -/
theorem departments_grouped_alike :
    User.schema.SameFields ["Department"] [" department", "DEPARTMENT"] ∧
    KeyShape.build User.schema ["Department"] = .ok ⟨"User", [("Department", 3)]⟩ ∧
    KeyShape.build User.schema [" department", "DEPARTMENT"] =
      .ok ⟨"User", [("Department", 3), ("Department", 3)]⟩ ∧
    ∃ plan other, (build User.schema ["Department"] ⟨.count, none⟩).outcome .empty = .ok plan ∧
      (build User.schema [" department", "DEPARTMENT"] ⟨.count, none⟩).outcome
        ((KeyShape.shared User.schema ["Department"]).after .empty) = .ok other ∧
      GroupedAlike User.schema ["Department"]
        (plan.apply [User.new 1 "" "IT", User.new 2 "" "HR", User.new 3 "" "IT"])
        (other.apply [User.new 1 "" "IT", User.new 2 "" "HR", User.new 3 "" "IT"]) := by
  have fields : User.schema.SameFields ["Department"] [" department", "DEPARTMENT"] := by
    have position : ∀ name ∈ ["Department", " department", "DEPARTMENT"],
        User.schema.position? name = some 3 := by decide
    simp only [List.forall_mem_cons, List.not_mem_nil, false_imp_iff, implies_true] at position
    obtain ⟨plain, spaced, shouted, -⟩ := position
    refine ⟨by decide, by decide, fun i => ?_⟩
    simp [plain, spaced, shouted]
  have shown := KeyShape.shownAsBuilt_empty User.schema ["Department"]
  have reached : ShapeCache.Reached User.schema
      ((KeyShape.shared User.schema ["Department"]).after .empty) := .own _ .empty
  have otherShown := KeyShape.shownAsBuilt_of_reached User.namesStayApart_schema reached
    fields.othersKnown
  obtain ⟨-, exists_plan, each⟩ :=
    (apply_depends_on_set_of_fields fields).2.2 ⟨.count, none⟩ _ _ shown otherShown
  obtain ⟨plan, done⟩ := exists_plan.mpr ⟨.count, rfl⟩
  obtain ⟨other, otherDone, alike⟩ := each plan done
  exact ⟨fields, rfl, rfl, plan, other, done, otherDone, alike _⟩

end AggregationPlan

end RuleQuery
