import RuleQuery.Proofs.Grouping.Count
import RuleQuery.Proofs.Grouping.Key
import RuleQuery.Proofs.Literal.RoundTrip
import RuleQuery.Proofs.Predicate.Nested
import RuleQuery.Proofs.Predicate.Tree
import RuleQuery.Proofs.Rule.Recompiled
import RuleQuery.User.Basic

namespace RuleQuery

open Cached

variable {R : Type} {schema : Schema R} {params : Parameters}

namespace Schema

/-- The grouped values of a record can be written as literals that stand for them. -/
def WritesLiterals (schema : Schema R) (names : List String) (record : R) : Prop :=
  ∀ name ∈ names, ∀ field, schema.field? name = some field →
    field.type.kind ≠ .float ∧ Value.OfType field.type (field.get record)

end Schema

namespace ConditionGroup

/-- The conditions for the records of a group: each grouped field is equal to what the document of
the key has for it. -/
def drillDown (schema : Schema R) (names : List String) (key : GroupKey) : ConditionGroup :=
  ofConditions .and (names.map fun name =>
    ⟨name, "equal", key.document ((schema.field? name).elim name (·.name))⟩)

variable {names asked : List String} {shape : KeyShape} {sample : R}

theorem compile_drillDown_condition (distinct : (schema.fields.map (·.name)).Nodup)
    (built : KeyShape.build schema names = .ok shape)
    (writes : schema.WritesLiterals names sample) {name spelled : String} {field : Field R}
    (inside : name ∈ names) (found : schema.field? name = some field)
    (same : schema.field? spelled = some field) :
    Condition.compile schema params ⟨spelled, "equal",
        (shape.keyFor schema sample).document ((schema.field? spelled).elim spelled (·.name))⟩ =
      .ok fun record => (field.get record).equals (field.get sample).readBack := by
  have operator : Operator.ofName? "equal" = some .equal := by decide
  refine Condition.compile_equal operator same ?_
  rw [same]
  change Literal.value? ((shape.keyFor schema sample).document field.name) field.type = _
  rw [KeyShape.document_keyFor distinct built inside found]
  exact Value.value?_toJson (writes name inside field found).2

theorem holds_drillDown_condition (distinct : (schema.fields.map (·.name)).Nodup)
    (built : KeyShape.build schema names = .ok shape)
    (writes : schema.WritesLiterals names sample) {record : R}
    (writesToo : schema.WritesLiterals names record) {name spelled : String} {field : Field R}
    (inside : name ∈ names) (found : schema.field? name = some field)
    (same : schema.field? spelled = some field) :
    Condition.holds schema params record ⟨spelled, "equal",
        (shape.keyFor schema sample).document ((schema.field? spelled).elim spelled (·.name))⟩ =
      (field.get record == field.get sample) := by
  obtain ⟨exact, held⟩ := writesToo name inside field found
  rw [Condition.holds, compile_drillDown_condition distinct built writes inside found same]
  exact Value.equals_readBack exact held (writes name inside field found).2

theorem evaluate_drillDown (holds : Condition → Bool) (key : GroupKey) :
    (drillDown schema asked key).evaluate holds = asked.all fun name =>
      holds ⟨name, "equal", key.document ((schema.field? name).elim name (·.name))⟩ := by
  simp only [drillDown, ofConditions, evaluate, evaluateParts, List.append_nil, List.map_map,
    Bool.false_eq_true, if_false, LogicalOperator.combine]
  cases asked with
  | nil => rfl
  | cons name asked => simp [Function.comp_def]

theorem exists_grouped (known : ∀ name ∈ names, schema.contains name = true)
    (same : asked.map schema.position? = names.map schema.position?) {spelled : String}
    (inside : spelled ∈ asked) : ∃ name ∈ names, ∃ field,
      schema.field? name = some field ∧ schema.field? spelled = some field := by
  obtain ⟨name, grouped, position⟩ := exists_mem_of_map_eq same inside
  obtain ⟨field, found⟩ := Schema.contains_iff.mp (known name grouped)
  exact ⟨name, grouped, field, found, (Schema.field?_congr position).symm.trans found⟩

theorem properties_drillDown (key : GroupKey) :
    (drillDown schema asked key).properties = asked := by
  simp [drillDown, ofConditions, properties, propertiesOf, Function.comp_def]

/-- The conditions compile, and of every record they say whether it has the key. -/
theorem compile?_drillDown (params : Parameters)
    (distinct : (schema.fields.map (·.name)).Nodup)
    (built : KeyShape.build schema names = .ok shape)
    (same : asked.map schema.position? = names.map schema.position?)
    (writes : schema.WritesLiterals names sample) :
    ∃ outcome, (drillDown schema asked (shape.keyFor schema sample)).compile? schema params =
        .ok outcome ∧
      ∀ record, schema.WritesLiterals names record →
        outcome.getD (fun _ => true) record =
          (shape.keyFor schema record == shape.keyFor schema sample) := by
  have known := KeyShape.exists_build_eq_ok_iff.mp ⟨shape, built⟩
  have compiles : ∀ c ∈ (drillDown schema asked (shape.keyFor schema sample)).conditionsWithin,
      ∃ test, c.compile schema params = .ok test := by
    intro c inside
    rw [drillDown, ofConditions, conditionsWithin_mk, subgroupsOf, List.flatMap_nil,
      List.append_nil] at inside
    obtain ⟨spelled, there, rfl⟩ := List.mem_map.mp inside
    obtain ⟨name, grouped, field, found, sameField⟩ := exists_grouped known same there
    exact ⟨_, compile_drillDown_condition distinct built writes grouped found sameField⟩
  obtain ⟨outcome, done⟩ :=
    (exists_ok_iff_of_error_iff (compile?_eq_error_iff schema params _)).mpr compiles
  refine ⟨outcome, done, fun record writesToo => ?_⟩
  rw [(compile?_eq_ok schema params _ outcome done).2 record, evaluate_drillDown,
    Bool.eq_iff_iff, List.all_eq_true, KeyShape.keyFor_beq_iff]
  constructor
  · intro all part inside
    obtain ⟨name, grouped, resolved⟩ := (KeyShape.mem_fields_of_build built).mp inside
    obtain ⟨declared, i⟩ := part
    obtain ⟨field, position, there, -⟩ := KeyShape.resolve_eq_ok_iff.mp resolved
    have found : schema.field? name = some field :=
      Schema.field?_eq_some_iff.mpr ⟨i, position, there⟩
    obtain ⟨spelled, asks, samePosition⟩ := exists_mem_of_map_eq same.symm grouped
    have sameField : schema.field? spelled = some field :=
      (Schema.field?_congr samePosition).trans found
    have agrees := all spelled asks
    rw [holds_drillDown_condition distinct built writes writesToo grouped found sameField] at agrees
    rw [KeyShape.valueAt_of_field there, KeyShape.valueAt_of_field there]
    exact agrees
  · intro all spelled asks
    obtain ⟨name, grouped, field, found, sameField⟩ := exists_grouped known same asks
    obtain ⟨i, position, there⟩ := Schema.field?_eq_some_iff.mp found
    have agrees := all (field.name, i) ((KeyShape.mem_fields_of_build built).mpr
      ⟨name, grouped, KeyShape.resolve_eq_ok_iff.mpr ⟨field, position, there, rfl⟩⟩)
    rw [KeyShape.valueAt_of_field there, KeyShape.valueAt_of_field there] at agrees
    rw [holds_drillDown_condition distinct built writes writesToo grouped found sameField]
    exact agrees

end ConditionGroup

namespace Rule

variable {rule : Rule} {cache : ShapeCache}

theorem execute_of_yieldsCounts {predicate : Option (Predicate R)}
    (apart : schema.NamesStayApart)
    (faithful : cache.Faithful schema)
    (fine : CompiledRule.predicateOf schema params rule = .ok predicate)
    (projects : rule.yieldsCounts = true) (records : List R) :
    ∃ kept, KeyShape.build schema rule.groupBy = .ok kept.shape ∧
      (rule.execute schema params records).outcome cache =
        .ok (.counts ((⟨schema, kept, .count⟩ : AggregationPlan R).count
          (records.filter (CompiledRule.selects ⟨rule.name, predicate, none⟩)))) := by
  obtain ⟨fits, -⟩ := CompiledRule.predicateOf_eq_ok_iff.mp fine
  obtain ⟨plan, compiled, planned⟩ := compile_of_predicate fine cache
  generalize (rule.compile schema params).after cache = left at planned
  simp only [yieldsCounts, Bool.and_eq_true, Bool.not_eq_true', List.isEmpty_eq_false_iff,
    Option.any_eq_true, beq_iff_eq] at projects
  obtain ⟨grouped, aggregation, given, counts⟩ := projects
  cases planned with
  | none idle => exact absurd idle (not_idle given grouped)
  | @some aggregation kept reduction given' _ shared reduced =>
    rw [given] at given'
    cases given'
    obtain rfl : reduction = .count := by
      rcases AggregationPlan.reductionOf_cases reduced with ⟨-, same⟩ | ⟨selects, -⟩
      · exact same
      · exact absurd counts selects
    obtain ⟨kept', obtained, built⟩ := KeyShape.shared_eq_build apart faithful fits.grouping
    rw [shared] at obtained
    cases obtained
    refine ⟨kept, built, ?_⟩
    rw [(execute_of_compile records compiled).1]
    rfl

end Rule

namespace User

theorem distinct_schema : (User.schema.fields.map (·.name)).Nodup := by decide

theorem ofType_orNull {α : Type} {make : α → Value} {kind : FieldKind}
    (each : ∀ a, Value.OfKind kind (make a)) (x : Option α) :
    Value.OfType (.optional kind) (orNull make x) := by
  cases x with
  | none => exact .inl ⟨rfl, rfl⟩
  | some a => exact .inr (each a)

theorem ofType_get {u : User} (four : u.createdAt.FourDigitYear) {field : Field User}
    (inside : field ∈ User.schema.fields) (noTags : field.name ≠ "Tags") :
    field.type.kind ≠ .float ∧ Value.OfType field.type (field.get u) := by
  have exact : field.type.kind ≠ .float := by
    have all : ∀ field ∈ User.schema.fields, field.type.kind ≠ .float := by decide
    exact all field inside
  refine ⟨exact, ?_⟩
  simp only [User.schema, List.mem_cons, List.not_mem_nil, or_false] at inside
  rcases inside with rfl | rfl | rfl | rfl | rfl | rfl | rfl | rfl | rfl | rfl | rfl | rfl
  · exact .inr (.integer u.id)
  · exact .inr (.text u.name)
  · exact ofType_orNull .text u.email
  · exact .inr (.text u.department)
  · exact .inr (.decimal u.salary)
  · exact ofType_orNull (fun age => .integer age.toInt64) u.age
  · exact .inr (.text u.employeeCode)
  · exact .inr (.text u.bio)
  · exact .inr (.bool u.isActive)
  · exact ofType_orNull .integer u.managerId
  · exact absurd rfl noTags
  · exact .inr (.timestamp four)

/-- The size of a group leads to its records. For a rule that counts the groups of all users, the
document of any row's key gives the conditions of a rule that compiles, whatever the parameters and
the cache are, and selects exactly the users with that key, as many as the row says. Fields may be
asked for in any spelling. -/
theorem drillDown_selects_group (counting : Rule) (users : List User) (params : Parameters)
    (cache : ShapeCache)
    (valid : counting.validate User.schema = .ok ())
    (unconditional : counting.conditions = none)
    (projects : counting.yieldsCounts = true)
    (noTags : ∀ name ∈ counting.groupBy, ∀ field, User.schema.field? name = some field →
      field.name ≠ "Tags")
    (years : ∀ u ∈ users, u.createdAt.FourDigitYear)
    (reached : ShapeCache.Reached User.schema cache) :
    ∃ shape rows, KeyShape.build User.schema counting.groupBy = .ok shape ∧
      (counting.execute User.schema params users).outcome cache = .ok (.counts rows) ∧
      ∀ row ∈ rows, ∀ (asking : Rule) (asked : List String) (params : Parameters)
        (cache : ShapeCache),
        asked.map User.schema.position? = counting.groupBy.map User.schema.position? →
        asking.conditions = some (.drillDown User.schema asked row.key) →
        asking.groupBy = [] → asking.aggregation = none → asking.NamesTarget User.schema →
        ∃ selected,
          (asking.execute User.schema params users).outcome cache = .ok (.records selected) ∧
          selected = (users.filter fun u => shape.keyFor User.schema u == row.key) ∧
          selected.length = row.count := by
  have fits := Rule.validate_eq_ok_iff.mp valid
  have fine : CompiledRule.predicateOf User.schema params counting = .ok none :=
    CompiledRule.predicateOf_eq_ok_iff.mpr ⟨fits, .inl ⟨unconditional, rfl⟩⟩
  obtain ⟨kept, built, executed⟩ := Rule.execute_of_yieldsCounts namesStayApart_schema
    (ShapeCache.faithful_of_reached reached) fine projects users
  have everyone : users.filter (CompiledRule.selects ⟨counting.name, none, none⟩) = users :=
    List.filter_eq_self.mpr fun _ _ => rfl
  rw [everyone] at executed
  have writes : ∀ u ∈ users, User.schema.WritesLiterals counting.groupBy u :=
    fun u inside name grouped field found =>
      ofType_get (years u inside) (Schema.mem_of_field? found) (noTags name grouped field found)
  refine ⟨kept.shape, _, built, executed, ?_⟩
  intro row inside asking asked params cache same conditions ungrouped plain target
  obtain ⟨⟨sample, among, key⟩, size⟩ := AggregationPlan.mem_count _ inside
  obtain ⟨outcome, compiled, meaning⟩ :=
    ConditionGroup.compile?_drillDown params distinct_schema built same (writes sample among)
  change kept.shape.keyFor User.schema sample = row.key at key
  rw [key] at compiled meaning
  have known : ∀ name ∈ asked, User.schema.contains name = true := by
    intro name asks
    obtain ⟨_, -, field, -, found⟩ := ConditionGroup.exists_grouped fits.grouping same asks
    exact Schema.contains_iff.mpr ⟨field, found⟩
  have askingFits : asking.Fits User.schema := by
    refine ⟨target, ?_, ?_, fun grouped => absurd ungrouped grouped, ?_⟩
    · rw [conditions, Option.elim_some, ConditionGroup.properties_drillDown]
      exact known
    · simp [ungrouped]
    · simp [plain]
  have askingFine : CompiledRule.predicateOf User.schema params asking = .ok outcome :=
    CompiledRule.predicateOf_eq_ok_iff.mpr ⟨askingFits, .inr ⟨_, conditions, compiled⟩⟩
  refine ⟨_, Rule.execute_of_plain askingFine plain users cache, ?_, ?_⟩
  · exact List.filter_congr fun u inside => meaning u (writes u inside)
  · rw [size]
    exact congrArg List.length (List.filter_congr fun u inside => meaning u (writes u inside))

theorem drillDown_selects_group_of_staff : ∃ rows,
    (Rule.execute User.schema .empty
      [.new 1 "Ann" "IT", { User.new 2 "Bob" "IT" with email := some "bob" }, .new 3 "Cy" "IT"]
      { Rule.ofName "sizes" .epoch with
        groupBy := ["Email", "Department"], aggregation := some ⟨.count, none⟩ }).outcome .empty =
      .ok (.counts rows) ∧
    ∀ row ∈ rows, ∃ selected, (Rule.execute User.schema .empty
      [.new 1 "Ann" "IT", { User.new 2 "Bob" "IT" with email := some "bob" }, .new 3 "Cy" "IT"]
      { Rule.ofName "group" .epoch with
        conditions := some (.drillDown User.schema ["email", " department "] row.key) }).outcome
          .empty = .ok (.records selected) ∧ selected.length = row.count := by
  obtain ⟨shape, rows, -, executed, selects⟩ := drillDown_selects_group
    { Rule.ofName "sizes" .epoch with
      groupBy := ["Email", "Department"], aggregation := some ⟨.count, none⟩ }
    [.new 1 "Ann" "IT", { User.new 2 "Bob" "IT" with email := some "bob" }, .new 3 "Cy" "IT"]
    .empty .empty rfl rfl rfl (by decide) (by decide) .empty
  refine ⟨rows, executed, fun row inside => ?_⟩
  obtain ⟨selected, done, -, size⟩ := selects row inside
    { Rule.ofName "group" .epoch with
      conditions := some (.drillDown User.schema ["email", " department "] row.key) }
    ["email", " department "] .empty .empty (by decide) rfl rfl rfl (.inl rfl)
  exact ⟨selected, done, size⟩

end User

end RuleQuery
