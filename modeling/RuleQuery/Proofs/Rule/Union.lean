import RuleQuery.Proofs.Distinct
import RuleQuery.Proofs.Rule.Recompiled
import RuleQuery.Proofs.Value.Identity

/-!
The union of several rules against running them one by one. All rules are compiled first, so the
first one at fault decides the error; the records are those of the rules in turn, each kept where
it first appears. The order of the rules has no effect on which records there are.
-/
namespace RuleQuery

open Cached

variable {R : Type} {schema : Schema R} {params : Parameters} {records : List R}

namespace CompiledRule

variable {compiled : CompiledRule R}

theorem apply_of_isProjection (projects : compiled.isProjection = true) :
    ∃ rows, compiled.apply records = .counts rows := by
  obtain ⟨name, predicate, plan⟩ := compiled
  cases plan with
  | none => cases projects
  | some plan =>
    obtain ⟨schema, shape, reduction⟩ := plan
    cases reduction with
    | count => exact ⟨_, rfl⟩
    | select preferred get => cases projects

theorem apply_of_not_isProjection (keeps : compiled.isProjection = false) (records : List R) :
    ∃ selected, compiled.apply records = .records selected := by
  obtain ⟨name, predicate, plan⟩ := compiled
  cases plan with
  | none => exact ⟨_, rfl⟩
  | some plan =>
    obtain ⟨schema, shape, reduction⟩ := plan
    cases reduction with
    | count => cases keeps
    | select preferred get => exact ⟨_, rfl⟩

theorem isProjection_iff :
    compiled.isProjection = true ↔ ∃ rows, compiled.apply records = .counts rows := by
  refine ⟨apply_of_isProjection, ?_⟩
  rintro ⟨rows, yields⟩
  cases projects : compiled.isProjection with
  | true => rfl
  | false =>
    obtain ⟨selected, keeps⟩ := apply_of_not_isProjection projects records
    rw [keeps] at yields
    cases yields

def recordsOf (compiled : CompiledRule R) (records : List R) : List R :=
  (compiled.apply records).records?.getD []

theorem apply_eq_records (keeps : compiled.isProjection = false) :
    compiled.apply records = .records (compiled.recordsOf records) := by
  obtain ⟨selected, yields⟩ := apply_of_not_isProjection keeps records
  rw [recordsOf, yields]
  rfl

end CompiledRule

namespace Rule

variable {rule : Rule} {rules : List Rule} {cache : ShapeCache}

section Compile

variable {compiled : CompiledRule R}

theorem compileForUnion_eq (rule : Rule) : rule.compileForUnion schema params =
    (rule.compile schema params >>= fun compiled =>
      if compiled.isProjection then throw (.projectionInUnion rule.name) else pure compiled) := by
  unfold compileForUnion
  congr 1

theorem compileForUnion_eq_error_iff {e : QueryError} :
    (rule.compileForUnion schema params).outcome cache = .error e ↔
      (rule.compile schema params).outcome cache = .error e ∨
        ∃ compiled, (rule.compile schema params).outcome cache = .ok compiled ∧
          compiled.isProjection = true ∧ e = .projectionInUnion rule.name := by
  rw [compileForUnion_eq, outcome_bind, bind_eq_error_iff]
  refine or_congr Iff.rfl (exists_congr fun compiled => and_congr Iff.rfl ?_)
  cases compiled.isProjection <;> simp [eq_comm]

theorem compileForUnion_eq_ok_iff :
    (rule.compileForUnion schema params).outcome cache = .ok compiled ↔
      (rule.compile schema params).outcome cache = .ok compiled ∧
        compiled.isProjection = false := by
  rw [compileForUnion_eq, outcome_bind, bind_eq_ok_iff]
  constructor
  · rintro ⟨compiled', done, kept⟩
    cases projects : compiled'.isProjection with
    | true => simp [projects] at kept
    | false =>
      simp only [projects, Bool.false_eq_true, if_false, outcome_pure, Except.ok.injEq] at kept
      cases kept
      exact ⟨done, projects⟩
  · rintro ⟨done, keeps⟩
    exact ⟨compiled, done, by simp [keeps]⟩

theorem after_compileForUnion_of_ok
    (done : (rule.compile schema params).outcome cache = .ok compiled) :
    (rule.compileForUnion schema params).after cache =
      (rule.compile schema params).after cache := by
  rw [compileForUnion_eq, after_bind_of_ok done]
  split
  · exact after_throw _ _
  · exact after_pure compiled _

theorem settles_compileForUnion (rule : Rule) : Settles (rule.compileForUnion schema params) := by
  rw [compileForUnion_eq]
  refine settles_bind (settles_compile rule) fun compiled => ?_
  split
  · exact settles_throw _
  · exact settles_pure compiled

theorem keepsReached_compileForUnion (rule : Rule) :
    KeepsReached schema (rule.compileForUnion schema params) := by
  rw [compileForUnion_eq]
  refine keepsReached_bind (keepsReached_compile rule) fun compiled => ?_
  split
  · exact keepsReached_throw _
  · exact keepsReached_pure compiled

theorem failsAlike_compileForUnion (rule : Rule) :
    FailsAlike (rule.compileForUnion schema params) := by
  intro cache e fails other
  rw [compileForUnion_eq_error_iff] at fails ⊢
  rcases fails with fails | ⟨compiled, done, projects, rfl⟩
  · exact .inl (failsAlike_compile rule fails other)
  · cases there : (rule.compile schema params).outcome other with
    | error e =>
      rw [failsAlike_compile rule there cache] at done
      cases done
    | ok compiled' =>
      refine .inr ⟨compiled', rfl, ?_, rfl⟩
      rw [isProjection_of_compile there, ← isProjection_of_compile done, projects]

end Compile

/-- What a union asks of a rule, tried on its own: that it compiles and yields records. -/
def checkForUnion (schema : Schema R) (params : Parameters) (cache : ShapeCache) (rule : Rule) :
    Except QueryError Unit := do
  let compiled ← (rule.compile schema params).outcome cache
  if compiled.isProjection then throw (.projectionInUnion rule.name)

theorem checkForUnion_eq_error_iff {e : QueryError} :
    checkForUnion schema params cache rule = .error e ↔
      (rule.compileForUnion schema params).outcome cache = .error e := by
  rw [compileForUnion_eq_error_iff, checkForUnion, bind_eq_error_iff]
  refine or_congr Iff.rfl (exists_congr fun compiled => and_congr Iff.rfl ?_)
  cases compiled.isProjection <;>
    simp [throw, throwThe, MonadExceptOf.throw, pure, Except.pure, eq_comm]

theorem checkForUnion_eq_ok_iff : checkForUnion schema params cache rule = .ok () ↔
    ∃ compiled, (rule.compile schema params).outcome cache = .ok compiled ∧
      compiled.isProjection = false := by
  rw [checkForUnion, bind_eq_ok_iff]
  refine exists_congr fun compiled => and_congr Iff.rfl ?_
  cases compiled.isProjection <;> simp [throw, throwThe, MonadExceptOf.throw, pure, Except.pure]

/-- The records that a rule of a union yields with a cache, none if it does not fit in. -/
def recordsAt (schema : Schema R) (params : Parameters) (records : List R) (cache : ShapeCache)
    (rule : Rule) : List R :=
  ((rule.compileForUnion schema params).outcome cache).toOption.elim [] (·.recordsOf records)

theorem recordsAt_of_fits {compiled : CompiledRule R}
    (fits : (rule.compileForUnion schema params).outcome cache = .ok compiled) :
    recordsAt schema params records cache rule = compiled.recordsOf records := by
  rw [recordsAt, fits]
  rfl

theorem execute_of_fits {compiled : CompiledRule R}
    (compiles : (rule.compile schema params).outcome cache = .ok compiled)
    (keeps : compiled.isProjection = false) (records : List R) :
    (rule.execute schema params records).outcome cache =
      .ok (.records (recordsAt schema params records cache rule)) := by
  have fits := compileForUnion_eq_ok_iff.mpr ⟨compiles, keeps⟩
  rw [(execute_of_compile records compiles).1, CompiledRule.apply_eq_records keeps,
    recordsAt_of_fits fits]

theorem recordsAt_of_compiled {compiled : List (CompiledRule R)} {later : ShapeCache}
    (records : List R)
    (done : (rules.mapM (compileForUnion schema params)).outcome cache = .ok compiled)
    (extends_after :
      later.Extends ((rules.mapM (compileForUnion schema params)).after cache)) :
    rules.map (recordsAt schema params records later) = compiled.map (·.recordsOf records) := by
  have outcomes := outcome_of_mapM settles_compileForUnion done extends_after
  unfold recordsAt
  exact map_elim_of_map_eq outcomes [] _

theorem keeps_of_compiled {compiled : List (CompiledRule R)}
    (done : (rules.mapM (compileForUnion schema params)).outcome cache = .ok compiled) :
    ∀ rule ∈ compiled, rule.isProjection = false := by
  have outcomes := outcome_of_mapM settles_compileForUnion done (ShapeCache.extends_refl _)
  intro rule inside
  obtain ⟨source, -, yields⟩ := exists_mem_of_map_eq outcomes.symm inside
  exact (compileForUnion_eq_ok_iff.mp yields).2

theorem recordsAt_eq_of_faithful {other : ShapeCache} (apart : schema.NamesStayApart)
    (faithful : cache.Faithful schema) (otherFaithful : other.Faithful schema) (rule : Rule) :
    recordsAt schema params records cache rule = recordsAt schema params records other rule := by
  cases done : (rule.compileForUnion schema params).outcome cache with
  | error e => rw [recordsAt, recordsAt, done, failsAlike_compileForUnion rule done other]
  | ok compiled =>
    cases there : (rule.compileForUnion schema params).outcome other with
    | error e =>
      rw [failsAlike_compileForUnion rule there cache] at done
      cases done
    | ok again =>
      have same := apply_eq_of_faithful apart faithful otherFaithful
        (compileForUnion_eq_ok_iff.mp done).1 (compileForUnion_eq_ok_iff.mp there).1 records
      rw [recordsAt_of_fits done, recordsAt_of_fits there, CompiledRule.recordsOf, same]
      rfl

section Union

variable [BEq R] {merged : List R}

theorem executeAll_of_error {e : QueryError}
    (fails : (rules.mapM (compileForUnion schema params)).outcome cache = .error e) :
    (executeAll schema params records rules).outcome cache = .error e := by
  unfold executeAll
  rw [outcome_bind, fails]
  rfl

theorem executeAll_of_ok {compiled : List (CompiledRule R)} (records : List R)
    (done : (rules.mapM (compileForUnion schema params)).outcome cache = .ok compiled) :
    (executeAll schema params records rules).outcome cache =
        .ok (compiled.flatMap (·.recordsOf records)).eraseDups ∧
      (executeAll schema params records rules).after cache =
        (rules.mapM (compileForUnion schema params)).after cache := by
  unfold executeAll
  rw [outcome_bind, after_bind_of_ok done, done]
  change Cached.outcome _ _ = _ ∧ _
  rw [mapM_eq_pure (h := (·.recordsOf records)), pure_bind, ← List.flatMap_def]
  · exact ⟨outcome_pure _ _, after_pure _ _⟩
  · intro rule inside
    simp only [CompiledRule.apply_eq_records (keeps_of_compiled done rule inside),
      QueryOutput.records?]

theorem executeAll_eq_error_iff (other : ShapeCache) {e : QueryError} :
    (executeAll schema params records rules).outcome cache = .error e ↔
      FirstFailure (checkForUnion schema params other) rules e := by
  have compiling : (executeAll schema params records rules).outcome cache = .error e ↔
      (rules.mapM (compileForUnion schema params)).outcome cache = .error e := by
    cases done : (rules.mapM (compileForUnion schema params)).outcome cache with
    | error e' =>
      rw [executeAll_of_error done]
      simp only [Except.error.injEq]
    | ok compiled => simp [(executeAll_of_ok records done).1]
  rw [compiling, outcome_mapM_eq_error_iff failsAlike_compileForUnion other]
  exact firstFailure_congr fun rule e => (checkForUnion_eq_error_iff).symm

theorem exists_executeAll_eq_ok_iff (records : List R) (cache other : ShapeCache) :
    (∃ merged, (executeAll schema params records rules).outcome cache = .ok merged) ↔
      ∀ rule ∈ rules, ∃ compiled, (rule.compile schema params).outcome other = .ok compiled ∧
        compiled.isProjection = false := by
  rw [exists_ok_iff_of_error_iff fun _ => executeAll_eq_error_iff other]
  refine forall_congr' fun rule => imp_congr Iff.rfl ?_
  rw [← checkForUnion_eq_ok_iff]
  exact ⟨fun ⟨_, fits⟩ => fits, fun fits => ⟨_, fits⟩⟩

theorem compiled_of_executeAll
    (done : (executeAll schema params records rules).outcome cache = .ok merged) :
    ∃ compiled, (rules.mapM (compileForUnion schema params)).outcome cache = .ok compiled ∧
      merged = (compiled.flatMap (·.recordsOf records)).eraseDups ∧
      (executeAll schema params records rules).after cache =
        (rules.mapM (compileForUnion schema params)).after cache := by
  cases each : (rules.mapM (compileForUnion schema params)).outcome cache with
  | error e =>
    rw [executeAll_of_error each] at done
    cases done
  | ok compiled =>
    obtain ⟨yields, leaves⟩ := executeAll_of_ok records each
    rw [yields] at done
    exact ⟨compiled, rfl, (Except.ok.inj done).symm, leaves⟩

theorem settles_executeAll (records : List R) (rules : List Rule) :
    Settles (executeAll schema params records rules) := by
  refine settles_bind (settles_mapM settles_compileForUnion rules) fun compiled => ?_
  refine settles_bind (settles_mapM (fun rule => ?_) compiled) fun outputs => settles_pure _
  split
  · exact settles_pure _
  · exact settles_throw _

theorem keepsReached_executeAll (records : List R) (rules : List Rule) :
    KeepsReached schema (executeAll schema params records rules) := by
  refine keepsReached_bind (keepsReached_mapM keepsReached_compileForUnion rules) fun compiled => ?_
  refine keepsReached_bind (keepsReached_mapM (fun rule => ?_) compiled) fun outputs =>
    keepsReached_pure _
  split
  · exact keepsReached_pure _
  · exact keepsReached_throw _

variable {later : ShapeCache}

theorem recordsAt_eq_of_executeAll
    (done : (executeAll schema params records rules).outcome cache = .ok merged)
    (extends_after : later.Extends ((executeAll schema params records rules).after cache))
    {rule : Rule} (inside : rule ∈ rules) :
    recordsAt schema params records later rule =
      recordsAt schema params records ((executeAll schema params records rules).after cache)
        rule := by
  obtain ⟨compiled, each, -, leaves⟩ := compiled_of_executeAll done
  rw [leaves] at extends_after ⊢
  have there := recordsAt_of_compiled records each extends_after
  rw [← recordsAt_of_compiled records each (ShapeCache.extends_refl _)] at there
  exact List.map_inj_left.mp there rule inside

theorem mapM_execute_of_executeAll
    (done : (executeAll schema params records rules).outcome cache = .ok merged) :
    (rules.mapM (execute schema params records)).outcome cache =
      .ok (rules.map fun rule => .records (recordsAt schema params records
        ((executeAll schema params records rules).after cache) rule)) := by
  obtain ⟨compiled, each, -, leaves⟩ := compiled_of_executeAll done
  rw [leaves]
  have pace := outcome_mapM_of_pace (g := execute schema params records)
    (h := fun compiled => compiled.apply records) (fun rule cache compiled fits => by
      obtain ⟨compiles, -⟩ := compileForUnion_eq_ok_iff.mp fits
      rw [after_compileForUnion_of_ok compiles]
      exact execute_of_compile records compiles) each
  have yields : compiled.map (·.apply records) =
      (compiled.map (·.recordsOf records)).map .records := by
    rw [List.map_map]
    exact List.map_congr_left fun rule inside =>
      CompiledRule.apply_eq_records (keeps_of_compiled each rule inside)
  rw [pace, yields, ← recordsAt_of_compiled records each (ShapeCache.extends_refl _), List.map_map]
  rfl

variable [EquivBEq R]

theorem executeAll_eq_firstOccurrences
    (done : (executeAll schema params records rules).outcome cache = .ok merged) :
    merged = firstOccurrences (rules.flatMap (recordsAt schema params records
      ((executeAll schema params records rules).after cache))) := by
  obtain ⟨compiled, each, rfl, leaves⟩ := compiled_of_executeAll done
  rw [leaves, eraseDups_eq_firstOccurrences, List.flatMap_def, List.flatMap_def,
    recordsAt_of_compiled records each (ShapeCache.extends_refl _)]

/-- The same rules in another order, or more often, yield the same records, if each of them does. -/
theorem exists_executeAll_sameItems {others : List Rule}
    (done : (executeAll schema params records rules).outcome cache = .ok merged)
    (same : ∀ rule, rule ∈ others ↔ rule ∈ rules)
    (agree : ∀ rule ∈ rules,
      recordsAt schema params records ((executeAll schema params records others).after later) rule =
        recordsAt schema params records
          ((executeAll schema params records rules).after cache) rule) :
    ∃ again, (executeAll schema params records others).outcome later = .ok again ∧
      SameItems again merged := by
  have fits := (exists_executeAll_eq_ok_iff records cache cache).mp ⟨merged, done⟩
  obtain ⟨again, there⟩ := (exists_executeAll_eq_ok_iff records later cache).mpr
    fun rule inside => fits rule ((same rule).mp inside)
  refine ⟨again, there, fun record => ?_⟩
  rw [executeAll_eq_firstOccurrences done, executeAll_eq_firstOccurrences there,
    contains_firstOccurrences, contains_firstOccurrences, sameItems_flatMap same]
  have outputs := List.map_inj_left.mpr agree
  rw [List.flatMap_def, List.flatMap_def, outputs]

/-- A union against its rules one by one. It fails with the fault of the first rule that has one,
whatever the cache is; its records are those that the rules yield in turn, without repetitions. What
a rule yields, and which records there are, stays so for the rest of the process, and in any process
where full lower case keeps the names of the fields apart. -/
theorem executeAll_refines_execute (schema : Schema R) (params : Parameters) (records : List R)
    (rules : List Rule) (cache : ShapeCache) :
    (∀ other e, (executeAll schema params records rules).outcome cache = .error e ↔
      FirstFailure (checkForUnion schema params other) rules e) ∧
    (∀ other, (∃ merged, (executeAll schema params records rules).outcome cache = .ok merged) ↔
      ∀ rule ∈ rules, ∃ compiled, (rule.compile schema params).outcome other = .ok compiled ∧
        compiled.isProjection = false) ∧
    (∀ merged, (executeAll schema params records rules).outcome cache = .ok merged →
      ∃ output : Rule → List R,
        (rules.mapM (execute schema params records)).outcome cache =
          .ok (rules.map fun rule => .records (output rule)) ∧
        merged = firstOccurrences (rules.flatMap output) ∧
        merged.Pairwise (fun x y => (x == y) = false) ∧
        ∀ later, later.Extends ((executeAll schema params records rules).after cache) ∨
            schema.NamesStayApart ∧ ShapeCache.Reached schema cache ∧
              ShapeCache.Reached schema later →
          (∀ rule ∈ rules,
            (rule.execute schema params records).outcome later = .ok (.records (output rule))) ∧
          ∀ others, (∀ rule, rule ∈ others ↔ rule ∈ rules) →
            ∃ again, (executeAll schema params records others).outcome later = .ok again ∧
              SameItems again merged) ∧
    (∀ compiled : CompiledRule R,
      compiled.isProjection = true ↔ ∃ rows, compiled.apply records = .counts rows) ∧
    (∀ compiled, (rules.mapM (compileForUnion schema params)).outcome cache = .ok compiled →
      ∀ rule ∈ compiled, ∃ selected, (rule.apply records).records? = some selected) := by
  refine ⟨fun other e => executeAll_eq_error_iff other, exists_executeAll_eq_ok_iff records cache,
    fun merged done => ?_, fun compiled => CompiledRule.isProjection_iff, ?_⟩
  · have fits := fun other =>
      (exists_executeAll_eq_ok_iff records cache other).mp ⟨merged, done⟩
    refine ⟨recordsAt schema params records ((executeAll schema params records rules).after cache),
      mapM_execute_of_executeAll done, executeAll_eq_firstOccurrences done, ?_,
      fun later comparable => ?_⟩
    · rw [executeAll_eq_firstOccurrences done]
      exact pairwise_firstOccurrences _
    -- Further use of the cache, as by another union, does not spoil the comparison.
    have agree : ∀ rule ∈ rules, ∀ x : Cached (List R), Settles x → KeepsReached schema x →
        recordsAt schema params records (x.after later) rule =
          recordsAt schema params records
            ((executeAll schema params records rules).after cache) rule := by
      intro rule inside x settles keeps
      rcases comparable with extends_after | ⟨apart, reached, laterReached⟩
      · exact recordsAt_eq_of_executeAll done
          (ShapeCache.extends_trans (settles.grows later) extends_after) inside
      · exact recordsAt_eq_of_faithful apart
          (ShapeCache.faithful_of_reached (keeps later laterReached))
          (ShapeCache.faithful_of_reached (keepsReached_executeAll records rules cache reached)) rule
    constructor
    · intro rule inside
      obtain ⟨compiled, compiles, keeps⟩ := fits later rule inside
      rw [execute_of_fits compiles keeps,
        ← agree rule inside (pure []) (settles_pure []) (keepsReached_pure [])]
      rfl
    · intro others same
      exact exists_executeAll_sameItems done same fun rule inside =>
        agree rule inside _ (settles_executeAll records others)
          (keepsReached_executeAll records others)
  · intro compiled each rule inside
    exact ⟨rule.recordsOf records, by
      rw [CompiledRule.apply_eq_records (keeps_of_compiled each rule inside)]
      rfl⟩

def extremes (function : AggregateFunction) : Rule :=
  { ofName "extremes" .epoch with
    groupBy := ["Department"], aggregation := some ⟨function, some "Name"⟩ }

def crew : List User := [.new 2 "Bob" "IT", .new 3 "Cy" "HR", .new 1 "Ann" "IT"]

theorem execute_extremes :
    ((extremes .max).execute User.schema .empty crew).outcome .empty =
        .ok (.records [.new 2 "Bob" "IT", .new 3 "Cy" "HR"]) ∧
      ((extremes .min).execute User.schema .empty crew).outcome .empty =
        .ok (.records [.new 1 "Ann" "IT", .new 3 "Cy" "HR"]) := ⟨rfl, rfl⟩

theorem union_of_extremes :
    (executeAll User.schema .empty crew [extremes .max, extremes .min]).outcome .empty =
        .ok [.new 2 "Bob" "IT", .new 3 "Cy" "HR", .new 1 "Ann" "IT"] ∧
    ∃ again, (executeAll User.schema .empty crew
        [extremes .min, extremes .max, extremes .min]).outcome .empty = .ok again ∧
      SameItems again [.new 2 "Bob" "IT", .new 3 "Cy" "HR", .new 1 "Ann" "IT"] := by
  obtain ⟨-, succeeds, refines, -⟩ := executeAll_refines_execute User.schema .empty crew
    [extremes .max, extremes .min] .empty
  have fits : ∀ rule ∈ [extremes .max, extremes .min], ∃ compiled,
      (rule.compile User.schema .empty).outcome .empty = .ok compiled ∧
        compiled.isProjection = false := by
    intro rule inside
    simp only [List.mem_cons, List.not_mem_nil, or_false] at inside
    rcases inside with rfl | rfl
    · exact ⟨_, rfl, rfl⟩
    · exact ⟨_, rfl, rfl⟩
  obtain ⟨merged, done⟩ := (succeeds .empty).mpr fits
  obtain ⟨output, -, united, -, stays⟩ := refines merged done
  obtain ⟨alone, reordered⟩ := stays .empty (.inr ⟨User.namesStayApart_schema, .empty, .empty⟩)
  rw [List.forall_mem_cons, List.forall_mem_singleton, execute_extremes.1, execute_extremes.2]
    at alone
  simp only [Except.ok.injEq, QueryOutput.records.injEq] at alone
  obtain rfl : merged = [.new 2 "Bob" "IT", .new 3 "Cy" "HR", .new 1 "Ann" "IT"] := by
    rw [united, List.flatMap_cons, List.flatMap_singleton, ← alone.1, ← alone.2]
    rfl
  refine ⟨done, reordered [extremes .min, extremes .max, extremes .min] fun rule => ?_⟩
  simp only [List.mem_cons, List.not_mem_nil, or_false]
  rw [or_left_comm, or_self]

end Union

end Rule

end RuleQuery
