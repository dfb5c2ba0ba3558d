import RuleQuery.Proofs.Rule.Faults
import RuleQuery.Proofs.Rule.Union
import RuleQuery.Service.Evaluation

/-!
The rule that a failed union is laid to. An error carries at most the name of a rule, and the rule
is looked up again by that name, so it is the rule at fault only if no rule before it has its name.
Rules without a name all have the empty one.
-/
namespace RuleQuery

open Rule Cached

variable {R : Type} {schema : Schema R} {params : Parameters} {cache : ShapeCache}
  {rule : Rule} {rules before after : List Rule} {e : QueryError}

/-- A rule that does not compile fails without a name; a rule that compiles can only yield sizes of
groups, and is named. -/
theorem checkForUnion_cases (fails : checkForUnion schema params cache rule = .error e) :
    (rule.compile schema params).outcome cache = .error e ∧ e.ruleName? = none ∨
      (∃ compiled, (rule.compile schema params).outcome cache = .ok compiled ∧
        compiled.isProjection = true) ∧ e = .projectionInUnion rule.name := by
  rcases compileForUnion_eq_error_iff.mp (checkForUnion_eq_error_iff.mp fails) with
    fails | ⟨compiled, compiles, projects, rfl⟩
  · exact .inl ⟨fails, nameless_compile rule cache e fails⟩
  · exact .inr ⟨⟨compiled, compiles, projects⟩, rfl⟩

theorem failingRule?_of_nameless (nameless : e.ruleName? = none) (before after : List Rule)
    (rule : Rule) :
    failingRule? e (before ++ rule :: after) =
      if before = [] ∧ after = [] then some rule else none := by
  cases e with
  | projectionInUnion name => cases nameless
  | _ =>
    match before, after with
    | [], [] => rfl
    | [], next :: rest => rfl
    | [first], _ => rfl
    | first :: second :: rest, _ => rfl

theorem failingRule?_projectionInUnion (before after : List Rule) (rule : Rule) :
    failingRule? (.projectionInUnion rule.name) (before ++ rule :: after) =
      some ((before.find? fun earlier => earlier.name == rule.name).getD rule) := by
  change (before ++ rule :: after).find? (fun other => other.name == rule.name) = _
  rw [List.find?_append]
  cases before.find? fun earlier => earlier.name == rule.name with
  | none => simp
  | some namesake => rfl

theorem failingRule?_of_namesake {namesake : Rule}
    (fine : ∀ earlier ∈ before, checkForUnion schema params cache earlier = .ok ())
    (fails : checkForUnion schema params cache rule = .error e)
    (found : before.find? (fun earlier => earlier.name == rule.name) = some namesake) :
    namesake ∈ before ∧ namesake.name = rule.name ∧ namesake ≠ rule := by
  have inside := List.mem_of_find?_eq_some found
  refine ⟨inside, by simpa using List.find?_some found, ?_⟩
  -- What stands before the rule at fault is fine, so it is not this rule.
  rintro rfl
  rw [fine namesake inside] at fails
  cases fails

/-- A union fails with the error of the first rule that does not fit in. If that rule does not
compile, it is blamed if it is the only one, and else no rule is. If it yields sizes of groups, the
first rule of its name is blamed: another one, which fits in, if there is one before it. -/
theorem failed_union_blames_first_namesake [BEq R] (schema : Schema R) (params : Parameters)
    (records : List R) (rules : List Rule) (cache : ShapeCache) (e : QueryError) :
    ((executeAll schema params records rules).outcome cache = .error e ↔
      ∃ before rule after, rules = before ++ rule :: after ∧
        (∀ earlier ∈ before, checkForUnion schema params cache earlier = .ok ()) ∧
        checkForUnion schema params cache rule = .error e) ∧
    ∀ before rule after, rules = before ++ rule :: after →
      (∀ earlier ∈ before, checkForUnion schema params cache earlier = .ok ()) →
      checkForUnion schema params cache rule = .error e →
      ((rule.compile schema params).outcome cache = .error e →
        failingRule? e rules = if before = [] ∧ after = [] then some rule else none) ∧
      ((∃ compiled, (rule.compile schema params).outcome cache = .ok compiled) →
        e = .projectionInUnion rule.name ∧
        failingRule? e rules =
          some ((before.find? fun earlier => earlier.name == rule.name).getD rule)) ∧
      (failingRule? e rules = none ∨ failingRule? e rules = some rule ↔
        ¬ ((∃ compiled, (rule.compile schema params).outcome cache = .ok compiled) ∧
          ∃ earlier ∈ before, earlier.name = rule.name)) := by
  constructor
  · exact (executeAll_eq_error_iff cache).trans firstFailure_check_iff
  rintro before rule after rfl fine fails
  rcases checkForUnion_cases fails with ⟨refused, nameless⟩ | ⟨⟨compiled, compiles, -⟩, rfl⟩
  · have blames := failingRule?_of_nameless nameless before after rule
    refine ⟨fun _ => blames, ?_, ?_⟩
    · rintro ⟨compiled, compiles⟩
      rw [refused] at compiles
      cases compiles
    · rw [blames, refused]
      split <;> simp
  · have blames := failingRule?_projectionInUnion before after rule
    refine ⟨?_, fun _ => ⟨rfl, blames⟩, ?_⟩
    · intro refused
      rw [compiles] at refused
      cases refused
    · rw [blames, compiles]
      cases found : before.find? fun earlier => earlier.name == rule.name with
      | none =>
        have absent := List.find?_eq_none.mp found
        simpa using absent
      | some namesake =>
        obtain ⟨inside, same, different⟩ := failingRule?_of_namesake fine fails found
        constructor
        · rintro (absent | blamed)
          · cases absent
          · exact absurd (Option.some.inj blamed) different
        · intro alone
          exact absurd ⟨⟨compiled, rfl⟩, namesake, inside, same⟩ alone

def Rule.everyone (message : String) : Rule :=
  { Rule.ofName "" .epoch with errorMessage := some message }

def Rule.headCount (message : String) : Rule :=
  { Rule.everyone message with
    groupBy := ["Department"]
    aggregation := some ⟨.count, none⟩ }

/-- The first rule is fine and the second one at fault, and the caller is told the text of the
first one. -/
theorem evaluateAll_blames_everyone :
    checkForUnion User.schema .empty .empty (.everyone "first") = .ok () ∧
    checkForUnion User.schema .empty .empty (.headCount "second") =
      .error (.projectionInUnion "") ∧
    (executeAll User.schema .empty [] [.everyone "first", .headCount "second"]).outcome .empty =
      .error (.projectionInUnion "") ∧
    failingRule? (.projectionInUnion "") [.everyone "first", .headCount "second"] =
      some (.everyone "first") ∧
    ((evaluateAll ⟨1, 2⟩ ⟨[.everyone "first", .headCount "second"], [], .empty⟩).run .empty).1 =
      .error (.query (.projectionInUnion "") (some "first")) :=
  ⟨rfl, rfl, rfl, rfl, rfl⟩

end RuleQuery
