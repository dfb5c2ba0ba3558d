import RuleQuery.Proofs.Rule.DrillDown
import RuleQuery.Proofs.Rule.Purity
import RuleQuery.Proofs.Service.Blame
import RuleQuery.Proofs.Service.Evaluation
import RuleQuery.Service.Http

/-!
One rule posted to either endpoint. The union of a single rule drops repeated records and refuses
sizes of groups; in all else the two answers agree, down to the text of an error.
-/
namespace RuleQuery

open Cached

namespace Rule

variable {R : Type} {schema : Schema R} {params : Parameters} {cache other : ShapeCache}
  {rule : Rule} {records : List R}

theorem execute_eq_of_faithful (apart : schema.NamesStayApart) (faithful : cache.Faithful schema)
    (otherFaithful : other.Faithful schema) (rule : Rule) (records : List R) :
    (rule.execute schema params records).outcome cache =
      (rule.execute schema params records).outcome other := by
  rw [outcome_execute, outcome_execute, map_unnumbered_compile apart faithful otherFaithful]

theorem nameless_execute (rule : Rule) (records : List R) (cache : ShapeCache) :
    Nameless ((rule.execute schema params records).outcome cache) := by
  rw [outcome_execute]
  exact nameless_map (nameless_map (nameless_compile rule cache))

def aloneInUnion [BEq R] (rule : Rule) :
    Except QueryError (QueryOutput R) → Except QueryError (List R)
  | .ok (.records items) => .ok (firstOccurrences items)
  | .ok (.counts _) => .error (.projectionInUnion rule.name)
  | .error e => .error e

theorem executeAll_singleton [BEq R] [EquivBEq R] (rule : Rule) (records : List R)
    (cache : ShapeCache) :
    (executeAll schema params records [rule]).outcome cache =
      rule.aloneInUnion ((rule.execute schema params records).outcome cache) := by
  -- The check before the union meets every error of the rule, so the run itself adds none.
  have fails : ∀ e, checkForUnion schema params cache rule = .error e →
      (executeAll schema params records [rule]).outcome cache = .error e := by
    intro e refused
    rw [executeAll_eq_error_iff cache]
    exact firstFailure_cons.mpr (.inl refused)
  cases compiles : (rule.compile schema params).outcome cache with
  | error e =>
    have executed : (rule.execute schema params records).outcome cache = .error e := by
      rw [outcome_execute, compiles]
      rfl
    rw [executed]
    refine fails e (checkForUnion_eq_error_iff.mpr ?_)
    exact compileForUnion_eq_error_iff.mpr (.inl compiles)
  | ok compiled =>
    rw [(execute_of_compile records compiles).1]
    cases projects : compiled.isProjection with
    | true =>
      obtain ⟨rows, yields⟩ : ∃ rows, compiled.apply records = .counts rows :=
        CompiledRule.apply_of_isProjection projects
      rw [yields]
      refine fails _ (checkForUnion_eq_error_iff.mpr ?_)
      exact compileForUnion_eq_error_iff.mpr (.inr ⟨compiled, compiles, projects, rfl⟩)
    | false =>
      have fits := compileForUnion_eq_ok_iff.mpr ⟨compiles, projects⟩
      have each : ([rule].mapM (compileForUnion schema params)).outcome cache = .ok [compiled] :=
        outcome_mapM_cons_eq_ok_iff.mpr ⟨compiled, [], rfl, fits, rfl⟩
      rw [(executeAll_of_ok records each).1, CompiledRule.apply_eq_records projects,
        eraseDups_eq_firstOccurrences]
      simp [aloneInUnion]

end Rule

namespace Http

def Response.ofOutcome : Except ServiceError (QueryOutput User) → Response
  | .ok output => ⟨200, .json (output.toJson User.toJson)⟩
  | .error e => ⟨e.status, .json e.toJson⟩

/-- The request posts a body to a path, and the body reads to the value. -/
structure Posts {α : Type} (path : String) (read : Document → Option α) (value : α)
    (request : Request) : Prop where
  method : request.method = "POST"
  path : Http.path request.target = path
  body : readBody read request = .ok value

theorem run_answer {α : Type} {read : Document → Option α} {value : α} {request : Request}
    (reads : readBody read request = .ok value) (serve : α → Served (QueryOutput User))
    (cache : ShapeCache) :
    ((answer read serve request).run cache).1 = .ofOutcome ((serve value).run cache).1 := by
  unfold answer
  rw [reads, Served.run_ofExcept_ok_bind, StateT.run_bind]
  change _ = Response.ofOutcome ((serve value).run.run cache).1
  rcases (serve value).run.run cache with ⟨e | output, left⟩ <;> rfl

theorem run_respond_evaluate {limits : Limits} {now : Instant} {value : EvaluateRequest}
    {request : Request}
    (posts : Posts "/rules/evaluate" (EvaluateRequest.ofDocument? now) value request)
    (cache : ShapeCache) :
    ((respond limits now request).run cache).1 =
      .ofOutcome ((evaluate limits value).run cache).1 := by
  unfold respond
  rw [posts.path, posts.method]
  exact run_answer posts.body _ cache

theorem run_respond_evaluateAll {limits : Limits} {now : Instant} {value : EvaluateAllRequest}
    {request : Request}
    (posts : Posts "/rules/evaluate-all" (EvaluateAllRequest.ofDocument? now) value request)
    (cache : ShapeCache) :
    ((respond limits now request).run cache).1 =
      .ofOutcome ((evaluateAll limits value).run cache).1 := by
  unfold respond
  rw [posts.path, posts.method]
  exact run_answer posts.body _ cache

/-- The answers to one rule alone and to the union of that rule only. -/
inductive AgreeOnRule (limits : Limits) (rule : Rule) (records : List User) :
    Response → Response → Prop where
  /-- The same records, each kept where it first appears. -/
  | records (items : List User) : AgreeOnRule limits rule records
      ⟨200, .json (.object [("kind", .string "records"),
        ("items", .array (items.map User.toJson))])⟩
      ⟨200, .json (.object [("kind", .string "records"),
        ("items", .array ((firstOccurrences items).map User.toJson))])⟩
  /-- The same error; a fault of the rule is told in the words of the rule. -/
  | error (e : ServiceError) :
      (limits.maxRecords < records.length ∧ e = .recordLimit limits.maxRecords records.length ∨
        ∃ fault, e = .query fault rule.errorMessage) →
      AgreeOnRule limits rule records ⟨e.status, .json e.toJson⟩ ⟨e.status, .json e.toJson⟩
  /-- Sizes of groups are no part of a union, which is told in the words of the rule. -/
  | counts (rows : List GroupCount) : AgreeOnRule limits rule records
      ⟨200, .json (.object [("kind", .string "counts"),
        ("items", .array (rows.map GroupCount.toJson))])⟩
      ⟨400, .json (.object [("success", .bool false), ("code", .string "PROJECTION_IN_UNION"),
        ("error", .string
          (rule.errorMessage.getD (QueryError.projectionInUnion rule.name).message))])⟩

/-- One rule posted to both endpoints of a service that takes at least one rule. What the caches
have been used for before makes no difference. -/
theorem endpoints_agree_on_one_rule (limits : Limits) (takesOne : 1 ≤ limits.maxRules)
    (now later : Instant) (rule : Rule) (records : List User) (params : Parameters)
    (single union : Request)
    (postsSingle : Posts "/rules/evaluate" (EvaluateRequest.ofDocument? now)
      ⟨rule, records, params⟩ single)
    (postsUnion : Posts "/rules/evaluate-all" (EvaluateAllRequest.ofDocument? later)
      ⟨[rule], records, params⟩ union)
    (cache other : ShapeCache) (reached : ShapeCache.Reached User.schema cache)
    (otherReached : ShapeCache.Reached User.schema other) :
    AgreeOnRule limits rule records ((respond limits now single).run cache).1
      ((respond limits later union).run other).1 := by
  rw [run_respond_evaluate postsSingle, run_respond_evaluateAll postsUnion]
  by_cases exceeds : limits.maxRecords < records.length
  · rw [run_evaluate_of_excess exceeds, run_evaluateAll_of_excess exceeds]
    exact .error _ (.inl ⟨exceeds, rfl⟩)
  have within := Nat.not_lt.mp exceeds
  have few : [rule].length ≤ limits.maxRules := takesOne
  have same : (rule.execute User.schema params records).outcome cache =
      (rule.execute User.schema params records).outcome other :=
    Rule.execute_eq_of_faithful User.namesStayApart_schema (ShapeCache.faithful_of_reached reached)
      (ShapeCache.faithful_of_reached otherReached) rule records
  rw [run_evaluate within, run_evaluateAll within few, Rule.executeAll_singleton, same]
  cases done : (rule.execute User.schema params records).outcome other with
  | ok output =>
    cases output with
    | records items => exact .records items
    | counts rows =>
      have blames : failingRule? (.projectionInUnion rule.name) [rule] = some rule :=
        failingRule?_projectionInUnion [] [] rule
      change AgreeOnRule limits rule records _ (.ofOutcome (.error (.query _
        ((failingRule? (.projectionInUnion rule.name) [rule]).bind (·.errorMessage)))))
      rw [blames]
      exact .counts rows
  | error e =>
    have blames : failingRule? e [rule] = some rule :=
      failingRule?_of_nameless (Rule.nameless_execute _ _ _ e done) [] [] rule
    change AgreeOnRule limits rule records (.ofOutcome (.error (.query e rule.errorMessage)))
      (.ofOutcome (.error (.query e ((failingRule? e [rule]).bind (·.errorMessage)))))
    rw [blames]
    exact .error _ (.inr ⟨e, rfl⟩)

section HeadCount

def post (path body : String) : Request := ⟨"POST", path, some "application/json", body⟩

theorem posts_of_document {α : Type} {path body : String} {read : Document → Option α}
    {d : Document} {value : α} (plain : Http.path path = path)
    (short : body.utf8ByteSize ≤ maxBodyBytes) (text : Document.ofText? body = some d)
    (reads : read d = some value) : Posts path read value (post path body) := by
  refine ⟨rfl, plain, ?_⟩
  have declared : MediaType.isJson "application/json" = true := by decide +kernel
  simp [readBody, post, declared, short, text, reads]

theorem utf8ByteSize_ofList_le (cs : List Char) :
    (String.ofList cs).utf8ByteSize ≤ 4 * cs.length := by
  induction cs with
  | nil => exact Nat.le_refl 0
  | cons c cs ih =>
    have first := c.utf8Size_le_four
    rw [← List.singleton_append, String.ofList_append, String.utf8ByteSize_append,
      ← String.singleton_eq_ofList, String.utf8ByteSize_singleton, List.singleton_append,
      List.length_cons]
    omega

def headCount : Rule :=
  { Rule.inDepartment with
    name := "heads"
    groupBy := ["Department"]
    aggregation := some ⟨.count, none⟩
    errorMessage := some "Heads are not united." }

def staff : List User := [.new 1 "Ann" "IT", .new 2 "Bob" "HR", .new 1 "Ann" "IT"]

def inIT : Parameters := .ofList [("department", .string "IT")]

-- A literal is compared with the list of its characters, one by one.
set_option maxRecDepth 4096

/-- A body for either endpoint: the rule stands there alone and as the only one of a list. -/
def headCountBody : String := r#"{
  "rule": {"name": "heads", "conditions": {"conditions": [["Department", "dynamicequal"]]},
    "groupBy": ["Department"], "aggregation": ["Count"], "errorMessage": "Heads are not united."},
  "rules": [{"name": "heads", "conditions": {"conditions": [["Department", "dynamicequal"]]},
    "groupBy": ["Department"], "aggregation": ["Count"], "errorMessage": "Heads are not united."}],
  "users": [{"id": 1, "name": "Ann", "department": "IT"},
    {"id": 2, "name": "Bob", "department": "HR"}, {"id": 1, "name": "Ann", "department": "IT"}],
  "parameters": {"department": "IT"}}"#

def headCountTree : Document := .object
  [("conditions", .array [.array [.string "Department", .string "dynamicequal"]])]

def headCountDocument : Document := .object
  [("name", .string "heads"), ("conditions", headCountTree),
    ("groupBy", .array [.string "Department"]), ("aggregation", .array [.string "Count"]),
    ("errorMessage", .string "Heads are not united.")]

def userDocument (id : Int) (inRange : -0x8000000000000000 ≤ id ∧ id < 0x10000000000000000)
    (name department : String) : Document := .object
  [("id", .number (.integer id inRange)), ("name", .string name),
    ("department", .string department)]

def headCountPost : Document := .object
  [("rule", headCountDocument), ("rules", .array [headCountDocument]),
    ("users", .array [userDocument 1 (by decide) "Ann" "IT", userDocument 2 (by decide) "Bob" "HR",
      userDocument 1 (by decide) "Ann" "IT"]),
    ("parameters", .object [("department", .string "IT")])]

theorem headCountBody_matches : headCountBody.utf8ByteSize ≤ maxBodyBytes ∧
    (match Document.ofText? headCountBody with
      | some (.object [
        ("rule", .object [("name", .string "heads"),
          ("conditions", .object
            [("conditions", .array [.array [.string "Department", .string "dynamicequal"]])]),
          ("groupBy", .array [.string "Department"]), ("aggregation", .array [.string "Count"]),
          ("errorMessage", .string "Heads are not united.")]),
        ("rules", .array [.object [("name", .string "heads"),
          ("conditions", .object
            [("conditions", .array [.array [.string "Department", .string "dynamicequal"]])]),
          ("groupBy", .array [.string "Department"]), ("aggregation", .array [.string "Count"]),
          ("errorMessage", .string "Heads are not united.")]]),
        ("users", .array [
          .object [("id", .number (.integer first _)), ("name", .string "Ann"),
            ("department", .string "IT")],
          .object [("id", .number (.integer second _)), ("name", .string "Bob"),
            ("department", .string "HR")],
          .object [("id", .number (.integer third _)), ("name", .string "Ann"),
            ("department", .string "IT")]]),
        ("parameters", .object [("department", .string "IT")])]) =>
        [first, second, third] == [1, 2, 1]
      | _ => false) = true := by
  -- A literal is a list of characters; its bytes would take much longer to evaluate.
  have spelled : headCountBody = String.ofList _ := rfl
  rw [spelled, Document.ofText?, String.toList_ofList]
  refine ⟨Nat.le_trans (utf8ByteSize_ofList_le _) ?_, ?_⟩
  · decide +kernel
  · decide +kernel

theorem ofText?_headCountBody : Document.ofText? headCountBody = some headCountPost := by
  have read := headCountBody_matches.2
  generalize Document.ofText? _ = d at read
  split at read
  · rw [beq_iff_eq] at read
    cases read
    rfl
  · cases read

theorem ofDocument?_headCount : Rule.ofDocument? .epoch headCountDocument = some headCount := by
  have tree : ConditionGroup.ofDocument? headCountTree =
      some (.ofConditions .and [⟨"Department", "dynamicequal", .null⟩]) := by
    rw [ConditionGroup.ofDocument?]
    rfl
  have conditions : headCountDocument.optional? 9 ["conditions", "Conditions"] none
      (Document.nullable? ConditionGroup.ofDocument?) = some headCount.conditions := by
    change (ConditionGroup.ofDocument? headCountTree).map some = _
    rw [tree]
    rfl
  unfold Rule.ofDocument?
  rw [conditions]
  rfl

theorem get?_inIT : inIT.get? "Department" = some (.string "IT") := by
  have fold : Parameters.foldName "department" = Parameters.foldName "Department" := by
    decide +kernel
  simp [inIT, Parameters.get?_ofList, fold]

theorem outcome_headCount {cache : ShapeCache} (reached : ShapeCache.Reached User.schema cache) :
    (headCount.execute User.schema inIT staff).outcome cache =
      .ok (.counts [⟨.single (.text "IT"), 2⟩]) := by
  have fine : CompiledRule.predicateOf User.schema inIT headCount = .ok (some _) :=
    Rule.predicateOf_inDepartment get?_inIT rfl rfl
  obtain ⟨⟨serial, shape⟩, built, yields⟩ := Rule.execute_of_yieldsCounts
    User.namesStayApart_schema (ShapeCache.faithful_of_reached reached) fine rfl staff
  have department : KeyShape.build User.schema headCount.groupBy =
      .ok ⟨"User", [("Department", 3)]⟩ := rfl
  rw [department] at built
  cases built
  rw [yields]
  rfl

theorem posts_headCount (path : String) {α : Type} {read : Document → Option α} {value : α}
    (plain : Http.path path = path) (reads : read headCountPost = some value) :
    Posts path read value (post path headCountBody) :=
  posts_of_document plain headCountBody_matches.1 ofText?_headCountBody reads

theorem ofDocument?_headCountPost : EvaluateRequest.ofDocument? .epoch headCountPost =
    some ⟨headCount, staff, inIT⟩ := by
  have rule : headCountPost.required? 0 ["rule", "Rule"] (Rule.ofDocument? .epoch) =
      some headCount := ofDocument?_headCount
  unfold EvaluateRequest.ofDocument?
  rw [rule]
  rfl

theorem ofDocument?_headCountsPost : EvaluateAllRequest.ofDocument? .epoch headCountPost =
    some ⟨[headCount], staff, inIT⟩ := by
  have rules : headCountPost.required? 0 ["rules", "Rules"]
      (Document.listOf? (Rule.ofDocument? .epoch)) = some [headCount] := by
    change [headCountDocument].mapM (Rule.ofDocument? .epoch) = _
    rw [List.mapM_cons, ofDocument?_headCount]
    rfl
  unfold EvaluateAllRequest.ofDocument?
  rw [rules]
  rfl

theorem endpoints_agree_on_headCount : ∃ cache, ShapeCache.Reached User.schema cache ∧
    ((respond ⟨3, 1⟩ .epoch (post "/rules/evaluate" headCountBody)).run .empty).1 =
      ⟨200, .json (.object [("kind", .string "counts"),
        ("items", .array [GroupCount.toJson ⟨.single (.text "IT"), 2⟩])])⟩ ∧
    ((respond ⟨3, 1⟩ .epoch (post "/rules/evaluate-all" headCountBody)).run cache).1 =
      ⟨400, .json (.object [("success", .bool false), ("code", .string "PROJECTION_IN_UNION"),
        ("error", .string "Heads are not united.")])⟩ := by
  have single : Posts "/rules/evaluate" (EvaluateRequest.ofDocument? .epoch)
      ⟨headCount, staff, inIT⟩ (post "/rules/evaluate" headCountBody) :=
    posts_headCount _ (by decide +kernel) ofDocument?_headCountPost
  have union : Posts "/rules/evaluate-all" (EvaluateAllRequest.ofDocument? .epoch)
      ⟨[headCount], staff, inIT⟩ (post "/rules/evaluate-all" headCountBody) :=
    posts_headCount _ (by decide +kernel) ofDocument?_headCountsPost
  have reached : ShapeCache.Reached User.schema
      ((KeyShape.shared User.schema ["name"]).after .empty) := .own _ .empty
  have agree := endpoints_agree_on_one_rule ⟨3, 1⟩ (by decide) .epoch .epoch headCount staff inIT
    _ _ single union .empty _ .empty reached
  have first : ((respond ⟨3, 1⟩ .epoch (post "/rules/evaluate" headCountBody)).run .empty).1 =
      ⟨200, .json (.object [("kind", .string "counts"),
        ("items", .array [GroupCount.toJson ⟨.single (.text "IT"), 2⟩])])⟩ := by
    rw [run_respond_evaluate single, run_evaluate (by decide), outcome_headCount .empty]
    rfl
  refine ⟨_, reached, first, ?_⟩
  -- The first answer tells which of the three kinds of agreement it is.
  rw [first] at agree
  generalize answered : (⟨200, _⟩ : Response) = answer at agree
  generalize ((respond ⟨3, 1⟩ .epoch _).run _).1 = other at agree ⊢
  cases agree with
  | records items => simp at answered
  | error e => simp [ServiceError.toJson] at answered
  | counts rows => rfl

end HeadCount

end Http

end RuleQuery
