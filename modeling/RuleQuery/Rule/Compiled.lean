import RuleQuery.Grouping.Plan
import RuleQuery.Predicate.Basic
import RuleQuery.Rule.Validation

namespace RuleQuery

variable {R : Type}

/-- A rule made ready for the records of a type. -/
structure CompiledRule (R : Type) where
  name : String
  predicate : Option (Predicate R)
  plan : Option (AggregationPlan R)

namespace CompiledRule

/-- The predicate of a rule, if it sets conditions; validation comes first. -/
def predicateOf (schema : Schema R) (params : Parameters) (rule : Rule) :
    Except QueryError (Option (Predicate R)) := do
  rule.validate schema
  match rule.conditions with
  | none => return none
  | some group => group.compile? schema params

def selects (compiled : CompiledRule R) (record : R) : Bool :=
  compiled.predicate.all fun predicate => predicate record

def isProjection (compiled : CompiledRule R) : Bool :=
  compiled.plan.any AggregationPlan.isProjection

def apply (compiled : CompiledRule R) (records : List R) : QueryOutput R :=
  let selected := records.filter compiled.selects
  match compiled.plan with
  | none => .records selected
  | some plan => plan.apply selected

end CompiledRule

namespace Rule

def compile (schema : Schema R) (params : Parameters) (rule : Rule) : Cached (CompiledRule R) := do
  let predicate ← Cached.ofExcept (CompiledRule.predicateOf schema params rule)
  let plan ← AggregationPlan.ofRule? schema rule.groupBy rule.aggregation
  return ⟨rule.name, predicate, plan⟩

def execute (schema : Schema R) (params : Parameters) (records : List R) (rule : Rule) :
    Cached (QueryOutput R) := do
  return (← rule.compile schema params).apply records

def compileForUnion (schema : Schema R) (params : Parameters) (rule : Rule) :
    Cached (CompiledRule R) := do
  let compiled ← rule.compile schema params
  if compiled.isProjection then throw (.projectionInUnion rule.name)
  return compiled

/-- The records that any of the rules yields, each once. The first rule that fails makes the whole
fail. -/
def executeAll [BEq R] (schema : Schema R) (params : Parameters) (records : List R)
    (rules : List Rule) : Cached (List R) := do
  let compiled ← rules.mapM (compileForUnion schema params)
  let outputs ← compiled.mapM fun rule =>
    match (rule.apply records).records? with
    | some selected => pure selected
    | none => throw (.projectionInUnion rule.name)
  return outputs.flatten.eraseDups

end Rule

end RuleQuery
