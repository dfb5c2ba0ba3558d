import RuleQuery.Rule.Compiled
import RuleQuery.Rule.Reader
import RuleQuery.Service.Error
import RuleQuery.User.Reader

namespace RuleQuery

structure EvaluateRequest where
  rule : Rule
  records : List User
  parameters : Parameters

structure EvaluateAllRequest where
  rules : List Rule
  records : List User
  parameters : Parameters

namespace EvaluateRequest

def recordNames : List String := ["records", "users", "Records", "Users"]

def readRecords? (now : Instant) (d : Document) : Option (List User) :=
  d.optional? 1 recordNames [] (Document.listOf? (User.ofDocument? now))

def readParameters? (d : Document) : Option Parameters :=
  d.optional? 2 ["parameters", "Parameters"] .empty Parameters.ofDocument?

def ofDocument? (now : Instant) (d : Document) : Option EvaluateRequest := do
  guard (d.hasParts 3)
  return {
    rule := ← d.required? 0 ["rule", "Rule"] (Rule.ofDocument? now)
    records := ← readRecords? now d
    parameters := ← readParameters? d }

end EvaluateRequest

def EvaluateAllRequest.ofDocument? (now : Instant) (d : Document) : Option EvaluateAllRequest := do
  guard (d.hasParts 3)
  return {
    rules := ← d.required? 0 ["rules", "Rules"] (Document.listOf? (Rule.ofDocument? now))
    records := ← EvaluateRequest.readRecords? now d
    parameters := ← EvaluateRequest.readParameters? d }

/-- The greatest numbers of users and of rules in one request. -/
structure Limits where
  maxRecords : Nat
  maxRules : Nat

namespace Limits

def checkRecords (limits : Limits) (records : List User) : Except ServiceError Unit :=
  if limits.maxRecords < records.length then
    .error (.recordLimit limits.maxRecords records.length)
  else .ok ()

def checkRules (limits : Limits) (rules : List Rule) : Except ServiceError Unit :=
  if limits.maxRules < rules.length then .error (.ruleLimit limits.maxRules rules.length)
  else .ok ()

end Limits

/-- A request's outcome; the cache of key shapes outlives it. -/
abbrev Served (α : Type) := ExceptT ServiceError (StateM ShapeCache) α

namespace Served

def ofExcept {α : Type} (outcome : Except ServiceError α) : Served α := ExceptT.mk (pure outcome)

def ofCached {α : Type} (wording : QueryError → Option String) (query : Cached α) : Served α :=
  ExceptT.mk fun cache =>
    match query.run cache with
    | (.ok value, cache) => (.ok value, cache)
    | (.error e, cache) => (.error (.query e (wording e)), cache)

end Served

def evaluate (limits : Limits) (request : EvaluateRequest) : Served (QueryOutput User) := do
  Served.ofExcept (limits.checkRecords request.records)
  Served.ofCached (fun _ => request.rule.errorMessage)
    (request.rule.execute User.schema request.parameters request.records)

/-- The rule that an error of a union is laid to: the first with the name that the error gives, or
the only one. -/
def failingRule? (error : QueryError) (rules : List Rule) : Option Rule :=
  match error, rules with
  | .projectionInUnion name, rules => rules.find? fun rule => rule.name == name
  | _, [rule] => some rule
  | _, _ => none

def evaluateAll (limits : Limits) (request : EvaluateAllRequest) :
    Served (QueryOutput User) := do
  Served.ofExcept (limits.checkRecords request.records)
  Served.ofExcept (limits.checkRules request.rules)
  let records ← Served.ofCached
    (fun e => (failingRule? e request.rules).bind (·.errorMessage))
    (Rule.executeAll User.schema request.parameters request.records request.rules)
  return .records records

end RuleQuery
