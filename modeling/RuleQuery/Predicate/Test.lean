import RuleQuery.Condition
import RuleQuery.Literal
import RuleQuery.Parameters
import RuleQuery.Pattern.Reader
import RuleQuery.Value.Match

namespace RuleQuery.Condition

abbrev Test := Value → Bool

def Test.negated (test : Test) : Test := fun v => !test v

section Tests

variable {R : Type}

def mismatch (op : Operator) (field : Field R) : QueryError :=
  .operatorTypeMismatch op field.name field.type

def equalTest (field : Field R) (literal : Json) : Except QueryError Test := do
  let expected ← Literal.value literal field.type field.name
  return fun v => v.equals expected

/-- Order tests compare texts as decimal numbers; truth values and sequences have no order. -/
def orderedTest (op : Operator) (field : Field R) (literal : Json) : Except QueryError Test :=
  match field.type.kind with
  | .bool | .sequence => throw (mismatch op field)
  | .text => do
    let expected ← Literal.decimal literal field.name
    return fun v => v.satisfiesAsDecimal op expected
  | .integer | .float | .decimal | .timestamp => do
    let expected ← Literal.value literal field.type field.name
    return fun v => v.satisfies op expected

def membershipTest (op : Operator) (field : Field R) (literal : Json) : Except QueryError Test :=
  match literal with
  | .array items => do
    let candidates ← items.mapM fun item => Literal.value item field.type field.name
    return fun v => v.equalsAny candidates
  | _ => throw (.invalidPayload op .notArray)

def operand (op : Operator) (field : Field R) (literal : Json) : Except QueryError String := do
  match ← Literal.text? literal field.name with
  | some s => return s
  | none => throw (.invalidPayload op .missingOperand)

def textTest (op : Operator) (kinds : List FieldKind) (test : Value → String → Bool)
    (field : Field R) (literal : Json) : Except QueryError Test := do
  if kinds.contains field.type.kind then
    let part ← operand op field literal
    return fun v => test v part
  else
    throw (mismatch op field)

def containmentTest (op : Operator) (field : Field R) (literal : Json) : Except QueryError Test :=
  textTest op [.text, .sequence] Value.contains field literal

def emptinessTest (op : Operator) (field : Field R) : Except QueryError Test :=
  if field.type.acceptsNull then pure Value.isEmpty else throw (mismatch op field)

def threshold? : Json → Option Binary64
  | .number n => some n.toBinary64
  | .string s => Binary64.ofText? (Text.trim s)
  | _ => none

def countPayload (op : Operator) (payload : Json) : Except QueryError (Pattern × Binary64) := do
  if payload.members?.isNone then throw (.invalidPayload op .notObject)
  let some target := (payload.member? "target").bind Json.text?
    | throw (.invalidPayload op .missingTarget)
  let some pattern := Pattern.ofText? target
    | throw (.invalidPayload op (.badPattern target))
  let some threshold := (payload.member? "threshold").bind threshold?
    | throw (.invalidPayload op .missingThreshold)
  return (pattern, threshold)

/-- Whether the number of matches stands to the threshold as wanted; nothing does to a threshold
that is not a number. -/
def countIs (wanted : Ordering) (pattern : Pattern) (threshold : Binary64) : Test := fun v =>
  (Binary64.ofNat (v.matchCount pattern)).compare? threshold == some wanted

def countTest (op : Operator) (wanted : Ordering) (payload : Json) : Except QueryError Test := do
  let (pattern, threshold) ← countPayload op payload
  return countIs wanted pattern threshold

/-- More matches than the threshold, and a text that has to occur as well. -/
def requiredCountTest (op : Operator) (payload : Json) : Except QueryError Test := do
  let (pattern, threshold) ← countPayload op payload
  let some required := (payload.member? "required").bind Json.text?
    | throw (.invalidPayload op .missingRequired)
  return fun v => countIs .gt pattern threshold v && v.containsIgnoringCase required

/-- The literal of a dynamic condition: its own unless that is null, else the parameter that has
the name of the field. -/
def dynamicLiteral (params : Parameters) (condition : Condition) : Except QueryError Json :=
  if condition.value.isNull then
    match params.get? condition.property with
    | some literal => .ok literal
    | none => .error (.missingParameter condition.property)
  else .ok condition.value

def switched (params : Parameters) (field : Field R) (condition : Condition)
    (base : Except QueryError Test) : Except QueryError Test := do
  let literal ← dynamicLiteral params condition
  let enabled ← Literal.bool literal field.name
  let test ← base
  return if enabled then test else fun _ => true

end Tests

def fieldTest {R : Type} (params : Parameters) (field : Field R) (condition : Condition) :
    (op : Operator) → op ≠ .implies → Except QueryError Test
  | .equal, _ => equalTest field condition.value
  | .notEqual, _ => return (← equalTest field condition.value).negated
  | .greaterThan, _ => orderedTest .greaterThan field condition.value
  | .greaterThanOrEqual, _ => orderedTest .greaterThanOrEqual field condition.value
  | .lessThan, _ => orderedTest .lessThan field condition.value
  | .lessThanOrEqual, _ => orderedTest .lessThanOrEqual field condition.value
  | .isIn, _ => membershipTest .isIn field condition.value
  | .notIn, _ => return (← membershipTest .notIn field condition.value).negated
  | .contains, _ => containmentTest .contains field condition.value
  | .notContains, _ => return (← containmentTest .notContains field condition.value).negated
  | .startsWith, _ => textTest .startsWith [.text] Value.startsWith field condition.value
  | .endsWith, _ => textTest .endsWith [.text] Value.endsWith field condition.value
  | .null, _ => return Value.isNull
  | .notNull, _ => return Test.negated Value.isNull
  | .empty, _ => emptinessTest .empty field
  | .notEmpty, _ => return (← emptinessTest .notEmpty field).negated
  | .nullOrEmpty, _ => return Value.isNullOrEmpty
  | .notNullOrEmpty, _ => return Test.negated Value.isNullOrEmpty
  | .mustContainIfCountIsGreater, _ =>
    requiredCountTest .mustContainIfCountIsGreater condition.value
  | .containIfCountIsGreater, _ => countTest .containIfCountIsGreater .gt condition.value
  | .containIfCountIsLess, _ => countTest .containIfCountIsLess .lt condition.value
  | .implies, h => absurd rfl h
  | .dynamicEqual, _ => do equalTest field (← dynamicLiteral params condition)
  | .dynamicEmpty, _ => switched params field condition (emptinessTest .empty field)
  | .dynamicNotEmpty, _ =>
    switched params field condition (return (← emptinessTest .notEmpty field).negated)
  | .dynamicNullOrEmpty, _ => switched params field condition (pure Value.isNullOrEmpty)
  | .dynamicNotNullOrEmpty, _ =>
    switched params field condition (pure (Test.negated Value.isNullOrEmpty))

end RuleQuery.Condition
