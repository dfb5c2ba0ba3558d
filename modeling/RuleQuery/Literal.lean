import RuleQuery.Binary64.Numeral
import RuleQuery.Decimal.Binary
import RuleQuery.Error
import RuleQuery.Instant.Reader
import RuleQuery.Json.Writer

namespace RuleQuery.Literal

def leastInteger : Int := -0x8000000000000000

def greatestInteger : Int := 0x7fffffffffffffff

def integer? (i : Int) : Option Int64 :=
  if leastInteger ≤ i ∧ i ≤ greatestInteger then some (Int64.ofInt i) else none

/-- The integer that a number stands for: itself, if it is one of 64 bits; otherwise its float
value rounded to the nearest integer, a half to the even one. A rounded value of 2^63 becomes the
greatest integer. -/
def integerOfNumber? (n : JsonNumber) : Option Int64 :=
  let approximate (x : Binary64) : Option Int64 :=
    if x.isFinite ∧ leastInteger ≤ x.toIntHalfEven ∧ x.toIntHalfEven ≤ greatestInteger + 1 then
      some (Int64.ofInt (min x.toIntHalfEven greatestInteger))
    else none
  match n with
  | .integer i _ => (integer? i).orElse fun _ => approximate n.toBinary64
  | .float x _ => approximate x

def textOfNumber (n : JsonNumber) : String :=
  match n with
  | .float x _ => if x.isWhole then x.toText else n.write
  | .integer .. => n.write

def ofNumber? (n : JsonNumber) : FieldKind → Option Value
  | .integer => (integerOfNumber? n).map .integer
  | .float => some (.float n.toBinary64)
  | .decimal => (Decimal.ofText? n.write).map .decimal
  | .text => some (.text (textOfNumber n))
  | .bool | .timestamp | .sequence => none

def integerOfText? (s : String) : Option Int64 :=
  match (Text.integer? (Text.trim s)).bind integer? with
  | some i => some i
  | none => (Decimal.ofText? s).bind fun d => integer? d.toIntHalfEven

def boolOfText? (s : String) : Option Bool :=
  if Text.sameIgnoringCase (Text.trim s) "true" then some true
  else if Text.sameIgnoringCase (Text.trim s) "false" then some false
  else none

def ofText? (s : String) : FieldKind → Option Value
  | .text => some (.text s)
  | .integer => (integerOfText? s).map .integer
  | .float => (Binary64.ofText? (Text.trim s)).map .float
  | .decimal => (Decimal.ofText? s).map .decimal
  | .bool => (boolOfText? s).map .bool
  | .timestamp => (Instant.ofText? s).map .timestamp
  | .sequence => none

def value? (literal : Json) (type : FieldType) : Option Value :=
  match literal with
  | .null => if type.acceptsNull then some .null else none
  | .number n => ofNumber? n type.kind
  | .string s => ofText? s type.kind
  | .bool b => if type.kind = .bool then some (.bool b) else none
  | .array _ | .object _ => none

/-- As `value?`, with an error that names the field. -/
def value (literal : Json) (type : FieldType) (field : String) : Except QueryError Value :=
  match value? literal type with
  | some v => .ok v
  | none => .error (.typeCoercion field type literal.typeName)

def decimal (literal : Json) (field : String) : Except QueryError Decimal :=
  match value? literal (.required .decimal) with
  | some (.decimal d) => .ok d
  | _ => .error (.typeCoercion field (.required .decimal) literal.typeName)

def text? (literal : Json) (field : String) : Except QueryError (Option String) :=
  (value literal (.required .text) field).map Value.text?

def bool (literal : Json) (field : String) : Except QueryError Bool :=
  match value? literal (.required .bool) with
  | some (.bool b) => .ok b
  | _ => .error (.typeCoercion field (.required .bool) literal.typeName)

end RuleQuery.Literal
