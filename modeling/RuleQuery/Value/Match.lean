import RuleQuery.Operator
import RuleQuery.Pattern.Count
import RuleQuery.Text.Search
import RuleQuery.Value.Order
import RuleQuery.Value.Text

namespace RuleQuery.Value

/-- Equality as conditions see it: numbers are compared by value across their kinds, and null
equals null only. -/
def equals (field expected : Value) : Bool :=
  match field.compare? expected with
  | some outcome => outcome == .eq
  | none => field == expected

def equalsAny (field : Value) (candidates : List Value) : Bool := candidates.any field.equals

def satisfies (op : Operator) (field expected : Value) : Bool :=
  (field.compare? expected).any op.accepts

def satisfiesAsDecimal (op : Operator) (field : Value) (expected : Decimal) : Bool :=
  field.toDecimal?.any fun d => op.accepts (d.compare expected)

/-- Whether a text has this part, or a sequence has an item with this plain text. -/
def contains (field : Value) (part : String) : Bool :=
  match field with
  | text s => Text.contains s part
  | sequence items => items.any fun item => item.toText == part
  | _ => false

def startsWith (field : Value) (start : String) : Bool :=
  field.text?.any fun s => Text.startsWith s start

def endsWith (field : Value) (ending : String) : Bool :=
  field.text?.any fun s => Text.endsWith s ending

def containsIgnoringCase (field : Value) (part : String) : Bool :=
  Text.contains (Text.lower field.toText) (Text.lower part)

def matchCount (field : Value) (pattern : Pattern) : Nat := pattern.count field.toText

end RuleQuery.Value
