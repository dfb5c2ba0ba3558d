import RuleQuery.Json.Writer
import RuleQuery.Value.Basic

namespace RuleQuery.Value

mutual

/-- The plain text of a value. Null is empty; the items of a sequence are separated by commas. -/
def toText : Value → String
  | null => ""
  | bool b => if b then "true" else "false"
  | integer i => toString i.toInt
  | float x => x.toText
  | decimal d => d.toText
  | text s => s
  | timestamp t => t.toText
  | sequence items => String.intercalate "," (itemTexts items)

def itemTexts : List Value → List String
  | [] => []
  | v :: rest => toText v :: itemTexts rest

end

mutual

def toJson : Value → Json
  | null => .null
  | bool b => .bool b
  | integer i => .number (.ofInt64 i)
  | float x => (JsonNumber.ofBinary64? x).elim .null .number
  | decimal d => .string d.toText
  | text s => .string s
  | timestamp t => .string t.toDocumentText
  | sequence items => .array (itemsToJson items)

def itemsToJson : List Value → List Json
  | [] => []
  | v :: rest => toJson v :: itemsToJson rest

end

end RuleQuery.Value
