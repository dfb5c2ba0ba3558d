import RuleQuery.Error
import RuleQuery.Value.Text

namespace RuleQuery

structure KeyPart where
  name : String
  value : Value
deriving BEq

inductive GroupKey where
  | single (value : Value)
  | composite (parts : List KeyPart)
deriving BEq

namespace GroupKey

/-- The value of a grouped field by name; the key of a single field is its value under any name. -/
def get? (key : GroupKey) (name : String) : Option Value :=
  match key with
  | single value => some value
  | composite parts =>
    (parts.find? fun part => Text.sameIgnoringCase part.name name).map (·.value)

def hashWords : GroupKey → List Int
  | single value => 0 :: value.hashWords
  | composite parts =>
    1 :: (parts.length : Int) :: parts.flatMap fun part =>
      (part.name.length : Int) :: (part.name.toList.map fun c => (c.toNat : Int)) ++
        part.value.hashWords

def toText : GroupKey → String
  | single value => value.toText
  | composite parts =>
    "\x7b" ++ String.intercalate ", " (parts.map fun part => part.name ++ ": " ++ part.value.toText)
      ++ "\x7d"

def toJson : GroupKey → Json
  | single value => value.toJson
  | composite parts => .object (parts.map fun part => (part.name, part.value.toJson))

end GroupKey

structure KeyShape where
  recordType : String
  fields : List (String × Nat)
deriving DecidableEq

namespace KeyShape

variable {R : Type}

def resolve (schema : Schema R) (name : String) : Except QueryError (String × Nat) :=
  match schema.position? name with
  | some i => .ok ((schema.fields[i]?).elim "" (·.name), i)
  | none => .error (.unknownField name schema.typeName)

/-- The shape for a list of field names; the first name that is none is the error. -/
def build (schema : Schema R) (names : List String) : Except QueryError KeyShape := do
  return ⟨schema.typeName, ← names.mapM (resolve schema)⟩

def isComposite (shape : KeyShape) : Bool := decide (1 < shape.fields.length)

def valueAt (schema : Schema R) (record : R) (position : Nat) : Value :=
  (schema.fields[position]?).elim .null fun field => field.get record

def keyFor (schema : Schema R) (shape : KeyShape) (record : R) : GroupKey :=
  match shape.fields with
  | [(_, i)] => .single (valueAt schema record i)
  | fields => .composite (fields.map fun (name, i) => ⟨name, valueAt schema record i⟩)

end KeyShape

end RuleQuery
