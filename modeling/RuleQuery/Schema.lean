import RuleQuery.Text.Blank
import RuleQuery.Text.Casing
import RuleQuery.Text.Quoted
import RuleQuery.Value.Basic

namespace RuleQuery

inductive FieldKind where
  | bool
  | integer
  | float
  | decimal
  | text
  | timestamp
  | sequence
deriving DecidableEq

namespace FieldKind

def name : FieldKind → String
  | bool => "bool"
  | integer => "integer"
  | float => "float"
  | decimal => "decimal"
  | text => "text"
  | timestamp => "timestamp"
  | sequence => "sequence"

def label : FieldKind → String
  | bool => "Bool"
  | integer => "Integer"
  | float => "Float"
  | decimal => "Decimal"
  | text => "Text"
  | timestamp => "Timestamp"
  | sequence => "Sequence"

def all : List FieldKind := [bool, integer, float, decimal, text, timestamp, sequence]

def ofName? (s : String) : Option FieldKind := all.find? fun kind => kind.name == s

end FieldKind

structure FieldType where
  kind : FieldKind
  nullable : Bool
deriving DecidableEq

namespace FieldType

def required (kind : FieldKind) : FieldType := ⟨kind, false⟩

def optional (kind : FieldKind) : FieldType := ⟨kind, true⟩

def acceptsNull (t : FieldType) : Bool :=
  t.nullable || t.kind == .text || t.kind == .sequence

def name (t : FieldType) : String := t.kind.name ++ if t.nullable then "?" else ""

end FieldType

structure Field (R : Type) where
  name : String
  type : FieldType
  get : R → Value

def Field.describe {R : Type} (field : Field R) : String :=
  "FieldDescriptor \x7b name: " ++ Text.quote field.name ++ ", field_type: FieldType \x7b kind: " ++
    field.type.kind.label ++ ", nullable: " ++ (if field.type.nullable then "true" else "false") ++
    " \x7d \x7d"

/-- A record type: `typeId` tells record types apart, also those of one name. -/
structure Schema (R : Type) where
  typeId : Nat
  typeName : String
  fields : List (Field R)

namespace Schema

variable {R : Type}

def position? (schema : Schema R) (name : String) : Option Nat :=
  schema.fields.findIdx? fun field => Text.sameIgnoringCase field.name (Text.trim name)

def field? (schema : Schema R) (name : String) : Option (Field R) :=
  (schema.position? name).bind fun i => schema.fields[i]?

def contains (schema : Schema R) (name : String) : Bool := (schema.position? name).isSome

end Schema

end RuleQuery
