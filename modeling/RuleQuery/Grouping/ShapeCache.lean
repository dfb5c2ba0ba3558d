import RuleQuery.Grouping.Key

/-!
The cache of key shapes. Shapes are kept by record type and folded field names, and shared: whoever
asks under one key gets one shape. Looking up, building and entering are separate steps; a shape
that comes second to the cache is dropped in favour of the first.
-/
namespace RuleQuery

structure ShapeKey where
  typeId : Nat
  names : List String
deriving DecidableEq

def ShapeKey.of {R : Type} (schema : Schema R) (names : List String) : ShapeKey :=
  ⟨schema.typeId, names.map fun name => Text.lower (Text.trim name)⟩

/-- A shape with a number that tells it from other shapes of equal content. -/
structure SharedShape where
  serial : Nat
  shape : KeyShape
deriving DecidableEq

structure ShapeCache where
  entries : List (ShapeKey × SharedShape)
  nextSerial : Nat

namespace ShapeCache

def empty : ShapeCache := ⟨[], 0⟩

def find? (cache : ShapeCache) (key : ShapeKey) : Option SharedShape :=
  (cache.entries.find? fun entry => entry.1 == key).map (·.2)

def share (cache : ShapeCache) (shape : KeyShape) : SharedShape × ShapeCache :=
  (⟨cache.nextSerial, shape⟩, ⟨cache.entries, cache.nextSerial + 1⟩)

/-- The shape that is kept under a key; the given one if there was none. -/
def getOrInsert (cache : ShapeCache) (key : ShapeKey) (shape : SharedShape) :
    SharedShape × ShapeCache :=
  match cache.find? key with
  | some kept => (kept, cache)
  | none => (shape, ⟨(key, shape) :: cache.entries, cache.nextSerial⟩)

end ShapeCache

/-- A computation that may fail and uses the cache of key shapes, which outlives its failure. -/
abbrev Cached (α : Type) := ExceptT QueryError (StateM ShapeCache) α

def Cached.ofExcept {α : Type} (outcome : Except QueryError α) : Cached α :=
  ExceptT.mk (pure outcome)

def KeyShape.shared {R : Type} (schema : Schema R) (names : List String) : Cached SharedShape :=
  ExceptT.mk fun cache =>
    match cache.find? (.of schema names) with
    | some kept => (.ok kept, cache)
    | none =>
      match KeyShape.build schema names with
      | .error e => (.error e, cache)
      | .ok shape =>
        let (shape, cache) := cache.share shape
        let (kept, cache) := cache.getOrInsert (.of schema names) shape
        (.ok kept, cache)

def GroupKey.of {R : Type} (schema : Schema R) (names : List String) (record : R) :
    Cached GroupKey := do
  return (← KeyShape.shared schema names).shape.keyFor schema record

end RuleQuery
