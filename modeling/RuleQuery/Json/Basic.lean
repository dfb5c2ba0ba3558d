import RuleQuery.Binary64.Basic
import RuleQuery.Text.Casing

namespace RuleQuery

/-- A number in a document: a whole number of 64 bits, signed or unsigned, or a finite float. -/
inductive JsonNumber where
  | integer (value : Int) (inRange : -0x8000000000000000 ≤ value ∧ value < 0x10000000000000000)
  | float (value : Binary64) (finite : value.isFinite = true)
deriving DecidableEq

namespace JsonNumber

def ofInt? (i : Int) : Option JsonNumber :=
  if h : -0x8000000000000000 ≤ i ∧ i < 0x10000000000000000 then some (.integer i h) else none

def ofBinary64? (x : Binary64) : Option JsonNumber :=
  if h : x.isFinite = true then some (.float x h) else none

def ofInt64 (i : Int64) : JsonNumber :=
  .integer i.toInt (by
    have low := i.le_toInt
    have high := i.toInt_lt
    omega)

def toBinary64 : JsonNumber → Binary64
  | integer i _ => Binary64.ofInt i
  | float x _ => x

end JsonNumber

inductive Json where
  | null
  | bool (value : Bool)
  | number (value : JsonNumber)
  | string (value : String)
  | array (items : List Json)
  | object (members : List (String × Json))

namespace Json

def ofNat (n : Nat) : Json :=
  match JsonNumber.ofInt? n with
  | some i => .number i
  | none => (JsonNumber.ofBinary64? (.ofNat n)).elim .null .number

def typeName : Json → String
  | null => "null"
  | bool _ => "boolean"
  | number _ => "number"
  | string _ => "string"
  | array _ => "array"
  | object _ => "object"

def isNull : Json → Bool
  | null => true
  | _ => false

def text? : Json → Option String
  | string s => some s
  | _ => none

def items? : Json → Option (List Json)
  | array items => some items
  | _ => none

def members? : Json → Option (List (String × Json))
  | object members => some members
  | _ => none

def insertMember {α : Type} (key : String) (value : α) : List (String × α) → List (String × α)
  | [] => [(key, value)]
  | (k, v) :: rest =>
    if key = k then (key, value) :: rest
    else if key < k then (key, value) :: (k, v) :: rest
    else (k, v) :: insertMember key value rest

def arrange {α : Type} (members : List (String × α)) : List (String × α) :=
  members.foldl (fun sorted (key, value) => insertMember key value sorted) []

def ofMembers (members : List (String × Json)) : Json := object (arrange members)

def lowerKey {α : Type} (a b : String × α) : String × α := if b.1 < a.1 then b else a

/-- The member with this key, or else, among the members whose keys differ from it in the case of
ASCII letters only, the one with the lowest key. -/
def findMember? {α : Type} (key : String) (members : List (String × α)) : Option (String × α) :=
  match members.find? (fun m => m.1 == key) with
  | some m => some m
  | none =>
    match members.filter (fun m => Text.sameIgnoringCase m.1 key) with
    | [] => none
    | m :: rest => some (rest.foldl lowerKey m)

def member? (value : Json) (key : String) : Option Json :=
  match value with
  | object members => (findMember? key members).map (·.2)
  | _ => none

theorem foldl_lowerKey_mem {α : Type} (rest : List (String × α)) (m : String × α) :
    rest.foldl lowerKey m ∈ m :: rest := by
  induction rest generalizing m with
  | nil => simp
  | cons a rest ih =>
    rw [List.foldl_cons]
    have h := ih (lowerKey m a)
    have kept : lowerKey m a = m ∨ lowerKey m a = a := by
      unfold lowerKey
      split <;> simp
    grind

theorem mem_of_findMember? {α : Type} {key : String} {members : List (String × α)}
    {m : String × α} (h : findMember? key members = some m) : m ∈ members := by
  unfold findMember? at h
  split at h
  · rename_i found
    cases h
    exact List.mem_of_find?_eq_some found
  · split at h
    · cases h
    · rename_i first rest same
      cases h
      have inside := foldl_lowerKey_mem rest first
      rw [← same] at inside
      exact (List.mem_filter.1 inside).1

theorem sizeOf_pos (value : Json) : 0 < sizeOf value := by
  cases value <;>
    simp only [null.sizeOf_spec, bool.sizeOf_spec, number.sizeOf_spec, string.sizeOf_spec,
      array.sizeOf_spec, object.sizeOf_spec] <;>
    omega

theorem sizeOf_member?_lt {value member : Json} {key : String}
    (h : value.member? key = some member) : sizeOf member < sizeOf value := by
  unfold member? at h
  split at h
  · rename_i members
    obtain ⟨m, found, rfl⟩ := Option.map_eq_some_iff.1 h
    have inside := List.sizeOf_lt_of_mem (mem_of_findMember? found)
    have part : sizeOf m.2 < sizeOf m := by
      cases m
      simp only [Prod.mk.sizeOf_spec]
      omega
    simp only [object.sizeOf_spec]
    omega
  · cases h

end Json

end RuleQuery
