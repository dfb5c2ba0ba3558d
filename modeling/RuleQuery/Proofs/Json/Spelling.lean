import Mathlib.Data.List.Forall2
import RuleQuery.Json.Parts

/-!
The documents that may be written for a record of named parts. An object gives a part under its name
or under its alias, in any place, leaves out parts that have their defaults, and may have members of
other names; an array gives the parts in order, where the last ones may be missing. What is read for
a part does not depend on which of these documents it is read from.
-/
namespace RuleQuery.Json

/-- A part of a record that is to be written: its name, its alias, whether it may be left out, and
the values that stand for it. -/
structure Part where
  name : String
  capital : String
  omittable : Prop
  stands : Json → Prop

namespace Part

def keys (part : Part) : List String := [part.name, part.capital]

theorem name_mem_keys (part : Part) : part.name ∈ part.keys := List.mem_cons_self

theorem capital_mem_keys (part : Part) : part.capital ∈ part.keys :=
  List.mem_cons_of_mem _ List.mem_cons_self

def exactly (name capital : String) (omittable : Prop) (value : Json) : Part :=
  ⟨name, capital, omittable, fun v => v = value⟩

def nullable {α : Type} (name capital : String) (x : Option α) (stands : α → Json → Prop) : Part :=
  ⟨name, capital, x = none, fun v => x.elim (v = .null) fun a => stands a v⟩

def list {α : Type} (name capital : String) (xs : List α) (stand : List Json → Prop) : Part :=
  ⟨name, capital, xs = [], fun v => ∃ items, v = .array items ∧ stand items⟩

end Part

inductive Given : List Part → List (String × Json) → Prop where
  | nil : Given [] []
  | member {part : Part} {parts : List Part} {members : List (String × Json)} {key : String}
      {value : Json} : key ∈ part.keys → part.stands value → Given parts members →
      Given (part :: parts) ((key, value) :: members)
  | omitted {part : Part} {parts : List Part} {members : List (String × Json)} :
      part.omittable → Given parts members → Given (part :: parts) members

inductive Placed : List Part → List Json → Prop where
  | done {parts : List Part} : (∀ part ∈ parts, part.omittable) → Placed parts []
  | item {part : Part} {parts : List Part} {value : Json} {items : List Json} :
      part.stands value → Placed parts items → Placed (part :: parts) (value :: items)

/-- The documents for a record of these parts. -/
inductive Spells (parts : List Part) : Json → Prop where
  | object {given others members : List (String × Json)} : Given parts given →
      (∀ m ∈ others, ∀ part ∈ parts, m.1 ∉ part.keys) → members.Perm (given ++ others) →
      Spells parts (.object members)
  | array {items : List Json} : Placed parts items → Spells parts (.array items)

def Distinct (parts : List Part) : Prop := (parts.flatMap Part.keys).Nodup

section Members

variable {parts : List Part} {members : List (String × Json)} {names : List String}

theorem filter_of_foreign (foreign : ∀ m ∈ members, m.1 ∉ names) :
    members.filter (fun m => names.contains m.1) = [] := by
  rw [List.filter_eq_nil_iff]
  intro m inside
  simpa using foreign m inside

theorem exists_part_of_given (given : Given parts members) {m : String × Json}
    (inside : m ∈ members) : ∃ part ∈ parts, m.1 ∈ part.keys := by
  induction given with
  | nil => cases inside
  | member key _ _ ih =>
    rcases List.mem_cons.mp inside with rfl | inside
    · exact ⟨_, List.mem_cons_self, key⟩
    · obtain ⟨part, there, named⟩ := ih inside
      exact ⟨part, List.mem_cons_of_mem _ there, named⟩
  | omitted _ _ ih =>
    obtain ⟨part, there, named⟩ := ih inside
    exact ⟨part, List.mem_cons_of_mem _ there, named⟩

theorem distinct_cons {part : Part} (distinct : Distinct (part :: parts)) :
    Distinct parts ∧ ∀ other ∈ parts, ∀ key ∈ other.keys, key ∉ part.keys := by
  obtain ⟨-, rest, apart⟩ := List.nodup_append.mp distinct
  refine ⟨rest, fun other inside key named own => ?_⟩
  exact apart key own key (List.mem_flatMap.mpr ⟨other, inside, named⟩) rfl

theorem filter_of_given (given : Given parts members) (distinct : Distinct parts) {i : Nat}
    {part : Part} (position : parts[i]? = some part) :
    members.filter (fun m => part.keys.contains m.1) = [] ∧ part.omittable ∨
      ∃ key value, members.filter (fun m => part.keys.contains m.1) = [(key, value)] ∧
        part.stands value := by
  induction given generalizing i with
  | nil => cases position
  | @member first rest others key value named stands given ih =>
    obtain ⟨distinctRest, apart⟩ := distinct_cons distinct
    cases i with
    | zero =>
      cases position
      -- The other members belong to other parts, which have no key in common with this one.
      have none : others.filter (fun m => part.keys.contains m.1) = [] := by
        apply filter_of_foreign
        intro m inside
        obtain ⟨other, there, key⟩ := exists_part_of_given given inside
        exact apart other there m.1 key
      refine .inr ⟨key, value, ?_, stands⟩
      rw [List.filter_cons_of_pos (by simpa using named), none]
    | succ i =>
      have there : part ∈ rest := List.mem_of_getElem? position
      have foreign : key ∉ part.keys := fun own => apart part there key own named
      rw [List.filter_cons_of_neg (by simpa using foreign)]
      exact ih distinctRest position
  | @omitted first rest others omittable given ih =>
    obtain ⟨distinctRest, apart⟩ := distinct_cons distinct
    cases i with
    | zero =>
      cases position
      refine .inl ⟨filter_of_foreign fun m inside => ?_, omittable⟩
      obtain ⟨other, there, key⟩ := exists_part_of_given given inside
      exact apart other there m.1 key
    | succ i => exact ih distinctRest position

end Members

section Read

open Document (ofJson)

variable {parts : List Part} {json : Json}

theorem ofItems_eq_map (items : List Json) : Document.ofItems items = items.map ofJson := by
  induction items with
  | nil => rfl
  | cons v rest ih => rw [Document.ofItems, ih, List.map_cons]

theorem ofMembers_eq_map (members : List (String × Json)) :
    Document.ofMembers members = members.map fun m => (m.1, ofJson m.2) := by
  induction members with
  | nil => rfl
  | cons m rest ih => rw [Document.ofMembers, ih, List.map_cons]

theorem length_le_of_placed {items : List Json} (placed : Placed parts items) :
    items.length ≤ parts.length := by
  induction placed with
  | done => exact Nat.zero_le _
  | item _ _ ih => simpa using ih

theorem getElem?_of_placed {items : List Json} (placed : Placed parts items) {i : Nat}
    {part : Part} (position : parts[i]? = some part) :
    items[i]? = none ∧ part.omittable ∨ ∃ value, items[i]? = some value ∧ part.stands value := by
  induction placed generalizing i with
  | done omittable => exact .inl ⟨rfl, omittable part (List.mem_of_getElem? position)⟩
  | item stands _ ih =>
    cases i with
    | zero =>
      cases position
      exact .inr ⟨_, rfl, stands⟩
    | succ i => exact ih position

theorem guard_of_spells (spells : Spells parts json) :
    (guard ((ofJson json).hasParts parts.length) : Option Unit) = some () := by
  apply if_pos
  cases spells with
  | object => rfl
  | array placed =>
    have most := length_le_of_placed placed
    rw [ofJson, ofItems_eq_map]
    simpa [Document.hasParts] using most

theorem part?_of_spells (spells : Spells parts json) (distinct : Distinct parts) {i : Nat}
    {part : Part} (position : parts[i]? = some part) :
    (ofJson json).part? i part.keys = some none ∧ part.omittable ∨
      ∃ value, (ofJson json).part? i part.keys = some (some (ofJson value)) ∧
        part.stands value := by
  cases spells with
  | @object given others members gives foreign order =>
    have there : part ∈ parts := List.mem_of_getElem? position
    -- Of all members only the one given for the part has its name or its alias.
    have ignored : others.filter (fun m => part.keys.contains m.1) = [] :=
      filter_of_foreign fun m inside => foreign m inside part there
    have found := order.filter fun m => part.keys.contains m.1
    rw [List.filter_append, ignored, List.append_nil] at found
    have written : (members.map fun m => (m.1, ofJson m.2)).filter
        (fun m => part.keys.contains m.1) =
        (members.filter fun m => part.keys.contains m.1).map fun m => (m.1, ofJson m.2) := by
      rw [List.filter_map]
      rfl
    rw [ofJson, ofMembers_eq_map, Document.part?, written]
    rcases filter_of_given gives distinct position with ⟨none, omittable⟩ |
      ⟨key, value, one, stands⟩
    · rw [none] at found
      rw [found.eq_nil]
      exact .inl ⟨rfl, omittable⟩
    · rw [one] at found
      rw [List.perm_singleton.mp found]
      exact .inr ⟨value, rfl, stands⟩
  | array placed =>
    rw [ofJson, ofItems_eq_map, Document.part?]
    rcases getElem?_of_placed placed position with ⟨none, omittable⟩ | ⟨value, one, stands⟩
    · exact .inl ⟨by simp [none], omittable⟩
    · exact .inr ⟨value, by simp [one], stands⟩

variable {α : Type} {read : Document → Option α} {a : α} {i : Nat} {name capital : String}

theorem required?_of_exactly (spells : Spells parts json) (distinct : Distinct parts)
    {value : Json} (position : parts[i]? = some (.exactly name capital False value))
    (reads : read (ofJson value) = some a) :
    (ofJson json).required? i [name, capital] read = some a := by
  rcases part?_of_spells spells distinct position with ⟨-, left⟩ | ⟨written, found, stands⟩
  · cases left
  · obtain rfl : written = value := stands
    change (ofJson json).part? i [name, capital] = _ at found
    rw [Document.required?, found]
    exact reads

theorem optional?_of_spells (spells : Spells parts json) (distinct : Distinct parts) {part : Part}
    (position : parts[i]? = some part) {absent : α} (default : part.omittable → a = absent)
    (reads : ∀ value, part.stands value → read (ofJson value) = some a) :
    (ofJson json).optional? i part.keys absent read = some a := by
  rcases part?_of_spells spells distinct position with ⟨left, omittable⟩ | ⟨value, found, stands⟩
  · rw [Document.optional?, left, default omittable]
    rfl
  · rw [Document.optional?, found]
    exact reads value stands

theorem optional?_of_exactly (spells : Spells parts json) (distinct : Distinct parts)
    {absent : α} {value : Json} {omittable : Prop}
    (position : parts[i]? = some (.exactly name capital omittable value))
    (default : omittable → a = absent) (reads : read (ofJson value) = some a) :
    (ofJson json).optional? i [name, capital] absent read = some a := by
  refine optional?_of_spells spells distinct position default ?_
  rintro written rfl
  exact reads

theorem optional?_of_nullable (spells : Spells parts json) (distinct : Distinct parts)
    {x : Option α} {stands : α → Json → Prop}
    (position : parts[i]? = some (.nullable name capital x stands)) (notNull : read .null = none)
    (reads : ∀ a value, x = some a → stands a value → read (ofJson value) = some a) :
    (ofJson json).optional? i [name, capital] none (Document.nullable? read) = some x := by
  refine optional?_of_spells spells distinct position id fun value written => ?_
  cases x with
  | none =>
    obtain rfl : value = .null := written
    rfl
  | some a =>
    have found := reads a value rfl written
    unfold Document.nullable?
    split
    · rename_i null
      rw [null, notNull] at found
      cases found
    · rw [found]
      rfl

theorem optional?_of_list (spells : Spells parts json) (distinct : Distinct parts)
    {xs : List α} {stand : List Json → Prop}
    (position : parts[i]? = some (.list name capital xs stand))
    (reads : ∀ items, stand items → (Document.ofItems items).mapM read = some xs) :
    (ofJson json).optional? i [name, capital] [] (Document.listOf? read) = some xs := by
  refine optional?_of_spells spells distinct position id ?_
  rintro value ⟨items, rfl, written⟩
  exact reads items written

theorem mapM_ofItems {stands : α → Json → Prop} {xs : List α} {values : List Json}
    (each : List.Forall₂ stands xs values)
    (reads : ∀ a ∈ xs, ∀ value, stands a value → read (ofJson value) = some a) :
    (Document.ofItems values).mapM read = some xs := by
  induction each with
  | nil => rfl
  | cons first _ ih =>
    have rest := ih fun a inside => reads a (List.mem_cons_of_mem _ inside)
    rw [Document.ofItems, List.mapM_cons, reads _ List.mem_cons_self _ first, rest]
    rfl

end Read

section Write

variable {parts : List Part} {members : List (String × Json)}

theorem spells_of_given (given : Given parts members) : Spells parts (.object members) := by
  have none : ∀ m ∈ ([] : List (String × Json)), ∀ part ∈ parts, m.1 ∉ part.keys := nofun
  exact .object given none (by rw [List.append_nil])

theorem forall₂_map {α : Type} {stands : α → Json → Prop} {write : α → Json} (xs : List α)
    (written : ∀ a, stands a (write a)) : List.Forall₂ stands xs (xs.map write) := by
  rw [List.forall₂_map_right_iff, List.forall₂_same]
  exact fun a _ => written a

end Write

end RuleQuery.Json
