import RuleQuery.Proofs.Instant.Lenient
import RuleQuery.Proofs.Json.Arranged
import RuleQuery.Proofs.Json.Spelling
import RuleQuery.Proofs.Predicate.Tree
import RuleQuery.Rule.Reader
import RuleQuery.Rule.Writer

/-!
The documents that may be written for a rule. At each record within the rule the document may choose
anew between an object and an array, between names and aliases, in the order of members, and in the
defaults that it leaves out. All of them are read as the rule, and the document that is written for
it is one of them.
-/
namespace RuleQuery

open Json (Part Spells Distinct Given)
open Document (ofJson text? nullable?)

def IsText (s : String) (value : Json) : Prop := value = .string s

theorem text?_of_isText {s : String} {value : Json} (written : IsText s value) :
    (ofJson value).text? = some s := by
  obtain rfl : value = .string s := written
  rfl

theorem isText_string (s : String) : IsText s (.string s) := rfl

theorem stands_ofText (x : Option String) :
    x.elim (Json.ofText x = .null) fun s => IsText s (Json.ofText x) := by
  cases x <;> rfl

namespace Integration

def parts (integration : Integration) : List Part :=
  [.nullable "compositeId" "CompositeId" integration.compositeId IsText]

def Spelling (integration : Integration) : Json → Prop := Spells integration.parts

theorem ofDocument?_of_spelling {integration : Integration} {json : Json}
    (spelling : integration.Spelling json) :
    ofDocument? (ofJson json) = some integration := by
  have distinct : Distinct integration.parts := by
    change List.Nodup ["compositeId", "CompositeId"]
    decide
  have fits : (guard ((ofJson json).hasParts 1) : Option Unit) = some () :=
    Json.guard_of_spells spelling
  have compositeId : (ofJson json).optional? 0 ["compositeId", "CompositeId"] none
      (nullable? text?) = some integration.compositeId :=
    Json.optional?_of_nullable spelling distinct rfl rfl fun _ _ _ => text?_of_isText
  simp [ofDocument?, ↓fits, compositeId]

theorem spelling_toJson (integration : Integration) : integration.Spelling integration.toJson := by
  refine Json.spells_of_given (.member (Part.name_mem_keys _) ?_ .nil)
  exact stands_ofText integration.compositeId

end Integration

theorem AggregateFunction.ofDocument?_name (function : AggregateFunction) :
    ofDocument? (ofJson (.string function.name)) = some function := by
  cases function <;> decide

namespace Aggregation

def parts (aggregation : Aggregation) : List Part :=
  [ .exactly "aggregateFunction" "AggregateFunction" False (.string aggregation.function.name),
    .nullable "aggregateProperty" "AggregateProperty" aggregation.propertyName
      IsText]

def Spelling (aggregation : Aggregation) : Json → Prop := Spells aggregation.parts

theorem ofDocument?_of_spelling {aggregation : Aggregation} {json : Json}
    (spelling : aggregation.Spelling json) :
    ofDocument? (ofJson json) = some aggregation := by
  have distinct : Distinct aggregation.parts := by
    change List.Nodup ["aggregateFunction", "AggregateFunction", "aggregateProperty",
      "AggregateProperty"]
    decide
  have fits : (guard ((ofJson json).hasParts 2) : Option Unit) = some () :=
    Json.guard_of_spells spelling
  have function : (ofJson json).required? 0 ["aggregateFunction", "AggregateFunction"]
      AggregateFunction.ofDocument? = some aggregation.function :=
    Json.required?_of_exactly spelling distinct rfl aggregation.function.ofDocument?_name
  have property : (ofJson json).optional? 1 ["aggregateProperty", "AggregateProperty"] none
      (nullable? text?) = some aggregation.propertyName :=
    Json.optional?_of_nullable spelling distinct rfl rfl fun _ _ _ => text?_of_isText
  simp [ofDocument?, ↓fits, function, property]

theorem spelling_toJson (aggregation : Aggregation) : aggregation.Spelling aggregation.toJson := by
  refine Json.spells_of_given ?_
  refine .member (Part.name_mem_keys _) rfl (.member (Part.name_mem_keys _) ?_ .nil)
  exact stands_ofText aggregation.propertyName

end Aggregation

namespace Condition

def parts (condition : Condition) : List Part :=
  [ .exactly "property" "Property" False (.string condition.property),
    .exactly "operator" "Operator" False (.string condition.operator),
    .exactly "value" "Value" (condition.value = .null) condition.value]

def Spelling (condition : Condition) : Json → Prop := Spells condition.parts

theorem ofDocument?_of_spelling {condition : Condition} (arranged : condition.value.Arranged)
    {json : Json} (spelling : condition.Spelling json) :
    ofDocument? (ofJson json) = some condition := by
  have distinct : Distinct condition.parts := by
    change List.Nodup ["property", "Property", "operator", "Operator", "value", "Value"]
    decide
  have fits : (guard ((ofJson json).hasParts 3) : Option Unit) = some () :=
    Json.guard_of_spells spelling
  have property : (ofJson json).required? 0 ["property", "Property"] text? =
      some condition.property := Json.required?_of_exactly spelling distinct rfl rfl
  have operator : (ofJson json).required? 1 ["operator", "Operator"] text? =
      some condition.operator := Json.required?_of_exactly spelling distinct rfl rfl
  have value : (ofJson json).optional? 2 ["value", "Value"] .null Document.toJson? =
      some condition.value :=
    Json.optional?_of_exactly spelling distinct rfl id (Json.toJson?_ofJson _ arranged)
  simp [ofDocument?, ↓fits, property, operator, value]

theorem spelling_toJson (condition : Condition) : condition.Spelling condition.toJson :=
  Json.spells_of_given (.member (Part.name_mem_keys _) rfl (.member (Part.name_mem_keys _) rfl
    (.member (Part.name_mem_keys _) rfl .nil)))

end Condition

theorem LogicalOperator.ofDocument?_name (operator : LogicalOperator) :
    ofDocument? (ofJson (.string operator.name)) = some operator := by
  cases operator <;> decide

namespace ConditionGroup

def parts (operator : LogicalOperator) (conditions : List Condition)
    (groups : List ConditionGroup) (negate : Bool) (listed : List Json → Prop) : List Part :=
  [ .exactly "logicalOperator" "LogicalOperator" (operator = .and) (.string operator.name),
    .list "conditions" "Conditions" conditions
      (List.Forall₂ Condition.Spelling conditions),
    .list "groups" "Groups" groups listed,
    .exactly "negate" "Negate" (negate = false) (.bool negate)]

mutual

def Spelling : ConditionGroup → Json → Prop
  | mk operator conditions groups negate =>
    Spells (parts operator conditions groups negate (Spellings groups))

def Spellings : List ConditionGroup → List Json → Prop
  | [], items => items = []
  | group :: rest, items =>
    ∃ first others, items = first :: others ∧ Spelling group first ∧ Spellings rest others

end

theorem mapM_attach {α β : Type} (f : α → Option β) (items : List α) :
    (items.attach.mapM fun item => f item.1) = items.mapM f :=
  calc (items.attach.mapM fun item => f item.1)
      = (items.attach.map Subtype.val).mapM f := List.mapM_map.symm
    _ = items.mapM f := by rw [List.attach_map_subtype_val]

theorem ofDocument?_eq (d : Document) : ofDocument? d = (do
    guard (d.hasParts 4)
    let operator ← d.optional? 0 ["logicalOperator", "LogicalOperator"] .and
      LogicalOperator.ofDocument?
    let conditions ← d.optional? 1 ["conditions", "Conditions"] []
      (Document.listOf? Condition.ofDocument?)
    let groups ← (childDocuments? d).bind fun children => children.mapM ofDocument?
    let negate ← d.optional? 3 ["negate", "Negate"] false Document.bool?
    return mk operator conditions groups negate) := by
  rw [ofDocument?]
  by_cases fits : d.hasParts 4 = true
  · rw [if_pos fits, fits]
    change _ = (d.optional? 0 _ _ _).bind _
    refine congrArg _ (funext fun operator => congrArg _ (funext fun conditions => ?_))
    dsimp only
    split
    · rename_i none
      rw [none]
      rfl
    · rename_i children found
      rw [found, Option.bind_some, ← mapM_attach ofDocument? children]
  · rw [if_neg fits, eq_false_of_ne_true fits]
    rfl

theorem ofDocument?_null : ofDocument? .null = none := by
  rw [ofDocument?_eq]
  rfl

section Parts

variable {operator : LogicalOperator} {own : List Condition} {below : List ConditionGroup}
  {negate : Bool} {listed : List Json → Prop} {json : Json}

theorem distinct_parts : Distinct (parts operator own below negate listed) := by
  change List.Nodup ["logicalOperator", "LogicalOperator", "conditions", "Conditions", "groups",
    "Groups", "negate", "Negate"]
  decide

theorem children_of_spells (spells : Spells (parts operator own below negate listed) json)
    (reads : ∀ items, listed items → (Document.ofItems items).mapM ofDocument? = some below) :
    (childDocuments? (ofJson json)).bind (fun children => children.mapM ofDocument?) =
      some below := by
  have third : (parts operator own below negate listed)[2]? =
      some (.list "groups" "Groups" below listed) := rfl
  have cases := Json.part?_of_spells spells distinct_parts third
  change (ofJson json).part? 2 ["groups", "Groups"] = _ ∧ _ ∨
    ∃ value, (ofJson json).part? 2 ["groups", "Groups"] = _ ∧ _ at cases
  rcases cases with ⟨left, empty⟩ | ⟨value, found, items, rfl, written⟩
  · obtain rfl : below = [] := empty
    rw [childDocuments?, left]
    rfl
  · rw [childDocuments?, found, ofJson]
    exact reads items written

theorem ofDocument?_of_spells (spells : Spells (parts operator own below negate listed) json)
    (arranged : ∀ c ∈ own, c.value.Arranged)
    (reads : ∀ items, listed items → (Document.ofItems items).mapM ofDocument? = some below) :
    ofDocument? (ofJson json) = some (mk operator own below negate) := by
  have each : ∀ items, List.Forall₂ Condition.Spelling own items →
      (Document.ofItems items).mapM Condition.ofDocument? = some own := by
    intro items written
    refine Json.mapM_ofItems written fun c inside value spelled => ?_
    exact Condition.ofDocument?_of_spelling (arranged c inside) spelled
  have fits : (guard ((ofJson json).hasParts 4) : Option Unit) = some () :=
    Json.guard_of_spells spells
  have joined : (ofJson json).optional? 0 ["logicalOperator", "LogicalOperator"] .and
      LogicalOperator.ofDocument? = some operator :=
    Json.optional?_of_exactly spells distinct_parts rfl id operator.ofDocument?_name
  have conditions : (ofJson json).optional? 1 ["conditions", "Conditions"] []
      (Document.listOf? Condition.ofDocument?) = some own :=
    Json.optional?_of_list spells distinct_parts rfl each
  have children := children_of_spells spells reads
  have negated : (ofJson json).optional? 3 ["negate", "Negate"] false Document.bool? =
      some negate := Json.optional?_of_exactly spells distinct_parts rfl id rfl
  rw [ofDocument?_eq]
  simp [↓fits, joined, conditions, children, negated]

end Parts

mutual

theorem ofDocument?_of_spelling : ∀ (group : ConditionGroup) (json : Json),
    (∀ c ∈ group.conditionsWithin, c.value.Arranged) → group.Spelling json →
      ofDocument? (ofJson json) = some group
  | mk operator own below negate, json, arranged, spelling => by
    rw [conditionsWithin_mk] at arranged
    refine ofDocument?_of_spells spelling
      (fun c inside => arranged c (List.mem_append_left _ inside)) fun items written => ?_
    exact mapM_ofDocument?_of_spellings below items
      (fun c inside => arranged c (List.mem_append_right _ inside)) written

theorem mapM_ofDocument?_of_spellings : ∀ (groups : List ConditionGroup) (items : List Json),
    (∀ c ∈ (subgroupsOf groups).flatMap conditions, c.value.Arranged) →
      Spellings groups items → (Document.ofItems items).mapM ofDocument? = some groups
  | [], items, _, spelling => by
    obtain rfl : items = [] := spelling
    rfl
  | group :: rest, items, arranged, spelling => by
    obtain ⟨first, others, rfl, spelled, later⟩ := spelling
    rw [subgroupsOf, List.flatMap_append] at arranged
    have here := ofDocument?_of_spelling group first
      (fun c inside => arranged c (List.mem_append_left _ inside)) spelled
    have there := mapM_ofDocument?_of_spellings rest others
      (fun c inside => arranged c (List.mem_append_right _ inside)) later
    rw [Document.ofItems, List.mapM_cons, here, there]
    rfl

end

mutual

theorem spelling_toJson : ∀ group : ConditionGroup, group.Spelling group.toJson
  | mk operator own below negate => by
    have conditions : List.Forall₂ Condition.Spelling own (own.map Condition.toJson) :=
      Json.forall₂_map own Condition.spelling_toJson
    exact Json.spells_of_given (.member (Part.name_mem_keys _) rfl
      (.member (Part.name_mem_keys _) ⟨_, rfl, conditions⟩
        (.member (Part.name_mem_keys _) ⟨_, rfl, spellings_toJsons below⟩
          (.member (Part.name_mem_keys _) rfl .nil))))

theorem spellings_toJsons : ∀ groups : List ConditionGroup, Spellings groups (toJsons groups)
  | [] => rfl
  | group :: rest => ⟨_, _, rfl, spelling_toJson group, spellings_toJsons rest⟩

end

end ConditionGroup

namespace Rule

def versionPart (version : Binary64) : Part :=
  ⟨"version", "Version", version = initialVersion,
    fun v => ∃ n, JsonNumber.ofBinary64? version = some n ∧ v = .number n⟩

def parts (rule : Rule) : List Part := [
  .exactly "name" "Name" (rule.name = "") (.string rule.name),
  .nullable "comment" "Comment" rule.comment IsText,
  versionPart rule.version,
  .exactly "isActive" "IsActive" (rule.isActive = true) (.bool rule.isActive),
  .exactly "createdBy" "CreatedBy" (rule.createdBy = "") (.string rule.createdBy),
  .exactly "createdAt" "CreatedAt" False (.string rule.createdAt.toDocumentText),
  .exactly "sourceType" "SourceType" (rule.sourceType = "") (.string rule.sourceType),
  .exactly "targetType" "TargetType" (rule.targetType = "") (.string rule.targetType),
  .nullable "integration" "Integration" rule.integration Integration.Spelling,
  .nullable "conditions" "Conditions" rule.conditions ConditionGroup.Spelling,
  .exactly "groupBy" "GroupBy" (rule.groupBy = []) (.array (rule.groupBy.map .string)),
  .nullable "aggregation" "Aggregation" rule.aggregation Aggregation.Spelling,
  .nullable "errorMessage" "ErrorMessage" rule.errorMessage IsText]

def Spelling (rule : Rule) : Json → Prop := Spells rule.parts

theorem distinct_parts (rule : Rule) : Distinct rule.parts := by
  change List.Nodup ["name", "Name", "comment", "Comment", "version", "Version", "isActive",
    "IsActive", "createdBy", "CreatedBy", "createdAt", "CreatedAt", "sourceType", "SourceType",
    "targetType", "TargetType", "integration", "Integration", "conditions", "Conditions",
    "groupBy", "GroupBy", "aggregation", "Aggregation", "errorMessage", "ErrorMessage"]
  decide

/-- A rule that can be written: its version is finite, its time of creation is within the calendar,
and the values of its conditions are as documents give them. -/
structure Writable (rule : Rule) : Prop where
  version : rule.version.isFinite = true
  createdAt : Date.yearInRange rule.createdAt.year = true
  values : ∀ group, rule.conditions = some group →
    ∀ c ∈ group.conditionsWithin, c.value.Arranged

theorem readGroupBy_strings (names : List String) :
    (Document.nullable? (Document.listOf? Document.text?)
      (ofJson (.array (names.map .string)))).map (·.getD []) = some names := by
  have each : List.Forall₂ IsText names (names.map .string) := Json.forall₂_map names isText_string
  have read := Json.mapM_ofItems each fun s _ value => @text?_of_isText s value
  rw [ofJson, Document.nullable?, Document.listOf?, read]
  · rfl
  · nofun

variable {rule : Rule} {json : Json}

theorem version_of_spelling (finite : rule.version.isFinite = true)
    (spelling : rule.Spelling json) :
    (ofJson json).optional? 2 ["version", "Version"] initialVersion Document.binary64? =
      some rule.version := by
  have third : rule.parts[2]? = some (versionPart rule.version) := rfl
  refine Json.optional?_of_spells spelling (distinct_parts rule) third id ?_
  rintro value ⟨n, given, rfl⟩
  rw [JsonNumber.ofBinary64?, dif_pos finite] at given
  cases given
  rfl

theorem ofDocument?_of_spelling (now : Instant) (writable : rule.Writable)
    (spelling : rule.Spelling json) : ofDocument? now (ofJson json) = some rule := by
  have distinct := distinct_parts rule
  have fits : (guard ((ofJson json).hasParts 13) : Option Unit) = some () :=
    Json.guard_of_spells spelling
  have name : (ofJson json).optional? 0 ["name", "Name"] "" text? = some rule.name :=
    Json.optional?_of_exactly spelling distinct rfl id rfl
  have comment : (ofJson json).optional? 1 ["comment", "Comment"] none (nullable? text?) =
      some rule.comment :=
    Json.optional?_of_nullable spelling distinct rfl rfl fun _ _ _ => text?_of_isText
  have version := version_of_spelling writable.version spelling
  have isActive : (ofJson json).optional? 3 ["isActive", "IsActive"] true Document.bool? =
      some rule.isActive := Json.optional?_of_exactly spelling distinct rfl id rfl
  have createdBy : (ofJson json).optional? 4 ["createdBy", "CreatedBy"] "" text? =
      some rule.createdBy := Json.optional?_of_exactly spelling distinct rfl id rfl
  have createdAt : (ofJson json).optional? 5 ["createdAt", "CreatedAt"] now Document.instant? =
      some rule.createdAt :=
    Json.optional?_of_exactly spelling distinct rfl False.elim
      (Instant.ofLenient?_toDocumentText _ writable.createdAt)
  have sourceType : (ofJson json).optional? 6 ["sourceType", "SourceType"] "" text? =
      some rule.sourceType := Json.optional?_of_exactly spelling distinct rfl id rfl
  have targetType : (ofJson json).optional? 7 ["targetType", "TargetType"] "" text? =
      some rule.targetType := Json.optional?_of_exactly spelling distinct rfl id rfl
  have integration : (ofJson json).optional? 8 ["integration", "Integration"] none
      (nullable? Integration.ofDocument?) = some rule.integration :=
    Json.optional?_of_nullable spelling distinct rfl rfl fun _ _ _ =>
      Integration.ofDocument?_of_spelling
  have conditions : (ofJson json).optional? 9 ["conditions", "Conditions"] none
      (nullable? ConditionGroup.ofDocument?) = some rule.conditions :=
    Json.optional?_of_nullable spelling distinct rfl ConditionGroup.ofDocument?_null
      fun group value given =>
        ConditionGroup.ofDocument?_of_spelling group value (writable.values group given)
  have groupBy : (ofJson json).optional? 10 ["groupBy", "GroupBy"] []
      (fun d => (nullable? (Document.listOf? text?) d).map (·.getD [])) = some rule.groupBy :=
    Json.optional?_of_exactly spelling distinct rfl id (readGroupBy_strings rule.groupBy)
  have aggregation : (ofJson json).optional? 11 ["aggregation", "Aggregation"] none
      (nullable? Aggregation.ofDocument?) = some rule.aggregation :=
    Json.optional?_of_nullable spelling distinct rfl rfl fun _ _ _ =>
      Aggregation.ofDocument?_of_spelling
  have errorMessage : (ofJson json).optional? 12 ["errorMessage", "ErrorMessage"] none
      (nullable? text?) = some rule.errorMessage :=
    Json.optional?_of_nullable spelling distinct rfl rfl fun _ _ _ => text?_of_isText
  simp [ofDocument?, ↓fits, name, comment, version, isActive, createdBy, createdAt, sourceType,
    targetType, integration, conditions, groupBy, aggregation, errorMessage]

theorem given_memberIf {α : Type} {key capital : String} {x : Option α}
    {stands : α → Json → Prop} {write : α → Json} (written : ∀ a, stands a (write a))
    {parts : List Part} {members : List (String × Json)} (rest : Given parts members) :
    Given (.nullable key capital x stands :: parts) (memberIf key (x.map write) ++ members) := by
  cases x with
  | none => exact .omitted rfl rest
  | some a => exact .member (Part.name_mem_keys _) (written a) rest

theorem stands_elim {α : Type} {stands : α → Json → Prop} {write : α → Json} (x : Option α)
    (written : ∀ a, stands a (write a)) :
    x.elim (x.elim .null write = .null) fun a => stands a (x.elim .null write) := by
  cases x with
  | none => rfl
  | some a => exact written a

theorem stands_version {version : Binary64} (finite : version.isFinite = true) :
    (versionPart version).stands ((JsonNumber.ofBinary64? version).elim .null .number) := by
  have number : JsonNumber.ofBinary64? version = some (.float version finite) := dif_pos finite
  exact ⟨_, number, by rw [number]; rfl⟩

theorem spelling_toJson (rule : Rule) (finite : rule.version.isFinite = true) :
    rule.Spelling rule.toJson := by
  have conditions := stands_elim rule.conditions ConditionGroup.spelling_toJson
  have aggregation := stands_elim rule.aggregation Aggregation.spelling_toJson
  have nothingBehind := List.append_nil (memberIf "errorMessage" (rule.errorMessage.map .string))
  refine Json.spells_of_given ?_
  rw [← nothingBehind]
  simp only [List.append_assoc, List.cons_append, List.nil_append]
  refine .member (Part.name_mem_keys _) rfl ?_
  refine given_memberIf isText_string ?_
  refine .member (Part.name_mem_keys _) (stands_version finite) ?_
  refine .member (Part.name_mem_keys _) rfl ?_
  refine .member (Part.name_mem_keys _) rfl ?_
  refine .member (Part.name_mem_keys _) rfl ?_
  refine .member (Part.name_mem_keys _) rfl ?_
  refine .member (Part.name_mem_keys _) rfl ?_
  refine given_memberIf Integration.spelling_toJson ?_
  refine .member (Part.name_mem_keys _) conditions ?_
  refine .member (Part.name_mem_keys _) rfl ?_
  refine .member (Part.name_mem_keys _) aggregation ?_
  exact given_memberIf isText_string .nil

/-- Reading inverts every document that may be written for a rule, of which the rule's own document
is one. -/
theorem spellings_read_back (writable : rule.Writable) (now : Instant) :
    (∀ json, rule.Spelling json → ofDocument? now (ofJson json) = some rule) ∧
      rule.Spelling rule.toJson ∧ ofDocument? now (ofJson rule.toJson) = some rule := by
  have spellings : ∀ json, rule.Spelling json → ofDocument? now (ofJson json) = some rule :=
    fun _ => ofDocument?_of_spelling now writable
  have own := rule.spelling_toJson writable.version
  exact ⟨spellings, own, spellings _ own⟩

def inDepartmentOrNamed : ConditionGroup :=
  .mk .or [⟨"Department", "equals", .string "IT"⟩] [.mk .and [⟨"Name", "isnull", .null⟩] [] true]
    false

/-- An array for the group, which holds an object for each of its parts; the condition of the child
group is an array that leaves out the null. -/
def inDepartmentOrNamedItems : Json := .array [.string "OR",
  .array [.object [("property", .string "Department"), ("Operator", .string "equals"),
    ("value", .string "IT")]],
  .array [.object [("conditions", .array [.array [.string "Name", .string "isnull"]]),
    ("Negate", .bool true)]]]

theorem spelling_inDepartmentOrNamed : inDepartmentOrNamed.Spelling inDepartmentOrNamedItems := by
  have inDepartment : Condition.Spelling ⟨"Department", "equals", .string "IT"⟩
      (.object [("property", .string "Department"), ("Operator", .string "equals"),
        ("value", .string "IT")]) :=
    Json.spells_of_given (.member (Part.name_mem_keys _) rfl
      (.member (Part.capital_mem_keys _) rfl (.member (Part.name_mem_keys _) rfl .nil)))
  have nameless : Condition.Spelling ⟨"Name", "isnull", .null⟩
      (.array [.string "Name", .string "isnull"]) := by
    refine .array (.item rfl (.item rfl (.done fun part inside => ?_)))
    obtain rfl := List.mem_singleton.mp inside
    rfl
  have named : ConditionGroup.Spelling (.mk .and [⟨"Name", "isnull", .null⟩] [] true)
      (.object [("conditions", .array [.array [.string "Name", .string "isnull"]]),
        ("Negate", .bool true)]) :=
    Json.spells_of_given (.omitted rfl (.member (Part.name_mem_keys _)
      ⟨_, rfl, .cons nameless .nil⟩ (.omitted rfl (.member (Part.capital_mem_keys _) rfl .nil))))
  refine .array (.item rfl (.item ⟨_, rfl, .cons inDepartment .nil⟩
    (.item ⟨_, rfl, _, _, rfl, named, rfl⟩ (.done fun part inside => ?_))))
  obtain rfl := List.mem_singleton.mp inside
  rfl

/-- Aliases in another order, without the defaults, and a member that is not read. -/
theorem spellings_of_inDepartmentOrNamed :
    let rule := { ofName "in department or named" .epoch with
      conditions := some inDepartmentOrNamed }
    let json := .object [("note", .bool true), ("Conditions", inDepartmentOrNamedItems),
      ("createdAt", .string "1970-01-01T00:00:00Z"), ("Name", .string "in department or named")]
    rule.Writable ∧ rule.Spelling json ∧ ofDocument? .epoch (ofJson json) = some rule := by
  intro rule json
  have writable : rule.Writable := by
    refine ⟨by decide +kernel, by decide, ?_⟩
    rintro group ⟨⟩ c inside
    rcases List.mem_cons.mp inside with rfl | inside
    · exact trivial
    · obtain rfl := List.mem_singleton.mp inside
      exact trivial
  have given : Given rule.parts [("Name", .string "in department or named"),
      ("createdAt", .string "1970-01-01T00:00:00Z"), ("Conditions", inDepartmentOrNamedItems)] := by
    refine .member (Part.capital_mem_keys _) rfl ?_
    refine .omitted rfl (.omitted rfl (.omitted rfl (.omitted rfl ?_)))
    refine .member (Part.name_mem_keys _) (congrArg Json.string (by decide)) ?_
    refine .omitted rfl (.omitted rfl (.omitted rfl ?_))
    refine .member (Part.capital_mem_keys _) spelling_inDepartmentOrNamed ?_
    exact .omitted rfl (.omitted rfl (.omitted rfl .nil))
  have foreign : ∀ m ∈ [("note", Json.bool true)], ∀ part ∈ rule.parts, m.1 ∉ part.keys := by
    simp [parts, versionPart, Part.exactly, Part.nullable, Part.keys]
  have spelling : rule.Spelling json := by
    refine .object given foreign ?_
    exact List.reverse_perm [("Name", _), ("createdAt", _), ("Conditions", _), ("note", _)]
  exact ⟨writable, spelling, (spellings_read_back writable .epoch).1 _ spelling⟩

end Rule

end RuleQuery
