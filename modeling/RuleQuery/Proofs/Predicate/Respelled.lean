import RuleQuery.Proofs.Grouping.ShapeCache
import RuleQuery.Proofs.Json.Lookup
import RuleQuery.Proofs.Predicate.Dynamic
import RuleQuery.Proofs.Text.Folding

namespace RuleQuery

section Coded

variable {α β γ δ : Type}

/-- An outcome of which the code of an error counts only. -/
def coded (x : Except QueryError α) : Except String α := x.mapError QueryError.code

theorem coded_cases {x y : Except QueryError α} (same : coded x = coded y) :
    (∃ a, x = .ok a ∧ y = .ok a) ∨ ∃ e f, x = .error e ∧ y = .error f ∧ e.code = f.code := by
  cases x with
  | error e =>
    cases y with
    | error f => exact .inr ⟨e, f, rfl, rfl, Except.error.inj same⟩
    | ok b => cases same
  | ok a =>
    cases y with
    | error f => cases same
    | ok b => exact .inl ⟨a, rfl, congrArg Except.ok (Except.ok.inj same).symm⟩

theorem coded_bind {x y : Except QueryError α} {f g : α → Except QueryError β}
    (first : coded x = coded y) (rest : ∀ a, x = .ok a → coded (f a) = coded (g a)) :
    coded (x >>= f) = coded (y >>= g) := by
  rcases coded_cases first with ⟨a, rfl, rfl⟩ | ⟨e, f, rfl, rfl, code⟩
  · exact rest a rfl
  · exact congrArg Except.error code

theorem coded_map {x y : Except QueryError α} (same : coded x = coded y) (f : α → β) :
    coded (x.map f) = coded (y.map f) := by
  rcases coded_cases same with ⟨a, rfl, rfl⟩ | ⟨e, f, rfl, rfl, code⟩
  · rfl
  · exact congrArg Except.error code

theorem coded_mapM {f : α → Except QueryError γ} {g : β → Except QueryError γ} {xs : List α}
    {ys : List β} (each : xs.map (fun x => coded (f x)) = ys.map fun y => coded (g y)) :
    coded (xs.mapM f) = coded (ys.mapM g) := by
  induction xs generalizing ys with
  | nil =>
    cases ys with
    | nil => rfl
    | cons y ys => cases each
  | cons x xs ih =>
    cases ys with
    | nil => cases each
    | cons y ys =>
      obtain ⟨first, rest⟩ := List.cons.inj each
      rw [List.mapM_cons, List.mapM_cons]
      exact coded_bind first fun c _ => coded_bind (ih rest) fun cs _ => rfl

theorem coded_forM {f : α → Except QueryError Unit} {g : β → Except QueryError Unit}
    {xs : List α} {ys : List β}
    (each : xs.map (fun x => coded (f x)) = ys.map fun y => coded (g y)) :
    coded (xs.forM f) = coded (ys.forM g) := by
  induction xs generalizing ys with
  | nil =>
    cases ys with
    | nil => rfl
    | cons y ys => cases each
  | cons x xs ih =>
    cases ys with
    | nil => cases each
    | cons y ys =>
      obtain ⟨first, rest⟩ := List.cons.inj each
      change coded (f x >>= fun _ => xs.forM f) = coded (g y >>= fun _ => ys.forM g)
      exact coded_bind first fun _ _ => ih rest

theorem toOption_of_coded_eq {x y : Except QueryError α} (same : coded x = coded y) :
    x.toOption = y.toOption := by
  rcases coded_cases same with ⟨a, rfl, rfl⟩ | ⟨e, f, rfl, rfl, -⟩
  · rfl
  · rfl

end Coded

theorem Operator.ofName?_of_fold_eq {name other : String}
    (same : Text.fold name = Text.fold other) :
    ofName? name = ofName? other := by
  rw [Text.fold, Text.fold] at same
  unfold ofName?
  rw [same]

namespace Json

def foldText : Json → Json
  | string s => string (Text.fold s)
  | value => value

def isName (key : String) : Bool :=
  Text.sameIgnoringCase key "property" || Text.sameIgnoringCase key "operator"

def isBranch (key : String) : Bool :=
  Text.sameIgnoringCase key "check" || Text.sameIgnoringCase key "then"

def isImplication (branch : Json) : Bool :=
  ((branch.member? "operator").bind text?).bind Operator.ofName? == some .implies

mutual

/-- The payload of an `if` with the names in its two conditions folded. -/
def foldPayload : Json → Json
  | object members => object (foldBranches members)
  | value => value

def foldBranches : List (String × Json) → List (String × Json)
  | [] => []
  | (key, value) :: rest =>
    (key, if isBranch key then foldBranch value else value) :: foldBranches rest

def foldBranch : Json → Json
  | object members => object (foldParts (isImplication (object members)) members)
  | value => value

def foldParts (implication : Bool) : List (String × Json) → List (String × Json)
  | [] => []
  | (key, value) :: rest =>
    (key, if isName key then foldText value
      else if implication && Text.sameIgnoringCase key "value" then foldPayload value
      else value) :: foldParts implication rest

end

theorem foldBranches_eq_map (members : List (String × Json)) : foldBranches members =
    members.map fun m => (m.1, if isBranch m.1 then foldBranch m.2 else m.2) := by
  induction members with
  | nil => rfl
  | cons m members ih => rw [foldBranches, ih, List.map_cons]

theorem foldParts_eq_map (implication : Bool) (members : List (String × Json)) :
    foldParts implication members = members.map fun m => (m.1, if isName m.1 then foldText m.2
      else if implication && Text.sameIgnoringCase m.1 "value" then foldPayload m.2 else m.2) := by
  induction members with
  | nil => rfl
  | cons m members ih => rw [foldParts, ih, List.map_cons]

theorem findMember?_foldParts (key : String) (implication : Bool) (members : List (String × Json)) :
    findMember? key (foldParts implication members) =
      (findMember? key members).map fun m => (m.1, if isName m.1 then foldText m.2
        else if implication && Text.sameIgnoringCase m.1 "value" then foldPayload m.2
        else m.2) := by
  rw [foldParts_eq_map]
  exact findMember?_map (fun key value => if isName key then foldText value
    else if implication && Text.sameIgnoringCase key "value" then foldPayload value else value) ..

theorem members?_foldPayload (payload : Json) :
    (foldPayload payload).members?.isNone = payload.members?.isNone := by
  cases payload <;> simp [foldPayload, members?]

theorem member?_foldPayload {key : String} (side : key = "check" ∨ key = "then") (payload : Json) :
    (foldPayload payload).member? key = (payload.member? key).map foldBranch := by
  cases payload with
  | object members =>
    rw [foldPayload, member?, member?, foldBranches_eq_map,
      findMember?_map fun key value => if isBranch key then foldBranch value else value]
    cases found : findMember? key members with
    | none => rfl
    | some m =>
      have branch : isBranch m.1 = true := by
        have alike := sameIgnoringCase_of_findMember? found
        rcases side with rfl | rfl <;> simp [isBranch, alike]
      simp [branch]
  | _ => simp [foldPayload, member?]

theorem member?_foldBranch_name {key : String} (name : key = "property" ∨ key = "operator")
    (branch : Json) : (foldBranch branch).member? key = (branch.member? key).map foldText := by
  cases branch with
  | object members =>
    rw [foldBranch, member?, member?, findMember?_foldParts]
    cases found : findMember? key members with
    | none => rfl
    | some m =>
      have named : isName m.1 = true := by
        have alike := sameIgnoringCase_of_findMember? found
        rcases name with rfl | rfl <;> simp [isName, alike]
      simp [named]
  | _ => simp [foldBranch, member?]

theorem member?_foldBranch_value (branch : Json) : (foldBranch branch).member? "value" =
    (branch.member? "value").map fun value =>
      if isImplication branch then foldPayload value else value := by
  cases branch with
  | object members =>
    rw [foldBranch, member?, member?, findMember?_foldParts]
    cases found : findMember? "value" members with
    | none => rfl
    | some m =>
      have alike := sameIgnoringCase_of_findMember? found
      have unnamed : isName m.1 = false := by
        unfold Text.sameIgnoringCase at alike
        unfold isName Text.sameIgnoringCase
        rw [eq_of_beq alike]
        decide
      simp [unnamed, alike]
  | _ => simp [foldBranch, member?]

end Json

namespace Condition

def folded (c : Condition) : Condition :=
  ⟨Text.fold c.property, Text.fold c.operator,
    if Operator.ofName? c.operator = some .implies then c.value.foldPayload else c.value⟩

theorem text?_foldBranch {key : String} (name : key = "property" ∨ key = "operator")
    (nested : Json) : (nested.foldBranch.member? key).bind Json.text? =
      ((nested.member? key).bind Json.text?).map Text.fold := by
  rw [Json.member?_foldBranch_name name]
  cases nested.member? key with
  | none => rfl
  | some value => cases value <;> rfl

theorem branch_foldPayload {key : String} (side : key = "check" ∨ key = "then") (payload : Json) :
    branch payload.foldPayload key = (branch payload key).map folded := by
  unfold branch
  rw [Json.member?_foldPayload side]
  cases payload.member? key with
  | none => rfl
  | some nested =>
    simp only [Option.map_some, text?_foldBranch (.inl rfl), text?_foldBranch (.inr rfl)]
    cases (nested.member? "property").bind Json.text? with
    | none => rfl
    | some property =>
      cases given : (nested.member? "operator").bind Json.text? with
      | none => rfl
      | some operator =>
        have implication :
            nested.isImplication = (Operator.ofName? operator == some .implies) := by
          rw [Json.isImplication, given, Option.bind_some]
        have value : (nested.foldBranch.member? "value").getD .null =
            if Operator.ofName? operator = some .implies
            then ((nested.member? "value").getD .null).foldPayload
            else (nested.member? "value").getD .null := by
          rw [Json.member?_foldBranch_value, implication]
          cases nested.member? "value" with
          | none => simp [Json.foldPayload]
          | some value => simp
        simp only [Option.map_some, value]
        rfl

section Folded

variable {R : Type} {schema : Schema R} {params : Parameters} {c d : Condition}

theorem folded_eq_iff : c.folded = d.folded ↔ Text.fold c.property = Text.fold d.property ∧
    Text.fold c.operator = Text.fold d.operator ∧
      (if Operator.ofName? c.operator = some .implies then c.value.foldPayload else c.value) =
        if Operator.ofName? d.operator = some .implies then d.value.foldPayload else d.value := by
  rw [folded, folded, mk.injEq]

theorem operator_of_folded_eq (same : c.folded = d.folded) :
    Operator.ofName? c.operator = Operator.ofName? d.operator :=
  Operator.ofName?_of_fold_eq (folded_eq_iff.mp same).2.1

theorem position?_of_folded_eq (same : c.folded = d.folded) :
    schema.position? c.property = schema.position? d.property :=
  Schema.position?_congr (folded_eq_iff.mp same).1

theorem coded_resolve (same : c.folded = d.folded) :
    coded (c.resolve schema) = coded (d.resolve schema) := by
  unfold resolve
  rw [operator_of_folded_eq same, Schema.field?_congr (position?_of_folded_eq same)]
  cases Operator.ofName? d.operator with
  | none => rfl
  | some op => cases schema.field? d.property <;> rfl

theorem get?_of_folded_eq (same : c.folded = d.folded) :
    params.get? c.property = params.get? d.property := by
  obtain ⟨folds, -⟩ := folded_eq_iff.mp same
  have names : Parameters.foldName c.property = Parameters.foldName d.property := by
    rw [Parameters.foldName, Parameters.foldName, ← Text.lower_fold, folds, Text.lower_fold]
  rw [Parameters.get?, Parameters.get?, names]

theorem coded_dynamicLiteral (same : c.folded = d.folded) (value : c.value = d.value) :
    coded (dynamicLiteral params c) = coded (dynamicLiteral params d) := by
  unfold dynamicLiteral
  rw [value, get?_of_folded_eq same]
  cases d.value.isNull with
  | false => rfl
  | true => cases params.get? d.property <;> rfl

theorem coded_fieldTest {op : Operator} (plain : op ≠ .implies) (field : Field R)
    (value : c.value = d.value)
    (literal : coded (dynamicLiteral params c) = coded (dynamicLiteral params d)) :
    coded (fieldTest params field c op plain) = coded (fieldTest params field d op plain) := by
  have switches : ∀ base : Except QueryError Test,
      coded (switched params field c base) = coded (switched params field d base) :=
    fun base => coded_bind literal fun _ _ => rfl
  cases op with
  | implies => exact absurd rfl plain
  | dynamicEqual => exact coded_bind literal fun _ _ => rfl
  | dynamicEmpty | dynamicNotEmpty | dynamicNullOrEmpty | dynamicNotNullOrEmpty =>
    exact switches _
  | _ => simp only [fieldTest, value]

theorem branch_of_foldPayload_eq {key : String} (side : key = "check" ∨ key = "then")
    {payload other : Json} (same : payload.foldPayload = other.foldPayload) :
    (∃ e, branch payload key = .error e ∧ branch other key = .error e) ∨
      ∃ c d, branch payload key = .ok c ∧ branch other key = .ok d ∧ c.folded = d.folded := by
  have folded : (branch payload key).map folded = (branch other key).map Condition.folded := by
    rw [← branch_foldPayload side, same, branch_foldPayload side]
  cases read : branch payload key with
  | error e =>
    cases read' : branch other key with
    | error e' =>
      rw [read, read'] at folded
      exact .inl ⟨e, rfl, folded.symm⟩
    | ok d =>
      rw [read, read'] at folded
      cases folded
  | ok c =>
    cases read' : branch other key with
    | error e' =>
      rw [read, read'] at folded
      cases folded
    | ok d =>
      rw [read, read'] at folded
      exact .inr ⟨c, d, rfl, rfl, Except.ok.inj folded⟩

/-- Conditions that fold to one compile to one predicate, or fail with errors of one code. -/
theorem coded_compile (c d : Condition) (same : c.folded = d.folded) :
    coded (c.compile schema params) = coded (d.compile schema params) := by
  have resolves : coded (c.resolve schema) = coded (d.resolve schema) := coded_resolve same
  rcases coded_cases resolves with
    ⟨⟨op, field⟩, resolved, resolved'⟩ | ⟨e, f, fails, fails', code⟩
  · obtain ⟨operator, property⟩ := resolve_eq_ok_iff.mp resolved
    obtain ⟨operator', property'⟩ := resolve_eq_ok_iff.mp resolved'
    obtain ⟨-, -, values⟩ := folded_eq_iff.mp same
    rw [operator, operator'] at values
    by_cases implies : op = .implies
    · subst implies
      have payloads : c.value.foldPayload = d.value.foldPayload := by simpa using values
      have nested : ∀ key, key = "check" ∨ key = "then" →
          coded (branch c.value key >>= compile schema params) =
            coded (branch d.value key >>= compile schema params) := by
        intro key side
        rcases branch_of_foldPayload_eq side payloads with
          ⟨e, fails, fails'⟩ | ⟨c', d', read, read', alike⟩
        · rw [fails, fails']
        · -- The condition that is read here stands in a smaller value.
          have smaller := branch_value_lt read
          rw [read, read']
          exact coded_compile c' d' alike
      rw [compile_implies operator property, compile_implies operator' property',
        ← Json.members?_foldPayload c.value, payloads, Json.members?_foldPayload]
      split
      · rfl
      · exact coded_bind (nested "check" (.inl rfl)) fun check _ =>
          coded_bind (nested "then" (.inr rfl)) fun conclusion _ => rfl
    · have value : c.value = d.value := by simpa [implies] using values
      rw [compile_plain operator property implies, compile_plain operator' property' implies]
      exact coded_map (coded_fieldTest implies field value
        (coded_dynamicLiteral same value)) _
  · rw [compile_of_unresolved fails, compile_of_unresolved fails']
    exact congrArg Except.error code
termination_by sizeOf c.value

end Folded

end Condition

namespace ConditionGroup

mutual

def folded : ConditionGroup → ConditionGroup
  | mk op own groups negate => mk op (own.map Condition.folded) (foldedAll groups) negate

def foldedAll : List ConditionGroup → List ConditionGroup
  | [] => []
  | group :: rest => folded group :: foldedAll rest

end

section Folded

variable {R : Type} {schema : Schema R} {params : Parameters}

mutual

theorem coded_compile? : ∀ tree other : ConditionGroup,
    tree.folded = other.folded →
      coded (tree.compile? schema params) = coded (other.compile? schema params)
  | mk op own groups negate, mk op' own' groups' negate', same => by
    rw [folded, folded, mk.injEq] at same
    obtain ⟨rfl, conditions, children, rfl⟩ := same
    have each : own.map (fun c => coded (c.compile schema params)) =
        own'.map fun d => coded (d.compile schema params) :=
      map_eq_map_of_forall conditions fun c _ d _ alike => Condition.coded_compile c d alike
    rw [compile?, compile?]
    exact coded_bind (coded_mapM each) fun _ _ =>
      coded_bind (coded_compileAll groups groups' children) fun _ _ => rfl

theorem coded_compileAll : ∀ groups others : List ConditionGroup,
    foldedAll groups = foldedAll others →
      coded (compileAll schema params groups) = coded (compileAll schema params others)
  | [], [], _ => rfl
  | [], _ :: _, same => by cases same
  | _ :: _, [], same => by cases same
  | group :: rest, other :: others, same => by
    rw [foldedAll, foldedAll, List.cons.injEq] at same
    rw [compileAll, compileAll]
    exact coded_bind (coded_compile? group other same.1) fun _ _ =>
      coded_bind (coded_compileAll rest others same.2) fun _ _ => rfl

end

mutual

theorem properties_folded : ∀ tree : ConditionGroup,
    tree.folded.properties = tree.properties.map Text.fold
  | mk op own groups negate => by
    rw [folded, properties, properties, propertiesOf_foldedAll groups, List.map_append,
      List.map_map, List.map_map]
    rfl

theorem propertiesOf_foldedAll : ∀ groups : List ConditionGroup,
    propertiesOf (foldedAll groups) = (propertiesOf groups).map Text.fold
  | [] => rfl
  | group :: rest => by
    rw [foldedAll, propertiesOf, propertiesOf, properties_folded group,
      propertiesOf_foldedAll rest, List.map_append]

end

end Folded

end ConditionGroup

end RuleQuery
