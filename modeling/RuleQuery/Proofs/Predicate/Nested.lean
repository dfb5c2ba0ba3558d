import RuleQuery.Predicate.Basic
import RuleQuery.Proofs.Sequence

namespace RuleQuery.Condition

/-- The second condition is the first one, or stands under `Check` or `Then` of an `if` in it, at
any depth. -/
inductive Reaches : Condition → Condition → Prop where
  | self (c : Condition) : Reaches c c
  | branch {c d : Condition} {key property operator : String} {nested : Json} :
      Operator.ofName? c.operator = some .implies → key = "check" ∨ key = "then" →
      c.value.member? key = some nested →
      (nested.member? "property").bind Json.text? = some property →
      (nested.member? "operator").bind Json.text? = some operator →
      Reaches ⟨property, operator, (nested.member? "value").getD .null⟩ d → Reaches c d

variable {R : Type} {schema : Schema R} {params : Parameters} {c d : Condition}

def Resolves (schema : Schema R) (c : Condition) : Prop :=
  (∃ op, Operator.ofName? c.operator = some op) ∧ ∃ field, schema.field? c.property = some field

theorem resolve_eq_ok_iff {op : Operator} {field : Field R} :
    c.resolve schema = .ok (op, field) ↔
      Operator.ofName? c.operator = some op ∧ schema.field? c.property = some field := by
  unfold resolve
  split
  · simp_all
  · split <;> simp_all

theorem branch_eq_ok {payload nested : Json} {key property operator : String}
    (found : payload.member? key = some nested)
    (propertyGiven : (nested.member? "property").bind Json.text? = some property)
    (operatorGiven : (nested.member? "operator").bind Json.text? = some operator) :
    branch payload key = .ok ⟨property, operator, (nested.member? "value").getD .null⟩ := by
  simp [branch, found, propertyGiven, operatorGiven, pure, Except.pure]

theorem exists_of_branch_eq_ok {payload : Json} {key : String} {nestedCondition : Condition}
    (read : branch payload key = .ok nestedCondition) :
    ∃ nested property operator, payload.member? key = some nested ∧
      (nested.member? "property").bind Json.text? = some property ∧
      (nested.member? "operator").bind Json.text? = some operator ∧
      nestedCondition = ⟨property, operator, (nested.member? "value").getD .null⟩ := by
  unfold branch at read
  split at read
  · rename_i nested found
    split at read
    · rename_i property propertyGiven
      split at read
      · rename_i operator operatorGiven
        cases read
        exact ⟨nested, property, operator, found, propertyGiven, operatorGiven, rfl⟩
      · cases read
    · cases read
  · cases read

/-- Whatever a condition under `Check` or `Then` reaches, the `if` around it reaches. -/
theorem reaches_of_branch {key : String} {nestedCondition : Condition}
    (operator : Operator.ofName? c.operator = some .implies) (side : key = "check" ∨ key = "then")
    (read : branch c.value key = .ok nestedCondition) (reaches : nestedCondition.Reaches d) :
    c.Reaches d := by
  obtain ⟨nested, property, name, found, propertyGiven, operatorGiven, rfl⟩ :=
    exists_of_branch_eq_ok read
  exact .branch operator side found propertyGiven operatorGiven reaches

theorem compileBranch_eq (payload : Json) (key : String) :
    compileBranch payload (fun c _ => compile schema params c) key =
      branch payload key >>= compile schema params := by
  unfold compileBranch
  split <;> simp [*, bind, Except.bind]

/-- An `if` is compiled branch by branch, whatever field it names. -/
theorem compile_implies {field : Field R} (operator : Operator.ofName? c.operator = some .implies)
    (property : schema.field? c.property = some field) :
    c.compile schema params =
      if c.value.members?.isNone then .error (.invalidPayload .implies .notImplication)
      else do
        let check ← branch c.value "check" >>= compile schema params
        let conclusion ← branch c.value "then" >>= compile schema params
        return fun record => !check record || conclusion record := by
  rw [compile, resolve_eq_ok_iff.mpr ⟨operator, property⟩]
  simp only [← compileBranch_eq]
  change implication c.value _ = _
  unfold implication
  split <;> rfl

theorem compile_plain {op : Operator} {field : Field R}
    (operator : Operator.ofName? c.operator = some op)
    (property : schema.field? c.property = some field) (plain : op ≠ .implies) :
    c.compile schema params =
      (fieldTest params field c op plain).map fun test record => test (field.get record) := by
  rw [compile, resolve_eq_ok_iff.mpr ⟨operator, property⟩]
  change compileResolved params c op field _ = _
  rw [compileResolved, dif_neg plain]

theorem compile_equal {field : Field R} {expected : Value}
    (operator : Operator.ofName? c.operator = some .equal)
    (property : schema.field? c.property = some field)
    (read : Literal.value? c.value field.type = some expected) :
    c.compile schema params = .ok fun record => (field.get record).equals expected := by
  have test : fieldTest params field c .equal nofun = .ok fun v => v.equals expected := by
    change Literal.value c.value field.type field.name >>= _ = _
    rw [Literal.value, read]
    rfl
  rw [compile_plain operator property nofun, test]
  rfl

theorem resolves_of_compile {test : Predicate R} (compiled : c.compile schema params = .ok test) :
    c.Resolves schema := by
  rw [compile] at compiled
  obtain ⟨⟨op, field⟩, resolved, -⟩ := bind_eq_ok_iff.mp compiled
  obtain ⟨operator, property⟩ := resolve_eq_ok_iff.mp resolved
  exact ⟨⟨op, operator⟩, field, property⟩

theorem compile_branch_of_implies {test : Predicate R} {key : String} {nested : Condition}
    (compiled : c.compile schema params = .ok test)
    (operator : Operator.ofName? c.operator = some .implies) (side : key = "check" ∨ key = "then")
    (read : branch c.value key = .ok nested) :
    ∃ inner, nested.compile schema params = .ok inner := by
  obtain ⟨-, field, property⟩ := resolves_of_compile compiled
  rw [compile_implies operator property] at compiled
  split at compiled
  · cases compiled
  obtain ⟨check, checkDone, compiled⟩ := bind_eq_ok_iff.mp compiled
  obtain ⟨conclusion, conclusionDone, -⟩ := bind_eq_ok_iff.mp compiled
  rcases side with rfl | rfl
  · rw [read] at checkDone
    exact ⟨check, checkDone⟩
  · rw [read] at conclusionDone
    exact ⟨conclusion, conclusionDone⟩

theorem compile_of_reaches (reaches : Reaches c d)
    (compiled : ∃ test, c.compile schema params = .ok test) :
    ∃ test, d.compile schema params = .ok test := by
  induction reaches with
  | self => exact compiled
  | branch operator side found propertyGiven operatorGiven _ ih =>
    obtain ⟨test, compiled⟩ := compiled
    have read := branch_eq_ok found propertyGiven operatorGiven
    exact ih (compile_branch_of_implies compiled operator side read)

end RuleQuery.Condition
