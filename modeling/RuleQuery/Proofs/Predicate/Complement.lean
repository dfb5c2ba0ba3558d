import RuleQuery.Proofs.Predicate.Dynamic

namespace RuleQuery

namespace Operator

/-- The second operator asks for the opposite of what the first one asks for. -/
inductive Opposite : Operator → Operator → Prop where
  | equal : Opposite equal notEqual
  | isIn : Opposite isIn notIn
  | contains : Opposite contains notContains
  | null : Opposite null notNull
  | empty : Opposite empty notEmpty
  | nullOrEmpty : Opposite nullOrEmpty notNullOrEmpty

theorem Opposite.ne_implies {op opposite : Operator} (pair : Opposite op opposite) :
    op ≠ .implies ∧ opposite ≠ .implies := by
  cases pair <;> exact ⟨nofun, nofun⟩

end Operator

namespace QueryError

/-- The error with another operator in the place of the one that it names. -/
def about (op : Operator) : QueryError → QueryError
  | operatorTypeMismatch _ field type => operatorTypeMismatch op field type
  | invalidPayload _ fault => invalidPayload op fault
  | e => e

@[simp] theorem code_about (op : Operator) (e : QueryError) : (e.about op).code = e.code := by
  cases e <;> rfl

end QueryError

theorem Literal.about_of_value {literal : Json} {type : FieldType} {field : String}
    {e : QueryError} (fails : value literal type field = .error e) (op : Operator) :
    e.about op = e := by
  unfold value at fails
  split at fails <;> cases fails
  rfl

namespace Condition

variable {R : Type} {schema : Schema R} {params : Parameters} {field : Field R}
  {op opposite : Operator} {property name other : String} {literal : Json}

section Tests

variable (field) (op opposite) (literal)

theorem equalTest_about :
    (equalTest field literal).mapError (·.about opposite) = equalTest field literal := by
  unfold equalTest
  cases read : Literal.value literal field.type field.name with
  | ok expected => rfl
  | error e => exact congrArg Except.error (Literal.about_of_value read opposite)

theorem membershipTest_about :
    (membershipTest op field literal).mapError (·.about opposite) =
      membershipTest opposite field literal := by
  cases literal with
  | array items =>
    unfold membershipTest
    simp only
    cases read : items.mapM fun item => Literal.value item field.type field.name with
    | ok candidates => rfl
    | error e =>
      obtain ⟨_, item, _, -, -, fails⟩ := mapM_eq_error_iff.mp read
      exact congrArg Except.error (Literal.about_of_value fails opposite)
  | _ => rfl

theorem operand_about :
    (operand op field literal).mapError (·.about opposite) = operand opposite field literal := by
  unfold operand Literal.text?
  cases read : Literal.value literal (.required .text) field.name with
  | ok v => cases v <;> rfl
  | error e => exact congrArg Except.error (Literal.about_of_value read opposite)

theorem containmentTest_about :
    (containmentTest op field literal).mapError (·.about opposite) =
      containmentTest opposite field literal := by
  unfold containmentTest textTest
  split
  · rw [← operand_about field op opposite]
    cases operand op field literal <;> rfl
  · rfl

theorem emptinessTest_about :
    (emptinessTest op field).mapError (·.about opposite) = emptinessTest opposite field := by
  unfold emptinessTest
  split <;> rfl

end Tests

theorem negated_about {made others : Except QueryError Test}
    (same : made.mapError (·.about opposite) = others) :
    (do return (← others).negated : Except QueryError Test) =
      (made.map Test.negated).mapError (·.about opposite) := by
  subst same
  cases made <;> rfl

theorem fieldTest_opposite (name : String) (pair : op.Opposite opposite)
    (plain : op ≠ .implies) (plainOpposite : opposite ≠ .implies) :
    fieldTest params field ⟨property, other, literal⟩ opposite plainOpposite =
      ((fieldTest params field ⟨property, name, literal⟩ op plain).map Test.negated).mapError
        (·.about opposite) := by
  cases pair with
  | equal => exact negated_about (equalTest_about field .notEqual literal)
  | isIn => exact negated_about (membershipTest_about field .isIn .notIn literal)
  | contains => exact negated_about (containmentTest_about field .contains .notContains literal)
  | null => rfl
  | empty => exact negated_about (emptinessTest_about field .empty .notEmpty)
  | nullOrEmpty => rfl

/-- The opposite condition is the negation, up to the operator in an error. -/
theorem compile_opposite (pair : op.Opposite opposite)
    (asks : Operator.ofName? name = some op) (denies : Operator.ofName? other = some opposite) :
    compile schema params ⟨property, other, literal⟩ =
      ((compile schema params ⟨property, name, literal⟩).map
        fun test record => !test record).mapError (·.about opposite) := by
  obtain ⟨plain, plainOpposite⟩ := pair.ne_implies
  cases known : schema.field? property with
  | none =>
    rw [compile_of_unknown_field (c := ⟨property, name, literal⟩) asks known,
      compile_of_unknown_field (c := ⟨property, other, literal⟩) denies known]
    rfl
  | some field =>
    rw [compile_plain (c := ⟨property, name, literal⟩) asks known plain,
      compile_plain (c := ⟨property, other, literal⟩) denies known plainOpposite,
      fieldTest_opposite name pair plain plainOpposite]
    cases fieldTest params field ⟨property, name, literal⟩ op plain <;> rfl

/-- Of two operators that deny each other either both conditions fail, with errors that differ in
the operator only and so have one code, or both compile, and every list of records is split by them,
whatever values its records hold. -/
theorem opposites_split_records (pair : op.Opposite opposite)
    (asks : Operator.ofName? name = some op) (denies : Operator.ofName? other = some opposite)
    (schema : Schema R) (params : Parameters) (property : String) (literal : Json) :
    (∃ e, compile schema params ⟨property, name, literal⟩ = .error e ∧
      compile schema params ⟨property, other, literal⟩ = .error (e.about opposite) ∧
      (e.about opposite).code = e.code) ∨
    ∃ holds fails, compile schema params ⟨property, name, literal⟩ = .ok holds ∧
      compile schema params ⟨property, other, literal⟩ = .ok fails ∧
      (∀ record, fails record = !holds record) ∧
      ∀ records : List R, (records.filter holds ++ records.filter fails).Perm records ∧
        ∀ record ∈ records.filter holds, record ∉ records.filter fails := by
  rw [compile_opposite pair asks denies]
  cases compile schema params ⟨property, name, literal⟩ with
  | error e => exact .inl ⟨e, rfl, rfl, QueryError.code_about opposite e⟩
  | ok holds =>
    refine .inr ⟨holds, fun record => !holds record, rfl, rfl, fun _ => rfl, fun records =>
      ⟨List.filter_append_perm holds records, fun record inside outside => ?_⟩⟩
    have held := (List.mem_filter.mp inside).2
    have denied := (List.mem_filter.mp outside).2
    simp [held] at denied

/-- An address is asked for and denied, and may be missing; a null is no text to ask for. -/
theorem addresses_split_users :
    ((∃ holds fails,
        compile User.schema .empty ⟨"email", " Contains", .string "@home"⟩ = .ok holds ∧
        compile User.schema .empty ⟨"email", "NOTCONTAINS", .string "@home"⟩ = .ok fails ∧
        ∀ users : List User, (users.filter holds ++ users.filter fails).Perm users) ∧
      ∃ e f, compile User.schema .empty ⟨"email", " Contains", .null⟩ = .error e ∧
        compile User.schema .empty ⟨"email", "NOTCONTAINS", .null⟩ = .error f ∧ e ≠ f ∧
        e.code = f.code) := by
  have asks : Operator.ofName? " Contains" = some .contains := by decide +kernel
  have denies : Operator.ofName? "NOTCONTAINS" = some .notContains := by decide +kernel
  have email : User.schema.field? "email" =
      some ⟨"Email", .optional .text, fun user => User.orNull .text user.email⟩ := rfl
  have split := opposites_split_records .contains asks denies User.schema .empty "email"
  constructor
  · have asked : compile User.schema .empty ⟨"email", " Contains", .string "@home"⟩ = _ :=
      compile_plain (c := ⟨"email", " Contains", .string "@home"⟩) asks email nofun
    rcases split (.string "@home") with ⟨e, failed, -⟩ | ⟨holds, fails, done, others, -, parts⟩
    · cases asked.symm.trans failed
    · exact ⟨holds, fails, done, others, fun users => (parts users).1⟩
  · have asked : compile User.schema .empty ⟨"email", " Contains", .null⟩ =
        .error (.invalidPayload .contains .missingOperand) :=
      compile_plain (c := ⟨"email", " Contains", .null⟩) asks email nofun
    rcases split .null with ⟨e, failed, others, code⟩ | ⟨holds, -, done, -⟩
    · obtain rfl := Except.error.inj (asked.symm.trans failed)
      exact ⟨_, _, failed, others, nofun, code.symm⟩
    · cases asked.symm.trans done

end Condition

end RuleQuery
