import RuleQuery.Proofs.Predicate.Implication

/-!
Membership as a disjunction. A list of literals is read one by one as single literals are. So `in`
with a list is the `or` group of one equality for each literal, and `notin` is that group negated;
with no literal at all the group sets nothing, but `in` holds nowhere.
-/
namespace RuleQuery

theorem mapM_map_ok {α β γ ε : Type} {f : α → Except ε β} {g : α → Except ε γ} {k : β → γ}
    (each : ∀ a, g a = (f a).map k) (items : List α) :
    items.mapM g = (items.mapM f).map (List.map k) := by
  induction items with
  | nil => rfl
  | cons a items ih =>
    rw [List.mapM_cons, List.mapM_cons, each, ih]
    cases f a with
    | error e => rfl
    | ok b => cases items.mapM f <;> rfl

namespace ConditionGroup

variable {R : Type} {schema : Schema R} {params : Parameters}

/-- An `or` group of conditions alone, of which there is one at least. -/
theorem compile_disjunction {conditions : List Condition} (nonempty : conditions ≠ []) :
    (ofConditions .or conditions).compile schema params =
      (conditions.mapM (Condition.compile schema params)).map fun tests record =>
        tests.any fun test => test record := by
  simp only [ofConditions, compile, compile?, compileAll]
  cases done : conditions.mapM (Condition.compile schema params) with
  | error e => rfl
  | ok tests =>
    refine congrArg Except.ok (funext fun record => ?_)
    have given : tests.isEmpty = false := by
      have each := congrArg List.length (mapM_eq_ok_iff.mp done)
      rw [List.length_map, List.length_map] at each
      cases tests with
      | nil => exact absurd (List.length_eq_zero_iff.mp each) nonempty
      | cons test tests => rfl
    rw [negateIf_getD, List.append_nil, join_getD]
    simp only [LogicalOperator.combine, List.isEmpty_map, given, List.any_map]
    rfl

end ConditionGroup

namespace Condition

variable {R : Type} {schema : Schema R} {params : Parameters} {field : Field R}
  {property name within without : String}

def equalities (property name : String) (literals : List Json) : List Condition :=
  literals.map (⟨property, name, ·⟩)

theorem compile_equality (equal : Operator.ofName? name = some .equal)
    (known : schema.field? property = some field) (literal : Json) :
    compile schema params ⟨property, name, literal⟩ =
      (Literal.value literal field.type field.name).map fun expected record =>
        (field.get record).equals expected := by
  rw [compile_plain (c := ⟨property, name, literal⟩) equal known nofun]
  change (equalTest field literal).map _ = _
  unfold equalTest
  cases Literal.value literal field.type field.name <;> rfl

theorem mapM_equalities (equal : Operator.ofName? name = some .equal)
    (known : schema.field? property = some field) (literals : List Json) :
    (equalities property name literals).mapM (compile schema params) =
      (literals.mapM fun literal => Literal.value literal field.type field.name).map
        (List.map fun expected record => (field.get record).equals expected) := by
  rw [equalities, List.mapM_map]
  exact mapM_map_ok (fun literal => compile_equality equal known literal) literals

theorem membershipTest_array (op : Operator) (field : Field R) (literals : List Json) :
    membershipTest op field (.array literals) =
      (literals.mapM fun literal => Literal.value literal field.type field.name).map
        fun candidates v => v.equalsAny candidates := by
  unfold membershipTest
  simp only
  cases literals.mapM fun literal => Literal.value literal field.type field.name <;> rfl

theorem compile_member (member : Operator.ofName? within = some .isIn)
    (known : schema.field? property = some field) (literals : List Json) :
    compile schema params ⟨property, within, .array literals⟩ =
      (literals.mapM fun literal => Literal.value literal field.type field.name).map
        fun candidates record => (field.get record).equalsAny candidates := by
  rw [compile_plain (c := ⟨property, within, .array literals⟩) member known nofun]
  change (membershipTest .isIn field (.array literals)).map _ = _
  rw [membershipTest_array]
  cases literals.mapM fun literal => Literal.value literal field.type field.name <;> rfl

theorem compile_nonmember (nonmember : Operator.ofName? without = some .notIn)
    (known : schema.field? property = some field) (literals : List Json) :
    compile schema params ⟨property, without, .array literals⟩ =
      (literals.mapM fun literal => Literal.value literal field.type field.name).map
        fun candidates record => !(field.get record).equalsAny candidates := by
  rw [compile_plain (c := ⟨property, without, .array literals⟩) nonmember known nofun]
  change Except.map _ (do
    return (← membershipTest .notIn field (.array literals)).negated) = _
  rw [membershipTest_array]
  cases literals.mapM fun literal => Literal.value literal field.type field.name <;> rfl

theorem compile_equalities_of_unknown (equal : Operator.ofName? name = some .equal)
    (unknown : schema.field? property = none) {literals : List Json} (nonempty : literals ≠ []) :
    (equalities property name literals).mapM (compile schema params) =
      .error (.unknownField property schema.typeName) := by
  obtain ⟨literal, others, rfl⟩ := List.exists_cons_of_ne_nil nonempty
  rw [equalities, List.map_cons, List.mapM_cons,
    compile_of_unknown_field (c := ⟨property, name, literal⟩) equal unknown]
  rfl

theorem compile_member_eq_disjunction (member : Operator.ofName? within = some .isIn)
    (equal : Operator.ofName? name = some .equal) {literals : List Json}
    (nonempty : literals ≠ []) :
    compile schema params ⟨property, within, .array literals⟩ =
      ((equalities property name literals).mapM (compile schema params)).map
        fun tests record => tests.any fun test => test record := by
  cases known : schema.field? property with
  | none =>
    rw [compile_equalities_of_unknown equal known nonempty,
      compile_of_unknown_field (c := ⟨property, within, .array literals⟩) member known]
    rfl
  | some field =>
    rw [compile_member member known, mapM_equalities equal known]
    cases literals.mapM fun literal => Literal.value literal field.type field.name with
    | error e => rfl
    | ok candidates =>
      refine congrArg Except.ok (funext fun record => ?_)
      simp only [List.any_map]
      rfl

theorem compile_nonmember_eq_negation (member : Operator.ofName? within = some .isIn)
    (nonmember : Operator.ofName? without = some .notIn) (literals : List Json) :
    compile schema params ⟨property, without, .array literals⟩ =
      (compile schema params ⟨property, within, .array literals⟩).map
        fun test record => !test record := by
  cases known : schema.field? property with
  | none =>
    rw [compile_of_unknown_field (c := ⟨property, within, .array literals⟩) member known,
      compile_of_unknown_field (c := ⟨property, without, .array literals⟩) nonmember known]
    rfl
  | some field =>
    rw [compile_member member known, compile_nonmember nonmember known]
    cases literals.mapM fun literal => Literal.value literal field.type field.name <;> rfl

/-- Asking for membership in a list is asking for one equality for each literal, whatever the
literals are. It fails as the first of the equalities that fails, and else holds of a record if one
of them holds, as their `or` group does; asking for the opposite is the group negated. Of no literal
at all nothing is a member, though a group of no conditions holds everywhere. -/
theorem membership_is_disjunction (member : Operator.ofName? within = some .isIn)
    (nonmember : Operator.ofName? without = some .notIn)
    (equal : Operator.ofName? name = some .equal) (schema : Schema R) (params : Parameters)
    (property : String) :
    (∀ literals : List Json, literals ≠ [] →
      ((∃ test, compile schema params ⟨property, within, .array literals⟩ = .ok test) ↔
        ∀ literal ∈ literals, ∃ test, compile schema params ⟨property, name, literal⟩ = .ok test) ∧
      (∀ e, compile schema params ⟨property, within, .array literals⟩ = .error e ↔
        FirstFailure (compile schema params) (equalities property name literals) e) ∧
      (∀ test, compile schema params ⟨property, within, .array literals⟩ = .ok test →
        ∃ tests : List (Predicate R),
          (equalities property name literals).map (compile schema params) = tests.map .ok ∧
          ∀ record, test record = tests.any fun each => each record) ∧
      compile schema params ⟨property, within, .array literals⟩ =
        (ConditionGroup.ofConditions .or (equalities property name literals)).compile
          schema params ∧
      compile schema params ⟨property, without, .array literals⟩ =
        (ConditionGroup.ofConditions .or (equalities property name literals)).negated.compile
          schema params) ∧
    (∀ field, schema.field? property = some field →
      compile schema params ⟨property, within, .array []⟩ = .ok (fun _ => false) ∧
      compile schema params ⟨property, without, .array []⟩ = .ok fun _ => true) ∧
    (ConditionGroup.ofConditions .or []).compile? schema params = .ok none ∧
    (ConditionGroup.ofConditions .or []).compile schema params = .ok fun _ => true := by
  refine ⟨fun literals nonempty => ?_, fun field known => ?_, ?_, ?_⟩
  · have asEqualities : compile schema params ⟨property, within, .array literals⟩ = _ :=
      compile_member_eq_disjunction member equal nonempty
    have nonempty : equalities property name literals ≠ [] := by
      rwa [equalities, ne_eq, List.map_eq_nil_iff]
    have asGroup := asEqualities.trans (ConditionGroup.compile_disjunction nonempty).symm
    have fails : ∀ e, compile schema params ⟨property, within, .array literals⟩ = .error e ↔
        FirstFailure (compile schema params) (equalities property name literals) e := by
      intro e
      rw [asEqualities, ← mapM_eq_error_iff]
      cases (equalities property name literals).mapM (compile schema params) <;> simp [Except.map]
    refine ⟨?_, fails, fun test done => ?_, asGroup, ?_⟩
    · rw [exists_ok_iff_of_error_iff fails, equalities, List.forall_mem_map]
    · rw [asEqualities] at done
      obtain ⟨tests, each, rfl⟩ := map_eq_ok_iff.mp done
      exact ⟨tests, mapM_eq_ok_iff.mp each, fun _ => rfl⟩
    · rw [ConditionGroup.compile_negated, ← asGroup,
        compile_nonmember_eq_negation member nonmember literals]
  · rw [compile_member member known, compile_nonmember nonmember known]
    exact ⟨rfl, rfl⟩
  · simp only [ConditionGroup.ofConditions, ConditionGroup.compile?, ConditionGroup.compileAll]
    rfl
  · simp only [ConditionGroup.ofConditions, ConditionGroup.compile, ConditionGroup.compile?,
      ConditionGroup.compileAll]
    rfl

/-- An age may be missing. The first literal that is no age is the one that counts. -/
theorem ages_form_disjunction :
    (∃ holds, compile User.schema .empty ⟨"age", "IN", .array [.null, .string "30"]⟩ = .ok holds ∧
      (ConditionGroup.ofConditions .or
        (equalities "age" "Equal" [.null, .string "30"])).compile User.schema .empty = .ok holds ∧
      compile User.schema .empty ⟨"age", " notIn", .array [.null, .string "30"]⟩ =
        .ok fun user => !holds user) ∧
    compile User.schema .empty ⟨"age", "IN", .array [.string "30", .object [], .bool true]⟩ =
      .error (.typeCoercion "Age" (.optional .integer) (Json.object []).typeName) := by
  have member : Operator.ofName? "IN" = some .isIn := by decide +kernel
  have nonmember : Operator.ofName? " notIn" = some .notIn := by decide +kernel
  have equal : Operator.ofName? "Equal" = some .equal := by decide +kernel
  have age : User.schema.field? "age" = some ⟨"Age", .optional .integer, fun user =>
      User.orNull (fun age => .integer age.toInt64) user.age⟩ := rfl
  obtain ⟨each, -⟩ := membership_is_disjunction member nonmember equal User.schema .empty "age"
  constructor
  · obtain ⟨compiles, -, -, asGroup, asNegation⟩ := each [.null, .string "30"] nofun
    have fine : ∀ literal ∈ [Json.null, .string "30"], ∃ test,
        compile User.schema .empty ⟨"age", "Equal", literal⟩ = .ok test := by
      simp only [List.forall_mem_cons, compile_equality equal age]
      exact ⟨⟨_, rfl⟩, ⟨_, rfl⟩, nofun⟩
    obtain ⟨holds, done⟩ := compiles.mpr fine
    refine ⟨holds, done, asGroup.symm.trans done, asNegation.trans ?_⟩
    rw [ConditionGroup.compile_negated, ← asGroup, done]
    rfl
  · obtain ⟨-, fails, -⟩ := each [.string "30", .object [], .bool true] nofun
    refine (fails _).mpr ⟨[⟨"age", "Equal", .string "30"⟩], ⟨"age", "Equal", .object []⟩,
      [⟨"age", "Equal", .bool true⟩], rfl, fun earlier inside => ?_, ?_⟩
    · rw [List.mem_singleton.mp inside, compile_equality equal age]
      exact ⟨_, rfl⟩
    · rw [compile_equality equal age]
      rfl

end Condition

end RuleQuery
