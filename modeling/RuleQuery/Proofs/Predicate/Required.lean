import RuleQuery.Proofs.Predicate.Dynamic
import RuleQuery.Proofs.Text.Sigma

/-!
Texts that a count operator requires. A required text is looked for in lower case, and so is every
text that it is looked for in. It is found wherever it stands as it is exactly if its capital sigmas
are settled; then a record that has it is not dropped for want of it.
-/
namespace RuleQuery

namespace Condition

theorem countPayload_eq_ok_iff {op : Operator} {payload : Json} {pattern : Pattern}
    {threshold : Binary64} : countPayload op payload = .ok (pattern, threshold) ↔
      payload.members?.isNone = false ∧
      (∃ target, (payload.member? "target").bind Json.text? = some target ∧
        Pattern.ofText? target = some pattern) ∧
      (payload.member? "threshold").bind threshold? = some threshold := by
  unfold countPayload
  cases payload.members?.isNone with
  | true => simp [bind, Except.bind, throw, throwThe, MonadExceptOf.throw]
  | false =>
    cases (payload.member? "target").bind Json.text? with
    | none => simp [throw, throwThe, MonadExceptOf.throw]
    | some target =>
      cases read : Pattern.ofText? target with
      | none => simp [read, throw, throwThe, MonadExceptOf.throw]
      | some pattern =>
        cases (payload.member? "threshold").bind threshold? with
        | none => simp [read, throw, throwThe, MonadExceptOf.throw]
        | some threshold => simp [read, pure, Except.pure]

variable {R : Type} {schema : Schema R} {params : Parameters} {c : Condition} {field : Field R}

/-- A count with a required text is the count alone and the search for the text. -/
theorem compile_required {predicate : Predicate R}
    (operator : Operator.ofName? c.operator = some .mustContainIfCountIsGreater)
    (property : schema.field? c.property = some field)
    (compiled : c.compile schema params = .ok predicate) :
    ∃ required more, (c.value.member? "required").bind Json.text? = some required ∧
      (c.asking .containIfCountIsGreater c.value).compile schema params = .ok more ∧
      ∀ record, predicate record =
        (more record && (field.get record).containsIgnoringCase required) := by
  rw [compile_plain operator property nofun] at compiled
  obtain ⟨test, done, rfl⟩ := map_eq_ok_iff.mp compiled
  change requiredCountTest .mustContainIfCountIsGreater c.value = _ at done
  unfold requiredCountTest at done
  obtain ⟨⟨pattern, threshold⟩, read, done⟩ := bind_eq_ok_iff.mp done
  have counts : countPayload .containIfCountIsGreater c.value = .ok (pattern, threshold) :=
    countPayload_eq_ok_iff.mpr (countPayload_eq_ok_iff.mp read)
  simp only at done
  split at done
  · rename_i required given
    cases done
    refine ⟨required, fun record => countIs .gt pattern threshold (field.get record), given, ?_,
      fun _ => rfl⟩
    have alone : fieldTest params field (c.asking .containIfCountIsGreater c.value)
        .containIfCountIsGreater nofun = .ok (countIs .gt pattern threshold) := by
      change countTest .containIfCountIsGreater .gt c.value = _
      rw [countTest, counts]
      rfl
    rw [compile_plain (c := c.asking .containIfCountIsGreater c.value) (Operator.ofName?_name _)
      property nofun, alone]
    rfl
  · cases done

end Condition

namespace Value

theorem containsIgnoringCase_iff {v : Value} {part : String} : v.containsIgnoringCase part = true ↔
    Text.lowerBetween [] part.toList [] <:+: Text.lowerBetween [] v.toText.toList [] := by
  rw [containsIgnoringCase, Text.contains_iff, Text.toList_lower, Text.toList_lower]

/-- Which texts are found ignoring case wherever they stand: those whose capital sigmas are settled
in them, such as all texts without one. A count operator that requires such a text says of a record
that has it what the operator without the requirement says. -/
theorem settled_texts_are_found (part : String) :
    ((∀ s, Text.contains s part = true → (text s).containsIgnoringCase part = true) ↔
      Text.Settled part.toList) ∧
    ('Σ' ∉ part.toList → Text.Settled part.toList) ∧
    (Text.Settled part.toList → ∀ {R : Type} (schema : Schema R) (params : Parameters)
      (c : Condition) (predicate : Predicate R),
      Operator.ofName? c.operator = some .mustContainIfCountIsGreater →
      (c.value.member? "required").bind Json.text? = some part →
      c.compile schema params = .ok predicate →
      ∃ field more, schema.field? c.property = some field ∧
        (c.asking .containIfCountIsGreater c.value).compile schema params = .ok more ∧
        ∀ record, Text.contains (field.get record).toText part = true →
          predicate record = more record) := by
  refine ⟨?_, ?_, ?_⟩
  · rw [Text.settled_iff]
    constructor
    · intro found whole inside
      have named := found (String.ofList whole)
      rw [Text.contains_iff, containsIgnoringCase_iff, toText, String.toList_ofList] at named
      exact named inside
    · intro found s inside
      exact containsIgnoringCase_iff.mpr (found s.toList (Text.contains_iff.mp inside))
  · intro absent front back split
    rw [split] at absent
    exact absurd (by simp) absent
  · intro settled R schema params c predicate operator given compiled
    obtain ⟨-, field, property⟩ := Condition.resolves_of_compile compiled
    obtain ⟨required, more, given', alone, agrees⟩ :=
      Condition.compile_required operator property compiled
    obtain rfl : part = required := Option.some.inj (given.symm.trans given')
    refine ⟨field, more, property, alone, fun record inside => ?_⟩
    have found : (field.get record).containsIgnoringCase part = true :=
      containsIgnoringCase_iff.mpr
        (Text.lower_infix_of_settled settled (Text.contains_iff.mp inside))
    rw [agrees record, found, Bool.and_true]

/-- At the end of a word the sigma of the part is final, which it is not where the word goes on. -/
theorem contained_word_start_is_missed :
    Text.contains "ΜΕΣΑ" "ΜΕΣ" = true ∧ (text "ΜΕΣΑ").containsIgnoringCase "ΜΕΣ" = false := by
  decide +kernel

end Value

end RuleQuery
