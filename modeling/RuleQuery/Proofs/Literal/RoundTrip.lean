import RuleQuery.Literal
import RuleQuery.Proofs.Decimal.RoundTrip
import RuleQuery.Proofs.Instant.RoundTrip
import RuleQuery.Proofs.Value.Coincidence
import RuleQuery.Value.Text

namespace RuleQuery.Value

/-- Values of a kind, sequences aside. Floats have to be finite and years to have four digits, else
their document values stand for nothing. -/
inductive OfKind : FieldKind → Value → Prop where
  | bool (b : Bool) : OfKind .bool (.bool b)
  | integer (i : Int64) : OfKind .integer (.integer i)
  | float {x : Binary64} : x.isFinite = true → OfKind .float (.float x)
  | decimal (d : Decimal) : OfKind .decimal (.decimal d)
  | text (s : String) : OfKind .text (.text s)
  | timestamp {t : Instant} : t.FourDigitYear → OfKind .timestamp (.timestamp t)

def OfType (type : FieldType) (v : Value) : Prop :=
  v = .null ∧ type.acceptsNull = true ∨ OfKind type.kind v

/-- What is read for the document value of a value: the value, but for the sign of a decimal
zero. -/
def readBack : Value → Value
  | .decimal d => .decimal d.withoutSignOfZero
  | v => v

theorem integerOfNumber?_ofInt64 (i : Int64) :
    Literal.integerOfNumber? (.ofInt64 i) = some i := by
  have low := i.le_toInt
  have high := i.toInt_lt
  have whole : Literal.integer? i.toInt = some i := by
    rw [Literal.integer?, if_pos ⟨low, by unfold Literal.greatestInteger; omega⟩, Int64.ofInt_toInt]
  rw [JsonNumber.ofInt64, Literal.integerOfNumber?, whole]
  rfl

theorem value?_toJson_of_kind {kind : FieldKind} {v : Value} (of : OfKind kind v)
    (nullable : Bool) : Literal.value? v.toJson ⟨kind, nullable⟩ = some v.readBack := by
  cases of with
  | bool b => rfl
  | integer i =>
    change (Literal.integerOfNumber? (.ofInt64 i)).map integer = _
    rw [integerOfNumber?_ofInt64]
    rfl
  | float finite =>
    rename_i x
    have written : (float x).toJson = .number (.float x finite) := by
      simp [toJson, JsonNumber.ofBinary64?, finite]
    rw [written]
    rfl
  | decimal d =>
    change (Decimal.ofText? d.toText).map decimal = _
    rw [d.ofText?_toText]
    rfl
  | text s => rfl
  | timestamp four =>
    rename_i t
    change (Instant.ofText? t.toDocumentText).map timestamp = _
    rw [t.ofText?_toDocumentText four]
    rfl

/-- The document value of a field value is a literal of the field's type. -/
theorem value?_toJson {type : FieldType} {v : Value} (of : OfType type v) :
    Literal.value? v.toJson type = some v.readBack := by
  rcases of with ⟨rfl, accepted⟩ | of
  · exact if_pos accepted
  · exact value?_toJson_of_kind of type.nullable

theorem readBack_same (v : Value) : (v.readBack == v) = true := by
  cases v with
  | decimal d =>
    have value : d.withoutSignOfZero.same d = true := by
      rw [Decimal.same_iff, d.numerator_withoutSignOfZero]
      rfl
    exact value
  | _ => exact same_refl _

theorem kind?_of_ofKind {kind : FieldKind} {v : Value} (of : OfKind kind v) :
    v.kind? = some kind := by
  cases of <;> rfl

theorem equals_null (v : Value) : v.equals .null = (v == .null) := by
  cases v <;> rfl

/-- The literal tests for identity with the value that it was written for. -/
theorem equals_readBack {type : FieldType} {v w : Value} (exact : type.kind ≠ .float)
    (left : OfType type v) (right : OfType type w) : v.equals w.readBack = (v == w) := by
  have identity : v.equals w.readBack = (v == w.readBack) := by
    rcases right with ⟨rfl, -⟩ | right
    · exact equals_null v
    rcases left with ⟨rfl, -⟩ | left
    · exact equals_of_domain_ne (by decide)
    · have kind := kind?_of_ofKind left
      refine equals_eq_beq_of_kind ?_ fun float => exact ?_
      · rw [kind, kind?_of_beq (readBack_same w), kind?_of_ofKind right]
      · exact Option.some.inj (kind.symm.trans float)
  rw [identity]
  exact BEq.congr_right (readBack_same w)

theorem same_of_readBack_eq {v w : Value} (read : v.readBack = w.readBack) : (v == w) = true := by
  have back : (w.readBack == v) = true := read ▸ readBack_same v
  exact same_trans (same_symm back) (readBack_same w)

/-- A value is read back from its document value by the type of its own kind. So values of one type
are identical if their document values are, which the two zeros among the floats are not. -/
theorem toJson_reads_back {type : FieldType} {v : Value} (of : OfType type v) (field : String) :
    (∃ w, Literal.value v.toJson type field = .ok w ∧ (w == v) = true) ∧
      (∀ u, OfType type u → u.toJson = v.toJson → (u == v) = true) ∧
      (float (.zero true)).toJson.write ≠ (float (.zero false)).toJson.write := by
  have read := value?_toJson of
  refine ⟨⟨v.readBack, by rw [Literal.value, read], readBack_same v⟩, ?_, by decide +kernel⟩
  intro u alsoOf written
  apply same_of_readBack_eq
  rw [← written, value?_toJson alsoOf] at read
  exact Option.some.inj read

theorem negativeZero_reads_back :
    OfType (.optional .decimal) (decimal ⟨true, 0, 2, by decide, by decide⟩) ∧
      ∃ w, Literal.value (decimal ⟨true, 0, 2, by decide, by decide⟩).toJson (.optional .decimal)
        "Salary" = .ok w ∧ (w == decimal ⟨true, 0, 2, by decide, by decide⟩) = true :=
  ⟨.inr (.decimal _), (toJson_reads_back (.inr (.decimal _)) "Salary").1⟩

end RuleQuery.Value
