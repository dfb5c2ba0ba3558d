import RuleQuery.Decimal.Numeral
import RuleQuery.Proofs.Text.Digits

namespace RuleQuery.Decimal

theorem readDigits?_whole {digits : List Char} (all : ∀ c ∈ digits, c.isDigit = true)
    (seen : Bool) (n : Nat) (rest : List Char) (fits : Nat.ofDigitChars 10 digits n < bound) :
    readDigits? false seen n 0 (digits ++ rest) =
      readDigits? false (seen || !digits.isEmpty) (Nat.ofDigitChars 10 digits n) 0 rest := by
  induction digits generalizing seen n with
  | nil => simp
  | cons c digits ih =>
    rw [List.forall_mem_cons] at all
    rw [Nat.ofDigitChars_cons] at fits ⊢
    have below : ¬ bound ≤ 10 * n + (c.toNat - '0'.toNat) := by
      have grows := le_ofDigitChars digits (10 * n + (c.toNat - '0'.toNat))
      omega
    rw [List.cons_append, readDigits?, if_pos all.1, if_neg below]
    simp only [Bool.false_and, Bool.false_eq_true, if_false]
    rw [ih all.2 true _ fits]
    simp

/-- Digits after the point gather in the mantissa and are counted, as long as there is room. -/
theorem readDigits?_places {digits : List Char} (all : ∀ c ∈ digits, c.isDigit = true)
    (n scale : Nat) (fits : Nat.ofDigitChars 10 digits n < bound)
    (room : scale + digits.length ≤ maxScale) :
    readDigits? true true n scale digits =
      some (Nat.ofDigitChars 10 digits n, scale + digits.length) := by
  induction digits generalizing n scale with
  | nil => rfl
  | cons c digits ih =>
    rw [List.forall_mem_cons] at all
    rw [Nat.ofDigitChars_cons] at fits ⊢
    rw [List.length_cons] at room ⊢
    have below : ¬ bound ≤ 10 * n + (c.toNat - '0'.toNat) := by
      have grows := le_ofDigitChars digits (10 * n + (c.toNat - '0'.toNat))
      omega
    rw [readDigits?, if_pos all.1, if_neg below]
    by_cases last : maxScale ≤ scale + 1
    · obtain rfl : digits = [] := List.eq_nil_of_length_eq_zero (by omega)
      simp [last, cut?]
    · simp only [if_true, Bool.true_and, last, decide_false, Bool.false_eq_true, if_false]
      rw [ih all.2 _ (scale + 1) fits (by omega), Nat.add_assoc, Nat.add_comm 1]

section Text

variable (d : Decimal)

def digits : List Char := zeroPadded (d.scale + 1) d.mantissa

def wholeDigits : List Char := d.digits.take (d.digits.length - d.scale)

def placeDigits : List Char := d.digits.drop (d.digits.length - d.scale)

theorem toList_toText : d.toText.toList =
    (if d.negative then ['-'] else []) ++ d.wholeDigits ++
      (if d.scale = 0 then [] else '.' :: d.placeDigits) := by
  have sign : (if d.negative then "-" else "").toList = if d.negative then ['-'] else [] := by
    cases d.negative <;> rfl
  have places : (if d.scale = 0 then "" else "." ++ String.ofList d.placeDigits).toList =
      if d.scale = 0 then [] else '.' :: d.placeDigits := by
    split
    · rfl
    · simp [String.toList_append]
  have digits : List.replicate (d.scale + 1 - (toString d.mantissa).toList.length) '0' ++
      (toString d.mantissa).toList = d.digits := by
    rw [Nat.toString_eq_repr, Nat.toList_repr]
    rfl
  unfold toText
  simp only [digits]
  rw [String.toList_append, String.toList_append, String.toList_ofList, sign]
  exact congrArg _ places

theorem isDigit_of_mem_wholeDigits {c : Char} (inside : c ∈ d.wholeDigits) : c.isDigit = true :=
  isDigit_of_mem_zeroPadded (List.mem_of_mem_take inside)

theorem isDigit_of_mem_placeDigits {c : Char} (inside : c ∈ d.placeDigits) : c.isDigit = true :=
  isDigit_of_mem_zeroPadded (List.mem_of_mem_drop inside)

theorem length_digits : d.scale + 1 ≤ d.digits.length := le_length_zeroPadded _ _

theorem wholeDigits_ne_nil : d.wholeDigits ≠ [] := by
  have long := d.length_digits
  apply List.ne_nil_of_length_pos
  rw [wholeDigits, List.length_take]
  omega

theorem length_placeDigits : d.placeDigits.length = d.scale := by
  have long := d.length_digits
  rw [placeDigits, List.length_drop]
  omega

theorem ofDigitChars_digits :
    Nat.ofDigitChars 10 d.placeDigits (Nat.ofDigitChars 10 d.wholeDigits 0) = d.mantissa := by
  have joined := decimalValue_append d.wholeDigits d.placeDigits
  rw [wholeDigits, placeDigits, List.take_append_drop, digits, decimalValue_zeroPadded,
    decimalValue, ← Nat.ofDigitChars_eq_foldl] at joined
  exact joined.symm

theorem readDigits?_toText :
    readDigits? false false 0 0
        (d.wholeDigits ++ if d.scale = 0 then [] else '.' :: d.placeDigits) =
      some (d.mantissa, d.scale) := by
  have value := d.ofDigitChars_digits
  have fits : Nat.ofDigitChars 10 d.placeDigits (Nat.ofDigitChars 10 d.wholeDigits 0) < bound := by
    rw [value]
    exact d.mantissa_lt
  have wholeFits : Nat.ofDigitChars 10 d.wholeDigits 0 < bound :=
    Nat.lt_of_le_of_lt (le_ofDigitChars _ _) fits
  have started : (false || !d.wholeDigits.isEmpty) = true := by
    simpa using d.wholeDigits_ne_nil
  rw [readDigits?_whole (fun _ => d.isDigit_of_mem_wholeDigits) _ _ _ wholeFits, started]
  by_cases noPlaces : d.scale = 0
  · have none : d.placeDigits = [] :=
      List.eq_nil_of_length_eq_zero (d.length_placeDigits.trans noPlaces)
    rw [none, Nat.ofDigitChars_nil] at value
    rw [if_pos noPlaces, value, noPlaces]
    rfl
  · rw [if_neg noPlaces, readDigits?, if_neg (by decide), if_pos (by decide)]
    rw [readDigits?_places (fun _ => d.isDigit_of_mem_placeDigits) _ _ fits, value,
      d.length_placeDigits, Nat.zero_add]
    rw [d.length_placeDigits, Nat.zero_add]
    exact d.scale_le

def withoutSignOfZero : Decimal := { d with negative := d.negative && d.mantissa != 0 }

theorem splitSign_toText : splitSign d.toText.toList =
    (d.negative, d.wholeDigits ++ if d.scale = 0 then [] else '.' :: d.placeDigits) := by
  rw [toList_toText]
  cases d.negative with
  | true => rfl
  | false =>
    cases whole : d.wholeDigits with
    | nil => exact absurd whole d.wholeDigits_ne_nil
    | cons c rest =>
      have digit := d.isDigit_of_mem_wholeDigits (whole ▸ List.mem_cons_self)
      unfold splitSign
      split
      · rename_i same
        cases same
        cases digit
      · rename_i same
        cases same
        cases digit
      · rfl

theorem ofPlain?_toText : ofPlain? d.toText.toList = some d.withoutSignOfZero := by
  rw [ofPlain?, splitSign_toText]
  simp only [readDigits?_toText, Option.bind_eq_bind, Option.bind_some, ofParts?]
  rw [dif_pos ⟨d.mantissa_lt, d.scale_le⟩]
  rfl

theorem not_isBlank_of_mem_toText {c : Char} (inside : c ∈ d.toText.toList) :
    Text.isBlank c = false := by
  rw [toList_toText] at inside
  rcases List.mem_append.mp inside with front | places
  · rcases List.mem_append.mp front with sign | whole
    · split at sign
      · rw [List.mem_singleton.mp sign]
        rfl
      · cases sign
    · exact Text.isBlank_of_isDigit (d.isDigit_of_mem_wholeDigits whole)
  · split at places
    · cases places
    · rcases List.mem_cons.mp places with rfl | place
      · rfl
      · exact Text.isBlank_of_isDigit (d.isDigit_of_mem_placeDigits place)

theorem ofText?_toText : ofText? d.toText = some d.withoutSignOfZero := by
  have untrimmed : Text.trim d.toText = d.toText := by
    rw [Text.trim, Text.trimChars_of_not_isBlank fun _ => d.not_isBlank_of_mem_toText,
      String.ofList_toList]
  rw [ofText?, untrimmed, ofNumeral?, ofPlain?_toText, Option.some_or]

theorem numerator_withoutSignOfZero : d.withoutSignOfZero.numerator = d.numerator := by
  unfold numerator withoutSignOfZero
  by_cases vanishes : d.mantissa = 0
  · simp [vanishes]
  · simp [vanishes]

end Text

end RuleQuery.Decimal
