import RuleQuery.Powers
import RuleQuery.Text.Blank
import RuleQuery.Text.Digits

namespace RuleQuery

def zeroPadded (width n : Nat) : List Char :=
  List.replicate (width - (Nat.toDigits 10 n).length) '0' ++ Nat.toDigits 10 n

theorem isDigit_of_mem_zeroPadded {width n : Nat} {c : Char} (inside : c ∈ zeroPadded width n) :
    c.isDigit = true := by
  rcases List.mem_append.mp inside with zero | digit
  · rw [List.eq_of_mem_replicate zero]
    rfl
  · exact Nat.isDigit_of_mem_toDigits (by decide) (by decide) digit

theorem zeroPadded_ne_nil (width n : Nat) : zeroPadded width n ≠ [] := by
  intro empty
  exact Nat.toDigits_ne_nil (List.append_eq_nil_iff.mp empty).2

theorem le_length_zeroPadded (width n : Nat) : width ≤ (zeroPadded width n).length := by
  rw [zeroPadded, List.length_append, List.length_replicate]
  omega

theorem length_zeroPadded {width n : Nat} (wide : 0 < width) (fits : n < pow10 width) :
    (zeroPadded width n).length = width := by
  have short : (Nat.toDigits 10 n).length ≤ width :=
    (Nat.length_toDigits_le_iff (by decide) wide).mpr fits
  rw [zeroPadded, List.length_append, List.length_replicate]
  omega

theorem takeWhile_isDigit {digits : List Char} (all : ∀ c ∈ digits, c.isDigit = true) :
    digits.takeWhile Char.isDigit = digits := by
  have taken := @List.takeWhile_append_of_pos _ Char.isDigit digits [] all
  simpa using taken

theorem decimalValue_append (front back : List Char) :
    decimalValue (front ++ back) = Nat.ofDigitChars 10 back (decimalValue front) := by
  rw [decimalValue, List.foldl_append]
  exact Nat.ofDigitChars_eq_foldl.symm

theorem decimalValue_zeroPadded (width n : Nat) : decimalValue (zeroPadded width n) = n := by
  have zeros : decimalValue (List.replicate (width - (Nat.toDigits 10 n).length) '0') = 0 := by
    rw [decimalValue, ← Nat.ofDigitChars_eq_foldl, Nat.ofDigitChars_replicate_zero, Nat.mul_zero]
  rw [zeroPadded, decimalValue_append, zeros, Nat.ofDigitChars_ten_toDigits]

theorem le_ofDigitChars (digits : List Char) (n : Nat) : n ≤ Nat.ofDigitChars 10 digits n := by
  induction digits generalizing n with
  | nil => exact Nat.le_refl n
  | cons c rest ih =>
    rw [Nat.ofDigitChars_cons]
    have later := ih (10 * n + (c.toNat - '0'.toNat))
    omega

namespace Text

theorem isBlank_of_isDigit {c : Char} (digit : c.isDigit = true) : isBlank c = false := by
  have range : 48 ≤ c.toNat ∧ c.toNat ≤ 57 := by
    simp only [Char.isDigit, Bool.and_eq_true, decide_eq_true_eq, UInt32.le_iff_toNat_le,
      ge_iff_le] at digit
    exact digit
  unfold isBlank
  simp only [Bool.or_eq_false_iff, Bool.and_eq_false_iff, decide_eq_false_iff_not,
    beq_eq_false_iff_ne]
  omega

theorem trimStart_of_not_isBlank {cs : List Char} (solid : ∀ c ∈ cs, isBlank c = false) :
    trimStart cs = cs := by
  cases cs with
  | nil => rfl
  | cons c rest =>
    rw [trimStart, List.dropWhile_cons_of_neg]
    simp [solid c List.mem_cons_self]

theorem trimChars_of_not_isBlank {cs : List Char} (solid : ∀ c ∈ cs, isBlank c = false) :
    trimChars cs = cs := by
  have backwards : ∀ c ∈ cs.reverse, isBlank c = false :=
    fun c inside => solid c (List.mem_reverse.mp inside)
  rw [trimChars, trimStart_of_not_isBlank solid, trimStart_of_not_isBlank backwards,
    List.reverse_reverse]

end Text

end RuleQuery
