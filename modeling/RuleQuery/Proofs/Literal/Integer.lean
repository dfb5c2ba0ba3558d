import RuleQuery.Literal
import RuleQuery.Proofs.Binary64.Rounding

/-!
Numbers as literals of integer fields. A number is rounded to a whole number, a half to the even
one, and a whole number of 64 bits is taken as it is. Beyond the greatest integer the first numbers
are not refused, as they have all become the float 2^63 before they are compared with the bound.
-/
namespace RuleQuery

namespace JsonNumber

/-- The number rounded to a whole number. -/
def RoundsTo : JsonNumber → Int → Prop
  | integer value _, i => i = value
  | float x _, i => Binary64.IsNearest x.signedUnits Binary64.one i

def rounded : JsonNumber → Int
  | integer value _ => value
  | float x _ => x.toIntHalfEven

theorem roundsTo_iff {n : JsonNumber} {i : Int} : n.RoundsTo i ↔ i = n.rounded := by
  cases n with
  | integer value inRange => exact Iff.rfl
  | float x finite =>
    have nearest := x.isNearest_toIntHalfEven
    constructor
    · intro rounds
      exact Binary64.isNearest_unique Binary64.one_pos rounds nearest
    · rintro rfl
      exact nearest

end JsonNumber

namespace Literal

/-- Floats from 2^63 on are multiples of 2048. -/
theorem toIntHalfEven_le_iff {x : Binary64} :
    x.toIntHalfEven ≤ greatestInteger + 1025 ↔ x.toIntHalfEven ≤ greatestInteger + 1 := by
  have bound : pow2 (53 + 10) = 0x8000000000000000 := rfl
  have step : pow2 (10 + 1) = 2048 := rfl
  simp only [greatestInteger, Binary64.toIntHalfEven]
  rcases Nat.lt_or_ge x.units (pow2 (53 + 10) * Binary64.one) with small | large
  · have low := Binary64.roundHalfEven_le Binary64.one_pos (Nat.le_of_lt small)
    split <;> omega
  · obtain ⟨m, units⟩ := Binary64.exists_units_eq large
    rw [units, step, Binary64.roundHalfEven_mul_self _ Binary64.one_pos]
    split <;> omega

/-- Whole numbers from 2^63 on become multiples of 2048. -/
theorem toIntHalfEven_ofInt {i : Int} (large : greatestInteger < i)
    (small : i < 0x10000000000000000) :
    (Binary64.ofInt i).isFinite = true ∧ leastInteger ≤ (Binary64.ofInt i).toIntHalfEven ∧
      greatestInteger < (Binary64.ofInt i).toIntHalfEven ∧
      ((Binary64.ofInt i).toIntHalfEven ≤ greatestInteger + 1 ↔ i ≤ greatestInteger + 1025) := by
  unfold greatestInteger leastInteger at *
  obtain ⟨n, rfl⟩ := Int.eq_ofNat_of_zero_le (show 0 ≤ i by omega)
  have length : n.log2 = 52 + 11 := by
    rw [Nat.log2_eq_iff (by omega)]
    omega
  have float : Binary64.ofInt n = Binary64.ofNat n := rfl
  obtain ⟨finite, value⟩ := Binary64.toIntHalfEven_ofNat length (by omega) (by decide)
  have power : pow2 11 = 2048 := rfl
  rw [float, value, power]
  refine ⟨finite, ?_⟩
  unfold Binary64.roundHalfEven
  simp only
  split
  · omega
  · split <;> omega

/-- Whole numbers of 64 bits and floats are treated alike, once rounded. -/
theorem integerOfNumber?_eq (n : JsonNumber) :
    integerOfNumber? n =
      if leastInteger ≤ n.rounded ∧ n.rounded ≤ greatestInteger + 1025 then
        some (Int64.ofInt (min n.rounded greatestInteger))
      else none := by
  cases n with
  | float x finite =>
    simp [integerOfNumber?, JsonNumber.rounded, finite, toIntHalfEven_le_iff]
  | integer i inRange =>
    have least : leastInteger ≤ i := inRange.1
    by_cases small : i ≤ greatestInteger
    · have inside : i ≤ greatestInteger + 1025 := by omega
      have taken : integer? i = some (Int64.ofInt i) := if_pos ⟨least, small⟩
      simp [integerOfNumber?, JsonNumber.rounded, taken, least, inside, Int.min_eq_left small]
    · have large : greatestInteger < i := by omega
      obtain ⟨finite, low, high, same⟩ := toIntHalfEven_ofInt large inRange.2
      have refused : integer? i = none := if_neg (by omega)
      simp [integerOfNumber?, JsonNumber.rounded, JsonNumber.toBinary64, refused, finite, low, same,
        least, Int.min_eq_right (Int.le_of_lt high), Int.min_eq_right (Int.le_of_lt large)]

variable {n : JsonNumber} {nullable : Bool} {field : String}

theorem value_of_integer {i : Int64} (read : integerOfNumber? n = some i) :
    value (.number n) ⟨.integer, nullable⟩ field = .ok (.integer i) := by
  have taken : value? (.number n) ⟨.integer, nullable⟩ = some (.integer i) := by
    simp [value?, ofNumber?, read]
  rw [value, taken]

theorem value_of_no_integer (unread : integerOfNumber? n = none) :
    value (.number n) ⟨.integer, nullable⟩ field =
      .error (.typeCoercion field ⟨.integer, nullable⟩ "number") := by
  have refused : value? (.number n) ⟨.integer, nullable⟩ = none := by
    simp [value?, ofNumber?, unread]
  rw [value, refused]
  rfl

/-- A number is taken for the integer that it rounds to, and refused if that has more than 64 bits.
The first 1025 whole numbers above are not refused: they all are taken for the greatest integer. -/
theorem number_as_integer (n : JsonNumber) (nullable : Bool) (field : String) :
    ∃ i, (∀ j, n.RoundsTo j ↔ j = i) ∧
      (leastInteger ≤ i ∧ i ≤ greatestInteger → ∃ r : Int64, r.toInt = i ∧
        value (.number n) ⟨.integer, nullable⟩ field = .ok (.integer r)) ∧
      (greatestInteger < i ∧ i ≤ greatestInteger + 1025 → ∃ r : Int64, r.toInt = greatestInteger ∧
        value (.number n) ⟨.integer, nullable⟩ field = .ok (.integer r)) ∧
      (i < leastInteger ∨ greatestInteger + 1025 < i →
        value (.number n) ⟨.integer, nullable⟩ field =
          .error (.typeCoercion field ⟨.integer, nullable⟩ "number")) := by
  have read := integerOfNumber?_eq n
  have order : leastInteger < greatestInteger := by decide
  refine ⟨n.rounded, fun j => JsonNumber.roundsTo_iff, ?_, ?_, ?_⟩
  · rintro ⟨low, high⟩
    rw [if_pos ⟨low, by omega⟩, Int.min_eq_left high] at read
    refine ⟨Int64.ofInt n.rounded, ?_, value_of_integer read⟩
    exact Int64.toInt_ofInt_of_le low (Int.lt_add_one_of_le high)
  · rintro ⟨low, high⟩
    rw [if_pos ⟨by omega, high⟩, Int.min_eq_right (Int.le_of_lt low)] at read
    exact ⟨Int64.ofInt greatestInteger, by decide, value_of_integer read⟩
  · intro outside
    rw [if_neg (by omega)] at read
    exact value_of_no_integer read

theorem greatest_taken_for_next :
    (JsonNumber.integer 0x8000000000000000 (by decide)).RoundsTo (greatestInteger + 1) ∧
      value (.number (.integer 0x8000000000000000 (by decide))) (.required .integer) "Age" =
        .ok (.integer Int64.maxValue) :=
  ⟨rfl, value_of_integer (by decide +kernel)⟩

end Literal

end RuleQuery
