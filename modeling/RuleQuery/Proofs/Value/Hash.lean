import RuleQuery.Proofs.Binary64.Magnitude
import RuleQuery.Proofs.Value.Identity

/-!
What a hash sees of values and keys. Identical ones feed it the same words: floats are identical by
their bits alone, which is how their total order tells them apart, and decimals of one value have
one form without trailing zeros.
-/
namespace RuleQuery

namespace Binary64

/-- The place of a bit pattern in the total order of floats: negative ones come first and in
reverse, the zeros are apart, and patterns that are no numbers stand at both ends. -/
def totalRank (x : Binary64) : Int :=
  if x.negative then -(x.magnitudeBits : Int) - 1 else x.magnitudeBits

def totalCompare (x y : Binary64) : Ordering := Ord.compare x.totalRank y.totalRank

theorem totalRank_inj {x y : Binary64} (same : x.totalRank = y.totalRank) : x = y := by
  have parts : x.negative = y.negative ∧ x.magnitudeBits = y.magnitudeBits := by
    unfold totalRank at same
    cases negX : x.negative <;> cases negY : y.negative <;> simp [negX, negY] at same ⊢ <;> omega
  exact eq_of_parts parts.1 parts.2

theorem totalCompare_eq_iff {x y : Binary64} : x.totalCompare y = .eq ↔ x = y := by
  rw [totalCompare, Int.compare_eq_eq]
  exact ⟨totalRank_inj, congrArg totalRank⟩

end Binary64

namespace Decimal

variable {a b : Decimal}

/-- Trailing zeros are given up together with places, and as far as either goes. -/
theorem stripZeros_spec (mantissa scale : Nat) :
    mantissa * pow10 (stripZeros mantissa scale).2 =
      (stripZeros mantissa scale).1 * pow10 scale ∧
    ((stripZeros mantissa scale).2 = 0 ∨ (stripZeros mantissa scale).1 % 10 ≠ 0) := by
  induction scale generalizing mantissa with
  | zero => simp [stripZeros]
  | succ scale ih =>
    unfold stripZeros
    split
    · rename_i trailing
      obtain ⟨value, reduced⟩ := ih (mantissa / 10)
      have tens : mantissa = mantissa / 10 * 10 := by omega
      refine ⟨?_, reduced⟩
      calc mantissa * pow10 (stripZeros (mantissa / 10) scale).2
          = mantissa / 10 * 10 * pow10 (stripZeros (mantissa / 10) scale).2 := by rw [← tens]
        _ = mantissa / 10 * pow10 (stripZeros (mantissa / 10) scale).2 * 10 :=
            Nat.mul_right_comm ..
        _ = (stripZeros (mantissa / 10) scale).1 * pow10 (scale + 1) := by
            rw [value, pow10_succ, Nat.mul_assoc]
    · exact ⟨rfl, .inr ‹_›⟩

/-- A form without trailing zeros has no more places than any other of the same value. -/
theorem scale_le_of_reduced {m n s t : Nat} (same : m * pow10 t = n * pow10 s)
    (reduced : s = 0 ∨ m % 10 ≠ 0) : s ≤ t := by
  apply Nat.le_of_not_lt
  intro more
  obtain ⟨k, rfl⟩ := Nat.exists_eq_add_of_lt more
  have tens : m = n * pow10 k * 10 := by
    apply Nat.eq_of_mul_eq_mul_right (pow10_pos t)
    calc m * pow10 t = n * pow10 (t + k + 1) := same
      _ = n * (pow10 t * pow10 k * 10) := by rw [pow10_succ, pow10, Nat.pow_eq, Nat.pow_add]; rfl
      _ = n * pow10 k * 10 * pow10 t := by
          rw [Nat.mul_comm (pow10 t), ← Nat.mul_assoc, ← Nat.mul_assoc, Nat.mul_right_comm]
  omega

theorem reduced_unique {m n s t : Nat} (same : m * pow10 t = n * pow10 s)
    (first : s = 0 ∨ m % 10 ≠ 0) (second : t = 0 ∨ n % 10 ≠ 0) : (m, s) = (n, t) := by
  obtain rfl : s = t :=
    Nat.le_antisymm (scale_le_of_reduced same first) (scale_le_of_reduced same.symm second)
  rw [Nat.eq_of_mul_eq_mul_right (pow10_pos s) same]

theorem stripZeros_eq_of_same {m n s t : Nat} (same : m * pow10 t = n * pow10 s) :
    stripZeros m s = stripZeros n t := by
  obtain ⟨valueM, reducedM⟩ := stripZeros_spec m s
  obtain ⟨valueN, reducedN⟩ := stripZeros_spec n t
  refine reduced_unique ?_ reducedM reducedN
  generalize stripZeros m s = first at *
  generalize stripZeros n t = second at *
  apply Nat.eq_of_mul_eq_mul_right (Nat.mul_pos (pow10_pos s) (pow10_pos t))
  calc first.1 * pow10 second.2 * (pow10 s * pow10 t)
      = first.1 * pow10 s * pow10 t * pow10 second.2 := by ac_rfl
    _ = m * pow10 t * pow10 first.2 * pow10 second.2 := by rw [← valueM]; ac_rfl
    _ = n * pow10 second.2 * pow10 s * pow10 first.2 := by rw [same]; ac_rfl
    _ = second.1 * pow10 first.2 * (pow10 s * pow10 t) := by rw [valueN]; ac_rfl

theorem natAbs_numerator (d : Decimal) : d.numerator.natAbs = d.mantissa := by
  unfold numerator
  split <;> omega

/-- Decimals of one value have one canonical form. -/
theorem canonical_eq_of_same (same : a.same b = true) : a.canonical = b.canonical := by
  have value := same_iff.mp same
  have magnitudes : a.mantissa * pow10 b.scale = b.mantissa * pow10 a.scale := by
    have natAbs := congrArg Int.natAbs value
    rwa [Int.natAbs_mul, Int.natAbs_mul, natAbs_numerator, natAbs_numerator, Int.natAbs_natCast,
      Int.natAbs_natCast] at natAbs
  have positiveA := pow10_pos a.scale
  have positiveB := pow10_pos b.scale
  unfold canonical
  by_cases zero : a.mantissa = 0
  · have zeroB : b.mantissa = 0 := by
      rw [zero, Nat.zero_mul] at magnitudes
      exact (Nat.mul_eq_zero.mp magnitudes.symm).resolve_right (Nat.ne_of_gt positiveA)
    rw [if_pos zero, if_pos zeroB]
  · have nonzero : b.mantissa ≠ 0 := by
      intro zeroB
      rw [zeroB, Nat.zero_mul] at magnitudes
      exact (Nat.mul_eq_zero.mp magnitudes).elim zero (Nat.ne_of_gt positiveB)
    have signs : a.negative = b.negative := by
      have left := Nat.mul_pos (Nat.pos_of_ne_zero zero) positiveB
      have right := Nat.mul_pos (Nat.pos_of_ne_zero nonzero) positiveA
      unfold numerator at value
      cases negA : a.negative <;> cases negB : b.negative <;>
        simp only [negA, negB, if_true, if_false, Bool.false_eq_true, Int.neg_mul] at value ⊢ <;>
        omega
    rw [if_neg zero, if_neg nonzero, signs, stripZeros_eq_of_same magnitudes]

end Decimal

namespace Value

mutual

theorem hashWords_eq_of_same : ∀ {a b : Value}, same a b = true → a.hashWords = b.hashWords
  | null, b, ab => by
    cases b <;> simp only [same, Bool.false_eq_true] at ab
    rfl
  | bool _, b, ab | integer _, b, ab | float _, b, ab | text _, b, ab | timestamp _, b, ab => by
    cases b <;> simp only [same, Bool.false_eq_true, beq_iff_eq] at ab
    rw [ab]
  | decimal d, b, ab => by
    cases b <;> simp only [same, Bool.false_eq_true] at ab
    rw [hashWords, hashWords, Decimal.canonical_eq_of_same ab]
  | sequence items, b, ab => by
    cases b <;> simp only [same, Bool.false_eq_true] at ab
    obtain ⟨length, words⟩ := hashItems_eq_of_same ab
    rw [hashWords, hashWords, length, words]

theorem hashItems_eq_of_same : ∀ {as bs : List Value}, sameItems as bs = true →
    as.length = bs.length ∧ hashItems as = hashItems bs
  | [], [], _ => ⟨rfl, rfl⟩
  | a :: as, b :: bs, ab => by
    rw [sameItems, Bool.and_eq_true] at ab
    obtain ⟨length, words⟩ := hashItems_eq_of_same ab.2
    rw [hashItems, hashItems, hashWords_eq_of_same ab.1, words, List.length_cons, length]
    exact ⟨rfl, rfl⟩

end

theorem hashWords_eq_of_beq {a b : Value} (same : (a == b) = true) : a.hashWords = b.hashWords :=
  hashWords_eq_of_same same

end Value

theorem flatMap_eq_of_beq {α β : Type} [BEq α] {f : α → List β} {as bs : List α}
    (each : ∀ a b, (a == b) = true → f a = f b) (same : (as == bs) = true) :
    as.length = bs.length ∧ as.flatMap f = bs.flatMap f := by
  induction as generalizing bs with
  | nil =>
    cases bs with
    | nil => exact ⟨rfl, rfl⟩
    | cons b bs => simp at same
  | cons a as ih =>
    cases bs with
    | nil => simp at same
    | cons b bs =>
      rw [List.cons_beq_cons, Bool.and_eq_true] at same
      obtain ⟨length, others⟩ := ih same.2
      rw [List.flatMap_cons, List.flatMap_cons, each a b same.1, others, List.length_cons, length]
      exact ⟨rfl, rfl⟩

namespace GroupKey

theorem hashWords_eq_of_beq {k l : GroupKey} (same : (k == l) = true) :
    k.hashWords = l.hashWords := by
  cases k with
  | single v =>
    cases l with
    | single w =>
      rw [single_beq_single] at same
      rw [hashWords, hashWords, Value.hashWords_eq_of_beq same]
    | composite qs => cases same
  | composite ps =>
    cases l with
    | single w => cases same
    | composite qs =>
      rw [composite_beq_composite] at same
      have each : ∀ p q : KeyPart, (p == q) = true →
          (p.name.length : Int) :: (p.name.toList.map fun c => (c.toNat : Int)) ++
              p.value.hashWords =
            (q.name.length : Int) :: (q.name.toList.map fun c => (c.toNat : Int)) ++
              q.value.hashWords := by
        intro p q alike
        obtain ⟨name, value⟩ := KeyPart.beq_iff.mp alike
        rw [name, Value.hashWords_eq_of_beq value]
      obtain ⟨length, words⟩ := flatMap_eq_of_beq each same
      rw [hashWords, hashWords, length, words]

end GroupKey

end RuleQuery
