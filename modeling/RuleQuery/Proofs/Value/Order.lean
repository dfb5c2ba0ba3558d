import RuleQuery.Proofs.Decimal.Binary
import RuleQuery.Value.Order

/-!
The order in which the least and the greatest value of a group are sought. Two values are compared
as numbers, within their domain or by the names of their kinds, whichever fits the two. That is
reflexive and turns with its arguments, but three values can be compared by three rules. It is
transitive where the rules agree: among values that all read as numbers, and among values no text
of which does.
-/
namespace RuleQuery

instance : Std.TransCmp Decimal.compare where
  eq_swap := Std.OrientedOrd.eq_swap
  isLE_trans {a b c} ab bc := by
    rw [Decimal.compare, Int.isLE_compare] at ab bc ⊢
    have unit : (0 : Int) < pow10 b.scale := Int.natCast_pos.mpr (pow10_pos _)
    apply Int.le_of_mul_le_mul_right _ unit
    calc a.numerator * pow10 c.scale * pow10 b.scale
        = a.numerator * pow10 b.scale * pow10 c.scale := Int.mul_right_comm ..
      _ ≤ b.numerator * pow10 a.scale * pow10 c.scale :=
          Int.mul_le_mul_of_nonneg_right ab (Int.natCast_nonneg _)
      _ = b.numerator * pow10 c.scale * pow10 a.scale := Int.mul_right_comm ..
      _ ≤ c.numerator * pow10 b.scale * pow10 a.scale :=
          Int.mul_le_mul_of_nonneg_right bc (Int.natCast_nonneg _)
      _ = c.numerator * pow10 a.scale * pow10 b.scale := Int.mul_right_comm ..

instance : Std.TransCmp Instant.compare :=
  inferInstanceAs (Std.TransCmp (compareLex (compareOn Instant.seconds) (compareOn Instant.nanos)))

theorem Decimal.swap_compare (a b : Decimal) : (a.compare b).swap = b.compare a :=
  Std.OrientedCmp.eq_swap.symm

theorem Instant.swap_compare (a b : Instant) : (a.compare b).swap = b.compare a :=
  Std.OrientedCmp.eq_swap.symm

theorem Binary64.swap_compare? (x y : Binary64) :
    (x.compare? y).map Ordering.swap = y.compare? x := by
  unfold Binary64.compare?
  rw [Bool.or_comm]
  split
  · rfl
  · exact congrArg some Std.OrientedOrd.eq_swap.symm

namespace Value

theorem swap_compareAsFloats (a b : Value) :
    (compareAsFloats a b).map Ordering.swap = compareAsFloats b a := by
  unfold compareAsFloats
  cases a.toBinary64? with
  | none => cases b.toBinary64? <;> rfl
  | some x =>
    cases b.toBinary64? with
    | none => rfl
    | some y => exact x.swap_compare? y

theorem swap_compare? (a b : Value) : (a.compare? b).map Ordering.swap = b.compare? a := by
  cases a <;> cases b <;> first
    | rfl
    | exact congrArg some Std.OrientedOrd.eq_swap.symm
    | exact Binary64.swap_compare? _ _
    | exact swap_compareAsFloats _ _
    | exact congrArg some (Decimal.swap_compare _ _)
    | exact congrArg some (Instant.swap_compare _ _)

theorem swap_comparePresent (a b : Value) :
    (comparePresent a b).swap = comparePresent b a := by
  have natural : ((a.compare? b).getD (Ord.compare a.typeName b.typeName)).swap =
      (b.compare? a).getD (Ord.compare b.typeName a.typeName) := by
    rw [← swap_compare? a b]
    cases a.compare? b with
    | none => exact Std.OrientedOrd.eq_swap.symm
    | some o => rfl
  unfold comparePresent
  cases a.toDecimal? with
  | none => cases b.toDecimal? <;> exact natural
  | some x =>
    cases b.toDecimal? with
    | none => exact natural
    | some y => exact x.swap_compare y

instance : Std.OrientedCmp aggregateCompare where
  eq_swap {a b} := by
    unfold aggregateCompare
    cases a.isNull <;> cases b.isNull <;> first | rfl | exact (swap_comparePresent b a).symm

/-- The place of a value among the others, before its content counts. Numbers, and texts that read
as numbers, share one; floats too large for a decimal stand on both sides of it. -/
def place : Value → Nat
  | null => 0
  | bool _ => 1
  | float x => if (Decimal.ofBinary64? x).isSome then 3 else if x.negative then 2 else 4
  | integer _ | decimal _ => 3
  | sequence _ => 5
  | text s => if (Decimal.ofText? s).isSome then 3 else 6
  | timestamp _ => 7

def number (v : Value) : Decimal := v.toDecimal?.getD .zero

def units : Value → Int
  | bool b => if b then 1 else 0
  | float x => if (Decimal.ofBinary64? x).isSome then 0 else x.signedUnits
  | _ => 0

def letters : Value → String
  | text s => if (Decimal.ofText? s).isSome then "" else s
  | _ => ""

def time : Value → Instant
  | timestamp t => t
  | _ => .epoch

/-- Order by place, and by content within one place. -/
def arrange : Value → Value → Ordering :=
  compareLex (compareOn place) <| compareLex (fun a b => a.number.compare b.number) <|
    compareLex (compareOn units) <| compareLex (compareOn letters) fun a b => a.time.compare b.time

theorem transCmp_on {α β : Type} (f : α → β) (cmp : β → β → Ordering) [Std.TransCmp cmp] :
    Std.TransCmp fun a b => cmp (f a) (f b) where
  eq_swap := Std.OrientedCmp.eq_swap
  isLE_trans := Std.TransCmp.isLE_trans

instance : Std.TransCmp arrange :=
  have := transCmp_on number Decimal.compare
  have := transCmp_on time Instant.compare
  inferInstanceAs (Std.TransCmp (compareLex (compareOn place) <|
    compareLex (fun a b => a.number.compare b.number) <| compareLex (compareOn units) <|
      compareLex (compareOn letters) fun a b => a.time.compare b.time))

theorem place_eq_three_iff {v : Value} : v.place = 3 ↔ v.toDecimal?.isSome = true := by
  cases v with
  | float x =>
    rw [place, toDecimal?]
    cases (Decimal.ofBinary64? x).isSome <;> cases x.negative <;> decide
  | text s =>
    rw [place, toDecimal?]
    cases (Decimal.ofText? s).isSome <;> decide
  | _ => simp [place, toDecimal?]

theorem arrange_of_place_lt {a b : Value} (below : a.place < b.place) : arrange a b = .lt := by
  have first : compareOn place a b = .lt := Nat.compare_eq_lt.mpr below
  rw [arrange, compareLex, first]
  rfl

/-- Among numbers only the number counts. -/
theorem arrange_of_read {a b : Value} {x y : Decimal} (readA : a.toDecimal? = some x)
    (readB : b.toDecimal? = some y) : arrange a b = x.compare y := by
  have alone : ∀ {v : Value} {d : Decimal}, v.toDecimal? = some d →
      v.place = 3 ∧ v.number = d ∧ v.units = 0 ∧ v.letters = "" ∧ v.time = .epoch := by
    intro v d read
    refine ⟨place_eq_three_iff.mpr (by simp [read]), by simp [number, read], ?_⟩
    cases v <;> simp_all [toDecimal?, units, letters, time]
  obtain ⟨placeA, numberA, unitsA, lettersA, timeA⟩ := alone readA
  obtain ⟨placeB, numberB, unitsB, lettersB, timeB⟩ := alone readB
  simp only [arrange, compareLex, compareOn, placeA, placeB, numberA, numberB, unitsA, unitsB,
    lettersA, lettersB, timeA, timeB, Std.ReflCmp.compare_self, Ordering.then_eq, Ordering.eq_then]

/-- Values that the order arranges: all but null read as numbers, or no text does. Then nothing
may be no number, and floats too large for a decimal stand among no numbers but floats. -/
inductive Arranged (S : Value → Prop) : Prop
  | numbers (read : ∀ v, S v → v.isNull = false → v.toDecimal?.isSome = true)
  | kinds (texts : ∀ s, S (text s) → Decimal.ofText? s = none)
      (floats : ∀ x, S (float x) → x.isNaN = false)
      (large : (∀ x, S (float x) → (Decimal.ofBinary64? x).isSome = true) ∨
        ∀ v, S v → v.toDecimal?.isSome = true → ∃ x, v = float x)

end Value

namespace Binary64

open Decimal (bound)

variable {x y : Binary64}

theorem units_of_read (read : (Decimal.ofBinary64? x).isSome = true) :
    x.isNaN = false ∧ x.units < bound * one := by
  have given : ¬ (x.isFinite = false ∨ bound * one ≤ x.units) := by
    rw [← Decimal.ofBinary64?_eq_none_iff]
    intro none
    rw [none] at read
    cases read
  rw [not_or, Bool.not_eq_false, Nat.not_le] at given
  refine ⟨?_, given.2⟩
  have finite := of_decide_eq_true given.1
  exact decide_eq_false (by omega)

theorem units_of_not_read (number : x.isNaN = false)
    (read : (Decimal.ofBinary64? x).isSome = false) : bound * one ≤ x.units := by
  have none : Decimal.ofBinary64? x = none := by simpa using read
  rcases Decimal.ofBinary64?_eq_none_iff.mp none with infinite | large
  · have below := of_decide_eq_false infinite
    have above := of_decide_eq_false number
    have same : x.magnitudeBits = infinityBits := by omega
    rw [units, same]
    decide +kernel
  · exact large

theorem compare?_of_numbers (xNumber : x.isNaN = false) (yNumber : y.isNaN = false) :
    x.compare? y = some (Ord.compare x.signedUnits y.signedUnits) := by
  rw [compare?, xNumber, yNumber]
  rfl

end Binary64

namespace Value

theorem aggregateCompare_of_read {a b : Value} {x y : Decimal} (readA : a.toDecimal? = some x)
    (readB : b.toDecimal? = some y) : aggregateCompare a b = x.compare y := by
  have present : ∀ {v : Value} {d : Decimal}, v.toDecimal? = some d → v.isNull = false := by
    intro v d read
    cases v <;> first | rfl | cases read
  rw [aggregateCompare, present readA, present readB]
  simp only [comparePresent, readA, readB]

/-- Values that are not both numbers are compared within their domain or by their kinds. -/
theorem aggregateCompare_of_not_read {a b : Value} (presentA : a.isNull = false)
    (presentB : b.isNull = false) (notBoth : a.toDecimal? = none ∨ b.toDecimal? = none) :
    aggregateCompare a b = (a.compare? b).getD (Ord.compare a.typeName b.typeName) := by
  rw [aggregateCompare, presentA, presentB]
  simp only [comparePresent]
  rcases notBoth with none | none
  · rw [none]
  · rw [none]
    cases a.toDecimal? <;> rfl

/-- Floats too large for a decimal stand beyond all others, on the side of their sign. -/
theorem place_float_cases {x : Binary64} (number : x.isNaN = false) :
    ((float x).place = 2 ∧ x.signedUnits ≤ -(Decimal.bound * Binary64.one : Nat)) ∨
      ((float x).place = 3 ∧ -(Decimal.bound * Binary64.one : Nat) < x.signedUnits ∧
        x.signedUnits < (Decimal.bound * Binary64.one : Nat)) ∨
      ((float x).place = 4 ∧ (Decimal.bound * Binary64.one : Nat) ≤ x.signedUnits) := by
  unfold Binary64.signedUnits
  rw [place]
  cases read : (Decimal.ofBinary64? x).isSome with
  | true =>
    have small := (Binary64.units_of_read read).2
    refine .inr (.inl ⟨rfl, ?_⟩)
    split <;> omega
  | false =>
    have large := Binary64.units_of_not_read number read
    cases x.negative with
    | true => exact .inl ⟨rfl, Int.neg_le_neg (Int.ofNat_le.mpr large)⟩
    | false => exact .inr (.inr ⟨rfl, Int.ofNat_le.mpr large⟩)

theorem signedUnits_lt_of_place_lt {x y : Binary64} (xNumber : x.isNaN = false)
    (yNumber : y.isNaN = false) (below : (float x).place < (float y).place) :
    x.signedUnits < y.signedUnits := by
  have positive : 0 < Decimal.bound * Binary64.one := Nat.mul_pos (by decide) (pow2_pos _)
  have placeX := place_float_cases xNumber
  have placeY := place_float_cases yNumber
  omega

theorem arrange_of_not_read {a b : Value} (readA : a.toDecimal? = none)
    (readB : b.toDecimal? = none) (same : a.place = b.place) :
    arrange a b = (Ord.compare a.units b.units).then
      ((Ord.compare a.letters b.letters).then (a.time.compare b.time)) := by
  simp only [arrange, compareLex, compareOn, same, number, readA, readB, Option.getD_none,
    Std.ReflCmp.compare_self, Ordering.eq_then]

theorem aggregateCompare_float {x y : Binary64} (xNumber : x.isNaN = false)
    (yNumber : y.isNaN = false) :
    aggregateCompare (float x) (float y) = arrange (float x) (float y) := by
  have readAt {z : Binary64} : (float z).place = 3 ↔ (Decimal.ofBinary64? z).isSome = true :=
    place_eq_three_iff
  by_cases both : (float x).place = 3 ∧ (float y).place = 3
  · obtain ⟨d, readX⟩ := Option.isSome_iff_exists.mp (readAt.mp both.1)
    obtain ⟨e, readY⟩ := Option.isSome_iff_exists.mp (readAt.mp both.2)
    rw [aggregateCompare_of_read (a := float x) (b := float y) readX readY,
      arrange_of_read (a := float x) (b := float y) readX readY]
  · have none {z : Binary64} (not : (float z).place ≠ 3) : Decimal.ofBinary64? z = none := by
      simpa [readAt] using not
    have notBoth : Decimal.ofBinary64? x = .none ∨ Decimal.ofBinary64? y = .none :=
      (Decidable.not_and_iff_or_not.mp both).imp none none
    have natural : aggregateCompare (float x) (float y) =
        Ord.compare x.signedUnits y.signedUnits := by
      rw [aggregateCompare_of_not_read (a := float x) (b := float y) rfl rfl notBoth, compare?,
        Binary64.compare?_of_numbers xNumber yNumber]
      rfl
    rw [natural]
    rcases Nat.lt_trichotomy (float x).place (float y).place with below | same | above
    · rw [arrange_of_place_lt below]
      exact Int.compare_eq_lt.mpr (signedUnits_lt_of_place_lt xNumber yNumber below)
    · have large : (float x).place ≠ 3 := fun three => both ⟨three, same ▸ three⟩
      have noneX := none large
      have noneY := none (same ▸ large)
      rw [arrange_of_not_read (a := float x) (b := float y) noneX noneY same]
      simp only [units, letters, time, noneX, noneY, Option.isSome_none, Bool.false_eq_true,
        if_false, Std.ReflCmp.compare_self, Ordering.then_eq]
    · rw [Std.OrientedCmp.gt_of_lt (arrange_of_place_lt above)]
      exact Int.compare_eq_gt.mpr (signedUnits_lt_of_place_lt yNumber xNumber above)

def domain : Value → Nat
  | null => 0
  | bool _ => 1
  | integer _ | float _ | decimal _ => 2
  | sequence _ => 3
  | text _ => 4
  | timestamp _ => 5

theorem compare?_of_domain_ne {a b : Value} (apart : a.domain ≠ b.domain) :
    a.compare? b = none := by
  cases a <;> cases b <;> first | rfl | exact absurd rfl apart

theorem compare_typeName_of_domain_lt {a b : Value} (present : a.isNull = false)
    (below : a.domain < b.domain) : Ord.compare a.typeName b.typeName = .lt := by
  cases a <;> cases b <;> simp only [domain, isNull, typeName] at present below ⊢ <;>
    first | decide | omega | contradiction

theorem place_of_domain {v : Value} (unread : ∀ s, v = text s → Decimal.ofText? s = none) :
    (v.domain ≤ 1 ∧ v.place = v.domain) ∨ (v.domain = 2 ∧ 2 ≤ v.place ∧ v.place ≤ 4) ∨
      (3 ≤ v.domain ∧ v.place = v.domain + 2) := by
  cases v with
  | float x =>
    rw [place]
    cases (Decimal.ofBinary64? x).isSome <;> cases x.negative <;> simp [domain]
  | text s => simp [place, domain, unread s rfl]
  | _ => simp [place, domain]

theorem isNull_iff {v : Value} : v.isNull = true ↔ v = null := by
  cases v <;> simp [isNull]

theorem aggregateCompare_null {v : Value} (present : v.isNull = false) :
    aggregateCompare null v = .lt := by
  rw [aggregateCompare, present]
  rfl

theorem aggregateCompare_of_domain_lt {a b : Value}
    (unreadA : ∀ s, a = text s → Decimal.ofText? s = none)
    (unreadB : ∀ s, b = text s → Decimal.ofText? s = none) (below : a.domain < b.domain) :
    aggregateCompare a b = .lt ∧ arrange a b = .lt := by
  have placed : a.place < b.place := by
    have placeA := place_of_domain unreadA
    have placeB := place_of_domain unreadB
    omega
  refine ⟨?_, arrange_of_place_lt placed⟩
  have presentB : b.isNull = false := by
    cases b <;> first | rfl | exact absurd below (Nat.not_lt_zero _)
  cases presentA : a.isNull with
  | true =>
    rw [isNull_iff.mp presentA]
    exact aggregateCompare_null presentB
  | false =>
    have notBoth : a.toDecimal? = none ∨ b.toDecimal? = none := by
      by_cases readA : a.toDecimal? = none
      · exact .inl readA
      · have three := place_eq_three_iff.mpr (Option.isSome_iff_ne_none.mpr readA)
        have more : b.place ≠ 3 := by omega
        exact .inr (by simpa [place_eq_three_iff] using more)
    rw [aggregateCompare_of_not_read presentA presentB notBoth,
      compare?_of_domain_ne (Nat.ne_of_lt below)]
    exact compare_typeName_of_domain_lt presentA below

theorem aggregateCompare_of_read_all {S : Value → Prop}
    (read : ∀ v, S v → v.isNull = false → v.toDecimal?.isSome = true) {a b : Value}
    (insideA : S a) (insideB : S b) : aggregateCompare a b = arrange a b := by
  have first : ∀ {v : Value}, S v → v.isNull = false →
      aggregateCompare null v = .lt ∧ arrange null v = .lt := by
    intro v inside present
    refine ⟨aggregateCompare_null present, arrange_of_place_lt ?_⟩
    rw [place_eq_three_iff.mpr (read v inside present)]
    decide
  cases nullA : a.isNull with
  | true =>
    rw [isNull_iff.mp nullA]
    cases nullB : b.isNull with
    | true =>
      rw [isNull_iff.mp nullB]
      exact Std.ReflCmp.compare_self.trans Std.ReflCmp.compare_self.symm
    | false => rw [(first insideB nullB).1, (first insideB nullB).2]
  | false =>
    obtain ⟨x, readA⟩ := Option.isSome_iff_exists.mp (read a insideA nullA)
    cases nullB : b.isNull with
    | true =>
      rw [isNull_iff.mp nullB, Std.OrientedCmp.gt_of_lt (first insideA nullA).1,
        Std.OrientedCmp.gt_of_lt (first insideA nullA).2]
    | false =>
      obtain ⟨y, readB⟩ := Option.isSome_iff_exists.mp (read b insideB nullB)
      rw [aggregateCompare_of_read readA readB, arrange_of_read readA readB]

/-- Within a domain other than that of numbers only the content counts. -/
theorem aggregateCompare_of_domain_eq {a b : Value}
    (unreadA : ∀ s, a = text s → Decimal.ofText? s = none)
    (unreadB : ∀ s, b = text s → Decimal.ofText? s = none) (same : a.domain = b.domain)
    (noNumber : a.domain ≠ 2) : aggregateCompare a b = arrange a b := by
  cases a with
  | null =>
    obtain rfl : b = null := by cases b <;> simp_all [domain]
    rfl
  | bool x =>
    obtain ⟨y, rfl⟩ : ∃ y, b = bool y := by cases b <;> simp_all [domain]
    cases x <;> cases y <;> rfl
  | integer _ | float _ | decimal _ => exact absurd rfl noNumber
  | sequence xs =>
    obtain ⟨ys, rfl⟩ : ∃ ys, b = sequence ys := by cases b <;> simp_all [domain]
    have none : ∀ zs, (sequence zs).toDecimal? = none := fun _ => rfl
    rw [aggregateCompare_of_not_read rfl rfl (.inl (none xs)),
      arrange_of_not_read (none xs) (none ys) rfl]
    simp only [compare?, typeName, units, letters, time, Option.getD_none,
      Std.ReflCmp.compare_self, Ordering.eq_then]
  | text s =>
    obtain ⟨t, rfl⟩ : ∃ t, b = text t := by cases b <;> simp_all [domain]
    have noneS := unreadA s rfl
    have noneT := unreadB t rfl
    have place : (text s).place = (text t).place := by simp [place, noneS, noneT]
    rw [aggregateCompare_of_not_read rfl rfl (.inl (a := (text s).toDecimal? = none) noneS),
      arrange_of_not_read (a := text s) (b := text t) noneS noneT place]
    simp only [units, letters, time, noneS, noneT, Option.isSome_none, Bool.false_eq_true,
      if_false, Std.ReflCmp.compare_self, Ordering.then_eq, Ordering.eq_then]
    rfl
  | timestamp t =>
    obtain ⟨u, rfl⟩ : ∃ u, b = timestamp u := by cases b <;> simp_all [domain]
    rfl

section Kinds

variable {S : Value → Prop} (texts : ∀ s, S (text s) → Decimal.ofText? s = none)
  (floats : ∀ x, S (float x) → x.isNaN = false)
  (large : (∀ x, S (float x) → (Decimal.ofBinary64? x).isSome = true) ∨
    ∀ v, S v → v.toDecimal?.isSome = true → ∃ x, v = float x)
  {a b : Value}

include floats large in
/-- Numbers are all compared as decimals or all as floats. -/
theorem aggregateCompare_of_numbers (insideA : S a) (insideB : S b) (numberA : a.domain = 2)
    (numberB : b.domain = 2) : aggregateCompare a b = arrange a b := by
  have either : ∀ {v : Value}, v.domain = 2 → v.toDecimal?.isSome = true ∨ ∃ x, v = float x := by
    intro v number
    cases v <;> simp_all [domain, toDecimal?]
  rcases large with all | only
  · have read : ∀ {v : Value}, S v → v.domain = 2 → ∃ d, v.toDecimal? = some d := by
      intro v inside number
      rcases either number with read | ⟨x, rfl⟩
      · exact Option.isSome_iff_exists.mp read
      · exact Option.isSome_iff_exists.mp (all x inside)
    obtain ⟨x, readA⟩ := read insideA numberA
    obtain ⟨y, readB⟩ := read insideB numberB
    rw [aggregateCompare_of_read readA readB, arrange_of_read readA readB]
  · have float : ∀ {v : Value}, S v → v.domain = 2 → ∃ x, v = float x := fun inside number =>
      (either number).elim (only _ inside) id
    obtain ⟨x, rfl⟩ := float insideA numberA
    obtain ⟨y, rfl⟩ := float insideB numberB
    exact aggregateCompare_float (floats x insideA) (floats y insideB)

include texts floats large in
theorem aggregateCompare_of_kinds (insideA : S a) (insideB : S b) :
    aggregateCompare a b = arrange a b := by
  have unread : ∀ {v : Value}, S v → ∀ s, v = text s → Decimal.ofText? s = none :=
    fun inside s same => texts s (same ▸ inside)
  rcases Nat.lt_trichotomy a.domain b.domain with below | same | above
  · obtain ⟨lt, lt'⟩ := aggregateCompare_of_domain_lt (unread insideA) (unread insideB) below
    rw [lt, lt']
  · by_cases number : a.domain = 2
    · exact aggregateCompare_of_numbers floats large insideA insideB number (same ▸ number)
    · exact aggregateCompare_of_domain_eq (unread insideA) (unread insideB) same number
  · obtain ⟨lt, lt'⟩ := aggregateCompare_of_domain_lt (unread insideB) (unread insideA) above
    rw [Std.OrientedCmp.gt_of_lt lt, Std.OrientedCmp.gt_of_lt lt']

end Kinds

section

variable {S : Value → Prop} (arranged : Arranged S)
include arranged

theorem Arranged.aggregateCompare_eq {a b : Value} (insideA : S a) (insideB : S b) :
    aggregateCompare a b = arrange a b := by
  cases arranged with
  | numbers read => exact aggregateCompare_of_read_all read insideA insideB
  | kinds texts floats large => exact aggregateCompare_of_kinds texts floats large insideA insideB

theorem Arranged.isLE_trans {a b c : Value} (insideA : S a) (insideB : S b) (insideC : S c)
    (ab : (aggregateCompare a b).isLE) (bc : (aggregateCompare b c).isLE) :
    (aggregateCompare a c).isLE := by
  rw [arranged.aggregateCompare_eq insideA insideB] at ab
  rw [arranged.aggregateCompare_eq insideB insideC] at bc
  rw [arranged.aggregateCompare_eq insideA insideC]
  exact Std.TransCmp.isLE_trans ab bc

end

/-- Values of which those that are not null are read by one rule: all as numbers, or none, being
all truth values, all texts or all timestamps. -/
def Alike (values : List Value) : Prop :=
  (∀ v ∈ values, v.isNull = false → v.toDecimal?.isSome = true) ∨
    ∃ kind ∈ ["bool", "text", "timestamp"],
      ∀ v ∈ values, v.isNull = false → v.toDecimal? = none ∧ v.typeName = kind

theorem Alike.arranged {values : List Value} (alike : Alike values) : Arranged (· ∈ values) := by
  rcases alike with read | ⟨kind, possible, one⟩
  · exact .numbers read
  · have noFloat : ∀ x, float x ∉ values := by
      intro x inside
      have float : "float" = kind := (one _ inside rfl).2
      rw [← float] at possible
      exact absurd possible (by decide)
    refine .kinds (fun s inside => (one _ inside rfl).1) ?_ (.inl ?_)
    · exact fun x inside => absurd inside (noFloat x)
    · exact fun x inside => absurd inside (noFloat x)

/-- The order is reflexive and turns with its arguments on all values. It is transitive among
values that it arranges. -/
theorem aggregateCompare_arranges (a b c : Value) :
    aggregateCompare a a = .eq ∧ aggregateCompare b a = (aggregateCompare a b).swap ∧
      ∀ S, Arranged S → S a → S b → S c →
        ((aggregateCompare a b).isLE → (aggregateCompare b c).isLE →
          (aggregateCompare a c).isLE) ∧
        (aggregateCompare a b = .eq → aggregateCompare b c = .eq → aggregateCompare a c = .eq) := by
  refine ⟨Std.ReflCmp.compare_self, Std.OrientedCmp.eq_swap, ?_⟩
  intro S arranged insideA insideB insideC
  have eq {v w : Value} (insideV : S v) (insideW : S w) := arranged.aggregateCompare_eq insideV insideW
  refine ⟨arranged.isLE_trans insideA insideB insideC, fun ab bc => ?_⟩
  rw [eq insideA insideB] at ab
  rw [eq insideB insideC] at bc
  rw [eq insideA insideC]
  exact Std.TransCmp.eq_trans ab bc

theorem arranged_infinity_and_labels :
    Arranged (· ∈ [float ⟨0x7ff0000000000000⟩, text "10a", text "9a"]) := by
  refine .kinds (fun s inside => ?_) (fun x inside => ?_) (.inr fun v inside read => ?_)
  · have label : s = "10a" ∨ s = "9a" := by simpa using inside
    rcases label with rfl | rfl <;> decide
  · obtain rfl : x = ⟨0x7ff0000000000000⟩ := by simpa using inside
    decide
  · simp only [List.mem_cons, List.not_mem_nil, or_false] at inside
    rcases inside with rfl | rfl | rfl
    · exact ⟨_, rfl⟩
    · exact absurd read (by decide)
    · exact absurd read (by decide)

theorem aggregateCompare_arranges_numerals_and_labels :
    ((aggregateCompare null (text "9")).isLE ∧ (aggregateCompare (text "9") (integer 10)).isLE ∧
      (aggregateCompare null (integer 10)).isLE) ∧
    ((aggregateCompare (float ⟨0x7ff0000000000000⟩) (text "10a")).isLE ∧
      (aggregateCompare (text "10a") (text "9a")).isLE ∧
      (aggregateCompare (float ⟨0x7ff0000000000000⟩) (text "9a")).isLE) := by
  have numerals : Arranged (· ∈ [null, text "9", integer 10]) := by
    refine .numbers fun v inside => ?_
    simp only [List.mem_cons, List.not_mem_nil, or_false] at inside
    rcases inside with rfl | rfl | rfl <;> decide
  have first : (aggregateCompare null (text "9")).isLE := by decide
  have second : (aggregateCompare (text "9") (integer 10)).isLE := by decide
  have third : (aggregateCompare (float ⟨0x7ff0000000000000⟩) (text "10a")).isLE := by decide
  have fourth : (aggregateCompare (text "10a") (text "9a")).isLE := by decide
  obtain ⟨-, -, among⟩ := aggregateCompare_arranges null (text "9") (integer 10)
  obtain ⟨-, -, among'⟩ :=
    aggregateCompare_arranges (float ⟨0x7ff0000000000000⟩) (text "10a") (text "9a")
  exact ⟨⟨first, second, (among _ numerals (by simp) (by simp) (by simp)).1 first second⟩,
    third, fourth,
    (among' _ arranged_infinity_and_labels (by simp) (by simp) (by simp)).1 third fourth⟩

/-- Three texts of which two are read as numbers go round in a circle, and what is not a number
equals all floats. -/
theorem aggregateCompare_turns_in_circles :
    (aggregateCompare (text "9") (text "10") = .lt ∧ aggregateCompare (text "10") (text "1a") = .lt ∧
      aggregateCompare (text "1a") (text "9") = .lt) ∧
    (aggregateCompare (float ⟨0x3ff0000000000000⟩) (float (.nan false)) = .eq ∧
      aggregateCompare (float (.nan false)) (float ⟨0x4000000000000000⟩) = .eq ∧
      aggregateCompare (float ⟨0x3ff0000000000000⟩) (float ⟨0x4000000000000000⟩) = .lt) := by
  decide +kernel

end Value

end RuleQuery
