import RuleQuery.Proofs.Binary64.Natural
import RuleQuery.Proofs.Json.Lookup
import RuleQuery.Proofs.Predicate.Required
import RuleQuery.User.Basic

/-!
Counts and their threshold. A payload gives a pattern and a threshold, under keys in any case. The
operators for more matches and for fewer read it alike; of a record one of them holds, or the count
is the threshold, unless the threshold is a text for what is no number: then neither holds of any
record. Another text that has to occur restricts the first operator and changes nothing else.
-/
namespace RuleQuery.Condition

inductive Limits : Json → Binary64 → Prop where
  | number (n : JsonNumber) : Limits (.number n) n.toBinary64
  | text {s : String} {x : Binary64} :
      Binary64.ofText? (Text.trim s) = some x → Limits (.string s) x

/-- What the members of an object give to an operator that counts. -/
structure Counts (members : List (String × Json)) (pattern : Pattern) (literal : Json)
    (threshold : Binary64) : Prop where
  target : ∃ target, Json.Named members "target" (.string target) ∧
    Pattern.ofText? target = some pattern
  limit : Json.Named members "threshold" literal
  limits : Limits literal threshold

variable {members full : List (String × Json)} {pattern : Pattern} {literal : Json}
  {threshold : Binary64}

theorem threshold?_eq_some_iff :
    threshold? literal = some threshold ↔ Limits literal threshold := by
  constructor
  · intro read
    cases literal with
    | number n =>
      cases read
      exact .number n
    | string s => exact .text read
    | _ => cases read
  · rintro (n | read)
    · rfl
    · exact read

/-- Only a text can give what is no number, by spelling it. -/
theorem Limits.isNaN_iff (limits : Limits literal threshold) : threshold.isNaN = true ↔
    ∃ s, literal = .string s ∧ Binary64.SpellsNaN (Text.trim s) := by
  cases limits with
  | number n =>
    have number : n.toBinary64.isNaN = false := by
      cases n with
      | integer i inRange => exact Binary64.isNaN_ofRatio ..
      | float x finite => exact Binary64.isNaN_of_finite finite
    simp [number]
  | text read => simp [Binary64.isNaN_ofText? read]

theorem text?_member?_iff {key text : String} :
    ((Json.object members).member? key).bind Json.text? = some text ↔
      Json.Named members key (.string text) := by
  rw [Option.bind_eq_some_iff, ← Json.member?_eq_some_iff]
  constructor
  · rintro ⟨value, found, read⟩
    cases value <;> cases read
    exact found
  · exact fun found => ⟨_, found, rfl⟩

/-- The payload is read alike for all operators that count. -/
theorem countPayload_object_iff {op : Operator} :
    countPayload op (.object members) = .ok (pattern, threshold) ↔
      ∃ literal, Counts members pattern literal threshold := by
  rw [countPayload_eq_ok_iff]
  simp only [text?_member?_iff]
  simp only [Option.bind_eq_some_iff, Json.member?_eq_some_iff, threshold?_eq_some_iff]
  constructor
  · rintro ⟨-, target, literal, limit, limits⟩
    exact ⟨literal, target, limit, limits⟩
  · rintro ⟨literal, target, limit, limits⟩
    exact ⟨rfl, target, literal, limit, limits⟩

theorem Counts.of_without (counts : Counts members pattern literal threshold)
    (same : Json.without "required" full = Json.without "required" members) :
    Counts full pattern literal threshold := by
  have apart : Text.sameIgnoringCase "target" "required" = false ∧
      Text.sameIgnoringCase "threshold" "required" = false := by decide +kernel
  obtain ⟨⟨target, given, read⟩, limit, limits⟩ := counts
  rw [← Json.member?_eq_some_iff, ← Json.member?_congr same apart.1] at given
  rw [← Json.member?_eq_some_iff, ← Json.member?_congr same apart.2] at limit
  exact ⟨⟨target, Json.named_of_member? given, read⟩, Json.named_of_member? limit, limits⟩

variable {R : Type} {schema : Schema R} {params : Parameters} {field : Field R}
  {property name : String}

section Counting

variable {op : Operator} {wanted : Ordering}

/-- The operators that count only, and how the count has to stand to the threshold. -/
inductive Counting : Operator → Ordering → Prop where
  | more : Counting .containIfCountIsGreater .gt
  | fewer : Counting .containIfCountIsLess .lt

theorem compile_counting (counting : Counting op wanted)
    (operator : Operator.ofName? name = some op) (known : schema.field? property = some field)
    (payload : Json) :
    compile schema params ⟨property, name, payload⟩ = (countPayload op payload).map
      fun read record => countIs wanted read.1 read.2 (field.get record) := by
  have plain : op ≠ .implies := by cases counting <;> exact nofun
  have test : fieldTest params field ⟨property, name, payload⟩ op plain =
      countTest op wanted payload := by cases counting <;> rfl
  rw [compile_plain (c := ⟨property, name, payload⟩) operator known plain, test, countTest]
  cases countPayload op payload <;> rfl

theorem compile_of_counts (counting : Counting op wanted)
    (operator : Operator.ofName? name = some op) (known : schema.field? property = some field)
    (counts : Counts members pattern literal threshold) :
    compile schema params ⟨property, name, .object members⟩ =
      .ok fun record => countIs wanted pattern threshold (field.get record) := by
  rw [compile_counting counting operator known, countPayload_object_iff.mpr ⟨literal, counts⟩]
  rfl

theorem exists_compile_iff_counts (counting : Counting op wanted)
    (operator : Operator.ofName? name = some op) :
    (∃ test, compile schema params ⟨property, name, .object members⟩ = .ok test) ↔
      (∃ field, schema.field? property = some field) ∧
        ∃ pattern literal threshold, Counts members pattern literal threshold := by
  constructor
  · rintro ⟨test, compiled⟩
    obtain ⟨-, field, known⟩ := resolves_of_compile compiled
    rw [compile_counting counting operator known] at compiled
    obtain ⟨⟨pattern, threshold⟩, read, -⟩ := map_eq_ok_iff.mp compiled
    obtain ⟨literal, counts⟩ := countPayload_object_iff.mp read
    exact ⟨⟨field, known⟩, pattern, literal, threshold, counts⟩
  · rintro ⟨⟨field, known⟩, pattern, literal, threshold, counts⟩
    exact ⟨_, compile_of_counts counting operator known counts⟩

end Counting

theorem compile_requiring {required : String}
    (operator : Operator.ofName? name = some .mustContainIfCountIsGreater)
    (known : schema.field? property = some field)
    (counts : Counts members pattern literal threshold)
    (given : Json.Named members "required" (.string required)) :
    compile schema params ⟨property, name, .object members⟩ =
      .ok fun record => countIs .gt pattern threshold (field.get record) &&
        (field.get record).containsIgnoringCase required := by
  rw [compile_plain (c := ⟨property, name, .object members⟩) operator known nofun]
  change (requiredCountTest _ (.object members)).map _ = _
  rw [requiredCountTest, countPayload_object_iff.mpr ⟨literal, counts⟩]
  simp only [bind, Except.bind, text?_member?_iff.mpr given]
  rfl

/-- The two operators that count split the records, as far as the threshold is a number. Where the
first one compiles, the second one does, and of each record exactly one of three things is true: its
count is above the threshold, below it, or equal to it. The exceptions are a threshold that is
spelled as no number, for which none is ever true, and counts beyond 2^53 that become the threshold
by rounding only. With a text that is required, the records with more matches and with that text are
left. -/
theorem counts_split_records {more fewer both : String}
    (asksMore : Operator.ofName? more = some .containIfCountIsGreater)
    (asksFewer : Operator.ofName? fewer = some .containIfCountIsLess)
    (asksBoth : Operator.ofName? both = some .mustContainIfCountIsGreater)
    (schema : Schema R) (params : Parameters) (property : String)
    (members : List (String × Json)) :
    ((∃ above, compile schema params ⟨property, more, .object members⟩ = .ok above) ↔
      (∃ field, schema.field? property = some field) ∧
        ∃ pattern literal threshold, Counts members pattern literal threshold) ∧
    ∀ field pattern literal threshold, schema.field? property = some field →
      Counts members pattern literal threshold →
      (threshold.isNaN = true ↔ ∃ s, literal = .string s ∧ Binary64.SpellsNaN (Text.trim s)) ∧
      ∃ above below, compile schema params ⟨property, more, .object members⟩ = .ok above ∧
        compile schema params ⟨property, fewer, .object members⟩ = .ok below ∧
        (threshold.isNaN = true → ∀ record, above record = false ∧ below record = false) ∧
        (∀ record n, (field.get record).matchCount pattern = n →
          ([above record, below record, decide (threshold.IsNat n)].count true = 1 ↔
            threshold.isNaN = false ∧ (0x20000000000000 < n →
              (Binary64.ofNat n).compare? threshold = some .eq → threshold.IsNat n)) ∧
          (n ≤ 0x20000000000000 →
            (above record = true ↔
              threshold.isNaN = false ∧ threshold.signedUnits < n * Binary64.one) ∧
            (below record = true ↔
              threshold.isNaN = false ∧ n * Binary64.one < threshold.signedUnits))) ∧
        ∀ full required, Json.without "required" full = Json.without "required" members →
          Json.Named full "required" (.string required) →
          ∃ test, compile schema params ⟨property, both, .object full⟩ = .ok test ∧
            ∀ record, test record =
              (above record && (field.get record).containsIgnoringCase required) := by
  refine ⟨exists_compile_iff_counts .more asksMore, fun field pattern literal threshold known
    counts => ⟨counts.limits.isNaN_iff, _, _, compile_of_counts .more asksMore known counts,
      compile_of_counts .fewer asksFewer known counts, ?_, ?_, ?_⟩⟩
  · intro noNumber record
    simp [countIs, (Binary64.apart_of_isNaN noNumber _).1]
  · rintro record n rfl
    refine ⟨Binary64.exactly_one_iff threshold _, fun small => ?_⟩
    simp only [countIs, beq_iff_eq]
    exact Binary64.compare?_ofNat_iff small
  · intro full required same given
    exact ⟨_, compile_requiring asksBoth known (counts.of_without same) given, fun _ => rfl⟩

section Names

def twice : List (String × Json) := [("TARGET", .string "an"), ("threshOld", .string " 2e0 ")]

def twiceBefore : List (String × Json) :=
  [("Required", .string "NA"), ("TARGET", .string "an"), ("threshOld", .string " 2e0 ")]

theorem counts_of_two (key target limit : String) {literal : Json}
    (keyAlike : Text.sameIgnoringCase key "target" = true)
    (keyApart : Text.sameIgnoringCase key "threshold" = false)
    (limitAlike : Text.sameIgnoringCase limit "threshold" = true)
    (limitApart : Text.sameIgnoringCase limit "target" = false)
    (read : Pattern.ofText? target = some pattern) (limits : Limits literal threshold) :
    Counts [(key, .string target), (limit, literal)] pattern literal threshold :=
  ⟨⟨target, Json.named_of_unlike [] [(limit, literal)] keyAlike (by simp [limitApart]), read⟩,
    Json.named_of_unlike [(key, .string target)] [] limitAlike (by simp [keyApart]), limits⟩

theorem names_split_users : ∃ above below test,
    compile User.schema .empty ⟨"Name", "containIfCountIsGreater", .object twice⟩ = .ok above ∧
    compile User.schema .empty ⟨"Name", "containIfCountIsLess", .object twice⟩ = .ok below ∧
    compile User.schema .empty ⟨"Name", "mustContainIfCountIsGreater", .object twiceBefore⟩ =
      .ok test ∧
    (∀ user, test user = true → above user = true) ∧
    ∃ pattern, Pattern.ofText? "an" = some pattern ∧
      ∀ user : User, pattern.count user.name ≤ 0x20000000000000 →
        (above user = true ↔ 2 < pattern.count user.name) ∧
        (below user = true ↔ pattern.count user.name < 2) := by
  have asksMore : Operator.ofName? "containIfCountIsGreater" = some .containIfCountIsGreater := by
    decide +kernel
  have asksFewer : Operator.ofName? "containIfCountIsLess" = some .containIfCountIsLess := by
    decide +kernel
  have asksBoth : Operator.ofName? "mustContainIfCountIsGreater" =
      some .mustContainIfCountIsGreater := by decide +kernel
  have nameField : User.schema.field? "Name" =
      some ⟨"Name", .required .text, fun user => .text user.name⟩ := rfl
  obtain ⟨pattern, read⟩ : ∃ pattern, Pattern.ofText? "an" = some pattern :=
    Option.isSome_iff_exists.mp (by decide +kernel)
  have two : Limits (.string " 2e0 ") ⟨0x4000000000000000⟩ := .text (by decide +kernel)
  have counts : Counts twice pattern (.string " 2e0 ") ⟨0x4000000000000000⟩ :=
    counts_of_two "TARGET" "an" "threshOld" (by decide) (by decide) (by decide) (by decide) read two
  obtain ⟨-, split⟩ :=
    counts_split_records asksMore asksFewer asksBoth User.schema .empty "Name" twice
  obtain ⟨-, above, below, aboveDone, belowDone, -, ordered, restricted⟩ :=
    split _ pattern _ _ nameField counts
  obtain ⟨test, testDone, restricts⟩ := restricted twiceBefore "NA" rfl
    (Json.named_of_unlike [] twice (by decide) (by decide))
  have number : (⟨0x4000000000000000⟩ : Binary64).isNaN = false := by decide +kernel
  have value : (⟨0x4000000000000000⟩ : Binary64).signedUnits = (2 : Nat) * Binary64.one := by
    decide +kernel
  refine ⟨above, below, test, aboveDone, belowDone, testDone, fun user holds => ?_, pattern, read,
    fun user small => ?_⟩
  · rw [restricts] at holds
    exact (Bool.and_eq_true_iff.mp holds).1
  · obtain ⟨-, order⟩ := ordered user _ rfl
    obtain ⟨more, fewer⟩ := order small
    have scaled : ∀ m n : Nat, (m * Binary64.one : Int) < n * Binary64.one ↔ m < n := by
      intro m n
      rw [← Int.natCast_mul, ← Int.natCast_mul, Int.ofNat_lt,
        Nat.mul_lt_mul_right Binary64.one_pos]
    rw [value, scaled] at more fewer
    exact ⟨more.trans (and_iff_right number), fewer.trans (and_iff_right number)⟩

/-- A threshold that is spelled as no number is read all the same, and no name has more matches
than it, or fewer, or as many. -/
theorem spelled_threshold_excludes_all : ∃ above below pattern threshold,
    compile User.schema .empty ⟨"Name", "containifcountisgreater",
      .object [("Target", .string "a"), ("Threshold", .string "NaN")]⟩ = .ok above ∧
    compile User.schema .empty ⟨"Name", "containifcountisless",
      .object [("Target", .string "a"), ("Threshold", .string "NaN")]⟩ = .ok below ∧
    Pattern.ofText? "a" = some pattern ∧ Limits (.string "NaN") threshold ∧
    ∀ user : User,
      [above user, below user, decide (threshold.IsNat (pattern.count user.name))].count true =
        0 := by
  have asksMore : Operator.ofName? "containifcountisgreater" = some .containIfCountIsGreater := by
    decide +kernel
  have asksFewer : Operator.ofName? "containifcountisless" = some .containIfCountIsLess := by
    decide +kernel
  have nameField : User.schema.field? "Name" =
      some ⟨"Name", .required .text, fun user => .text user.name⟩ := rfl
  obtain ⟨pattern, read⟩ : ∃ pattern, Pattern.ofText? "a" = some pattern :=
    Option.isSome_iff_exists.mp (by decide +kernel)
  have noNumber : Limits (.string "NaN") (.nan false) := .text (by decide +kernel)
  have counts := counts_of_two "Target" "a" "Threshold" (by decide) (by decide) (by decide)
    (by decide) read noNumber
  refine ⟨_, _, pattern, _, compile_of_counts .more asksMore nameField counts,
    compile_of_counts .fewer asksFewer nameField counts, read, noNumber, fun user => ?_⟩
  obtain ⟨none, different⟩ :=
    Binary64.apart_of_isNaN (x := .nan false) (by decide +kernel) (pattern.count user.name)
  simp [countIs, Value.matchCount, Value.toText, none, different]

end Names

end RuleQuery.Condition
