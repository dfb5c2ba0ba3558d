import RuleQuery.Instant.Reader
import RuleQuery.Proofs.Instant.Calendar
import RuleQuery.Proofs.Text.Digits

/-!
Reading back the text of a point in time. Years of four digits are written in the strict form, which
has two digits for each other part and 0, 3, 6 or 9 for the fraction; leap seconds are written as
the 60th second.
-/
namespace RuleQuery.Instant

def year (t : Instant) : Int := (Date.ofDays (t.seconds / 86400)).year

def FourDigitYear (t : Instant) : Prop := 0 ≤ t.year ∧ t.year ≤ 9999

instance (t : Instant) : Decidable t.FourDigitYear := inferInstanceAs (Decidable (_ ∧ _))

theorem toList_padded (width n : Nat) : (padded width n).toList = zeroPadded width n := by
  rw [padded, Nat.toString_eq_repr, Nat.toList_repr, String.toList_ofList]
  rfl

theorem readNumber?_zeroPadded {width n : Nat} (wide : 0 < width) (fits : n < pow10 width)
    (rest : List Char) :
    readNumber? width width (zeroPadded width n ++ rest) = some (n, rest) := by
  have length := length_zeroPadded wide fits
  have first : (zeroPadded width n ++ rest).take width = zeroPadded width n := by
    rw [List.take_append_of_le_length (by omega), List.take_of_length_le (by omega)]
  have others : (zeroPadded width n ++ rest).drop width = rest := by
    rw [List.drop_append_of_le_length (by omega), List.drop_of_length_le (by omega)]
    rfl
  have taken := takeWhile_isDigit fun _ => @isDigit_of_mem_zeroPadded width n _
  simp only [readNumber?, first, taken, length, Nat.lt_irrefl, if_false, decimalValue_zeroPadded,
    others]

theorem readChar?_self (c : Char) (rest : List Char) : readChar? c (c :: rest) = some rest :=
  if_pos rfl

theorem readSeparator?_letter (rest : List Char) : readSeparator? ('T' :: rest) = some rest := rfl

theorem readOffset?_zone (between : List Char → Option (List Char)) :
    readOffset? between ['Z'] = some (0, []) := rfl

theorem readFraction?_zeroPadded {width n : Nat} (wide : 0 < width) (most : width ≤ 9)
    (fits : n < pow10 width) :
    readFraction? ('.' :: (zeroPadded width n ++ ['Z'])) =
      some (n * pow10 (9 - width), ['Z']) := by
  have all : ∀ c ∈ zeroPadded width n, c.isDigit = true := fun _ => isDigit_of_mem_zeroPadded
  have length := length_zeroPadded wide fits
  have zone : ∀ k, (['Z'].take k).takeWhile Char.isDigit = [] := by
    intro k
    cases k <;> rfl
  have taken : ((zeroPadded width n ++ ['Z']).take 9).takeWhile Char.isDigit =
      zeroPadded width n := by
    rw [List.take_append, List.take_of_length_le (by omega), List.takeWhile_append_of_pos all,
      zone, List.append_nil]
  have dropped : (zeroPadded width n ++ ['Z']).dropWhile Char.isDigit = ['Z'] := by
    rw [List.dropWhile_append_of_pos all]
    rfl
  simp only [readFraction?, taken, zeroPadded_ne_nil, if_false, dropped, decimalValue_zeroPadded,
    length]

theorem readFraction?_fractionText {nanos : Nat} (fits : nanos < 1000000000) :
    readFraction? ((fractionText nanos).toList ++ ['Z']) = some (nanos, ['Z']) := by
  have point : ∀ width n, ("." ++ padded width n).toList ++ ['Z'] =
      '.' :: (zeroPadded width n ++ ['Z']) := by
    intro width n
    rw [String.toList_append, toList_padded]
    rfl
  unfold fractionText
  split
  · rename_i none
    subst none
    rfl
  split
  · rename_i millis
    rw [point, readFraction?_zeroPadded (by decide) (by decide) (by change _ < 1000; omega)]
    change some (nanos / 1000000 * 1000000, _) = _
    rw [Nat.div_mul_cancel (Nat.dvd_of_mod_eq_zero millis)]
  split
  · rename_i micros
    rw [point, readFraction?_zeroPadded (by decide) (by decide) (by change _ < 1000000; omega)]
    change some (nanos / 1000 * 1000, _) = _
    rw [Nat.div_mul_cancel (Nat.dvd_of_mod_eq_zero micros)]
  · rw [point, readFraction?_zeroPadded (by decide) (by decide) fits, Nat.sub_self, pow10_zero,
      Nat.mul_one]

section Parts

variable (t : Instant)

def parts : Parts where
  date := Date.ofDays (t.seconds / 86400)
  hour := (t.seconds % 86400).toNat / 3600
  minute := (t.seconds % 86400).toNat / 60 % 60
  second := (t.seconds % 86400).toNat % 60 + if 1000000000 ≤ t.nanos then 1 else 0
  nanos := if 1000000000 ≤ t.nanos then t.nanos - 1000000000 else t.nanos
  offset := 0

theorem parts_ranges : t.parts.hour ≤ 23 ∧ t.parts.minute ≤ 59 ∧ t.parts.second ≤ 60 ∧
    t.parts.nanos < 1000000000 := by
  have nanos := t.nanos_lt
  refine ⟨?_, ?_, ?_, ?_⟩ <;> simp only [parts]
  · omega
  · omega
  · split <;> omega
  · split <;> omega

/-- The 60th second is shown for leap seconds and for these only. -/
theorem second_parts_eq_iff : t.parts.second = 60 ↔ 1000000000 ≤ t.nanos := by
  have leap := t.leap
  simp only [parts]
  split <;> omega

theorem seconds_parts : t.parts.date.toDays * 86400 +
    ((t.parts.hour * 3600 + t.parts.minute * 60 +
      (if t.parts.second = 60 then 59 else t.parts.second) : Nat) : Int) - t.parts.offset =
    t.seconds := by
  have leap := t.leap
  have day : t.parts.date.toDays = t.seconds / 86400 := Date.toDays_ofDays _
  rw [day]
  simp only [t.second_parts_eq_iff]
  simp only [parts]
  split
  · rename_i late
    have last := leap late
    omega
  · omega

theorem nanos_parts :
    (if t.parts.second = 60 then t.parts.nanos + 1000000000 else t.parts.nanos) = t.nanos := by
  simp only [t.second_parts_eq_iff]
  simp only [parts]
  split <;> omega

theorem ofParts?_parts (range : Date.yearInRange t.year = true) :
    ofParts? t.parts = some t := by
  obtain ⟨hour, minute, second, -⟩ := t.parts_ranges
  have valid : t.parts.date.isValid = true := Date.isValid_ofDays range
  have offset : t.parts.offset.natAbs < 86400 := Nat.succ_pos 86399
  have bounds : t.nanos < 2000000000 ∧ (1000000000 ≤ t.nanos → t.seconds % 60 = 59) :=
    ⟨t.nanos_lt, t.leap⟩
  have inRange : Date.yearInRange (Date.ofDays (t.seconds / 86400)).year = true := range
  simp only [ofParts?, valid, hour, minute, second, offset, decide_true, Bool.and_self, if_true,
    t.seconds_parts, t.nanos_parts, inRange]
  exact dif_pos bounds

theorem toList_toDocumentText : t.toDocumentText.toList =
    (yearText t.parts.date.year).toList ++ '-' :: (zeroPadded 2 t.parts.date.month ++
      '-' :: (zeroPadded 2 t.parts.date.day ++ 'T' :: (zeroPadded 2 t.parts.hour ++
        ':' :: (zeroPadded 2 t.parts.minute ++ ':' :: (zeroPadded 2 t.parts.second ++
          ((fractionText t.parts.nanos).toList ++ ['Z'])))))) := by
  have written : t.toDocumentText = yearText t.parts.date.year ++ "-" ++
      padded 2 t.parts.date.month ++ "-" ++ padded 2 t.parts.date.day ++ "T" ++
      padded 2 t.parts.hour ++ ":" ++ padded 2 t.parts.minute ++ ":" ++
      padded 2 t.parts.second ++ fractionText t.parts.nanos ++ "Z" := rfl
  rw [written]
  simp [String.toList_append, toList_padded]

theorem toList_yearText (four : t.FourDigitYear) :
    (yearText t.parts.date.year).toList = zeroPadded 4 t.parts.date.year.toNat := by
  have plain : yearText t.parts.date.year = padded 4 t.parts.date.year.toNat := if_pos four
  rw [plain, toList_padded]

theorem ofStrict?_toDocumentText (four : t.FourDigitYear) :
    ofStrict? t.toDocumentText.toList = some t := by
  obtain ⟨low, high⟩ := four
  obtain ⟨hour, minute, second, nanos⟩ := t.parts_ranges
  have range : Date.yearInRange t.year = true := by
    simp only [Date.yearInRange, Bool.and_eq_true, decide_eq_true_eq]
    omega
  have valid : t.parts.date.isValid = true := Date.isValid_ofDays range
  have year : t.parts.date.year.toNat < pow10 4 := by
    change t.year.toNat < 10000
    omega
  have month := Nat.lt_of_le_of_lt (Date.month_le_of_isValid valid) (by decide : 12 < pow10 2)
  have day := Nat.lt_of_le_of_lt (Date.day_le_of_isValid valid) (by decide : 31 < pow10 2)
  have hour : t.parts.hour < pow10 2 := Nat.lt_of_le_of_lt hour (by decide)
  have minute : t.parts.minute < pow10 2 := Nat.lt_of_le_of_lt minute (by decide)
  have second : t.parts.second < pow10 2 := Nat.lt_of_le_of_lt second (by decide)
  have signed : ((t.parts.date.year.toNat : Nat) : Int) = t.parts.date.year := Int.toNat_of_nonneg low
  have two : 0 < 2 := by decide
  rw [t.toList_toDocumentText, t.toList_yearText ⟨low, high⟩]
  simp only [ofStrict?, readNumber?_zeroPadded (by decide : 0 < 4) year,
    readNumber?_zeroPadded two month, readNumber?_zeroPadded two day,
    readNumber?_zeroPadded two hour, readNumber?_zeroPadded two minute,
    readNumber?_zeroPadded two second, readFraction?_fractionText nanos, readChar?_self,
    readSeparator?_letter, readOffset?_zone, if_true, Option.bind_eq_bind, Option.bind_some, signed]
  exact t.ofParts?_parts range

theorem not_isBlank_of_mem_fractionText {nanos : Nat} {c : Char}
    (inside : c ∈ (fractionText nanos).toList) : Text.isBlank c = false := by
  have point : ∀ width n, c ∈ ("." ++ padded width n).toList → Text.isBlank c = false := by
    intro width n inside
    rw [String.toList_append, toList_padded] at inside
    rcases List.mem_append.mp inside with point | digit
    · rw [List.mem_singleton.mp point]
      rfl
    · exact Text.isBlank_of_isDigit (isDigit_of_mem_zeroPadded digit)
  unfold fractionText at inside
  split at inside
  · cases inside
  split at inside
  · exact point _ _ inside
  split at inside
  · exact point _ _ inside
  · exact point _ _ inside

theorem not_isBlank_of_mem_toDocumentText (four : t.FourDigitYear) {c : Char}
    (inside : c ∈ t.toDocumentText.toList) : Text.isBlank c = false := by
  have solid : ∀ width n, c ∈ zeroPadded width n → Text.isBlank c = false :=
    fun _ _ digit => Text.isBlank_of_isDigit (isDigit_of_mem_zeroPadded digit)
  rw [t.toList_toDocumentText, t.toList_yearText four] at inside
  simp only [List.mem_append, List.mem_cons, List.not_mem_nil, or_false] at inside
  rcases inside with digit | rfl | digit | rfl | digit | rfl | digit | rfl | digit | rfl | digit |
    fraction | rfl
  case inr.inr.inr.inr.inr.inr.inr.inr.inr.inr.inr.inl =>
    exact not_isBlank_of_mem_fractionText fraction
  all_goals first
    | rfl
    | exact solid _ _ digit

theorem ofText?_toDocumentText (four : t.FourDigitYear) : ofText? t.toDocumentText = some t := by
  rw [ofText?, Text.trimChars_of_not_isBlank fun _ => t.not_isBlank_of_mem_toDocumentText four,
    t.ofStrict?_toDocumentText four, Option.some_or]

end Parts

end RuleQuery.Instant
