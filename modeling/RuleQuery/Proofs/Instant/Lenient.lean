import RuleQuery.Proofs.Instant.RoundTrip

namespace RuleQuery.Instant

theorem trimStart_of_isDigit {c : Char} (digit : c.isDigit = true) (rest : List Char) :
    Text.trimStart (c :: rest) = c :: rest := by
  rw [Text.trimStart, List.dropWhile_cons_of_neg]
  simp [Text.isBlank_of_isDigit digit]

theorem exists_zeroPadded_eq_cons (width n : Nat) :
    ∃ c digits, zeroPadded width n = c :: digits ∧ c.isDigit = true := by
  obtain ⟨c, digits, shape⟩ := List.exists_cons_of_ne_nil (zeroPadded_ne_nil width n)
  exact ⟨c, digits, shape, isDigit_of_mem_zeroPadded (by rw [shape]; exact List.mem_cons_self)⟩

theorem trimStart_zeroPadded (width n : Nat) (rest : List Char) :
    Text.trimStart (zeroPadded width n ++ rest) = zeroPadded width n ++ rest := by
  obtain ⟨c, digits, shape, digit⟩ := exists_zeroPadded_eq_cons width n
  rw [shape]
  exact trimStart_of_isDigit digit _

theorem readNumber?_of_digits {least most : Nat} {digits : List Char}
    (all : ∀ d ∈ digits, d.isDigit = true) (enough : least ≤ digits.length)
    (room : digits.length ≤ most) {c : Char} (stop : c.isDigit = false) (rest : List Char) :
    readNumber? least most (digits ++ c :: rest) = some (decimalValue digits, c :: rest) := by
  have none : ((c :: rest).take (most - digits.length)).takeWhile Char.isDigit = [] := by
    cases most - digits.length with
    | zero => rfl
    | succ k => simp [stop]
  have taken : ((digits ++ c :: rest).take most).takeWhile Char.isDigit = digits := by
    rw [List.take_append, List.take_of_length_le room, List.takeWhile_append_of_pos all, none,
      List.append_nil]
  have left : (digits ++ c :: rest).drop digits.length = c :: rest := List.drop_left
  have notLess : ¬ digits.length < least := Nat.not_lt.mpr enough
  simp only [readNumber?, taken, if_neg notLess, left]

theorem readLoose?_zeroPadded {n : Nat} {c : Char} (fits : n < pow10 2)
    (stop : c.isDigit = false) (rest : List Char) :
    readLoose? (zeroPadded 2 n ++ c :: rest) = some (n, c :: rest) := by
  have length := length_zeroPadded (by decide : 0 < 2) fits
  have all : ∀ d ∈ zeroPadded 2 n, d.isDigit = true := fun _ => isDigit_of_mem_zeroPadded
  rw [readLoose?, trimStart_zeroPadded,
    readNumber?_of_digits all (by omega) (by omega) stop, decimalValue_zeroPadded]

theorem readYear?_of_isDigit {c : Char} (digit : c.isDigit = true) (rest : List Char) :
    readYear? (c :: rest) =
      (readNumber? 1 4 (c :: rest)).map fun (n, rest) => ((n : Int), rest) := by
  rw [readYear?, trimStart_of_isDigit digit]
  split
  · rename_i same
    cases same
    cases digit
  · rename_i same
    cases same
    cases digit
  · rfl

theorem readYear?_hyphen (rest : List Char) : readYear? ('-' :: rest) =
    (readNumber? 1 rest.length rest).map fun (n, rest) => (-(n : Int), rest) := rfl

theorem readYear?_plus (rest : List Char) : readYear? ('+' :: rest) =
    (readNumber? 1 rest.length rest).map fun (n, rest) => ((n : Int), rest) := rfl

/-- Years of four digits are read up to that number of digits, all others by their sign. -/
theorem readYear?_yearText (year : Int) (rest : List Char) :
    readYear? ((yearText year).toList ++ '-' :: rest) = some (year, '-' :: rest) := by
  have all : ∀ n, ∀ d ∈ zeroPadded 4 n, d.isDigit = true :=
    fun _ _ => isDigit_of_mem_zeroPadded
  have stop : '-'.isDigit = false := rfl
  unfold yearText
  split
  · rename_i four
    obtain ⟨low, high⟩ := four
    have fits : year.toNat < pow10 4 := by
      change year.toNat < 10000
      omega
    have length := length_zeroPadded (by decide : 0 < 4) fits
    have read : readNumber? 1 4 (zeroPadded 4 year.toNat ++ '-' :: rest) =
        some (year.toNat, '-' :: rest) := by
      rw [readNumber?_of_digits (all _) (by omega) (by omega) stop, decimalValue_zeroPadded]
    obtain ⟨c, digits, shape, digit⟩ := exists_zeroPadded_eq_cons 4 year.toNat
    rw [shape] at read
    have sign : (year.toNat : Int) = year := Int.toNat_of_nonneg low
    rw [toList_padded, shape, List.cons_append, readYear?_of_isDigit digit, ← List.cons_append,
      read]
    simp only [Option.map_some, sign]
  · have read : readNumber? 1 (zeroPadded 4 year.natAbs ++ '-' :: rest).length
        (zeroPadded 4 year.natAbs ++ '-' :: rest) = some (year.natAbs, '-' :: rest) := by
      have enough := le_length_zeroPadded 4 year.natAbs
      rw [readNumber?_of_digits (all _) (by omega) (by simp) stop, decimalValue_zeroPadded]
    rw [String.toList_append, toList_padded]
    split
    · have sign : -(year.natAbs : Int) = year := by omega
      have shape : "-".toList = ['-'] := rfl
      rw [shape, List.append_assoc, List.singleton_append, readYear?_hyphen, read]
      simp only [Option.map_some, sign]
    · have sign : (year.natAbs : Int) = year := by omega
      have shape : "+".toList = ['+'] := rfl
      rw [shape, List.append_assoc, List.singleton_append, readYear?_plus, read]
      simp only [Option.map_some, sign]

theorem exists_fractionText_eq_cons (nanos : Nat) :
    ∃ c rest, (fractionText nanos).toList ++ ['Z'] = c :: rest ∧ c.isDigit = false := by
  have point : ∀ s : String, ∃ c rest, ("." ++ s).toList ++ ['Z'] = c :: rest ∧
      c.isDigit = false := by
    intro s
    rw [String.toList_append]
    exact ⟨'.', _, rfl, rfl⟩
  unfold fractionText
  split
  · exact ⟨'Z', [], rfl, rfl⟩
  split
  · exact point _
  split
  · exact point _
  · exact point _

variable (t : Instant)

theorem ofLenient?_toDocumentText (range : Date.yearInRange t.year = true) :
    ofLenient? t.toDocumentText = some t := by
  obtain ⟨hour, minute, second, nanos⟩ := t.parts_ranges
  have valid : t.parts.date.isValid = true := Date.isValid_ofDays range
  have month := Nat.lt_of_le_of_lt (Date.month_le_of_isValid valid) (by decide : 12 < pow10 2)
  have day := Nat.lt_of_le_of_lt (Date.day_le_of_isValid valid) (by decide : 31 < pow10 2)
  have hour : t.parts.hour < pow10 2 := Nat.lt_of_le_of_lt hour (by decide)
  have minute : t.parts.minute < pow10 2 := Nat.lt_of_le_of_lt minute (by decide)
  have second : t.parts.second < pow10 2 := Nat.lt_of_le_of_lt second (by decide)
  have hyphen : '-'.isDigit = false := rfl
  have letter : 'T'.isDigit = false := rfl
  have colon : ':'.isDigit = false := rfl
  have solidHyphen : ∀ rest, Text.trimStart ('-' :: rest) = '-' :: rest := fun _ => rfl
  have solidColon : ∀ rest, Text.trimStart (':' :: rest) = ':' :: rest := fun _ => rfl
  have fraction := readFraction?_fractionText nanos
  obtain ⟨c, rest, shape, stop⟩ := exists_fractionText_eq_cons t.parts.nanos
  rw [shape] at fraction
  rw [ofLenient?, t.toList_toDocumentText, shape]
  simp only [readDate?, readYear?_yearText, readLoose?_zeroPadded month hyphen,
    readLoose?_zeroPadded day letter, readLoose?_zeroPadded hour colon,
    readLoose?_zeroPadded minute colon, readLoose?_zeroPadded second stop, solidHyphen, solidColon,
    readChar?_self, readSeparator?_letter, fraction, Option.bind_eq_bind, Option.bind_some]
  exact t.ofParts?_parts range

end RuleQuery.Instant
