import RuleQuery.Instant.Calendar

/-!
Dates of day numbers. A day number splits into its era of 400 years, the year of the era, the day of
that year and the month; each part is in its range, so the date is one of the calendar and counts
back to the same day number.
-/
namespace RuleQuery.Date

def yearOfEra (dayOfEra : Int) : Int :=
  (dayOfEra - dayOfEra / 1460 + dayOfEra / 36524 - dayOfEra / 146096) / 365

def dayOfYear (dayOfEra : Int) : Int :=
  dayOfEra - (365 * yearOfEra dayOfEra + yearOfEra dayOfEra / 4 - yearOfEra dayOfEra / 100)

/-- A day of an era by century, by years in groups of four, by year and by day. Years have a 366th
day only at the end of their group, and if the group ends the century, of the era. -/
theorem exists_cycles {dayOfEra : Int} (low : 0 ≤ dayOfEra) (high : dayOfEra ≤ 146096) :
    ∃ century group year day : Int,
      dayOfEra = 36524 * century + 1461 * group + 365 * year + day ∧
      (0 ≤ century ∧ century ≤ 3) ∧ (0 ≤ group ∧ group ≤ 24) ∧ (0 ≤ year ∧ year ≤ 3) ∧
      (0 ≤ day ∧ day ≤ 365) ∧ (day = 365 → year = 3 ∧ (group = 24 → century = 3)) := by
  let century := min 3 (dayOfEra / 36524)
  let dayOfCentury := dayOfEra - 36524 * century
  let group := dayOfCentury / 1461
  let dayOfGroup := dayOfCentury - 1461 * group
  let year := min 3 (dayOfGroup / 365)
  have centuryRange : 0 ≤ century ∧ century ≤ 3 := by omega
  have dayOfCenturyRange : 0 ≤ dayOfCentury ∧ dayOfCentury ≤ 36524 ∧
      (dayOfCentury = 36524 → century = 3) := by omega
  have groupRange : 0 ≤ group ∧ group ≤ 24 := by omega
  have dayOfGroupRange : 0 ≤ dayOfGroup ∧ dayOfGroup ≤ 1460 ∧
      (dayOfGroup = 1460 → group = 24 → century = 3) := by omega
  refine ⟨century, group, year, dayOfGroup - 365 * year, ?_, ?_⟩
  · omega
  · omega

theorem yearOfEra_of_cycles {century group year day : Int}
    (centuryRange : 0 ≤ century ∧ century ≤ 3) (groupRange : 0 ≤ group ∧ group ≤ 24)
    (yearRange : 0 ≤ year ∧ year ≤ 3) (dayRange : 0 ≤ day ∧ day ≤ 365)
    (leap : day = 365 → year = 3 ∧ (group = 24 → century = 3)) :
    yearOfEra (36524 * century + 1461 * group + 365 * year + day) =
      100 * century + 4 * group + year := by
  unfold yearOfEra
  generalize same : 36524 * century + 1461 * group + 365 * year + day = dayOfEra
  have leapDays : dayOfEra / 1460 = 25 * century + group +
      (24 * century + group + 365 * year + day) / 1460 := by omega
  -- The last day of an era would begin a fifth century and is taken back.
  have correction : dayOfEra / 36524 - dayOfEra / 146096 = century := by
    have dayOfCentury : 0 ≤ 1461 * group + 365 * year + day ∧
        1461 * group + 365 * year + day ≤ 36524 ∧
        (1461 * group + 365 * year + day = 36524 → century = 3) := by omega
    generalize 1461 * group + 365 * year + day = rest at dayOfCentury
    obtain rfl | rfl | rfl | rfl : century = 0 ∨ century = 1 ∨ century = 2 ∨ century = 3 := by
      omega
    all_goals omega
  omega

theorem dayOfYear_of_cycles {century group year day : Int}
    (centuryRange : 0 ≤ century ∧ century ≤ 3) (groupRange : 0 ≤ group ∧ group ≤ 24)
    (yearRange : 0 ≤ year ∧ year ≤ 3) (dayRange : 0 ≤ day ∧ day ≤ 365)
    (leap : day = 365 → year = 3 ∧ (group = 24 → century = 3)) :
    dayOfYear (36524 * century + 1461 * group + 365 * year + day) = day := by
  rw [dayOfYear, yearOfEra_of_cycles centuryRange groupRange yearRange dayRange leap]
  omega

variable {dayOfEra : Int}

theorem yearOfEra_range (low : 0 ≤ dayOfEra) (high : dayOfEra ≤ 146096) :
    0 ≤ yearOfEra dayOfEra ∧ yearOfEra dayOfEra ≤ 399 := by
  obtain ⟨century, group, year, day, rfl, centuryRange, groupRange, yearRange, dayRange, leap⟩ :=
    exists_cycles low high
  rw [yearOfEra_of_cycles centuryRange groupRange yearRange dayRange leap]
  omega

theorem dayOfYear_range (low : 0 ≤ dayOfEra) (high : dayOfEra ≤ 146096) :
    0 ≤ dayOfYear dayOfEra ∧ dayOfYear dayOfEra ≤ 365 := by
  obtain ⟨century, group, year, day, rfl, centuryRange, groupRange, yearRange, dayRange, leap⟩ :=
    exists_cycles low high
  rw [dayOfYear_of_cycles centuryRange groupRange yearRange dayRange leap]
  exact dayRange

theorem leap_of_dayOfYear (low : 0 ≤ dayOfEra) (high : dayOfEra ≤ 146096)
    (last : dayOfYear dayOfEra = 365) (era : Int) :
    isLeapYear (yearOfEra dayOfEra + era * 400 + 1) = true := by
  obtain ⟨century, group, year, day, rfl, centuryRange, groupRange, yearRange, dayRange, leap⟩ :=
    exists_cycles low high
  rw [dayOfYear_of_cycles centuryRange groupRange yearRange dayRange leap] at last
  rw [yearOfEra_of_cycles centuryRange groupRange yearRange dayRange leap]
  obtain ⟨rfl, ends⟩ := leap last
  simp only [isLeapYear, Bool.and_eq_true, Bool.or_eq_true, beq_iff_eq, bne_iff_ne]
  by_cases closing : group = 24
  · obtain rfl := ends closing
    omega
  · omega

def monthOfDay (day : Int) : Int := (5 * day + 2) / 153

def ofCycles (era year day : Int) : Date :=
  let month := if monthOfDay day < 10 then monthOfDay day + 3 else monthOfDay day - 9
  ⟨if month ≤ 2 then year + era * 400 + 1 else year + era * 400, month.toNat,
    (day - (153 * monthOfDay day + 2) / 5 + 1).toNat⟩

theorem ofDays_eq_ofCycles (days : Int) : ofDays days =
    ofCycles ((days + 719468) / 146097) (yearOfEra ((days + 719468) % 146097))
      (dayOfYear ((days + 719468) % 146097)) := rfl

theorem toDays_ofCycles {era year day : Int} (yearRange : 0 ≤ year ∧ year ≤ 399)
    (dayRange : 0 ≤ day ∧ day ≤ 365) : (ofCycles era year day).toDays =
      era * 146097 + (year * 365 + year / 4 - year / 100 + day) - 719468 := by
  have months : 0 ≤ monthOfDay day ∧ monthOfDay day ≤ 11 := by
    unfold monthOfDay
    omega
  have days : 0 ≤ day - (153 * monthOfDay day + 2) / 5 := by
    unfold monthOfDay
    omega
  have eraOf : (year + era * 400) / 400 = era := by omega
  have yearOf : (year + era * 400) % 400 = year := by omega
  unfold toDays ofCycles
  generalize monthOfDay day = month at months days
  have dayOf : ((day - (153 * month + 2) / 5 + 1).toNat : Int) =
      day - (153 * month + 2) / 5 + 1 := by omega
  by_cases spring : month < 10
  · have later : ¬ month + 3 ≤ 2 := by omega
    have shown : ¬ (month + 3).toNat ≤ 2 := by omega
    have monthOf : ((((month + 3).toNat + 9) % 12 : Nat) : Int) = month := by omega
    simp only [spring, if_true, later, shown, if_false, eraOf, yearOf, dayOf, monthOf]
    omega
  · have early : month - 9 ≤ 2 := by omega
    have shown : (month - 9).toNat ≤ 2 := by omega
    have monthOf : ((((month - 9).toNat + 9) % 12 : Nat) : Int) = month := by omega
    simp only [spring, if_false, early, shown, if_true, Int.add_sub_cancel, eraOf, yearOf, dayOf,
      monthOf]
    omega

theorem toDays_ofDays (days : Int) : (ofDays days).toDays = days := by
  have low : 0 ≤ (days + 719468) % 146097 := by omega
  have high : (days + 719468) % 146097 ≤ 146096 := by omega
  rw [ofDays_eq_ofCycles, toDays_ofCycles (yearOfEra_range low high) (dayOfYear_range low high)]
  unfold dayOfYear
  omega

theorem month_ofCycles (era year : Int) {day : Int} (dayRange : 0 ≤ day ∧ day ≤ 365) :
    1 ≤ (ofCycles era year day).month ∧ (ofCycles era year day).month ≤ 12 := by
  have months : 0 ≤ monthOfDay day ∧ monthOfDay day ≤ 11 := by
    unfold monthOfDay
    omega
  unfold ofCycles
  split
  · simp only
    omega
  · simp only
    omega

/-- Months but February are as long as the days on which they and the next one begin tell. -/
theorem daysInMonth_of_march {month : Int} (range : 0 ≤ month ∧ month ≤ 10) (year : Int) :
    (daysInMonth year (if month < 10 then month + 3 else month - 9).toNat : Int) =
      (153 * (month + 1) + 2) / 5 - (153 * month + 2) / 5 := by
  have eleven : month = 0 ∨ month = 1 ∨ month = 2 ∨ month = 3 ∨ month = 4 ∨ month = 5 ∨
      month = 6 ∨ month = 7 ∨ month = 8 ∨ month = 9 ∨ month = 10 := by omega
  rcases eleven with rfl | rfl | rfl | rfl | rfl | rfl | rfl | rfl | rfl | rfl | rfl <;> rfl

theorem day_ofCycles {era year day : Int} (dayRange : 0 ≤ day ∧ day ≤ 365)
    (leap : day = 365 → isLeapYear (year + era * 400 + 1) = true) :
    1 ≤ (ofCycles era year day).day ∧
      (ofCycles era year day).day ≤
        daysInMonth (ofCycles era year day).year (ofCycles era year day).month := by
  have position : 153 * monthOfDay day ≤ 5 * day + 2 ∧ 5 * day + 2 < 153 * monthOfDay day + 153 := by
    unfold monthOfDay
    omega
  unfold ofCycles
  generalize monthOfDay day = month at position
  constructor
  · simp only
    omega
  · by_cases february : month = 11
    · subst february
      change (day - 337 + 1).toNat ≤ if isLeapYear (year + era * 400 + 1) then 29 else 28
      by_cases last : day = 365
      · rw [if_pos (leap last)]
        omega
      · split <;> omega
    · have length := @daysInMonth_of_march month (by omega)
      simp only
      generalize (if month < 10 then month + 3 else month - 9) = shown at length
      have fits := length (if shown ≤ 2 then year + era * 400 + 1 else year + era * 400)
      omega

theorem month_le_of_isValid {date : Date} (valid : date.isValid = true) : date.month ≤ 12 := by
  simp only [isValid, Bool.and_eq_true, decide_eq_true_eq] at valid
  omega

theorem day_le_of_isValid {date : Date} (valid : date.isValid = true) : date.day ≤ 31 := by
  simp only [isValid, Bool.and_eq_true, decide_eq_true_eq] at valid
  have longest : daysInMonth date.year date.month ≤ 31 := by
    unfold daysInMonth
    split
    · split <;> decide
    · split <;> decide
  omega

theorem isValid_ofDays {days : Int} (range : yearInRange (ofDays days).year = true) :
    (ofDays days).isValid = true := by
  have low : 0 ≤ (days + 719468) % 146097 := by omega
  have high : (days + 719468) % 146097 ≤ 146096 := by omega
  have dayRange := dayOfYear_range low high
  have month := month_ofCycles ((days + 719468) / 146097)
    (yearOfEra ((days + 719468) % 146097)) dayRange
  have day := day_ofCycles dayRange fun last => leap_of_dayOfYear low high last
    ((days + 719468) / 146097)
  rw [← ofDays_eq_ofCycles] at month day
  simp only [isValid, range, month, day, decide_true, Bool.and_self]

end RuleQuery.Date
