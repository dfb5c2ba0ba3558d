import RuleQuery.Proofs.Text.Folding

/-!
Full lower case and the folding of ASCII letters. Texts that differ in ASCII letters only have one
full lower case; on ASCII texts the two agree. Beyond ASCII one character only, the kelvin sign, has
an ASCII letter as its lower case.
-/
namespace RuleQuery.Text

def IsAscii (s : String) : Prop := ∀ c ∈ s.toList, c.toNat < 128

-- Named, as another instance would try all characters there are.
instance (s : String) : Decidable (IsAscii s) :=
  List.decidableBAll (fun c : Char => c.toNat < 128) s.toList

def kelvinSign : Char := '\u212a'

def kelvinToLetter (c : Char) : Char := if c = kelvinSign then 'k' else c

def withoutKelvin (s : String) : String := String.ofList (s.toList.map kelvinToLetter)

section Tables

variable {α : Type} {entries : Array α} {start : α → Nat} {n : Nat}

/-- What stands in front of the place that the search returns starts at or before `n`. -/
theorem start_le_of_firstAfter (steps : Nat) :
    ∀ lo hi : Nat, (∀ i entry, lo = i + 1 → entries[i]? = some entry → start entry ≤ n) →
      ∀ i entry, firstAfter entries start n steps lo hi = i + 1 → entries[i]? = some entry →
        start entry ≤ n := by
  induction steps with
  | zero => exact fun lo hi before => before
  | succ steps ih =>
    intro lo hi before
    rw [firstAfter]
    split
    · dsimp only
      split
      · rename_i middle found
        split
        · rename_i starts
          refine ih _ hi fun i entry place there => ?_
          obtain rfl : (lo + hi) / 2 = i := Nat.succ.inj place
          rw [found] at there
          cases there
          exact starts
        · exact ih lo _ before
      · exact before
    · exact before

theorem start_le_of_lastStarting? {entry : α}
    (found : lastStarting? entries start n = some entry) : entry ∈ entries ∧ start entry ≤ n := by
  unfold lastStarting? at found
  split at found
  · cases found
  · rename_i i place
    refine ⟨Array.mem_of_getElem? found, ?_⟩
    exact start_le_of_firstAfter _ 0 _ (fun i entry none => nomatch none) i entry place found

end Tables

section Characters

variable {c : Char}

/-- The table has the ASCII capitals, the kelvin sign, and what has its lower case beyond ASCII. -/
theorem lowerRuns_cases {run : CaseRun} (inside : run ∈ lowerRuns) :
    run.last < 128 ∨ run.first = kelvinSign.toNat ∧ run.last = kelvinSign.toNat ∨
      128 ≤ run.target ∧ (run.target + (run.last - run.first) < 0xd800 ∨
        0xdfff < run.target ∧ run.target + (run.last - run.first) < 0x110000) := by
  have all : ∀ run ∈ lowerRuns.toList,
      run.last < 128 ∨ run.first = kelvinSign.toNat ∧ run.last = kelvinSign.toNat ∨
        128 ≤ run.target ∧ (run.target + (run.last - run.first) < 0xd800 ∨
          0xdfff < run.target ∧ run.target + (run.last - run.first) < 0x110000) := by
    decide +kernel
  exact all run (Array.mem_toList_iff.mpr inside)

theorem toNat_ofNat_of_isValidChar {n : Nat} (valid : n.isValidChar) :
    (Char.ofNat n).toNat = n := by
  rw [Char.ofNat, dif_pos valid]
  rfl

theorem ascii_or_kelvin_of_mapByRuns (low : (mapByRuns lowerRuns c).toNat < 128) :
    c.toNat < 128 ∨ c = kelvinSign := by
  unfold mapByRuns at low
  split at low
  · rename_i run found
    obtain ⟨inside, starts⟩ := start_le_of_lastStarting? found
    split at low
    · rename_i n mapped
      unfold CaseRun.map? at mapped
      split at mapped
      · rename_i within
        cases mapped
        obtain capital | ⟨first, last⟩ | ⟨high, valid⟩ := lowerRuns_cases inside
        · exact .inl (by omega)
        · refine .inr (Char.toNat_inj.mp ?_)
          omega
        · have exact : (Char.ofNat (run.target + (c.toNat - run.first))).toNat =
              run.target + (c.toNat - run.first) :=
            toNat_ofNat_of_isValidChar (by unfold Nat.isValidChar; omega)
          omega
      · cases mapped
    · exact .inl low
  · exact .inl low

theorem ascii_or_kelvin_of_lowerChar (low : ∀ d ∈ lowerChar c, d.toNat < 128) :
    c.toNat < 128 ∨ c = kelvinSign := by
  unfold lowerChar at low
  split at low
  · have dot := low '\u0307' (by simp)
    exact absurd dot (by decide)
  · exact ascii_or_kelvin_of_mapByRuns (low _ List.mem_cons_self)

theorem kelvinToLetter_of_ascii (ascii : c.toNat < 128) : kelvinToLetter c = c := by
  rw [kelvinToLetter, if_neg]
  rintro rfl
  exact absurd ascii (by decide)

theorem ascii_or_kelvin_of_kelvinToLetter (ascii : (kelvinToLetter c).toNat < 128) :
    c.toNat < 128 ∨ c = kelvinSign := by
  unfold kelvinToLetter at ascii
  split at ascii
  · rename_i kelvin
    exact .inr kelvin
  · exact .inl ascii

theorem isBlank_kelvinToLetter (c : Char) : isBlank (kelvinToLetter c) = isBlank c := by
  unfold kelvinToLetter
  split
  · rename_i kelvin
    rw [kelvin]
    decide
  · rfl

/-- The tables at the ASCII characters, where they do not tell a capital from its small letter. -/
theorem tables_at_ascii : ∀ n : Fin 128,
    lowerChar (Char.ofNat n) = [(Char.ofNat n).toLower] ∧
      lowerChar (Char.ofNat n).toLower = lowerChar (Char.ofNat n) ∧
      isCased (Char.ofNat n).toLower = isCased (Char.ofNat n) ∧
      isCaseIgnorable (Char.ofNat n).toLower = isCaseIgnorable (Char.ofNat n) := by
  decide +kernel

theorem lowerChar_ascii (ascii : c.toNat < 128) : lowerChar c = [c.toLower] :=
  of_ascii (P := fun c => lowerChar c = [c.toLower]) (fun n => (tables_at_ascii n).1) ascii

theorem lowerChar_toLower (c : Char) : lowerChar c.toLower = lowerChar c :=
  apply_toLower lowerChar (fun n => (tables_at_ascii n).2.1) c

theorem isCased_toLower (c : Char) : isCased c.toLower = isCased c :=
  apply_toLower isCased (fun n => (tables_at_ascii n).2.2.1) c

theorem isCaseIgnorable_toLower (c : Char) : isCaseIgnorable c.toLower = isCaseIgnorable c :=
  apply_toLower isCaseIgnorable (fun n => (tables_at_ascii n).2.2.2) c

theorem toLower_eq_sigma_iff (c : Char) : c.toLower = 'Σ' ↔ c = 'Σ' := by
  have beyond : 'Σ'.toNat = 931 := rfl
  rcases toLower_cases c with ⟨low, high, small⟩ | ⟨-, same⟩
  · constructor
    · intro sigma
      rw [sigma] at small
      omega
    · rintro rfl
      omega
  · rw [same]

theorem lowerChar_plain (plain : c.toNat < 128 ∨ c = kelvinSign) :
    lowerChar c = [(kelvinToLetter c).toLower] := by
  rcases plain with ascii | rfl
  · rw [kelvinToLetter_of_ascii ascii, lowerChar_ascii ascii]
  · decide +kernel

end Characters

theorem ne_sigma_of_plain {c : Char} (plain : c.toNat < 128 ∨ c = kelvinSign) : c ≠ 'Σ' := by
  rintro rfl
  exact absurd plain (by decide)

section Letters

theorem startsCased_map_toLower (cs : List Char) :
    startsCased (cs.map Char.toLower) = startsCased cs := by
  have ignorable : isCaseIgnorable ∘ Char.toLower = isCaseIgnorable := by
    funext c
    rw [Function.comp_apply, isCaseIgnorable_toLower]
  unfold startsCased
  rw [List.dropWhile_map, ignorable]
  cases cs.dropWhile isCaseIgnorable with
  | nil => rfl
  | cons c rest => exact isCased_toLower c

theorem lowerAfter_map_toLower (cs before : List Char) :
    lowerAfter (before.map Char.toLower) (cs.map Char.toLower) = lowerAfter before cs := by
  induction cs generalizing before with
  | nil => rfl
  | cons c rest ih =>
    have later := ih (c :: before)
    rw [List.map_cons] at later
    simp only [List.map_cons, lowerAfter, toLower_eq_sigma_iff, startsCased_map_toLower,
      lowerChar_toLower, later]

/-- Full lower case forgets the case of ASCII letters, also where it looks at the characters
around. -/
theorem lower_lowerAscii (s : String) : lower (lowerAscii s) = lower s := by
  rw [lower, lower, lowerAscii, String.toList_ofList]
  exact congrArg String.ofList (lowerAfter_map_toLower s.toList [])

theorem lower_fold (s : String) : lower (fold s) = lower (trim s) := lower_lowerAscii (trim s)

theorem sameIgnoringCase_iff {a b : String} :
    sameIgnoringCase a b = true ↔ lowerAscii a = lowerAscii b := by
  rw [sameIgnoringCase, beq_iff_eq, lowerAscii, lowerAscii, String.ofList_inj]

theorem lower_eq_of_sameIgnoringCase {a b : String} (same : sameIgnoringCase a b = true) :
    lower a = lower b := by
  rw [← lower_lowerAscii a, sameIgnoringCase_iff.mp same, lower_lowerAscii]

end Letters

theorem lowerAfter_plain (cs : List Char) (before : List Char)
    (plain : ∀ c ∈ cs, c.toNat < 128 ∨ c = kelvinSign) :
    lowerAfter before cs = cs.map fun c => (kelvinToLetter c).toLower := by
  induction cs generalizing before with
  | nil => rfl
  | cons c cs ih =>
    rw [List.forall_mem_cons] at plain
    rw [lowerAfter, if_neg (ne_sigma_of_plain plain.1), lowerChar_plain plain.1, ih _ plain.2]
    rfl

theorem ascii_or_kelvin_of_lowerAfter (cs : List Char) (before : List Char)
    (low : ∀ d ∈ lowerAfter before cs, d.toNat < 128) :
    ∀ c ∈ cs, c.toNat < 128 ∨ c = kelvinSign := by
  induction cs generalizing before with
  | nil => exact nofun
  | cons c cs ih =>
    rw [lowerAfter, List.forall_mem_append] at low
    obtain ⟨first, rest⟩ := low
    rw [List.forall_mem_cons]
    refine ⟨?_, ih _ rest⟩
    split at first
    · -- Either form of sigma is beyond ASCII.
      split at first
      · exact absurd (first 'ς' List.mem_cons_self) (by decide)
      · exact absurd (first 'σ' List.mem_cons_self) (by decide)
    · exact ascii_or_kelvin_of_lowerChar first

theorem lower_ascii {s : String} (ascii : IsAscii s) : lower s = lowerAscii s := by
  rw [lower, lowerAscii, lowerAfter_plain s.toList [] fun c inside => .inl (ascii c inside)]
  refine congrArg String.ofList (List.map_congr_left fun c inside => ?_)
  rw [kelvinToLetter_of_ascii (ascii c inside)]

/-- A text whose lower case is ASCII has ASCII characters and kelvin signs only. -/
theorem plain_of_isAscii_lower {s : String} (low : IsAscii (lower s)) :
    ∀ c ∈ s.toList, c.toNat < 128 ∨ c = kelvinSign := by
  unfold IsAscii lower at low
  rw [String.toList_ofList] at low
  exact ascii_or_kelvin_of_lowerAfter s.toList [] low

theorem lower_plain {s : String} (plain : ∀ c ∈ s.toList, c.toNat < 128 ∨ c = kelvinSign) :
    lower s = lowerAscii (withoutKelvin s) := by
  rw [lower, lowerAscii, withoutKelvin, String.toList_ofList, List.map_map,
    lowerAfter_plain s.toList [] plain]
  rfl

theorem plain_of_isAscii_withoutKelvin {s : String} (ascii : IsAscii (withoutKelvin s)) :
    ∀ c ∈ s.toList, c.toNat < 128 ∨ c = kelvinSign := by
  intro c inside
  refine ascii_or_kelvin_of_kelvinToLetter (ascii _ ?_)
  rw [withoutKelvin, String.toList_ofList]
  exact List.mem_map_of_mem inside

theorem withoutKelvin_of_not_mem {s : String} (absent : kelvinSign ∉ s.toList) :
    withoutKelvin s = s := by
  have same : s.toList.map kelvinToLetter = s.toList.map id := by
    refine List.map_congr_left fun c inside => if_neg ?_
    rintro rfl
    exact absent inside
  rw [withoutKelvin, same, List.map_id, String.ofList_toList]

theorem trim_withoutKelvin (s : String) : trim (withoutKelvin s) = withoutKelvin (trim s) := by
  rw [trim, trim, withoutKelvin, withoutKelvin, String.toList_ofList, String.toList_ofList,
    trimChars_map isBlank_kelvinToLetter]

theorem toLower_ascii_iff (c : Char) : c.toLower.toNat < 128 ↔ c.toNat < 128 := by
  rcases toLower_cases c with ⟨-, high, small⟩ | ⟨-, same⟩
  · omega
  · rw [same]

theorem isAscii_lowerAscii {s : String} (ascii : IsAscii s) : IsAscii (lowerAscii s) := by
  intro c inside
  rw [lowerAscii, String.toList_ofList] at inside
  obtain ⟨d, there, rfl⟩ := List.mem_map.mp inside
  exact (toLower_ascii_iff d).mpr (ascii d there)

theorem isAscii_of_sameIgnoringCase {a b : String} (same : sameIgnoringCase a b = true)
    (ascii : IsAscii a) : IsAscii b := by
  have folded : a.toList.map Char.toLower = b.toList.map Char.toLower := by
    simpa [sameIgnoringCase] using same
  intro c inside
  have listed : c.toLower ∈ a.toList.map Char.toLower := by
    rw [folded]
    exact List.mem_map_of_mem inside
  obtain ⟨d, there, same⟩ := List.mem_map.mp listed
  rw [← toLower_ascii_iff, ← same, toLower_ascii_iff]
  exact ascii d there

end RuleQuery.Text
