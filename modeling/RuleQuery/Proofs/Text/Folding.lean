import RuleQuery.Text.Blank
import RuleQuery.Text.Casing

namespace RuleQuery.Text

def fold (s : String) : String := lowerAscii (trim s)

/-- The second text is the first one with the case of ASCII letters changed and with white space
around. -/
def Respells (s t : String) : Prop :=
  ∃ front core back, t.toList = front ++ core ++ back ∧
    (∀ c ∈ front, isBlank c = true) ∧ (∀ c ∈ back, isBlank c = true) ∧
    core.map Char.toLower = s.toList.map Char.toLower

theorem toLower_cases (c : Char) :
    (65 ≤ c.toNat ∧ c.toNat ≤ 90 ∧ c.toLower.toNat = c.toNat + 32) ∨
      (¬ (65 ≤ c.toNat ∧ c.toNat ≤ 90) ∧ c.toLower = c) := by
  unfold Char.toLower
  split
  · rename_i capital
    have low := UInt32.le_iff_toNat_le.mp capital.1
    have high := UInt32.le_iff_toNat_le.mp capital.2
    refine .inl ⟨low, high, ?_⟩
    simp only [Char.toNat, UInt32.toNat_add]
    simp only [Char.reduceVal, UInt32.reduceSub, UInt32.reduceToNat] at high ⊢
    omega
  · rename_i other
    refine .inr ⟨fun capital => other ⟨?_, ?_⟩, rfl⟩
    · exact UInt32.le_iff_toNat_le.mpr capital.1
    · exact UInt32.le_iff_toNat_le.mpr capital.2

theorem of_ascii {P : Char → Prop} (each : ∀ n : Fin 128, P (Char.ofNat n)) {c : Char}
    (ascii : c.toNat < 128) : P c := by
  have this := each ⟨c.toNat, ascii⟩
  rwa [Char.ofNat_toNat] at this

/-- Outside the 26 capitals of ASCII there is nothing to show. -/
theorem apply_toLower {α : Type} (f : Char → α)
    (each : ∀ n : Fin 128, f (Char.ofNat n).toLower = f (Char.ofNat n)) (c : Char) :
    f c.toLower = f c := by
  rcases toLower_cases c with ⟨-, high, -⟩ | ⟨-, same⟩
  · have ascii : c.toNat < 128 := by omega
    exact of_ascii (P := fun c => f c.toLower = f c) each ascii
  · rw [same]

theorem isBlank_toLower (c : Char) : isBlank c.toLower = isBlank c :=
  apply_toLower isBlank (by decide) c

/-- White space is trimmed alike from characters that are blank alike. -/
theorem trimChars_map {f : Char → Char} (alike : ∀ c, isBlank (f c) = isBlank c) (cs : List Char) :
    trimChars (cs.map f) = (trimChars cs).map f := by
  have blank : isBlank ∘ f = isBlank := funext alike
  have start : ∀ cs, trimStart (cs.map f) = (trimStart cs).map f := by
    intro cs
    rw [trimStart, trimStart, List.dropWhile_map, blank]
  simp only [trimChars, start, ← List.map_reverse]

theorem trimStart_append_of_blank {front : List Char} (blank : ∀ c ∈ front, isBlank c = true)
    (cs : List Char) : trimStart (front ++ cs) = trimStart cs :=
  List.dropWhile_append_of_pos blank

theorem trimStart_of_blank {cs : List Char} (blank : ∀ c ∈ cs, isBlank c = true) :
    trimStart cs = [] := by
  have gone := trimStart_append_of_blank blank []
  rwa [List.append_nil] at gone

theorem trimChars_append_of_blank {front back : List Char} (blank : ∀ c ∈ front, isBlank c = true)
    (blankBack : ∀ c ∈ back, isBlank c = true) (cs : List Char) :
    trimChars (front ++ cs ++ back) = trimChars cs := by
  have backwards : ∀ c ∈ back.reverse, isBlank c = true := by simpa using blankBack
  have around : trimStart (cs ++ back) =
      if (trimStart cs).isEmpty then trimStart back else trimStart cs ++ back :=
    List.dropWhile_append
  rw [trimChars, trimChars, List.append_assoc, trimStart_append_of_blank blank, around]
  cases rest : trimStart cs with
  | nil => rw [List.isEmpty_nil, if_pos rfl, trimStart_of_blank blankBack]
  | cons c rest =>
    rw [List.isEmpty_cons, if_neg Bool.false_ne_true, List.reverse_append,
      trimStart_append_of_blank backwards]

theorem exists_before_trimStart (cs : List Char) :
    ∃ front, cs = front ++ trimStart cs ∧ ∀ c ∈ front, isBlank c = true := by
  refine ⟨cs.takeWhile isBlank, List.takeWhile_append_dropWhile.symm, ?_⟩
  exact List.all_eq_true.mp List.all_takeWhile

theorem exists_around_trimChars (cs : List Char) : ∃ front back,
    cs = front ++ trimChars cs ++ back ∧ (∀ c ∈ front, isBlank c = true) ∧
      ∀ c ∈ back, isBlank c = true := by
  obtain ⟨front, written, blank⟩ := exists_before_trimStart cs
  obtain ⟨back, turned, blankBack⟩ := exists_before_trimStart (trimStart cs).reverse
  refine ⟨front, back.reverse, ?_, blank, by simpa using blankBack⟩
  have rest : trimStart cs = trimChars cs ++ back.reverse := by
    rw [trimChars, ← List.reverse_append, ← turned, List.reverse_reverse]
  rw [List.append_assoc, ← rest]
  exact written

theorem toList_fold (s : String) : (fold s).toList = (trimChars s.toList).map Char.toLower := by
  simp [fold, lowerAscii, trim]

theorem fold_eq_of_respells {s t : String} (respells : Respells s t) : fold t = fold s := by
  obtain ⟨front, core, back, written, blank, blankBack, letters⟩ := respells
  rw [← String.toList_inj, toList_fold, toList_fold, written,
    trimChars_append_of_blank blank blankBack, ← trimChars_map isBlank_toLower, letters,
    trimChars_map isBlank_toLower]

theorem fold_trim (s : String) : fold (trim s) = fold s := by
  obtain ⟨front, back, written, blank, blankBack⟩ := exists_around_trimChars s.toList
  refine (fold_eq_of_respells ⟨front, _, back, written, blank, blankBack, ?_⟩).symm
  rw [trim, String.toList_ofList]

theorem isEmpty_fold (s : String) : (fold s).isEmpty = (trim s).isEmpty := by
  rw [Bool.eq_iff_iff, String.isEmpty_iff, String.isEmpty_iff, ← String.toList_inj,
    ← String.toList_inj, toList_fold, trim, String.toList_ofList]
  simp

theorem sameIgnoringCase_trim (s t : String) :
    sameIgnoringCase (trim s) t = ((fold s).toList == t.toList.map Char.toLower) := by
  rw [fold, lowerAscii, String.toList_ofList, sameIgnoringCase]

end RuleQuery.Text
