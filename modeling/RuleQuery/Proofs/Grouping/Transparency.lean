import RuleQuery.Proofs.Grouping.ShapeCache

/-!
Where the cache of key shapes shows. Names that all denote fields get the shape that would be built
for them, whatever was asked for before. Names that denote none get an error, except where they do
denote fields once each kelvin sign is read as a letter: such a list is kept under the key of the
list so read, and gets its shape if that was asked for.
-/
namespace RuleQuery

namespace Schema

variable {R : Type} {schema : Schema R} {name other : String}

theorem position?_withoutKelvin (ascii : schema.AsciiNames)
    (otherKnown : schema.contains other = true)
    (fold : Text.lower (Text.trim name) = Text.lower (Text.trim other)) :
    schema.position? (Text.withoutKelvin name) = schema.position? other := by
  have otherAscii := isAscii_of_contains ascii otherKnown
  rw [Text.lower_ascii otherAscii] at fold
  have low : Text.IsAscii (Text.lower (Text.trim name)) := by
    rw [fold]
    exact Text.isAscii_lowerAscii otherAscii
  rw [Text.lower_plain (Text.plain_of_isAscii_lower low), ← Text.trim_withoutKelvin] at fold
  exact position?_congr fold

theorem fold_withoutKelvin (ascii : schema.AsciiNames)
    (known : schema.contains (Text.withoutKelvin name) = true) :
    Text.lower (Text.trim (Text.withoutKelvin name)) = Text.lower (Text.trim name) := by
  have letters := isAscii_of_contains ascii known
  rw [Text.trim_withoutKelvin] at letters ⊢
  rw [Text.lower_ascii letters, Text.lower_plain (Text.plain_of_isAscii_withoutKelvin letters)]

def labels : Schema (String × String) where
  typeId := 1
  typeName := "Label"
  fields := [⟨"Name", .required .text, fun label => .text label.1⟩,
    ⟨"Marker", .optional .text, fun label => .text label.2⟩]

theorem asciiNames_labels : labels.AsciiNames := by decide

end Schema

namespace KeyShape

open Cached ShapeCache

variable {R : Type} {schema : Schema R} {names others : List String} {cache : ShapeCache}

def handedOut (schema : Schema R) (names : List String) (cache : ShapeCache) :
    Except QueryError KeyShape :=
  ((shared schema names).outcome cache).map (·.shape)

theorem build_withoutKelvin_of_key_eq (ascii : schema.AsciiNames)
    (othersKnown : ∀ name ∈ others, schema.contains name = true)
    (same : ShapeKey.of schema names = ShapeKey.of schema others) :
    build schema (names.map Text.withoutKelvin) = build schema others := by
  have folds : names.map (fun name => Text.lower (Text.trim name)) =
      others.map (fun name => Text.lower (Text.trim name)) := congrArg ShapeKey.names same
  refine build_congr ?_ othersKnown
  rw [List.map_map]
  exact map_eq_map_of_forall folds fun name _ other there =>
    Schema.position?_withoutKelvin ascii (othersKnown other there)

theorem key_withoutKelvin (ascii : schema.AsciiNames)
    (known : ∀ name ∈ names.map Text.withoutKelvin, schema.contains name = true) :
    ShapeKey.of schema (names.map Text.withoutKelvin) = ShapeKey.of schema names := by
  rw [ShapeKey.of, ShapeKey.of, List.map_map]
  refine congrArg (ShapeKey.mk schema.typeId) (List.map_congr_left fun name inside => ?_)
  exact Schema.fold_withoutKelvin ascii (known _ (List.mem_map_of_mem inside))

/-- What is handed out is what would be built for the names, or, where these denote no fields as
they are written, for the names with each kelvin sign read as a letter. -/
theorem handedOut_cases (ascii : schema.AsciiNames) (faithful : cache.Faithful schema)
    (names : List String) :
    handedOut schema names cache = build schema names ∨
      (∃ e, build schema names = .error e) ∧
        (∃ kept, cache.find? (.of schema names) = some kept) ∧
        ∃ shape, build schema (names.map Text.withoutKelvin) = .ok shape ∧
          handedOut schema names cache = .ok shape := by
  unfold handedOut
  obtain ⟨kept, found, yields, -⟩ | ⟨e, -, fails, yields, -⟩ | ⟨shape, -, built, yields, -⟩ :=
    shared_cases schema names cache
  · obtain ⟨others, same, built⟩ := faithful _ kept found rfl
    have othersKnown := exists_build_eq_ok_iff.mp ⟨_, built⟩
    rw [yields]
    cases own : build schema names with
    | ok shape =>
      have known := exists_build_eq_ok_iff.mp ⟨_, own⟩
      rw [build_eq_of_key_eq ascii.namesStayApart known othersKnown same.symm, built] at own
      cases own
      exact .inl rfl
    | error e =>
      have letters := build_withoutKelvin_of_key_eq ascii othersKnown same.symm
      rw [built] at letters
      exact .inr ⟨⟨e, rfl⟩, ⟨kept, found⟩, kept.shape, letters, rfl⟩
  · rw [yields, fails]
    exact .inl rfl
  · rw [yields, built]
    exact .inl rfl

/-- After a request for the names with letters, the names with kelvin signs get their shape. -/
theorem handedOut_after_letters (ascii : schema.AsciiNames) {shape : KeyShape}
    (letters : build schema (names.map Text.withoutKelvin) = .ok shape) :
    handedOut schema names ((shared schema (names.map Text.withoutKelvin)).after .empty) =
      .ok shape := by
  have known := exists_build_eq_ok_iff.mp ⟨shape, letters⟩
  have found : ((shared schema (names.map Text.withoutKelvin)).after .empty).find?
      (.of schema names) = some ⟨0, shape⟩ := by
    obtain ⟨_, found, -⟩ | ⟨e, -, fails, -⟩ | ⟨built, -, same, yields, -⟩ :=
      shared_cases schema (names.map Text.withoutKelvin) .empty
    · cases found
    · rw [letters] at fails
      cases fails
    · rw [letters] at same
      cases same
      have kept := find?_after_shared yields
      rwa [key_withoutKelvin ascii known] at kept
  rw [handedOut, (shared_of_kept found).1]
  rfl

/-- The cache shows exactly for the names that denote no fields as they are written and do once each
kelvin sign in them is read as a letter; so it shows for no names without kelvin signs. -/
theorem handedOut_eq_build_iff (schema : Schema R) (ascii : schema.AsciiNames)
    (names : List String) :
    (∀ cache, Reached schema cache →
      handedOut schema names cache = build schema names ∨
        (∃ e, build schema names = .error e) ∧
          (∃ kept, cache.find? (.of schema names) = some kept) ∧
          ∃ shape, build schema (names.map Text.withoutKelvin) = .ok shape ∧
            handedOut schema names cache = .ok shape) ∧
    ((∀ cache, Reached schema cache → handedOut schema names cache = build schema names) ↔
      ¬ ((∃ e, build schema names = .error e) ∧
        ∃ shape, build schema (names.map Text.withoutKelvin) = .ok shape)) ∧
    ((∀ name ∈ names, Text.kelvinSign ∉ name.toList) →
      ∀ cache, Reached schema cache → handedOut schema names cache = build schema names) := by
  have cases_of_reached : ∀ cache, Reached schema cache → _ := fun cache reached =>
    handedOut_cases ascii (faithful_of_reached reached) names
  refine ⟨cases_of_reached, ⟨?_, ?_⟩, ?_⟩
  · rintro transparent ⟨⟨e, fails⟩, shape, letters⟩
    have shown := transparent _ (.own (names.map Text.withoutKelvin) .empty)
    rw [handedOut_after_letters ascii letters, fails] at shown
    cases shown
  · intro hidden cache reached
    obtain same | ⟨fails, -, shape, letters, -⟩ := cases_of_reached cache reached
    · exact same
    · exact absurd ⟨fails, shape, letters⟩ hidden
  · intro noKelvin cache reached
    have same : names.map Text.withoutKelvin = names := by
      refine (List.map_congr_left fun name inside => ?_).trans (List.map_id names)
      exact Text.withoutKelvin_of_not_mem (noKelvin name inside)
    obtain same | ⟨⟨e, fails⟩, -, shape, letters, -⟩ := cases_of_reached cache reached
    · exact same
    · rw [same, fails] at letters
      cases letters

theorem handedOut_marker_and_name :
    handedOut .labels [" MARKER", "name"]
        ((shared Schema.labels ["marker", "Name "]).after .empty) =
      .ok ⟨"Label", [("Marker", 1), ("Name", 0)]⟩ := by
  have written : ∀ name ∈ [" MARKER", "name"], Text.kelvinSign ∉ name.toList := by decide
  have reached : Reached Schema.labels ((shared Schema.labels ["marker", "Name "]).after .empty) :=
    .own _ .empty
  exact (handedOut_eq_build_iff .labels Schema.asciiNames_labels _).2.2 written _ reached

/-- An unknown name gets a shape once the field that it resembles was asked for. -/
theorem handedOut_kelvinSign : ∃ cache, Reached Schema.labels cache ∧
    handedOut .labels ["Mar\u212aer"] cache = .ok ⟨"Label", [("Marker", 1)]⟩ ∧
    build .labels ["Mar\u212aer"] = .error (.unknownField "Mar\u212aer" "Label") := by
  have letters : build .labels (["Mar\u212aer"].map Text.withoutKelvin) =
      .ok ⟨"Label", [("Marker", 1)]⟩ := rfl
  exact ⟨_, .own _ .empty, handedOut_after_letters Schema.asciiNames_labels letters, rfl⟩

end KeyShape

end RuleQuery
