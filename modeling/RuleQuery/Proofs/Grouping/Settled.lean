import RuleQuery.Proofs.Grouping.ShapeCache

namespace RuleQuery

namespace Cached

variable {α β γ : Type}

/-- A computation that keeps all entries of the cache and yields the same when made again. -/
structure Settles (x : Cached α) : Prop where
  grows : ∀ cache, (x.after cache).Extends cache
  again : ∀ {cache a later}, x.outcome cache = .ok a → later.Extends (x.after cache) →
    x.outcome later = .ok a ∧ x.after later = later

/-- A computation that only asks for shapes of the record type of the schema. -/
def KeepsReached {R : Type} (schema : Schema R) (x : Cached α) : Prop :=
  ∀ cache, ShapeCache.Reached schema cache → ShapeCache.Reached schema (x.after cache)

/-- A computation whose failures do not depend on the cache. -/
def FailsAlike (x : Cached α) : Prop :=
  ∀ {cache e}, x.outcome cache = .error e → ∀ other, x.outcome other = .error e

theorem settles_pure (a : α) : Settles (pure a) where
  grows cache := ShapeCache.extends_refl cache
  again done _ := ⟨done, rfl⟩

theorem settles_throw (e : QueryError) : Settles (throw e : Cached α) where
  grows cache := ShapeCache.extends_refl cache
  again done _ := ⟨done, rfl⟩

theorem settles_ofExcept (x : Except QueryError α) : Settles (ofExcept x) where
  grows cache := ShapeCache.extends_refl cache
  again done _ := ⟨done, rfl⟩

theorem settles_bind {x : Cached α} {f : α → Cached β} (first : Settles x)
    (rest : ∀ a, Settles (f a)) : Settles (x >>= f) where
  grows cache := by
    cases done : x.outcome cache with
    | error e =>
      rw [after_bind_of_error done]
      exact first.grows cache
    | ok a =>
      rw [after_bind_of_ok done]
      exact ShapeCache.extends_trans ((rest a).grows _) (first.grows cache)
  again {cache b later} done extends_after := by
    rw [outcome_bind] at done
    obtain ⟨a, firstDone, restDone⟩ := bind_eq_ok_iff.mp done
    rw [after_bind_of_ok firstDone] at extends_after
    have extends_first := ShapeCache.extends_trans extends_after ((rest a).grows _)
    obtain ⟨firstAgain, firstLeaves⟩ := first.again firstDone extends_first
    obtain ⟨restAgain, restLeaves⟩ := (rest a).again restDone extends_after
    constructor
    · rw [outcome_bind, firstAgain, firstLeaves]
      exact restAgain
    · rw [after_bind_of_ok firstAgain, firstLeaves, restLeaves]

theorem settles_shared {R : Type} (schema : Schema R) (names : List String) :
    Settles (KeyShape.shared schema names) where
  grows cache := KeyShape.shared_extends schema names cache
  again done extends_after :=
    KeyShape.shared_of_kept (extends_after _ _ (KeyShape.find?_after_shared done))

theorem settles_mapM {f : α → Cached β} (each : ∀ item, Settles (f item)) (items : List α) :
    Settles (items.mapM f) := by
  induction items with
  | nil => exact settles_pure []
  | cons x xs ih =>
    rw [List.mapM_cons]
    exact settles_bind (each x) fun b => settles_bind ih fun bs => settles_pure (b :: bs)

section Reached

variable {R : Type} {schema : Schema R}

theorem keepsReached_pure (a : α) : KeepsReached schema (pure a : Cached α) :=
  fun _ reached => reached

theorem keepsReached_throw (e : QueryError) : KeepsReached schema (throw e : Cached α) :=
  fun _ reached => reached

theorem keepsReached_ofExcept (x : Except QueryError α) : KeepsReached schema (ofExcept x) :=
  fun _ reached => reached

theorem keepsReached_shared (names : List String) :
    KeepsReached schema (KeyShape.shared schema names) := fun _ reached => .own names reached

theorem keepsReached_bind {x : Cached α} {f : α → Cached β} (first : KeepsReached schema x)
    (rest : ∀ a, KeepsReached schema (f a)) : KeepsReached schema (x >>= f) := by
  intro cache reached
  cases done : x.outcome cache with
  | error e =>
    rw [after_bind_of_error done]
    exact first cache reached
  | ok a =>
    rw [after_bind_of_ok done]
    exact rest a _ (first cache reached)

theorem keepsReached_mapM {f : α → Cached β} (each : ∀ item, KeepsReached schema (f item))
    (items : List α) : KeepsReached schema (items.mapM f) := by
  induction items with
  | nil => exact keepsReached_pure []
  | cons x xs ih =>
    rw [List.mapM_cons]
    exact keepsReached_bind (each x) fun b =>
      keepsReached_bind ih fun bs => keepsReached_pure (b :: bs)

end Reached

section Lists

variable {f : α → Cached β} {g : α → Cached γ} {items : List α} {cache : ShapeCache}

/-- A list of computations fails as its items do, tried each on its own. -/
theorem outcome_mapM_eq_error_iff (alike : ∀ item, FailsAlike (f item)) (other : ShapeCache)
    {e : QueryError} : (items.mapM f).outcome cache = .error e ↔
      FirstFailure (fun item => (f item).outcome other) items e := by
  induction items generalizing cache with
  | nil =>
    rw [List.mapM_nil, outcome_pure]
    exact ⟨nofun, fun failure => absurd failure not_firstFailure_nil⟩
  | cons x xs ih =>
    rw [List.mapM_cons, outcome_bind, firstFailure_cons, bind_eq_error_iff]
    have rest : ∀ b cache, (do let bs ← xs.mapM f; pure (b :: bs) : Cached (List β)).outcome cache =
        .error e ↔ FirstFailure (fun item => (f item).outcome other) xs e := by
      intro b cache
      rw [outcome_bind, bind_eq_error_iff, ← ih]
      exact ⟨fun fails => fails.elim id nofun, .inl⟩
    constructor
    · rintro (fails | ⟨b, first, fails⟩)
      · exact .inl (alike x fails other)
      · refine .inr ⟨?_, (rest b _).mp fails⟩
        cases there : (f x).outcome other with
        | ok b' => exact ⟨b', rfl⟩
        | error e' =>
          rw [alike x there cache] at first
          cases first
    · rintro (fails | ⟨⟨b', there⟩, fails⟩)
      · exact .inl (alike x fails cache)
      · cases first : (f x).outcome cache with
        | ok b => exact .inr ⟨b, rfl, (rest b _).mpr fails⟩
        | error e' =>
          rw [alike x first other] at there
          cases there

theorem outcome_mapM_cons_eq_ok_iff {x : α} {xs : List α} {results : List β} :
    ((x :: xs).mapM f).outcome cache = .ok results ↔ ∃ b bs, results = b :: bs ∧
      (f x).outcome cache = .ok b ∧ (xs.mapM f).outcome ((f x).after cache) = .ok bs := by
  rw [List.mapM_cons, outcome_bind, bind_eq_ok_iff]
  constructor
  · rintro ⟨b, first, rest⟩
    rw [outcome_bind] at rest
    obtain ⟨bs, later, done⟩ := bind_eq_ok_iff.mp rest
    cases done
    exact ⟨b, bs, rfl, first, later⟩
  · rintro ⟨b, bs, rfl, first, later⟩
    refine ⟨b, first, ?_⟩
    rw [outcome_bind]
    exact bind_eq_ok_iff.mpr ⟨bs, later, rfl⟩

theorem after_mapM_cons {x : α} {xs : List α} {b : β} (first : (f x).outcome cache = .ok b) :
    ((x :: xs).mapM f).after cache = (xs.mapM f).after ((f x).after cache) := by
  rw [List.mapM_cons, after_bind_of_ok first]
  cases later : (xs.mapM f).outcome ((f x).after cache) with
  | error e => rw [after_bind_of_error later]
  | ok bs =>
    rw [after_bind_of_ok later]
    rfl

/-- After a list of computations each of them yields its result again. -/
theorem outcome_of_mapM (each : ∀ item, Settles (f item)) {results : List β} {later : ShapeCache}
    (done : (items.mapM f).outcome cache = .ok results)
    (extends_after : later.Extends ((items.mapM f).after cache)) :
    items.map (fun item => (f item).outcome later) = results.map .ok := by
  induction items generalizing cache results with
  | nil =>
    cases done
    rfl
  | cons x xs ih =>
    obtain ⟨b, bs, rfl, first, rest⟩ := outcome_mapM_cons_eq_ok_iff.mp done
    rw [after_mapM_cons first] at extends_after
    have grown := ShapeCache.extends_trans extends_after ((settles_mapM each xs).grows _)
    rw [List.map_cons, List.map_cons, ((each x).again first grown).1, ih rest extends_after]

theorem outcome_mapM_of_pace {h : β → γ}
    (pace : ∀ item cache b, (f item).outcome cache = .ok b →
      (g item).outcome cache = .ok (h b) ∧ (g item).after cache = (f item).after cache)
    {results : List β} (done : (items.mapM f).outcome cache = .ok results) :
    (items.mapM g).outcome cache = .ok (results.map h) := by
  induction items generalizing cache results with
  | nil =>
    cases done
    rfl
  | cons x xs ih =>
    obtain ⟨b, bs, rfl, first, rest⟩ := outcome_mapM_cons_eq_ok_iff.mp done
    obtain ⟨same, leaves⟩ := pace x cache b first
    refine outcome_mapM_cons_eq_ok_iff.mpr ⟨h b, bs.map h, rfl, same, ?_⟩
    rw [leaves]
    exact ih rest

theorem mapM_eq_pure {h : α → β} (each : ∀ item ∈ items, f item = pure (h item)) :
    items.mapM f = pure (items.map h) := by
  induction items with
  | nil => rfl
  | cons x xs ih =>
    rw [List.forall_mem_cons] at each
    rw [List.mapM_cons, each.1, ih each.2, pure_bind, pure_bind]
    rfl

end Lists

end Cached

end RuleQuery
