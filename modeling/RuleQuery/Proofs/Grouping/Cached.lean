import RuleQuery.Grouping.Plan
import RuleQuery.Proofs.Sequence

namespace RuleQuery

namespace Cached

variable {α β : Type}

def outcome (x : Cached α) (cache : ShapeCache) : Except QueryError α := (x.run cache).1

def after (x : Cached α) (cache : ShapeCache) : ShapeCache := (x.run cache).2

@[simp] theorem outcome_pure (a : α) (cache : ShapeCache) :
    (pure a : Cached α).outcome cache = .ok a := rfl

@[simp] theorem after_pure (a : α) (cache : ShapeCache) :
    (pure a : Cached α).after cache = cache := rfl

@[simp] theorem outcome_throw (e : QueryError) (cache : ShapeCache) :
    (throw e : Cached α).outcome cache = .error e := rfl

@[simp] theorem after_throw (e : QueryError) (cache : ShapeCache) :
    (throw e : Cached α).after cache = cache := rfl

@[simp] theorem outcome_ofExcept (x : Except QueryError α) (cache : ShapeCache) :
    (ofExcept x).outcome cache = x := rfl

@[simp] theorem after_ofExcept (x : Except QueryError α) (cache : ShapeCache) :
    (ofExcept x).after cache = cache := rfl

theorem outcome_bind (x : Cached α) (f : α → Cached β) (cache : ShapeCache) :
    (x >>= f).outcome cache = x.outcome cache >>= fun a => (f a).outcome (x.after cache) := by
  change ((ExceptT.bindCont f (x.run cache).1).run (x.run cache).2).1 = _
  unfold outcome after
  cases (x.run cache).1 <;> rfl

theorem after_bind_of_ok {x : Cached α} {f : α → Cached β} {cache : ShapeCache} {a : α}
    (done : x.outcome cache = .ok a) :
    (x >>= f).after cache = (f a).after (x.after cache) := by
  change ((ExceptT.bindCont f (x.outcome cache)).run (x.after cache)).2 = _
  rw [done]
  rfl

theorem after_bind_of_error {x : Cached α} {f : α → Cached β} {cache : ShapeCache}
    {e : QueryError} (fails : x.outcome cache = .error e) :
    (x >>= f).after cache = x.after cache := by
  change ((ExceptT.bindCont f (x.outcome cache)).run (x.after cache)).2 = _
  rw [fails]
  rfl

end Cached

namespace ShapeCache

/-- Whatever the earlier cache keeps, the later one keeps under the same key. -/
def Extends (later earlier : ShapeCache) : Prop :=
  ∀ key kept, earlier.find? key = some kept → later.find? key = some kept

theorem extends_refl (cache : ShapeCache) : cache.Extends cache := fun _ _ found => found

theorem extends_trans {third second first : ShapeCache} (later : third.Extends second)
    (earlier : second.Extends first) : third.Extends first :=
  fun key kept found => later key kept (earlier key kept found)

theorem find?_cons (key key' : ShapeKey) (shape : SharedShape)
    (entries : List (ShapeKey × SharedShape)) (serial serial' : Nat) :
    (ShapeCache.mk ((key, shape) :: entries) serial).find? key' =
      if key = key' then some shape else (ShapeCache.mk entries serial').find? key' := by
  unfold find?
  by_cases same : key = key'
  · simp [same]
  · simp [same]

end ShapeCache

namespace KeyShape

open Cached ShapeCache

variable {R : Type} {schema : Schema R} {names : List String} {cache : ShapeCache}

theorem shared_of_kept {kept : SharedShape} (found : cache.find? (.of schema names) = some kept) :
    (shared schema names).outcome cache = .ok kept ∧
      (shared schema names).after cache = cache := by
  simp [outcome, after, shared, ExceptT.mk, ExceptT.run, found]

/-- A shape that is kept is handed out; any other is built, numbered and entered. -/
theorem shared_cases (schema : Schema R) (names : List String) (cache : ShapeCache) :
    (∃ kept, cache.find? (.of schema names) = some kept ∧
      (shared schema names).outcome cache = .ok kept ∧
      (shared schema names).after cache = cache) ∨
    (∃ e, cache.find? (.of schema names) = none ∧ build schema names = .error e ∧
      (shared schema names).outcome cache = .error e ∧
      (shared schema names).after cache = cache) ∨
    (∃ shape, cache.find? (.of schema names) = none ∧ build schema names = .ok shape ∧
      (shared schema names).outcome cache = .ok ⟨cache.nextSerial, shape⟩ ∧
      (shared schema names).after cache =
        ⟨(.of schema names, ⟨cache.nextSerial, shape⟩) :: cache.entries,
          cache.nextSerial + 1⟩) := by
  cases found : cache.find? (.of schema names) with
  | some kept => exact .inl ⟨kept, rfl, shared_of_kept found⟩
  | none =>
    cases built : build schema names with
    | error e =>
      refine .inr (.inl ⟨e, rfl, rfl, ?_⟩)
      simp [outcome, after, shared, ExceptT.mk, ExceptT.run, found, built]
    | ok shape =>
      refine .inr (.inr ⟨shape, rfl, rfl, ?_⟩)
      have missing : (share cache shape).2.find? (.of schema names) = none := found
      simp only [outcome, after, shared, ExceptT.mk, ExceptT.run, found, built, getOrInsert,
        missing]
      exact ⟨rfl, rfl⟩

/-- Asking for a shape takes nothing out of the cache and puts nothing in place of an entry. -/
theorem shared_extends (schema : Schema R) (names : List String) (cache : ShapeCache) :
    ((shared schema names).after cache).Extends cache := by
  obtain ⟨kept, -, -, leaves⟩ | ⟨e, -, -, -, leaves⟩ | ⟨shape, missing, -, -, leaves⟩ :=
    shared_cases schema names cache
  · rw [leaves]
    exact extends_refl cache
  · rw [leaves]
    exact extends_refl cache
  · rw [leaves]
    intro key kept there
    rw [find?_cons _ _ _ _ _ cache.nextSerial, if_neg]
    · exact there
    · rintro rfl
      rw [missing] at there
      cases there

theorem find?_after_shared {kept : SharedShape}
    (done : (shared schema names).outcome cache = .ok kept) :
    ((shared schema names).after cache).find? (.of schema names) = some kept := by
  obtain ⟨there, found, yields, leaves⟩ | ⟨e, -, -, yields, -⟩ | ⟨shape, -, -, yields, leaves⟩ :=
    shared_cases schema names cache
  · rw [yields] at done
    cases done
    rw [leaves]
    exact found
  · rw [yields] at done
    cases done
  · rw [yields] at done
    cases done
    rw [leaves, find?_cons _ _ _ _ _ cache.nextSerial, if_pos rfl]

end KeyShape

namespace AggregationPlan

open Cached

variable {R : Type} {schema : Schema R} {names : List String} {aggregation : Aggregation}
  {cache : ShapeCache}

theorem build_eq_ok_iff {plan : AggregationPlan R} :
    (build schema names aggregation).outcome cache = .ok plan ↔
      ∃ shape reduction, (KeyShape.shared schema names).outcome cache = .ok shape ∧
        reductionOf schema aggregation = .ok reduction ∧ plan = ⟨schema, shape, reduction⟩ := by
  simp only [build, outcome_bind, outcome_ofExcept, outcome_pure, bind_eq_ok_iff]
  constructor
  · rintro ⟨shape, shared, reduction, reduced, done⟩
    exact ⟨shape, reduction, shared, reduced, (Except.ok.inj done).symm⟩
  · rintro ⟨shape, reduction, shared, reduced, rfl⟩
    exact ⟨shape, shared, reduction, reduced, rfl⟩

theorem after_build {shape : SharedShape}
    (shared : (KeyShape.shared schema names).outcome cache = .ok shape) :
    (build schema names aggregation).after cache = (KeyShape.shared schema names).after cache := by
  rw [build, after_bind_of_ok shared]
  cases reduced : reductionOf schema aggregation <;> rfl

end AggregationPlan

end RuleQuery
