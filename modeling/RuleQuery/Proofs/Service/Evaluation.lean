import RuleQuery.Proofs.Grouping.Cached
import RuleQuery.Service.Evaluation

namespace RuleQuery

open Cached

namespace Served

variable {α β : Type}

theorem run_bind (x : Served α) (f : α → Served β) (cache : ShapeCache) :
    (x >>= f).run cache =
      match x.run cache with
      | (.ok a, left) => (f a).run left
      | (.error e, left) => (.error e, left) := by
  change (ExceptT.bindCont f (x.run cache).1).run (x.run cache).2 = _
  rcases x.run cache with ⟨e | a, left⟩ <;> rfl

theorem run_ofExcept_ok_bind (a : α) (next : α → Served β) :
    ofExcept (.ok a) >>= next = next a := rfl

theorem run_ofExcept_error_bind (e : ServiceError) (next : α → Served β) (cache : ShapeCache) :
    (ofExcept (.error e) >>= next).run cache = (.error e, cache) := rfl

theorem run_ofCached (wording : QueryError → Option String) (query : Cached α)
    (cache : ShapeCache) : (ofCached wording query).run cache =
      ((query.outcome cache).mapError fun e => .query e (wording e), query.after cache) := by
  have served : (ofCached wording query).run cache = (ofCached wording query) cache := rfl
  rw [served, ofCached]
  unfold outcome after ExceptT.mk
  dsimp only
  rcases query.run cache with ⟨e | value, left⟩ <;> rfl

theorem run_ofCached_map (wording : QueryError → Option String) (query : Cached α) (f : α → β)
    (cache : ShapeCache) : (do return f (← ofCached wording query)).run cache =
      (((query.outcome cache).map f).mapError fun e => .query e (wording e),
        query.after cache) := by
  rw [run_bind, run_ofCached]
  cases query.outcome cache <;> rfl

end Served

variable {limits : Limits} {rule : Rule} {rules : List Rule} {records : List User}
  {params : Parameters}

theorem run_evaluate_of_excess (exceeds : limits.maxRecords < records.length)
    (cache : ShapeCache) : (evaluate limits ⟨rule, records, params⟩).run cache =
      (.error (.recordLimit limits.maxRecords records.length), cache) := by
  unfold evaluate Limits.checkRecords
  rw [if_pos exceeds, Served.run_ofExcept_error_bind]

theorem run_evaluate (within : records.length ≤ limits.maxRecords) (cache : ShapeCache) :
    (evaluate limits ⟨rule, records, params⟩).run cache =
      (((rule.execute User.schema params records).outcome cache).mapError
          fun e => .query e rule.errorMessage,
        (rule.execute User.schema params records).after cache) := by
  unfold evaluate Limits.checkRecords
  rw [if_neg (Nat.not_lt.mpr within), Served.run_ofExcept_ok_bind, Served.run_ofCached]

theorem run_evaluateAll_of_excess (exceeds : limits.maxRecords < records.length)
    (cache : ShapeCache) : (evaluateAll limits ⟨rules, records, params⟩).run cache =
      (.error (.recordLimit limits.maxRecords records.length), cache) := by
  unfold evaluateAll Limits.checkRecords
  rw [if_pos exceeds, Served.run_ofExcept_error_bind]

theorem run_evaluateAll (within : records.length ≤ limits.maxRecords)
    (few : rules.length ≤ limits.maxRules) (cache : ShapeCache) :
    (evaluateAll limits ⟨rules, records, params⟩).run cache =
      ((((Rule.executeAll User.schema params records rules).outcome cache).map .records).mapError
          fun e => .query e ((failingRule? e rules).bind (·.errorMessage)),
        (Rule.executeAll User.schema params records rules).after cache) := by
  unfold evaluateAll Limits.checkRecords Limits.checkRules
  rw [if_neg (Nat.not_lt.mpr within), if_neg (Nat.not_lt.mpr few), Served.run_ofExcept_ok_bind,
    Served.run_ofExcept_ok_bind, Served.run_ofCached_map]

end RuleQuery
