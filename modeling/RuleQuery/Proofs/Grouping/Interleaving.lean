import RuleQuery.Proofs.Grouping.Cached
import RuleQuery.User.Basic

/-!
Requests for key shapes that run at the same time. A request looks up what is kept, builds a shape
if there is none, and enters it unless another request was first. Each of these is one step; the
steps of any number of requests come in any order. Whoever asks under one key and gets a shape gets
the one that was entered first.
-/
namespace RuleQuery

structure ShapeRequest where
  {R : Type}
  schema : Schema R
  names : List String

namespace ShapeRequest

inductive Progress where
  | asked
  | missed
  | built (own : SharedShape)
  | answered (result : Except QueryError SharedShape)

def key (request : ShapeRequest) : ShapeKey := .of request.schema request.names

def advance (request : ShapeRequest) (cache : ShapeCache) : Progress → Progress × ShapeCache
  | .asked =>
    match cache.find? request.key with
    | some kept => (.answered (.ok kept), cache)
    | none => (.missed, cache)
  | .missed =>
    match KeyShape.build request.schema request.names with
    | .error e => (.answered (.error e), cache)
    | .ok shape =>
      let (own, cache) := cache.share shape
      (.built own, cache)
  | .built own =>
    let (kept, cache) := cache.getOrInsert request.key own
    (.answered (.ok kept), cache)
  | .answered result => (.answered result, cache)

/-- What a step can do: from which progress to which, and to which cache. -/
inductive Advances (request : ShapeRequest) (cache : ShapeCache) :
    Progress → Progress → ShapeCache → Prop where
  | found {kept : SharedShape} : cache.find? request.key = some kept →
      Advances request cache .asked (.answered (.ok kept)) cache
  | missed : cache.find? request.key = none → Advances request cache .asked .missed cache
  | refused {e : QueryError} : KeyShape.build request.schema request.names = .error e →
      Advances request cache .missed (.answered (.error e)) cache
  | built {shape : KeyShape} : KeyShape.build request.schema request.names = .ok shape →
      Advances request cache .missed (.built ⟨cache.nextSerial, shape⟩)
        ⟨cache.entries, cache.nextSerial + 1⟩
  | late {own kept : SharedShape} : cache.find? request.key = some kept →
      Advances request cache (.built own) (.answered (.ok kept)) cache
  | entered {own : SharedShape} : cache.find? request.key = none →
      Advances request cache (.built own) (.answered (.ok own))
        ⟨(request.key, own) :: cache.entries, cache.nextSerial⟩
  | rests {result : Except QueryError SharedShape} :
      Advances request cache (.answered result) (.answered result) cache

theorem advances (request : ShapeRequest) (cache : ShapeCache) (progress : Progress) :
    Advances request cache progress (request.advance cache progress).1
      (request.advance cache progress).2 := by
  cases progress with
  | asked =>
    cases found : cache.find? request.key with
    | some kept =>
      simp only [advance, found]
      exact .found found
    | none =>
      simp only [advance, found]
      exact .missed found
  | missed =>
    cases built : KeyShape.build request.schema request.names with
    | error e =>
      simp only [advance, built]
      exact .refused built
    | ok shape =>
      simp only [advance, built]
      exact .built built
  | built own =>
    cases found : cache.find? request.key with
    | some kept =>
      simp only [advance, ShapeCache.getOrInsert, found]
      exact .late found
    | none =>
      simp only [advance, ShapeCache.getOrInsert, found]
      exact .entered found
  | answered result => exact .rests

end ShapeRequest

open ShapeCache

structure ShapeRequests (ι : Type) where
  cache : ShapeCache
  progress : ι → ShapeRequest.Progress

namespace ShapeRequests

open ShapeRequest

variable {ι : Type}

def start (cache : ShapeCache) : ShapeRequests ι := ⟨cache, fun _ => .asked⟩

variable [DecidableEq ι] (requests : ι → ShapeRequest) {state : ShapeRequests ι}

def step (state : ShapeRequests ι) (i : ι) : ShapeRequests ι :=
  let (progress, cache) := (requests i).advance state.cache (state.progress i)
  ⟨cache, fun j => if j = i then progress else state.progress j⟩

def run (schedule : List ι) (state : ShapeRequests ι) : ShapeRequests ι :=
  schedule.foldl (step requests) state

theorem step_cases (state : ShapeRequests ι) (i : ι) :
    ∃ progress cache, Advances (requests i) state.cache (state.progress i) progress cache ∧
      step requests state i = ⟨cache, fun j => if j = i then progress else state.progress j⟩ :=
  ⟨_, _, advances (requests i) state.cache (state.progress i), rfl⟩

theorem run_append (before after : List ι) (state : ShapeRequests ι) :
    run requests (before ++ after) state = run requests after (run requests before state) :=
  List.foldl_append

theorem run_induction {P : ShapeRequests ι → Prop} (initially : P state)
    (preserved : ∀ state i, P state → P (step requests state i)) (schedule : List ι) :
    P (run requests schedule state) := by
  induction schedule generalizing state with
  | nil => exact initially
  | cons i rest ih => exact ih (preserved state i initially)

section Entries

theorem step_extends (state : ShapeRequests ι) (i : ι) :
    (step requests state i).cache.Extends state.cache := by
  obtain ⟨progress, cache, advance, leads⟩ := step_cases requests state i
  rw [leads]
  generalize state.progress i = earlier at advance
  cases advance with
  | entered missing =>
    intro key kept there
    rw [find?_cons _ _ _ _ _ state.cache.nextSerial, if_neg]
    · exact there
    · rintro rfl
      rw [missing] at there
      cases there
  | found | missed | refused | late | rests => exact extends_refl _
  | built => exact fun _ _ found => found

theorem run_extends (schedule : List ι) (state : ShapeRequests ι) :
    (run requests schedule state).cache.Extends state.cache := by
  apply run_induction (P := fun later => later.cache.Extends state.cache)
  · exact extends_refl _
  · intro later i earlier
    exact extends_trans (step_extends requests later i) earlier

end Entries

section Answers

def AnswersKept (requests : ι → ShapeRequest) (state : ShapeRequests ι) : Prop :=
  ∀ i kept, state.progress i = .answered (.ok kept) →
    state.cache.find? (requests i).key = some kept

variable {requests}

theorem step_answersKept (kept : AnswersKept requests state) (i : ι) :
    AnswersKept requests (step requests state i) := by
  have grows := step_extends requests state i
  obtain ⟨progress, cache, advance, leads⟩ := step_cases requests state i
  rw [leads] at grows ⊢
  intro j shape answer
  simp only at answer
  split at answer
  · rename_i same
    subst same
    subst answer
    have before := kept j shape
    generalize state.progress j = earlier at advance before
    cases advance with
    | found there => exact there
    | late there => exact there
    | entered missing => rw [find?_cons _ _ _ _ _ state.cache.nextSerial, if_pos rfl]
    | rests => exact before rfl
  · exact grows _ _ (kept j shape answer)

theorem run_answersKept (kept : AnswersKept requests state) (schedule : List ι) :
    AnswersKept requests (run requests schedule state) :=
  run_induction requests kept (fun _ i before => step_answersKept before i) schedule

end Answers

section Failures

def HasShape : Progress → Prop
  | .built _ | .answered (.ok _) => True
  | _ => False

theorem step_hasShape {i : ι} (has : HasShape (state.progress i)) (j : ι) :
    HasShape ((step requests state j).progress i) := by
  obtain ⟨progress, cache, advance, leads⟩ := step_cases requests state j
  rw [leads]
  simp only
  split
  · rename_i same
    subst same
    generalize state.progress i = earlier at advance has
    cases advance with
    | found | late | entered | built => trivial
    | missed | refused => exact has
    | rests => exact has
  · exact has

variable {requests}

theorem step_cache_of_fails {i : ι} {e : QueryError} (rest : List ι)
    (fails : (run requests rest (step requests state i)).progress i = .answered (.error e)) :
    (step requests state i).cache = state.cache := by
  -- A request that entered a shape, or that holds one, would be answered with one.
  have failing : ¬ HasShape ((step requests state i).progress i) := by
    intro has
    have later : HasShape ((run requests rest (step requests state i)).progress i) := by
      apply run_induction (P := fun later => HasShape (later.progress i)) requests has
      exact fun _ j has => step_hasShape requests has j
    rw [fails] at later
    exact later
  obtain ⟨progress, cache, advance, leads⟩ := step_cases requests state i
  rw [leads] at failing ⊢
  simp only [if_true] at failing
  generalize state.progress i = earlier at advance
  cases advance with
  | built | entered => exact absurd trivial failing
  | found | missed | refused | late | rests => rfl

/-- The two differ at most in the progress of one request. -/
def SameBut (i : ι) (state other : ShapeRequests ι) : Prop :=
  state.cache = other.cache ∧ ∀ j, j ≠ i → state.progress j = other.progress j

theorem sameBut_step {i j : ι} {other : ShapeRequests ι} (different : j ≠ i)
    (same : SameBut i state other) :
    SameBut i (step requests state j) (step requests other j) := by
  obtain ⟨cache, progress⟩ := same
  have own := progress j different
  refine ⟨?_, fun k notOwn => ?_⟩
  · simp only [step, cache, own]
  · simp only [step, cache, own, progress k notOwn]

theorem sameBut_run_of_fails {i : ι} {e : QueryError} {schedule : List ι}
    {other : ShapeRequests ι}
    (fails : (run requests schedule state).progress i = .answered (.error e))
    (same : SameBut i state other) :
    SameBut i (run requests schedule state)
      (run requests (schedule.filter fun j => j ≠ i) other) := by
  induction schedule generalizing state other with
  | nil => exact same
  | cons j rest ih =>
    -- A step of the failing request changes only its own progress, which `SameBut` does not see.
    by_cases own : j = i
    · subst own
      rw [List.filter_cons_of_neg (by simp)]
      have cache := step_cache_of_fails rest fails
      refine ih fails ⟨cache.trans same.1, fun k notOwn => ?_⟩
      rw [← same.2 k notOwn]
      exact if_neg notOwn
    · rw [List.filter_cons_of_pos (by simpa using own)]
      exact ih fails (sameBut_step own same)

end Failures

section Completion

def stepsLeft : Progress → Nat
  | .asked => 3
  | .missed => 2
  | .built _ => 1
  | .answered _ => 0

theorem stepsLeft_eq_zero_iff {progress : Progress} :
    stepsLeft progress = 0 ↔ ∃ result, progress = .answered result := by
  cases progress <;> simp [stepsLeft]

theorem stepsLeft_step (state : ShapeRequests ι) (i j : ι) :
    stepsLeft ((step requests state j).progress i) ≤
      stepsLeft (state.progress i) - if j = i then 1 else 0 := by
  obtain ⟨progress, cache, advance, leads⟩ := step_cases requests state j
  rw [leads]
  by_cases own : j = i
  · subst own
    simp only [if_true]
    generalize state.progress j = earlier at advance
    cases advance <;> simp [stepsLeft]
  · simp [own, Ne.symm own]

theorem stepsLeft_run (schedule : List ι) (state : ShapeRequests ι) (i : ι) :
    stepsLeft ((run requests schedule state).progress i) ≤
      stepsLeft (state.progress i) - schedule.count i := by
  induction schedule generalizing state with
  | nil => simp [run]
  | cons j rest ih =>
    have later := ih (step requests state j)
    have first := stepsLeft_step requests state i j
    change stepsLeft ((run requests rest (step requests state j)).progress i) ≤ _
    rw [List.count_cons]
    simp only [beq_iff_eq]
    omega

end Completion

section Objects

/-- Numbers tell the shapes that requests have built from each other and from those kept. -/
structure Apart (state : ShapeRequests ι) : Prop where
  kept_lt : ∀ key kept, state.cache.find? key = some kept →
    kept.serial < state.cache.nextSerial
  own_lt : ∀ i own, state.progress i = .built own → own.serial < state.cache.nextSerial
  own_ne_kept : ∀ i own key kept, state.progress i = .built own →
    state.cache.find? key = some kept → own.serial ≠ kept.serial
  own_ne_own : ∀ i own j other, state.progress i = .built own →
    state.progress j = .built other → i ≠ j → own.serial ≠ other.serial

omit [DecidableEq ι] in
theorem apart_start {cache : ShapeCache}
    (numbered : ∀ key kept, cache.find? key = some kept → kept.serial < cache.nextSerial) :
    Apart (start cache : ShapeRequests ι) where
  kept_lt := numbered
  own_lt _ _ built := nomatch built
  own_ne_kept _ _ _ _ built := nomatch built
  own_ne_own _ _ _ _ built := nomatch built

/-- A request that gives up its own shape, at most to the cache, leaves the others apart. -/
theorem apart_of_idle {progress : Progress} {cache : ShapeCache} {i : ι} (apart : Apart state)
    (idle : ∀ own, progress ≠ .built own) (serial : cache.nextSerial = state.cache.nextSerial)
    (old : ∀ key kept, cache.find? key = some kept →
      state.cache.find? key = some kept ∨ state.progress i = .built kept) :
    Apart ⟨cache, fun j => if j = i then progress else state.progress j⟩ := by
  have earlier : ∀ j own, (if j = i then progress else state.progress j) = .built own →
      j ≠ i ∧ state.progress j = .built own := by
    intro j own built
    split at built
    · exact absurd built (idle own)
    · rename_i different
      exact ⟨different, built⟩
  refine ⟨fun key kept there => ?_, fun j own built => ?_, fun j own key kept built there => ?_,
    fun j own k other built there => ?_⟩
  · change kept.serial < cache.nextSerial
    rw [serial]
    rcases old key kept there with there | built
    · exact apart.kept_lt key kept there
    · exact apart.own_lt i kept built
  · change own.serial < cache.nextSerial
    rw [serial]
    exact apart.own_lt j own (earlier j own built).2
  · obtain ⟨different, built⟩ := earlier j own built
    rcases old key kept there with there | builtHere
    · exact apart.own_ne_kept j own key kept built there
    · exact apart.own_ne_own j own i kept built builtHere different
  · exact apart.own_ne_own j own k other (earlier j own built).2 (earlier k other there).2

theorem apart_of_new {shape : KeyShape} {i : ι} (apart : Apart state) :
    Apart ⟨⟨state.cache.entries, state.cache.nextSerial + 1⟩, fun j =>
      if j = i then .built ⟨state.cache.nextSerial, shape⟩ else state.progress j⟩ := by
  have new : ∀ j own, (if j = i then .built ⟨state.cache.nextSerial, shape⟩
      else state.progress j) = .built own →
        j = i ∧ own.serial = state.cache.nextSerial ∨ state.progress j = .built own := by
    intro j own built
    split at built
    · rename_i same
      cases built
      exact .inl ⟨same, rfl⟩
    · exact .inr built
  refine ⟨fun key kept there => ?_, fun j own built => ?_, fun j own key kept built there => ?_,
    fun j own k other built there different => ?_⟩
  · exact Nat.lt_succ_of_lt (apart.kept_lt key kept there)
  · change own.serial < state.cache.nextSerial + 1
    rcases new j own built with ⟨-, serial⟩ | old
    · omega
    · exact Nat.lt_succ_of_lt (apart.own_lt j own old)
  · rcases new j own built with ⟨-, serial⟩ | old
    · have below := apart.kept_lt key kept there
      omega
    · exact apart.own_ne_kept j own key kept old there
  · rcases new j own built with ⟨same, serial⟩ | old <;>
      rcases new k other there with ⟨same', serial'⟩ | old'
    · exact absurd (same.trans same'.symm) different
    · have below := apart.own_lt k other old'
      omega
    · have below := apart.own_lt j own old
      omega
    · exact apart.own_ne_own j own k other old old' different

theorem apart_step (apart : Apart state) (i : ι) : Apart (step requests state i) := by
  obtain ⟨progress, cache, advance, leads⟩ := step_cases requests state i
  rw [leads]
  generalize before : state.progress i = earlier at advance
  cases advance with
  | found | missed | refused | late | rests =>
    exact apart_of_idle apart nofun rfl fun _ _ there => .inl there
  | built => exact apart_of_new apart
  | entered =>
    refine apart_of_idle apart nofun rfl fun key kept there => ?_
    -- A shape that is entered was its request's own until then.
    rw [find?_cons _ _ _ _ _ state.cache.nextSerial] at there
    split at there
    · cases there
      exact .inr before
    · exact .inl there

end Objects

/-- The three steps of a request without others in between are the request for a shape as a
whole. -/
theorem run_alone (requests : ι → ShapeRequest) (cache : ShapeCache) (i : ι) :
    (run requests [i, i, i] (start cache)).progress i =
        .answered ((KeyShape.shared (requests i).schema (requests i).names).outcome cache) ∧
      (run requests [i, i, i] (start cache)).cache =
        (KeyShape.shared (requests i).schema (requests i).names).after cache := by
  obtain ⟨kept, found, yields, leaves⟩ | ⟨e, missing, fails, yields, leaves⟩ |
      ⟨shape, missing, built, yields, leaves⟩ :=
    KeyShape.shared_cases (requests i).schema (requests i).names cache
  · rw [yields, leaves]
    simp [run, step, start, advance, key, found]
  · rw [yields, leaves]
    simp [run, step, start, advance, key, missing, fails]
  · rw [yields, leaves]
    have still : ShapeCache.find? ⟨cache.entries, cache.nextSerial + 1⟩
        (.of (requests i).schema (requests i).names) = none := missing
    simp [run, step, start, advance, key, missing, built, share, getOrInsert, still]

/-- Any number of requests, their steps in any order. An entry never changes once it is there. All
requests under one key that get a shape get the one that is kept, though others may have been built
for them, which are different objects. A request that fails leaves no trace: none of its steps
changes the cache, and without it all else goes the same. Three steps of a request answer it, and
without steps of others between them they are the request as a whole. -/
theorem answers_are_first_entered (requests : ι → ShapeRequest) (schedule : List ι)
    (cache : ShapeCache) :
    let state := run requests schedule (start cache)
    (∀ before after, schedule = before ++ after →
      state.cache.Extends (run requests before (start cache)).cache) ∧
    (∀ i kept, state.progress i = .answered (.ok kept) →
      state.cache.find? (requests i).key = some kept ∧
      ∀ j other, state.progress j = .answered (.ok other) →
        (requests j).key = (requests i).key → other = kept) ∧
    (∀ i e, state.progress i = .answered (.error e) →
      (∀ before after, schedule = before ++ i :: after →
        (step requests (run requests before (start cache)) i).cache =
          (run requests before (start cache)).cache) ∧
      SameBut i state (run requests (schedule.filter fun j => j ≠ i) (start cache))) ∧
    (∀ i, 3 ≤ schedule.count i → ∃ result, state.progress i = .answered result) ∧
    ((∀ key kept, cache.find? key = some kept → kept.serial < cache.nextSerial) →
      ∀ i own, state.progress i = .built own →
        (∀ key kept, state.cache.find? key = some kept → own.serial ≠ kept.serial) ∧
        ∀ j other, state.progress j = .built other → i ≠ j → own.serial ≠ other.serial) ∧
    (∀ i, schedule = [i, i, i] →
      state.progress i =
          .answered ((KeyShape.shared (requests i).schema (requests i).names).outcome cache) ∧
        state.cache = (KeyShape.shared (requests i).schema (requests i).names).after cache) := by
  intro state
  have kept : AnswersKept requests state := by
    apply run_answersKept
    intro i kept answer
    cases answer
  refine ⟨?_, fun i shape answer => ⟨kept i shape answer, ?_⟩, fun i e fails => ⟨?_, ?_⟩, ?_, ?_,
    ?_⟩
  · rintro before after rfl
    change (run requests (before ++ after) (start cache)).cache.Extends _
    rw [run_append]
    exact run_extends requests after _
  · intro j other there same
    have first := kept j other there
    rw [same, kept i shape answer] at first
    exact (Option.some.inj first).symm
  · rintro before after rfl
    change (run requests (before ++ i :: after) (start cache)).progress i = _ at fails
    rw [run_append] at fails
    exact step_cache_of_fails after fails
  · exact sameBut_run_of_fails fails ⟨rfl, fun _ _ => rfl⟩
  · intro i steps
    have left : stepsLeft (state.progress i) ≤ 3 - schedule.count i :=
      stepsLeft_run requests schedule _ i
    rw [← stepsLeft_eq_zero_iff]
    omega
  · intro numbered i own built
    have apart : Apart state := by
      apply run_induction requests (apart_start numbered)
      exact fun _ j apart => apart_step requests apart j
    exact ⟨fun key kept there => apart.own_ne_kept i own key kept built there,
      fun j other there different => apart.own_ne_own i own j other built there different⟩
  · rintro i rfl
    exact run_alone requests cache i

def rivals (first : Bool) : ShapeRequest :=
  ⟨User.schema, [if first then "Department" else "DEPARTMENT"]⟩

/-- Both miss and both build; the one that enters second gets the shape of the other. -/
example :
    (run rivals [true, false, true, false, false, true] (start .empty)).progress true matches
      .answered (.ok ⟨1, _⟩) := by
  decide +kernel

end ShapeRequests

end RuleQuery
