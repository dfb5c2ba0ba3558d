namespace RuleQuery

variable {α β ε : Type}

theorem bind_eq_ok_iff {x : Except ε α} {f : α → Except ε β} {b : β} :
    (x >>= f) = .ok b ↔ ∃ a, x = .ok a ∧ f a = .ok b := by
  cases x with
  | error e => simp [bind, Except.bind]
  | ok a => simp [bind, Except.bind]

theorem bind_eq_error_iff {x : Except ε α} {f : α → Except ε β} {e : ε} :
    (x >>= f) = .error e ↔ x = .error e ∨ ∃ a, x = .ok a ∧ f a = .error e := by
  cases x with
  | error e => simp [bind, Except.bind]
  | ok a => simp [bind, Except.bind]

theorem exists_eq_error_iff {x : Except ε α} : (∃ e, x = .error e) ↔ ¬ ∃ a, x = .ok a := by
  cases x with
  | error e => simp
  | ok a => simp

/-- A check comes first: what follows runs if it passes. -/
theorem check_bind_eq_ok_iff {check : Except ε Unit} {f : Unit → Except ε β} {b : β} :
    (check >>= f) = .ok b ↔ check = .ok () ∧ f () = .ok b := by
  cases check with
  | error e => simp [bind, Except.bind]
  | ok passed => simp [bind, Except.bind]

theorem map_eq_ok_iff {x : Except ε α} {f : α → β} {b : β} :
    x.map f = .ok b ↔ ∃ a, x = .ok a ∧ f a = b := by
  cases x with
  | error e => simp [Except.map]
  | ok a => simp [Except.map]

/-- The error of the first item that fails, all items before it being fine. -/
def FirstFailure (f : α → Except ε β) (items : List α) (e : ε) : Prop :=
  ∃ before item after, items = before ++ item :: after ∧
    (∀ earlier ∈ before, ∃ b, f earlier = .ok b) ∧ f item = .error e

variable {f : α → Except ε β}

theorem not_firstFailure_nil {e : ε} : ¬ FirstFailure f [] e := by
  rintro ⟨before, item, after, split, -⟩
  cases before <;> cases split

theorem firstFailure_cons {x : α} {xs : List α} {e : ε} :
    FirstFailure f (x :: xs) e ↔
      f x = .error e ∨ (∃ b, f x = .ok b) ∧ FirstFailure f xs e := by
  constructor
  · rintro ⟨before, item, after, split, fine, fails⟩
    cases before with
    | nil =>
      obtain ⟨rfl, rfl⟩ := List.cons.inj split
      exact .inl fails
    | cons y before =>
      obtain ⟨rfl, rfl⟩ := List.cons.inj split
      refine .inr ⟨fine x List.mem_cons_self, before, item, after, rfl, ?_, fails⟩
      exact fun earlier inside => fine earlier (List.mem_cons_of_mem x inside)
  · rintro (fails | ⟨first, before, item, after, rfl, fine, fails⟩)
    · exact ⟨[], x, xs, rfl, by simp, fails⟩
    · refine ⟨x :: before, item, after, rfl, ?_, fails⟩
      intro earlier inside
      rcases List.mem_cons.mp inside with rfl | inside
      · exact first
      · exact fine earlier inside

theorem firstFailure_append {xs ys : List α} {e : ε} :
    FirstFailure f (xs ++ ys) e ↔
      FirstFailure f xs e ∨ (∀ x ∈ xs, ∃ b, f x = .ok b) ∧ FirstFailure f ys e := by
  induction xs with
  | nil => simp [not_firstFailure_nil]
  | cons x xs ih =>
    rw [List.cons_append, firstFailure_cons, firstFailure_cons, ih, List.forall_mem_cons]
    constructor
    · rintro (fails | ⟨first, fails | ⟨others, fails⟩⟩)
      · exact .inl (.inl fails)
      · exact .inl (.inr ⟨first, fails⟩)
      · exact .inr ⟨⟨first, others⟩, fails⟩
    · rintro ((fails | ⟨first, fails⟩) | ⟨⟨first, others⟩, fails⟩)
      · exact .inl fails
      · exact .inr ⟨first, .inl fails⟩
      · exact .inr ⟨first, .inr ⟨others, fails⟩⟩

theorem firstFailure_congr {γ : Type} {g : α → Except ε γ}
    (alike : ∀ x e, f x = .error e ↔ g x = .error e) {items : List α} {e : ε} :
    FirstFailure f items e ↔ FirstFailure g items e := by
  have fine : ∀ x, (∃ b, f x = .ok b) ↔ ∃ c, g x = .ok c := by
    intro x
    have same := alike x
    cases first : f x with
    | error e =>
      rw [(same e).mp first]
      simp
    | ok b =>
      cases second : g x with
      | error e =>
        rw [(same e).mpr second] at first
        cases first
      | ok c => simp
  unfold FirstFailure
  simp only [fine, alike]

theorem exists_firstFailure_iff {items : List α} :
    (∃ e, FirstFailure f items e) ↔ ∃ item ∈ items, ∃ e, f item = .error e := by
  constructor
  · rintro ⟨e, before, item, after, rfl, -, fails⟩
    exact ⟨item, by simp, e, fails⟩
  · rintro ⟨item, inside, e, fails⟩
    induction items with
    | nil => cases inside
    | cons x xs ih =>
      cases first : f x with
      | error e' => exact ⟨e', firstFailure_cons.mpr (.inl first)⟩
      | ok b =>
        rcases List.mem_cons.mp inside with rfl | inside
        · rw [first] at fails
          cases fails
        · obtain ⟨e', later⟩ := ih inside
          exact ⟨e', firstFailure_cons.mpr (.inr ⟨⟨b, first⟩, later⟩)⟩

theorem exists_mem_of_map_eq {γ : Type} {f : α → γ} {g : β → γ} {xs : List α} {ys : List β}
    (same : xs.map f = ys.map g) {x : α} (inside : x ∈ xs) : ∃ y ∈ ys, g y = f x := by
  have there := List.mem_map_of_mem (f := f) inside
  rw [same] at there
  exact List.mem_map.mp there

/-- Lists whose images agree place by place agree so in other images that the first ones decide. -/
theorem map_eq_map_of_forall {γ δ : Type} {f : α → γ} {g : β → γ} {f' : α → δ} {g' : β → δ}
    {xs : List α} {ys : List β} (same : xs.map f = ys.map g)
    (decided : ∀ x ∈ xs, ∀ y ∈ ys, f x = g y → f' x = g' y) : xs.map f' = ys.map g' := by
  induction xs generalizing ys with
  | nil =>
    cases ys with
    | nil => rfl
    | cons y ys => cases same
  | cons x xs ih =>
    cases ys with
    | nil => cases same
    | cons y ys =>
      obtain ⟨first, rest⟩ := List.cons.inj same
      rw [List.map_cons, List.map_cons, decided x List.mem_cons_self y List.mem_cons_self first,
        ih rest fun x inside y there =>
          decided x (List.mem_cons_of_mem _ inside) y (List.mem_cons_of_mem _ there)]

theorem mapM_eq_error_iff {items : List α} {e : ε} :
    items.mapM f = .error e ↔ FirstFailure f items e := by
  induction items with
  | nil => simp [pure, Except.pure, not_firstFailure_nil]
  | cons x xs ih =>
    rw [List.mapM_cons, firstFailure_cons, bind_eq_error_iff, ← ih]
    refine or_congr Iff.rfl ⟨?_, ?_⟩
    · rintro ⟨b, first, later⟩
      obtain later | ⟨_, _, impossible⟩ := bind_eq_error_iff.mp later
      · exact ⟨⟨b, first⟩, later⟩
      · cases impossible
    · rintro ⟨⟨b, first⟩, later⟩
      exact ⟨b, first, bind_eq_error_iff.mpr (.inl later)⟩

theorem mapM_eq_ok_iff {items : List α} {results : List β} :
    items.mapM f = .ok results ↔ items.map f = results.map .ok := by
  induction items generalizing results with
  | nil => cases results <;> simp [pure, Except.pure]
  | cons x xs ih =>
    simp only [List.mapM_cons, bind_eq_ok_iff]
    constructor
    · rintro ⟨b, first, bs, later, done⟩
      cases done
      simp [first, ih.mp later]
    · intro same
      cases results with
      | nil => cases same
      | cons b bs =>
        obtain ⟨first, later⟩ := List.cons.inj same
        exact ⟨b, first, bs, ih.mpr later, rfl⟩

theorem map_elim_of_map_eq {γ : Type} {items : List α} {results : List β}
    (each : items.map f = results.map .ok) (none : γ) (some : β → γ) :
    (items.map fun item => (f item).toOption.elim none some) = results.map some := by
  have taken := congrArg (List.map fun x : Except ε β => x.toOption.elim none some) each
  rw [List.map_map, List.map_map] at taken
  exact taken

/-- A computation that fails as its items do succeeds exactly if all of them do. -/
theorem exists_ok_iff_of_error_iff {γ : Type} {x : Except ε γ} {items : List α}
    (same : ∀ e, x = .error e ↔ FirstFailure f items e) :
    (∃ c, x = .ok c) ↔ ∀ item ∈ items, ∃ b, f item = .ok b := by
  constructor
  · rintro ⟨c, done⟩ item inside
    cases each : f item with
    | ok b => exact ⟨b, rfl⟩
    | error e =>
      obtain ⟨e', failure⟩ := exists_firstFailure_iff.mpr ⟨item, inside, e, each⟩
      rw [(same e').mpr failure] at done
      cases done
  · intro fine
    cases done : x with
    | ok c => exact ⟨c, rfl⟩
    | error e =>
      obtain ⟨before, item, after, rfl, -, fails⟩ := (same e).mp done
      obtain ⟨b, succeeds⟩ := fine item (by simp)
      rw [succeeds] at fails
      cases fails

theorem exists_mapM_eq_ok_iff {items : List α} :
    (∃ results, items.mapM f = .ok results) ↔ ∀ item ∈ items, ∃ b, f item = .ok b :=
  exists_ok_iff_of_error_iff fun _ => mapM_eq_error_iff

theorem forM_eq_ok_iff {check : α → Except ε Unit} {items : List α} :
    items.forM check = .ok () ↔ ∀ item ∈ items, check item = .ok () := by
  induction items with
  | nil => simp [pure, Except.pure]
  | cons x xs ih =>
    change (check x >>= fun _ => xs.forM check) = .ok () ↔ _
    rw [check_bind_eq_ok_iff, List.forall_mem_cons, ← ih]

theorem firstFailure_check_iff {check : α → Except ε Unit} {items : List α} {e : ε} :
    FirstFailure check items e ↔ ∃ before item after, items = before ++ item :: after ∧
      (∀ earlier ∈ before, check earlier = .ok ()) ∧ check item = .error e := by
  have passes : ∀ item, (∃ done, check item = .ok done) ↔ check item = .ok () := by
    intro item
    exact ⟨fun ⟨(), done⟩ => done, fun done => ⟨(), done⟩⟩
  simp only [FirstFailure, passes]

theorem forM_eq_error_iff {check : α → Except ε Unit} {items : List α} {e : ε} :
    items.forM check = .error e ↔ FirstFailure check items e := by
  induction items with
  | nil => simp [pure, Except.pure, not_firstFailure_nil]
  | cons x xs ih =>
    change (check x >>= fun _ => xs.forM check) = .error e ↔ _
    rw [bind_eq_error_iff, firstFailure_cons, ih, exists_and_right]

end RuleQuery
