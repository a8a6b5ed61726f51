import Mathlib.Data.List.Forall2

/-!
# Computations that may fail

When a chain of computations succeeds, and with which error it fails.  A list is taken through a
computation item by item, and the first failure ends the run.

Main results:

- Theorems {lit}`Outcome.bind_eq_ok`, {lit}`Outcome.map_eq_ok` and
  {lit}`Outcome.mapError_eq_ok` take a successful chain apart, and {lit}`Outcome.bind_eq_error` one
  that fails.
- Theorem {lit}`Outcome.eq_or_errors_of_toOption_eq` compares two computations without regard to
  their errors.
- Theorem {lit}`Outcome.mapM_eq_ok`: a run over a list succeeds when every item does, with the
  results in the order of the items.
- Theorem {lit}`Outcome.mapM_eq_error`: it fails with the error of the first item that fails.
- Theorem {lit}`Outcome.mapM_eq_some` has the same for runs that fail without an error.
-/

namespace Intake
namespace Outcome

variable {α β ε δ : Type}

/-! ## Chains -/

theorem bind_eq_ok {x : Except ε α} {f : α → Except ε β} {b : β} :
    (x >>= f) = .ok b ↔ ∃ a, x = .ok a ∧ f a = .ok b := by
  cases x with
  | error e => simp [bind, Except.bind]
  | ok a => simp [bind, Except.bind]

theorem test_bind_eq_ok {x : Except ε Unit} {f : Unit → Except ε β} {b : β} :
    (x >>= f) = .ok b ↔ x = .ok () ∧ f () = .ok b := by
  cases x with
  | error e => simp [bind, Except.bind]
  | ok a => simp [bind, Except.bind]

theorem bind_eq_error {x : Except ε α} {f : α → Except ε β} {e : ε} :
    (x >>= f) = .error e ↔ x = .error e ∨ ∃ a, x = .ok a ∧ f a = .error e := by
  cases x with
  | error e' => simp [bind, Except.bind]
  | ok a => simp [bind, Except.bind]

theorem map_eq_ok {x : Except ε α} {f : α → β} {b : β} :
    x.map f = .ok b ↔ ∃ a, x = .ok a ∧ f a = b := by
  cases x with
  | error e => simp [Except.map]
  | ok a => simp [Except.map]

theorem map_eq_error {x : Except ε α} {f : α → β} {e : ε} :
    x.map f = .error e ↔ x = .error e := by
  cases x with
  | error e' => simp [Except.map]
  | ok a => simp [Except.map]

theorem mapError_eq_ok {x : Except ε α} {f : ε → δ} {a : α} :
    x.mapError f = .ok a ↔ x = .ok a := by
  cases x with
  | error e => simp [Except.mapError]
  | ok a' => simp [Except.mapError]

theorem mapError_bind (x : Except ε α) (f : α → Except ε β) (g : ε → δ) :
    (x >>= f).mapError g = x.mapError g >>= fun a => (f a).mapError g := by
  cases x <;> rfl

theorem mapError_map (x : Except ε α) (f : α → β) (g : ε → δ) :
    (x.map f).mapError g = (x.mapError g).map f := by
  cases x <;> rfl

theorem mapError_eq_error {x : Except ε α} {f : ε → δ} {d : δ} :
    x.mapError f = .error d ↔ ∃ e, x = .error e ∧ f e = d := by
  cases x with
  | error e => simp [Except.mapError]
  | ok a => simp [Except.mapError]

/-! ## Values without errors -/

theorem toOption_eq_some {x : Except ε α} {a : α} : x.toOption = some a ↔ x = .ok a := by
  cases x with
  | error e => simp [Except.toOption]
  | ok a' => simp [Except.toOption]

theorem toOption_bind (x : Except ε α) (f : α → Except ε β) :
    (x >>= f).toOption = x.toOption.bind fun a => (f a).toOption := by
  cases x <;> rfl

theorem toOption_map (x : Except ε α) (f : α → β) :
    (x.map f).toOption = x.toOption.map f := by
  cases x <;> rfl

/-- Two runs with the same value, if any, are both successful with it, or both fail. -/
theorem eq_or_errors_of_toOption_eq {x : Except ε α} {y : Except δ α}
    (h : x.toOption = y.toOption) :
    (∃ a, x = .ok a ∧ y = .ok a) ∨ ∃ e d, x = .error e ∧ y = .error d := by
  cases x with
  | ok a =>
      cases y with
      | ok b =>
          cases h
          exact .inl ⟨a, rfl, rfl⟩
      | error d => cases h
  | error e =>
      cases y with
      | ok b => cases h
      | error d => exact .inr ⟨e, d, rfl, rfl⟩

/-! ## Lists -/

/-- Every item is related to something exactly when there is a list of what they are related to. -/
theorem exists_forall₂_iff {R : α → β → Prop} {xs : List α} :
    (∃ ys, List.Forall₂ R xs ys) ↔ ∀ x ∈ xs, ∃ y, R x y := by
  induction xs with
  | nil => simp
  | cons x xs ih =>
      simp only [List.forall₂_cons_left_iff, List.forall_mem_cons, ← ih]
      constructor
      · rintro ⟨_, y, ys, hy, hys, -⟩
        exact ⟨⟨y, hy⟩, ys, hys⟩
      · rintro ⟨⟨y, hy⟩, ys, hys⟩
        exact ⟨y :: ys, y, ys, hy, hys, rfl⟩

theorem mapM_cons (f : α → Except ε β) (x : α) (xs : List α) :
    (x :: xs).mapM f = f x >>= fun y => (xs.mapM f).map (y :: ·) := by
  rw [List.mapM_cons]
  cases f x with
  | error e => rfl
  | ok y => cases xs.mapM f <;> rfl

/-- A run over a list succeeds when every item does, with the results in order. -/
theorem mapM_eq_ok {f : α → Except ε β} {xs : List α} {ys : List β} :
    xs.mapM f = .ok ys ↔ List.Forall₂ (fun x y => f x = .ok y) xs ys := by
  induction xs generalizing ys with
  | nil =>
      rw [List.mapM_nil, List.forall₂_nil_left_iff]
      exact ⟨fun h => (Except.ok.inj h).symm, fun h => by rw [h]; rfl⟩
  | cons x xs ih =>
      rw [mapM_cons, bind_eq_ok, List.forall₂_cons_left_iff]
      constructor
      · rintro ⟨y, hy, hrest⟩
        obtain ⟨zs, hzs, rfl⟩ := map_eq_ok.mp hrest
        exact ⟨y, zs, hy, ih.mp hzs, rfl⟩
      · rintro ⟨y, zs, hy, hzs, rfl⟩
        exact ⟨y, hy, map_eq_ok.mpr ⟨zs, ih.mpr hzs, rfl⟩⟩

/-- A run over a list fails with the error of the first item that fails. -/
theorem mapM_eq_error {f : α → Except ε β} {xs : List α} {e : ε} :
    xs.mapM f = .error e ↔
      ∃ before x after, xs = before ++ x :: after ∧
        (∀ y ∈ before, ∃ z, f y = .ok z) ∧ f x = .error e := by
  induction xs with
  | nil =>
      constructor
      · intro h
        cases h
      · rintro ⟨before, x, after, h, -, -⟩
        cases before <;> cases h
  | cons x xs ih =>
      rw [mapM_cons]
      cases hx : f x with
      | error e' =>
          constructor
          · intro h
            cases h
            exact ⟨[], x, xs, rfl, by simp, hx⟩
          · rintro ⟨before, y, after, h, hbefore, hy⟩
            cases before with
            | nil =>
                cases h
                rw [hx] at hy
                cases hy
                rfl
            | cons z before =>
                cases h
                obtain ⟨w, hw⟩ := hbefore x List.mem_cons_self
                rw [hx] at hw
                cases hw
      | ok y =>
          change (xs.mapM f).map (y :: ·) = .error e ↔ _
          rw [map_eq_error, ih]
          constructor
          · rintro ⟨before, z, after, rfl, hbefore, hz⟩
            refine ⟨x :: before, z, after, rfl, ?_, hz⟩
            intro w hw
            rcases List.mem_cons.mp hw with rfl | hw
            · exact ⟨y, hx⟩
            · exact hbefore w hw
          · rintro ⟨before, z, after, h, hbefore, hz⟩
            cases before with
            | nil =>
                cases h
                rw [hx] at hz
                cases hz
            | cons w before =>
                cases h
                exact ⟨before, z, after, rfl,
                  fun v hv => hbefore v (List.mem_cons_of_mem _ hv), hz⟩

/-- A run over a list succeeds exactly when every item does. -/
theorem exists_mapM_eq_ok {f : α → Except ε β} {xs : List α} :
    (∃ ys, xs.mapM f = .ok ys) ↔ ∀ x ∈ xs, ∃ y, f x = .ok y := by
  simp only [mapM_eq_ok, exists_forall₂_iff]

/-- A run over the values of entries succeeds when every value does, under the same keys. -/
theorem mapM_entries_eq_ok {f : α → Except ε β} {entries : List (String × α)}
    {entries' : List (String × β)} :
    (entries.mapM fun entry => (f entry.2).map (entry.1, ·)) = .ok entries' ↔
      List.Forall₂ (fun e e' => e'.1 = e.1 ∧ f e.2 = .ok e'.2) entries entries' := by
  have hentry : ∀ (e : String × α) (e' : String × β),
      (f e.2).map (e.1, ·) = .ok e' ↔ e'.1 = e.1 ∧ f e.2 = .ok e'.2 := by
    rintro ⟨key, value⟩ ⟨key', value'⟩
    rw [map_eq_ok]
    constructor
    · rintro ⟨v, hv, heq⟩
      cases heq
      exact ⟨rfl, hv⟩
    · rintro ⟨rfl, hv⟩
      exact ⟨value', hv, rfl⟩
  rw [mapM_eq_ok]
  simp only [hentry]

/-- A run over a list gives something when every item does, with the results in order. -/
theorem mapM_eq_some {f : α → Option β} {xs : List α} {ys : List β} :
    xs.mapM f = some ys ↔ List.Forall₂ (fun x y => f x = some y) xs ys := by
  induction xs generalizing ys with
  | nil =>
      rw [List.mapM_nil, List.forall₂_nil_left_iff]
      exact ⟨fun h => (Option.some.inj h).symm, fun h => by rw [h]; rfl⟩
  | cons x xs ih =>
      rw [List.mapM_cons, List.forall₂_cons_left_iff]
      simp only [Option.bind_eq_bind, Option.bind_eq_some_iff, ih, Option.pure_def,
        Option.some_inj]
      constructor
      · rintro ⟨y, hy, zs, hzs, heq⟩
        exact ⟨y, zs, hy, hzs, heq.symm⟩
      · rintro ⟨y, zs, hy, hzs, heq⟩
        exact ⟨y, hy, zs, hzs, heq.symm⟩

end Outcome
end Intake
