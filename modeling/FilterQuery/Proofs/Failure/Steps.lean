import Mathlib.Data.List.Forall2

/-!
Steps that may fail. One step after another fails where the first of them does, and a run of steps along a list at the first
thing in the list that its step fails at, whatever comes after it. A loop that numbers the things in its list wraps the
failure with the number. -/

namespace FilterQuery

/-- What stands in the second of two lists that correspond has something in the first that it corresponds to. -/
theorem exists_mem_of_forall₂ {α β : Type} {R : α → β → Prop} {xs : List α} {ys : List β} (h : List.Forall₂ R xs ys) {y : β}
    (hy : y ∈ ys) : ∃ x ∈ xs, R x y := by
  induction h with
  | nil => cases hy
  | cons hxy _ ih =>
      obtain rfl | hy := List.mem_cons.mp hy
      · exact ⟨_, List.mem_cons_self, hxy⟩
      · obtain ⟨x, hx, hr⟩ := ih hy
        exact ⟨x, List.mem_cons_of_mem _ hx, hr⟩

section Steps

variable {ε α β : Type} {x : Except ε α}

/-- A step after another gives a result when both do. -/
theorem bind_eq_ok_iff {k : α → Except ε β} {b : β} : (x >>= k) = .ok b ↔ ∃ a, x = .ok a ∧ k a = .ok b := by
  cases x with
  | error e => simp [bind, Except.bind]
  | ok a => simp [bind, Except.bind]

/-- A step after another fails when the first fails, or when it fails on what the first gives. -/
theorem bind_eq_error_iff {k : α → Except ε β} {e : ε} :
    (x >>= k) = .error e ↔ x = .error e ∨ ∃ a, x = .ok a ∧ k a = .error e := by
  cases x with
  | error e' => simp [bind, Except.bind]
  | ok a => simp [bind, Except.bind]

/-- What follows a check fails when the check does, or when it fails itself behind a check that passes. -/
theorem check_bind_eq_error_iff {check : Except ε Unit} {y : Except ε β} {e : ε} :
    (check >>= fun _ => y) = .error e ↔ check = .error e ∨ check = .ok () ∧ y = .error e := by
  cases check with
  | error e' => simp [bind, Except.bind]
  | ok _ => simp [bind, Except.bind]

theorem map_eq_ok_iff {f : α → β} {b : β} : x.map f = .ok b ↔ ∃ a, x = .ok a ∧ f a = b := by
  cases x with
  | error e => simp [Except.map]
  | ok a => simp [Except.map]

/-- What follows a check is there when the check passes. -/
theorem map_check_eq_ok_iff {check : Except ε Unit} {a b : α} :
    (check.map fun _ => a) = .ok b ↔ check = .ok () ∧ a = b := by
  cases check with
  | error e => simp [Except.map]
  | ok _ => simp [Except.map]

theorem exists_map_eq_ok_iff {f : α → β} : (∃ b, x.map f = .ok b) ↔ ∃ a, x = .ok a := by
  cases x with
  | error e => simp [Except.map]
  | ok a => simp [Except.map]

theorem exists_unit_eq_ok_iff {check : Except ε Unit} : (∃ u, check = .ok u) ↔ check = .ok () :=
  ⟨fun ⟨_, h⟩ => h, fun h => ⟨(), h⟩⟩

theorem map_eq_error_iff {f : α → β} {e : ε} : x.map f = .error e ↔ x = .error e := by
  cases x with
  | error e' => simp [Except.map]
  | ok a => simp [Except.map]

end Steps

section Runs

variable {ε σ β : Type} {step : σ → β → Except ε σ} {xs : List β}

/-- Where it depends on the things alone whether their steps fail, a run ends well when all steps do. -/
theorem exists_foldlM_iff {Passes : β → Prop} (h : ∀ s x, (∃ t, step s x = .ok t) ↔ Passes x) (s : σ) :
    (∃ t, xs.foldlM step s = .ok t) ↔ ∀ x ∈ xs, Passes x := by
  induction xs generalizing s with
  | nil => simp [pure, Except.pure]
  | cons x xs ih =>
      rw [List.forall_mem_cons, ← h s x, List.foldlM_cons]
      simp only [bind_eq_ok_iff]
      constructor
      · rintro ⟨t, s', hx, hxs⟩
        exact ⟨⟨s', hx⟩, (ih s').mp ⟨t, hxs⟩⟩
      · rintro ⟨⟨s', hx⟩, hxs⟩
        obtain ⟨t, ht⟩ := (ih s').mpr hxs
        exact ⟨t, s', hx, ht⟩

/-- A run fails at the first thing whose step fails, from the state that the steps before it lead to. -/
theorem foldlM_eq_error_iff {s : σ} {e : ε} : xs.foldlM step s = .error e ↔
    ∃ before x after t, xs = before ++ x :: after ∧ before.foldlM step s = .ok t ∧ step t x = .error e := by
  constructor
  · intro h
    induction xs generalizing s with
    | nil => cases h
    | cons x xs ih =>
        rw [List.foldlM_cons, bind_eq_error_iff] at h
        obtain hx | ⟨s', hx, hxs⟩ := h
        · exact ⟨[], x, xs, s, rfl, rfl, hx⟩
        · obtain ⟨before, y, after, t, rfl, hbefore, hy⟩ := ih hxs
          refine ⟨x :: before, y, after, t, rfl, ?_, hy⟩
          rw [List.foldlM_cons, bind_eq_ok_iff]
          exact ⟨s', hx, hbefore⟩
  · rintro ⟨before, x, after, t, rfl, hbefore, hx⟩
    rw [List.foldlM_append, hbefore, bind_eq_error_iff]
    refine .inr ⟨t, rfl, ?_⟩
    rw [List.foldlM_cons, hx]
    rfl

/-- Steps that do the same to every thing in a list make the same run. -/
theorem foldlM_congr {step' : σ → β → Except ε σ} {s : σ} (h : ∀ x ∈ xs, ∀ t, step' t x = step t x) :
    xs.foldlM step' s = xs.foldlM step s := by
  induction xs generalizing s with
  | nil => rfl
  | cons x xs ih =>
      obtain ⟨hx, hxs⟩ := List.forall_mem_cons.mp h
      rw [List.foldlM_cons, List.foldlM_cons, hx s]
      cases step s x with
      | error e => rfl
      | ok t => exact ih hxs

/-- A list of results is there when each thing in the list has its result. -/
theorem mapM_eq_ok_iff {α : Type} {f : β → Except ε α} {as : List α} :
    xs.mapM f = .ok as ↔ List.Forall₂ (fun x a => f x = .ok a) xs as := by
  induction xs generalizing as with
  | nil => simp [pure, Except.pure, eq_comm]
  | cons x xs ih =>
      rw [List.mapM_cons, List.forall₂_cons_left_iff, bind_eq_ok_iff]
      refine exists_congr fun a => ?_
      simp only [bind_eq_ok_iff, ih, pure, Except.pure, Except.ok.injEq]
      constructor
      · rintro ⟨hx, bs, hbs, rfl⟩
        exact ⟨bs, hx, hbs, rfl⟩
      · rintro ⟨bs, hx, hbs, rfl⟩
        exact ⟨hx, bs, hbs, rfl⟩

end Runs

section Numbered

variable {ε α β : Type}

/-- Makes a step for each thing in a list, the first of which has the given number. The first failure ends the work and is
wrapped with the number. -/
def eachNumbered (step : β → Except ε α) (wrap : Nat → ε → ε) : Nat → List β → Except ε (List α)
  | _, [] => .ok []
  | number, x :: xs =>
    match step x with
    | .error e => .error (wrap number e)
    | .ok a => (eachNumbered step wrap (number + 1) xs).map (a :: ·)

variable {step : β → Except ε α} {wrap : Nat → ε → ε}

theorem eachNumbered_eq_ok_iff (number : Nat) {xs : List β} {as : List α} :
    eachNumbered step wrap number xs = .ok as ↔ List.Forall₂ (fun x a => step x = .ok a) xs as := by
  induction xs generalizing number as with
  | nil => simp [eachNumbered, eq_comm]
  | cons x xs ih =>
      rw [eachNumbered, List.forall₂_cons_left_iff]
      cases step x with
      | error e => simp
      | ok a =>
          rw [map_eq_ok_iff]
          simp [ih (number + 1), eq_comm]

theorem exists_eachNumbered_iff (number : Nat) {xs : List β} :
    (∃ as, eachNumbered step wrap number xs = .ok as) ↔ ∀ x ∈ xs, ∃ a, step x = .ok a := by
  induction xs generalizing number with
  | nil => simp [eachNumbered]
  | cons x xs ih =>
      rw [List.forall_mem_cons, ← ih (number + 1), eachNumbered]
      cases step x with
      | error e => simp
      | ok a => simp [exists_map_eq_ok_iff]

/-- A list that is taken in two parts, of which the second goes on with the numbers. -/
theorem eachNumbered_append (number : Nat) (xs ys : List β) : eachNumbered step wrap number (xs ++ ys) =
    eachNumbered step wrap number xs >>= fun as => (eachNumbered step wrap (number + xs.length) ys).map (as ++ ·) := by
  induction xs generalizing number with
  | nil =>
      rw [List.nil_append, List.length_nil, Nat.add_zero]
      exact (congrFun Except.map_id _).symm
  | cons x xs ih =>
      rw [List.cons_append, eachNumbered, eachNumbered, ih (number + 1), List.length_cons, Nat.add_right_comm, Nat.add_assoc]
      cases step x with
      | error e => rfl
      | ok a =>
          cases eachNumbered step wrap (number + 1) xs with
          | error e => rfl
          | ok as => cases eachNumbered step wrap (number + (xs.length + 1)) ys <;> rfl

/-- The loop fails at the first thing that its step fails at, whatever comes after it. -/
theorem eachNumbered_eq_error_iff {number : Nat} {xs : List β} {e : ε} : eachNumbered step wrap number xs = .error e ↔
    ∃ before x after cause, xs = before ++ x :: after ∧ (∀ y ∈ before, ∃ a, step y = .ok a) ∧ step x = .error cause ∧
      e = wrap (number + before.length) cause := by
  constructor
  · intro h
    induction xs generalizing number with
    | nil => cases h
    | cons x xs ih =>
        rw [eachNumbered] at h
        cases hx : step x with
        | error cause =>
            rw [hx] at h
            exact ⟨[], x, xs, cause, rfl, by simp, hx, (Except.error.inj h).symm⟩
        | ok a =>
            rw [hx] at h
            obtain ⟨before, y, after, cause, rfl, hbefore, hy, rfl⟩ := ih (map_eq_error_iff.mp h)
            refine ⟨x :: before, y, after, cause, rfl, List.forall_mem_cons.mpr ⟨⟨a, hx⟩, hbefore⟩, hy, ?_⟩
            rw [List.length_cons, Nat.add_right_comm, Nat.add_assoc]
  · rintro ⟨before, x, after, cause, rfl, hbefore, hx, rfl⟩
    obtain ⟨as, has⟩ := (exists_eachNumbered_iff number).mpr hbefore
    rw [eachNumbered_append, has, eachNumbered, hx]
    rfl

end Numbered

end FilterQuery
