/-
  LlmHarness.Lib.Guards

  What the success of a sequence of checks in `Except` says: every check
  succeeded, in turn.
-/

import Mathlib.Data.List.Basic
import Mathlib.Data.List.Forall2

namespace LlmHarness.Guards

variable {ε α β : Type}

/-- A sequence succeeds exactly when each of its steps does. -/
theorem bind_eq_ok {x : Except ε α} {f : α → Except ε β} {b : β} :
    (x >>= f) = .ok b ↔ ∃ a, x = .ok a ∧ f a = .ok b := by
  cases x <;> simp [bind, Except.bind]

/-- A sequence fails where one of its steps does. -/
theorem bind_eq_error {x : Except ε α} {f : α → Except ε β} {e : ε} :
    (x >>= f) = .error e ↔ x = .error e ∨ ∃ a, x = .ok a ∧ f a = .error e := by
  cases x <;> simp [bind, Except.bind]

theorem pure_eq_ok {a b : α} : (pure a : Except ε α) = .ok b ↔ a = b := by
  simp [pure, Except.pure]

/-- What a check that returns nothing returns. -/
theorem exists_unit {p : Unit → Prop} : (∃ u, p u) ↔ p () :=
  ⟨fun ⟨_, h⟩ => h, fun h => ⟨(), h⟩⟩

/-- A check that returns nothing. -/
theorem unit_bind_eq_ok {x : Except ε Unit} {f : Unit → Except ε β} {b : β} :
    (x >>= f) = .ok b ↔ x = .ok () ∧ f () = .ok b := by
  rw [bind_eq_ok, exists_unit]

/-- A loop succeeds exactly when its body does on every element. -/
theorem mapM_eq_ok {f : α → Except ε β} {xs : List α} {ys : List β} :
    xs.mapM f = .ok ys ↔ List.Forall₂ (fun x y => f x = .ok y) xs ys := by
  induction xs generalizing ys with
  | nil =>
      rw [List.mapM_nil, pure_eq_ok, List.forall₂_nil_left_iff]
      exact eq_comm
  | cons x xs ih =>
      rw [List.mapM_cons, bind_eq_ok, List.forall₂_cons_left_iff]
      constructor
      · rintro ⟨y, hy, hrest⟩
        obtain ⟨rest, hrest, hys⟩ := bind_eq_ok.mp hrest
        exact ⟨y, rest, hy, ih.mp hrest, (pure_eq_ok.mp hys).symm⟩
      · rintro ⟨y, rest, hy, hrest, rfl⟩
        exact ⟨y, hy, bind_eq_ok.mpr ⟨rest, ih.mpr hrest, rfl⟩⟩

/-- A list written element by element is read back element by element. -/
theorem mapM_map_ok {γ : Type} (write : α → β) (read : β → Except ε γ) (value : α → γ)
    (h : ∀ a, read (write a) = .ok (value a)) (items : List α) :
    (items.map write).mapM read = .ok (items.map value) := by
  rw [mapM_eq_ok, List.forall₂_map_left_iff, List.forall₂_map_right_iff, List.forall₂_same]
  exact fun a _ => h a

/-- What a loop returns for some element. -/
theorem exists_of_forall₂ {r : α → β → Prop} {xs : List α} {ys : List β} (h : List.Forall₂ r xs ys)
    {y : β} (hy : y ∈ ys) : ∃ x, r x y := by
  induction h with
  | nil => cases hy
  | @cons x y' xs ys hxy _ ih =>
      rcases List.mem_cons.mp hy with rfl | hy
      · exact ⟨x, hxy⟩
      · exact ih hy

/-- A loop that returns nothing succeeds exactly when its body does on every element. -/
theorem forM_eq_ok {f : α → Except ε Unit} {xs : List α} :
    xs.forM f = .ok () ↔ ∀ x ∈ xs, f x = .ok () := by
  induction xs with
  | nil => exact ⟨fun _ _ h => (nomatch h), fun _ => rfl⟩
  | cons x xs ih =>
      have hcons : (x :: xs).forM f = (f x >>= fun _ => xs.forM f) := rfl
      rw [hcons, unit_bind_eq_ok, ih, List.forall_mem_cons]

end LlmHarness.Guards
