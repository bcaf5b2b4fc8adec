/-
  LlmHarness.Lib.EarlyExit

  Loops that end early.  A search loop goes through a list until one element has an answer
  or is an error.  A retry loop tries again after a transient attempt while its budget
  lasts; waiting for the next attempt may itself end it.
-/

import Mathlib.Data.List.Basic

namespace LlmHarness

/-! ## Search loops -/

namespace EarlyExit

variable {α β ε : Type} {step : α → Except ε (Option β)}

theorem findSomeM?_cons_of_none {a : α} {rest : List α} (h : step a = .ok none) :
    (a :: rest).findSomeM? step = rest.findSomeM? step := by
  rw [List.findSomeM?_cons, h]
  rfl

theorem findSomeM?_cons_of_answer {a : α} {rest : List α} (h : step a ≠ .ok none) :
    (a :: rest).findSomeM? step = step a := by
  rw [List.findSomeM?_cons]
  cases hstep : step a with
  | error fault => rfl
  | ok found =>
    cases found with
    | none => exact absurd hstep h
    | some answer => rfl

/-- A search without an answer has passed over every element. -/
theorem findSomeM?_eq_none_iff {items : List α} :
    items.findSomeM? step = .ok none ↔ ∀ item ∈ items, step item = .ok none := by
  induction items with
  | nil => simp [pure, Except.pure]
  | cons a rest ih =>
    by_cases ha : step a = .ok none
    · rw [findSomeM?_cons_of_none ha, ih, List.forall_mem_cons]
      exact ⟨fun h => ⟨ha, h⟩, fun h => h.2⟩
    · rw [findSomeM?_cons_of_answer ha, List.forall_mem_cons]
      exact ⟨fun h => absurd h ha, fun h => absurd h.1 ha⟩

/-- Any other outcome is that of an element with none before it. -/
theorem findSomeM?_eq_iff {items : List α} {outcome : Except ε (Option β)}
    (houtcome : outcome ≠ .ok none) :
    items.findSomeM? step = outcome ↔ ∃ before item after, items = before ++ item :: after ∧
      (∀ other ∈ before, step other = .ok none) ∧ step item = outcome := by
  -- the induction is on the items: the first one is passed over, or decides
  induction items with
  | nil =>
    constructor
    · intro h
      exact absurd h.symm houtcome
    · rintro ⟨before, item, after, hsplit, -, -⟩
      exact absurd hsplit.symm (by simp)
  | cons a rest ih =>
    by_cases ha : step a = .ok none
    · rw [findSomeM?_cons_of_none ha, ih]
      constructor
      · rintro ⟨before, item, after, hsplit, hbefore, hitem⟩
        refine ⟨a :: before, item, after, ?_, ?_, hitem⟩
        · rw [hsplit, List.cons_append]
        · rw [List.forall_mem_cons]
          exact ⟨ha, hbefore⟩
      -- the deciding item is not the first, which answered nothing
      · rintro ⟨before, item, after, hsplit, hbefore, hitem⟩
        cases before with
        | nil =>
          have hhead : a = item := (List.cons.inj hsplit).1
          rw [← hhead, ha] at hitem
          exact absurd hitem.symm houtcome
        | cons b before =>
          rw [List.forall_mem_cons] at hbefore
          exact ⟨before, item, after, (List.cons.inj hsplit).2, hbefore.2, hitem⟩
    · rw [findSomeM?_cons_of_answer ha]
      constructor
      · intro h
        exact ⟨[], a, rest, rfl, fun _ h => absurd h List.not_mem_nil, h⟩
      -- it is the first, since none before it has an answer
      · rintro ⟨before, item, after, hsplit, hbefore, hitem⟩
        cases before with
        | nil =>
          have hhead : a = item := (List.cons.inj hsplit).1
          rw [hhead]
          exact hitem
        | cons b before =>
          have hhead : a = b := (List.cons.inj hsplit).1
          rw [List.forall_mem_cons, ← hhead] at hbefore
          exact absurd hbefore.1 ha

end EarlyExit

/-! ## Retry loops -/

/-- The outcome of an attempt. -/
inductive Attempt (α : Type) where
  | final (a : α)
  | transient (a : α)

namespace Attempt

variable {α : Type}

/-- What the loop ends with when the attempt is its last. -/
def outcome : Attempt α → α
  | final a => a
  | transient a => a

/-- Another attempt may follow. -/
def isTransient : Attempt α → Bool
  | final _ => false
  | transient _ => true

end Attempt

/-- What a loop ended with, how many attempts it made, and the waits between them. -/
structure Retried (α δ : Type) where
  result : α
  attempts : Nat
  waits : List δ

namespace Retried

variable {α δ : Type} (attempt : Nat → Attempt α) (wait : Nat → Except α δ)

/-- The loop from the attempt `n` on, with `left` further attempts in the budget. -/
def retry : (left n : Nat) → Retried α δ
  | 0, n => ⟨(attempt n).outcome, n + 1, []⟩
  | left + 1, n =>
    match attempt n with
    | .final a => ⟨a, n + 1, []⟩
    | .transient _ =>
      match wait n with
      | .error a => ⟨a, n + 1, []⟩
      | .ok delay =>
        let rest := retry left (n + 1)
        { rest with waits := delay :: rest.waits }

/-- The loop goes on after the attempt `n`. -/
def Continues (n : Nat) : Prop := (attempt n).isTransient = true ∧ ∃ delay, wait n = .ok delay

/-- The attempt `last` ends the loop with `a`, when `left` attempts are in the budget. -/
def Ends (left last : Nat) (a : α) : Prop :=
  (a = (attempt last).outcome ∧ (left = 0 ∨ (attempt last).isTransient = false)) ∨
    (left ≠ 0 ∧ (attempt last).isTransient = true ∧ wait last = .error a)

variable {attempt wait}

/-- One pass of the loop: it ends here, or goes on with a smaller budget. -/
theorem retry_step (left n : Nat) :
    (Ends attempt wait left n (retry attempt wait left n).result ∧
      (retry attempt wait left n).attempts = n + 1) ∨
    (Continues attempt wait n ∧ ∃ rest, left = rest + 1 ∧
      (retry attempt wait left n).result = (retry attempt wait rest (n + 1)).result ∧
      (retry attempt wait left n).attempts = (retry attempt wait rest (n + 1)).attempts) := by
  match left with
  | 0 => exact Or.inl ⟨Or.inl ⟨rfl, Or.inl rfl⟩, rfl⟩
  | rest + 1 =>
    rw [retry]
    cases hattempt : attempt n with
    | final a =>
      refine Or.inl ⟨Or.inl ⟨?_, Or.inr ?_⟩, rfl⟩
      · rw [hattempt]
        rfl
      · rw [hattempt]
        rfl
    | transient a =>
      have htransient : (attempt n).isTransient = true := by rw [hattempt]; rfl
      cases hwait : wait n with
      | error b => exact Or.inl ⟨Or.inr ⟨Nat.succ_ne_zero rest, htransient, hwait⟩, rfl⟩
      | ok delay => exact Or.inr ⟨⟨htransient, delay, hwait⟩, rest, rfl, rfl, rfl⟩

variable (attempt wait) in
/-- The loop ends at an attempt within the budget, and goes on after each one before it. -/
theorem retry_ends (left n : Nat) :
    ∃ k ≤ left, (retry attempt wait left n).attempts = n + k + 1 ∧
      (∀ i < k, Continues attempt wait (n + i)) ∧
      Ends attempt wait (left - k) (n + k) (retry attempt wait left n).result := by
  induction left generalizing n with
  | zero =>
    rcases retry_step 0 n with ⟨hends, hattempts⟩ | ⟨-, rest, hrest, -, -⟩
    · exact ⟨0, Nat.le_refl 0, hattempts, fun i hi => absurd hi (Nat.not_lt_zero i), hends⟩
    · omega
  | succ left ih =>
    rcases retry_step (left + 1) n with ⟨hends, hattempts⟩ | ⟨hcontinues, rest, hrest, hresult, hattempts⟩
    · exact ⟨0, by omega, hattempts, fun i hi => absurd hi (Nat.not_lt_zero i), hends⟩
    · have hsame : rest = left := by omega
      subst hsame
      obtain ⟨k, hk, hcount, hbefore, hend⟩ := ih (n + 1)
      refine ⟨k + 1, by omega, by omega, ?_, ?_⟩
      · intro i hi
        match i with
        | 0 => exact hcontinues
        | i + 1 =>
          have hstep := hbefore i (by omega)
          rwa [Nat.add_assoc, Nat.add_comm 1 i] at hstep
      · rw [hresult, Nat.add_sub_add_right, ← Nat.add_assoc, Nat.add_right_comm]
        exact hend

theorem Ends.not_continues {left last : Nat} {a : α} (h : Ends attempt wait left last a)
    (hleft : left ≠ 0) : ¬ Continues attempt wait last := by
  rintro ⟨htransient, delay, hwait⟩
  rcases h with ⟨-, hzero | hfinal⟩ | ⟨-, -, herror⟩
  · exact hleft hzero
  · rw [hfinal] at htransient
    exact Bool.false_ne_true htransient
  · rw [hwait] at herror
    cases herror

variable (attempt wait) in
/-- An attempt that is reached and ends the loop is the last. -/
theorem retry_of_ends {left n k : Nat} (hk : k ≤ left)
    (hbefore : ∀ i < k, Continues attempt wait (n + i)) (hstop : ¬ Continues attempt wait (n + k)) :
    (retry attempt wait left n).attempts = n + k + 1 ∧
      Ends attempt wait (left - k) (n + k) (retry attempt wait left n).result := by
  obtain ⟨k', hk', hattempts, hbefore', hends⟩ := retry_ends attempt wait left n
  rcases Nat.lt_trichotomy k' k with hlt | heq | hgt
  · exact absurd (hbefore k' hlt) (hends.not_continues (by omega))
  · rw [heq] at hattempts hends
    exact ⟨hattempts, hends⟩
  · exact absurd (hbefore' k hgt) hstop

end Retried

end LlmHarness
