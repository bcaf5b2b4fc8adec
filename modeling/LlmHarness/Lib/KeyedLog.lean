/-
  LlmHarness.Lib.KeyedLog

  A log of keyed entries in which the last entry of a key is the current one.
  An entry is rewritten in place, either the last one of a key or the first one
  equal to a given value; new entries go to the end.
-/

import Mathlib.Data.List.Basic

namespace LlmHarness.KeyedLog

variable {α κ : Type} [DecidableEq κ] (key : α → κ)

/-- The current entry of a key. -/
def last? (log : List α) (k : κ) : Option α :=
  log.reverse.find? fun a => decide (key a = k)

/-- Rewrites the last entry of a key; the rewritten entry and the new log. -/
def updateLast (k : κ) (f : α → α) : List α → Option (α × List α)
  | [] => none
  | a :: log =>
    match updateLast k f log with
    | some (b, log') => some (b, a :: log')
    | none => if key a = k then some (f a, f a :: log) else none

/-- Rewrites the first entry equal to `current`. -/
def updateFirst [DecidableEq α] (current : α) (f : α → α) : List α → Option (α × List α)
  | [] => none
  | a :: log =>
    if a = current then some (f a, f a :: log)
    else match updateFirst current f log with
      | some (b, log') => some (b, a :: log')
      | none => none

/-- `a` is the last entry of its key, between `pre` and `post`. -/
structure IsLast (log : List α) (pre : List α) (a : α) (post : List α) : Prop where
  eq_append : log = pre ++ a :: post
  fresh : ∀ b ∈ post, key b ≠ key a

/-- Entries for which `live` holds are last of their key. -/
def LiveLast (live : α → Bool) (log : List α) : Prop :=
  log.Pairwise fun a b => live a → key b ≠ key a

/-! ## Reading the current entry -/

@[simp]
theorem last?_nil (k : κ) : last? key [] k = none := rfl

theorem last?_append (xs ys : List α) (k : κ) :
    last? key (xs ++ ys) k = (last? key ys k).or (last? key xs k) := by
  simp only [last?, List.reverse_append, List.find?_append]

theorem last?_eq_none_iff (log : List α) (k : κ) :
    last? key log k = none ↔ ∀ a ∈ log, key a ≠ k := by
  simp [last?, List.find?_eq_none]

theorem last?_cons (a : α) (log : List α) (k : κ) :
    last? key (a :: log) k = (last? key log k).or (if key a = k then some a else none) := by
  have h := last?_append key [a] log k
  rw [List.singleton_append] at h
  rw [h]
  by_cases hk : key a = k <;> simp [last?, hk]

variable {key}

theorem IsLast.last? {log pre post : List α} {a : α} (h : IsLast key log pre a post) :
    last? key log (key a) = some a := by
  have hpost : KeyedLog.last? key post (key a) = none := (last?_eq_none_iff key post _).mpr h.fresh
  rw [h.eq_append, last?_append, last?_cons, hpost]
  simp

theorem exists_isLast_of_last? {log : List α} {k : κ} {a : α} (h : last? key log k = some a) :
    key a = k ∧ ∃ pre post, IsLast key log pre a post := by
  induction log with
  | nil => simp at h
  | cons b log ih =>
      rw [last?_cons] at h
      cases hl : last? key log k with
      | some c =>
          rw [hl, Option.some_or] at h
          obtain ⟨hk, pre, post, hlast⟩ := ih (hl.trans h)
          exact ⟨hk, b :: pre, post, by rw [hlast.eq_append, List.cons_append], hlast.fresh⟩
      | none =>
          rw [hl, Option.none_or] at h
          by_cases hb : key b = k
          · rw [if_pos hb, Option.some.injEq] at h
            subst h
            have hfresh := (last?_eq_none_iff key log k).mp hl
            exact ⟨hb, [], log, rfl, fun c hc => hb ▸ hfresh c hc⟩
          · rw [if_neg hb] at h
            cases h

theorem mem_of_last? {log : List α} {k : κ} {a : α} (h : last? key log k = some a) :
    a ∈ log ∧ key a = k := by
  obtain ⟨hk, pre, post, hlast⟩ := exists_isLast_of_last? h
  exact ⟨by rw [hlast.eq_append]; simp, hk⟩

theorem exists_last?_of_mem {log : List α} {a : α} (h : a ∈ log) :
    ∃ b, last? key log (key a) = some b := by
  cases hl : last? key log (key a) with
  | none => exact absurd rfl ((last?_eq_none_iff key log _).mp hl a h)
  | some b => exact ⟨b, rfl⟩

/-! ## Rewriting an entry in place -/

/-- Rewriting the current entry of a key changes that key only. -/
theorem IsLast.last?_replace {log pre post : List α} {a b : α} (h : IsLast key log pre a post)
    (hb : key b = key a) (k : κ) :
    KeyedLog.last? key (pre ++ b :: post) k =
      if k = key a then some b else KeyedLog.last? key log k := by
  have hpost : KeyedLog.last? key post (key a) = none := (last?_eq_none_iff key post _).mpr h.fresh
  rw [h.eq_append, last?_append, last?_cons, last?_append, last?_cons, hb]
  by_cases hk : k = key a
  · subst hk
    simp [hpost]
  · have hne : ¬ key a = k := fun h => hk h.symm
    simp [hk, hne]

/-- Rewriting an entry that is not the current one of its key changes no key. -/
theorem last?_replace_stale {pre post : List α} {a b : α} (hb : key b = key a)
    (hstale : ∃ c ∈ post, key c = key a) (k : κ) :
    last? key (pre ++ b :: post) k = last? key (pre ++ a :: post) k := by
  rw [last?_append, last?_cons, last?_append, last?_cons, hb]
  by_cases hk : key a = k
  · obtain ⟨c, hc, hca⟩ := hstale
    cases hl : last? key post k with
    | none => exact absurd (hca.trans hk) ((last?_eq_none_iff key post k).mp hl c hc)
    | some d => simp
  · simp [hk]

theorem updateLast_eq_none_iff (k : κ) (f : α → α) (log : List α) :
    updateLast key k f log = none ↔ ∀ a ∈ log, key a ≠ k := by
  induction log with
  | nil => simp [updateLast]
  | cons a log ih =>
      rw [updateLast]
      cases hu : updateLast key k f log with
      | some p =>
          have hex : ¬ ∀ a ∈ log, key a ≠ k := by rw [← ih, hu]; simp
          simp only [List.forall_mem_cons]
          tauto
      | none =>
          have hall := ih.mp hu
          by_cases ha : key a = k
          · simp [ha]
          · simpa [ha] using hall

theorem updateLast_of_isLast {log pre post : List α} {a : α} (h : IsLast key log pre a post)
    (f : α → α) : updateLast key (key a) f log = some (f a, pre ++ f a :: post) := by
  rw [h.eq_append]
  induction pre generalizing log with
  | nil =>
      have hnone := (updateLast_eq_none_iff (key a) f post).mpr h.fresh
      simp [updateLast, hnone]
  | cons c pre ih =>
      rw [List.cons_append, updateLast, ih ⟨rfl, h.fresh⟩]
      rfl

/-- `updateFirst` rewrites an entry equal to `current`. -/
theorem updateFirst_eq_some [DecidableEq α] {current b : α} {f : α → α} {log log' : List α}
    (h : updateFirst current f log = some (b, log')) :
    b = f current ∧ ∃ pre post, log = pre ++ current :: post ∧ log' = pre ++ f current :: post := by
  induction log generalizing b log' with
  | nil => simp [updateFirst] at h
  | cons a log ih =>
      rw [updateFirst] at h
      by_cases ha : a = current
      · obtain ⟨rfl, rfl⟩ : f a = b ∧ f a :: log = log' := by simpa [ha] using h
        exact ⟨by rw [ha], [], log, by rw [ha]; rfl, by rw [ha]; rfl⟩
      · rw [if_neg ha] at h
        cases hu : updateFirst current f log with
        | none => simp [hu] at h
        | some p =>
            obtain ⟨c, tail⟩ := p
            rw [hu] at h
            obtain ⟨rfl, rfl⟩ : c = b ∧ a :: tail = log' := by simpa using h
            obtain ⟨rfl, pre, post, rfl, rfl⟩ := ih hu
            exact ⟨rfl, a :: pre, post, rfl, rfl⟩

theorem updateFirst_isSome [DecidableEq α] {current : α} {log : List α} (f : α → α)
    (h : current ∈ log) : ∃ log', updateFirst current f log = some (f current, log') := by
  induction log with
  | nil => simp at h
  | cons a log ih =>
      rw [updateFirst]
      by_cases ha : a = current
      · exact ⟨f a :: log, by rw [if_pos ha, ha]⟩
      · have hmem : current ∈ log := (List.mem_cons.mp h).resolve_left fun h => ha h.symm
        obtain ⟨log', hu⟩ := ih hmem
        exact ⟨a :: log', by rw [if_neg ha, hu]⟩

/-! ## Live entries -/

omit [DecidableEq κ] in
theorem LiveLast.isLast {live : α → Bool} {log pre post : List α} {a : α}
    (h : LiveLast key live log) (hlog : log = pre ++ a :: post) (ha : live a) :
    IsLast key log pre a post := by
  refine ⟨hlog, fun b hb => ?_⟩
  rw [hlog] at h
  have hcons := (List.pairwise_append.mp h).2.1
  exact (List.pairwise_cons.mp hcons).1 b hb ha

omit [DecidableEq κ] in
/-- Appending entries of pairwise distinct keys that have no live entry. -/
theorem LiveLast.append {live : α → Bool} {log added : List α} (h : LiveLast key live log)
    (hfree : ∀ a ∈ log, live a → ∀ b ∈ added, key b ≠ key a)
    (hdistinct : added.Pairwise fun a b => key b ≠ key a) : LiveLast key live (log ++ added) := by
  have hadded : added.Pairwise fun a b => live a → key b ≠ key a := by
    apply hdistinct.imp
    intro a b hab _
    exact hab
  exact List.pairwise_append.mpr
    ⟨h, hadded, fun a ha b hb hlive => hfree a ha hlive b hb⟩

omit [DecidableEq κ] in
/-- Rewriting an entry in place keeps live entries last, unless it brings a
    stale entry back to life. -/
theorem LiveLast.replace {live : α → Bool} {pre post : List α} {a b : α}
    (h : LiveLast key live (pre ++ a :: post)) (hb : key b = key a)
    (hlast : live b → ∀ c ∈ post, key c ≠ key a) : LiveLast key live (pre ++ b :: post) := by
  obtain ⟨hpre, hcons, hcross⟩ := List.pairwise_append.mp h
  obtain ⟨-, hpost⟩ := List.pairwise_cons.mp hcons
  refine List.pairwise_append.mpr ⟨hpre, List.pairwise_cons.mpr ⟨?_, hpost⟩, ?_⟩
  · intro c hc hlive
    rw [hb]
    exact hlast hlive c hc
  · intro c hc d hd hlive
    rcases List.mem_cons.mp hd with rfl | hd
    · rw [hb]
      exact hcross c hc a List.mem_cons_self hlive
    · exact hcross c hc d (List.mem_cons_of_mem _ hd) hlive

/-- A live entry is found by its key. -/
theorem LiveLast.last?_of_mem {live : α → Bool} {log : List α} {a : α}
    (h : LiveLast key live log) (ha : a ∈ log) (hlive : live a) : last? key log (key a) = some a := by
  obtain ⟨pre, post, hlog⟩ := List.append_of_mem ha
  exact (h.isLast hlog hlive).last?

end LlmHarness.KeyedLog
