/-
  LlmHarness.Lib.Locks

  Two locks.  A re-entrant lock belongs to one thread, which may take it several times and
  gives it back as often.  A file lock is exclusive between the open handles on a file, and a
  handle that is closed does not keep it.
-/

import Mathlib.Data.List.Basic

namespace LlmHarness

/-! ## Re-entrant locks -/

/-- A re-entrant lock: nobody's, or a thread's that took it once and `again` more times. -/
inductive RLock (τ : Type) where
  | free
  | owned (thread : τ) (again : Nat)
deriving DecidableEq

namespace RLock

variable {τ : Type} [DecidableEq τ] {lock lock' : RLock τ} {thread other : τ}

/-- How often a thread has taken the lock. -/
def count : RLock τ → τ → Nat
  | free, _ => 0
  | owned owner again, thread => if owner = thread then again + 1 else 0

/-- One take more, unless the lock is another thread's. -/
def acquire? : RLock τ → τ → Option (RLock τ)
  | free, thread => some (owned thread 0)
  | owned owner again, thread => if owner = thread then some (owned owner (again + 1)) else none

/-- One take less; nothing happens to a lock that is not the thread's. -/
def release : RLock τ → τ → RLock τ
  | free, _ => free
  | owned owner 0, thread => if owner = thread then free else owned owner 0
  | owned owner (again + 1), thread =>
    if owner = thread then owned owner again else owned owner (again + 1)

/-- The lock has one owner. -/
theorem eq_of_count_pos (h : 0 < lock.count thread) (h' : 0 < lock.count other) :
    thread = other := by
  cases lock with
  | free => exact absurd h (Nat.lt_irrefl 0)
  | owned owner again =>
      have hthread : owner = thread := by
        by_contra hne
        rw [count, if_neg hne] at h
        omega
      have hother : owner = other := by
        by_contra hne
        rw [count, if_neg hne] at h'
        omega
      rw [← hthread, hother]

theorem count_eq_zero_of_ne (h : 0 < lock.count thread) (hne : other ≠ thread) :
    lock.count other = 0 := by
  by_contra hpos
  exact hne (eq_of_count_pos (Nat.pos_of_ne_zero hpos) h)

theorem count_acquire?_self (h : lock.acquire? thread = some lock') :
    lock'.count thread = lock.count thread + 1 := by
  cases lock with
  | free =>
      cases h
      simp [count]
  | owned owner again =>
      by_cases howner : owner = thread
      · rw [acquire?, if_pos howner] at h
        cases h
        rw [count, if_pos howner, count, if_pos howner]
      · rw [acquire?, if_neg howner] at h
        cases h

theorem count_acquire?_other (h : lock.acquire? thread = some lock') (hne : other ≠ thread) :
    lock'.count other = lock.count other := by
  have hafter : lock'.count other = 0 :=
    count_eq_zero_of_ne (by rw [count_acquire?_self h]; exact Nat.succ_pos _) hne
  cases lock with
  | free => rw [hafter, count]
  | owned owner again =>
      by_cases howner : owner = thread
      · rw [hafter, count, if_neg fun heq => hne (heq.symm.trans howner)]
      · rw [acquire?, if_neg howner] at h
        cases h

theorem count_release_self : (lock.release thread).count thread = lock.count thread - 1 := by
  cases lock with
  | free => rfl
  | owned owner again =>
      by_cases howner : owner = thread
      · cases again with
        | zero => rw [release, if_pos howner, count, count, if_pos howner]
        | succ again =>
            rw [release, if_pos howner, count, if_pos howner, count, if_pos howner]
            rfl
      · cases again with
        | zero => rw [release, if_neg howner, count, if_neg howner]
        | succ again => rw [release, if_neg howner, count, if_neg howner]

theorem count_release_other (hne : other ≠ thread) :
    (lock.release thread).count other = lock.count other := by
  cases lock with
  | free => rfl
  | owned owner again =>
      by_cases howner : owner = thread
      · have hother : owner ≠ other := fun heq => hne (heq.symm.trans howner)
        cases again with
        | zero => rw [release, if_pos howner, count, count, if_neg hother]
        | succ again => rw [release, if_pos howner, count, if_neg hother, count, if_neg hother]
      · cases again with
        | zero => rw [release, if_neg howner]
        | succ again => rw [release, if_neg howner]

/-- A lock that no thread has taken is free. -/
theorem eq_free (h : ∀ thread, lock.count thread = 0) : lock = free := by
  cases lock with
  | free => rfl
  | owned owner again =>
      have howner := h owner
      rw [count, if_pos rfl] at howner
      omega

end RLock

/-! ## File locks -/

/-- A file with its open handles, one of which may have the lock. -/
structure FileLock (η : Type) where
  opened : List η := []
  holder : Option η := none
  opened_of_holder : ∀ handle, holder = some handle → handle ∈ opened := by simp

namespace FileLock

variable {η : Type} (files : FileLock η) {handle other : η}

/-- A new handle. -/
def openFile (handle : η) : FileLock η where
  opened := handle :: files.opened
  holder := files.holder
  opened_of_holder other h := List.mem_cons_of_mem handle (files.opened_of_holder other h)

@[simp] theorem opened_openFile : (files.openFile handle).opened = handle :: files.opened := rfl

@[simp] theorem holder_openFile : (files.openFile handle).holder = files.holder := rfl

variable [DecidableEq η]

/-- An open handle takes the lock that no handle has. -/
def tryLock (handle : η) : FileLock η :=
  if h : files.holder = none ∧ handle ∈ files.opened then
    { opened := files.opened
      holder := some handle
      opened_of_holder := fun other hother => by
        rw [← Option.some.inj hother]
        exact h.2 }
  else files

/-- The handle gives the lock back, if it has it. -/
def unlock (handle : η) : FileLock η where
  opened := files.opened
  holder := if files.holder = some handle then none else files.holder
  opened_of_holder other h := by
    split at h
    · cases h
    · exact files.opened_of_holder other h

/-- The handle is closed, and the lock is free if it had it. -/
def close (handle : η) : FileLock η where
  opened := files.opened.filter (· ≠ handle)
  holder := if files.holder = some handle then none else files.holder
  opened_of_holder other h := by
    split at h
    · cases h
    · next hholder =>
      refine List.mem_filter.mpr ⟨files.opened_of_holder other h, ?_⟩
      rw [decide_eq_true_eq]
      rintro rfl
      exact hholder h

@[simp] theorem opened_tryLock : (files.tryLock handle).opened = files.opened := by
  rw [tryLock]
  split <;> rfl

/-- The lock stays with the handle that has it. -/
theorem holder_tryLock_of_some (h : files.holder = some other) :
    (files.tryLock handle).holder = some other := by
  have hnot : ¬ (files.holder = none ∧ handle ∈ files.opened) := fun hand => by
    rw [h] at hand
    cases hand.1
  rw [tryLock, dif_neg hnot, h]

theorem holder_tryLock_of_none (h : files.holder = none) (hopened : handle ∈ files.opened) :
    (files.tryLock handle).holder = some handle := by
  rw [tryLock, dif_pos ⟨h, hopened⟩]

/-- Whoever has the lock after the attempt had it before or is the handle that tried. -/
theorem holder_tryLock_cases (h : (files.tryLock handle).holder = some other) :
    files.holder = some other ∨ files.holder = none ∧ other = handle := by
  rw [tryLock] at h
  split at h
  · next hfree => exact .inr ⟨hfree.1, (Option.some.inj h).symm⟩
  · exact .inl h

/-- Giving back or closing frees the lock of this handle and of no other. -/
theorem holder_unlock : (files.unlock handle).holder =
    if files.holder = some handle then none else files.holder := rfl

theorem holder_close : (files.close handle).holder =
    if files.holder = some handle then none else files.holder := rfl

@[simp] theorem mem_opened_close : other ∈ (files.close handle).opened ↔
    other ∈ files.opened ∧ other ≠ handle := by
  rw [close, List.mem_filter, decide_eq_true_eq]

theorem holder_unlock_of_ne (h : files.holder = some other) (hne : other ≠ handle) :
    (files.unlock handle).holder = some other := by
  rw [holder_unlock, if_neg fun heq => hne (Option.some.inj (h.symm.trans heq)), h]

theorem holder_close_of_ne (h : files.holder = some other) (hne : other ≠ handle) :
    (files.close handle).holder = some other := files.holder_unlock_of_ne h hne

/-- Closing a handle that is not open changes nothing. -/
theorem close_of_not_opened (h : handle ∉ files.opened) : files.close handle = files := by
  obtain ⟨opened, holder, hheld⟩ := files
  have hfilter : opened.filter (· ≠ handle) = opened := by
    refine List.filter_eq_self.mpr fun other hother => ?_
    rw [decide_eq_true_eq]
    rintro rfl
    exact h hother
  have hholder : holder ≠ some handle := fun heq => h (hheld handle heq)
  simp only [close, hfilter, if_neg hholder]

end FileLock

end LlmHarness
