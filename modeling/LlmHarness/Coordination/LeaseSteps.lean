/-
  LlmHarness.Coordination.LeaseSteps

  What one operation of a thread can do to its process's lease and to the lock file, said
  once: the moves of `acquire`, of its `except` clause and of `release`.  From the moves
  follow what an operation leaves alone, and which of them give and take the kernel lock.
-/

import LlmHarness.Coordination.FileLease

namespace LlmHarness.Coordination

variable {π τ : Type}

/-! ## Changes of a lease -/

section

variable [DecidableEq π] {world : World π τ}

/-- The process has the lease that was put. -/
@[simp] theorem World.leases_put (process : π) (lease : FileLease π τ)
    (files : FileLock (Handle π τ)) : (world.put process lease files).leases process = some lease :=
  Function.update_self ..

/-- Every other process keeps its lease. -/
theorem World.leases_put_of_ne {process other : π} (lease : FileLease π τ)
    (files : FileLock (Handle π τ)) (hne : other ≠ process) :
    (world.put process lease files).leases other = world.leases other :=
  Function.update_of_ne hne ..

/-- The lock files are the ones that were put. -/
@[simp] theorem World.files_put (process : π) (lease : FileLease π τ)
    (files : FileLock (Handle π τ)) : (world.put process lease files).files = files := rfl

/-- A second put of a process replaces the first. -/
@[simp] theorem World.put_put (process : π) (lease lease' : FileLease π τ)
    (files files' : FileLock (Handle π τ)) :
    (world.put process lease files).put process lease' files' = world.put process lease' files' := by
  rw [World.put, World.put, World.put, Function.update_idem]

end

variable [DecidableEq τ]

section

variable (lease : FileLease π τ) (thread : τ) (phase : Phase π τ) (depth : Nat)

/-- A thread that moves is at the point it moved to. -/
@[simp] theorem FileLease.phase_move : (lease.move thread phase).phase thread = phase :=
  Function.update_self ..

/-- A move keeps the depth of every thread. -/
@[simp] theorem FileLease.depth_move : (lease.move thread phase).depth = lease.depth := rfl

/-- ... and the thread lock. -/
@[simp] theorem FileLease.threadLock_move :
    (lease.move thread phase).threadLock = lease.threadLock := rfl

/-- ... and `_handle`. -/
@[simp] theorem FileLease.handle_move : (lease.move thread phase).handle = lease.handle := rfl

@[simp] theorem FileLease.ownerPayload_move :
    (lease.move thread phase).ownerPayload = lease.ownerPayload := rfl

/-- A depth that is set is read back. -/
@[simp] theorem FileLease.depth_setDepth : (lease.setDepth thread depth).depth thread = depth :=
  Function.update_self ..

/-- Setting a depth moves no thread. -/
@[simp] theorem FileLease.phase_setDepth : (lease.setDepth thread depth).phase = lease.phase := rfl

/-- ... and keeps the thread lock. -/
@[simp] theorem FileLease.threadLock_setDepth :
    (lease.setDepth thread depth).threadLock = lease.threadLock := rfl

@[simp] theorem FileLease.handle_setDepth :
    (lease.setDepth thread depth).handle = lease.handle := rfl

@[simp] theorem FileLease.ownerPayload_setDepth :
    (lease.setDepth thread depth).ownerPayload = lease.ownerPayload := rfl

/-- Giving the thread lock back is one release of it. -/
@[simp] theorem FileLease.threadLock_freeThread :
    (lease.freeThread thread).threadLock = lease.threadLock.release thread := rfl

/-- ... that moves no thread. -/
@[simp] theorem FileLease.phase_freeThread : (lease.freeThread thread).phase = lease.phase := rfl

/-- ... and keeps every depth. -/
@[simp] theorem FileLease.depth_freeThread : (lease.freeThread thread).depth = lease.depth := rfl

@[simp] theorem FileLease.handle_freeThread : (lease.freeThread thread).handle = lease.handle := rfl

@[simp] theorem FileLease.ownerPayload_freeThread :
    (lease.freeThread thread).ownerPayload = lease.ownerPayload := rfl

variable {other : τ}

/-- Every other thread stays where it is. -/
theorem FileLease.phase_move_of_ne (hne : other ≠ thread) :
    (lease.move thread phase).phase other = lease.phase other := Function.update_of_ne hne ..

/-- ... and keeps its depth. -/
theorem FileLease.depth_setDepth_of_ne (hne : other ≠ thread) :
    (lease.setDepth thread depth).depth other = lease.depth other := Function.update_of_ne hne ..

end

/-! ## Moves -/

variable [DecidableEq π]

/-- What an operation of a thread does to the lease of its process and to the lock file. -/
inductive Moves (process : π) (thread : τ) (lease : FileLease π τ) (files : FileLock (Handle π τ)) :
    Act → FileLease π τ → FileLock (Handle π τ) → Prop where
  | stay (act : Act) : Moves process thread lease files act lease files
  | call (h : lease.phase thread = .idle) :
    Moves process thread lease files (.acquire false) (lease.move thread .waiting) files
  | take (threadLock : RLock τ) (h : lease.phase thread = .waiting)
    (htake : lease.threadLock.acquire? thread = some threadLock) :
    Moves process thread lease files .takeThreadLock ({ lease with threadLock }.move thread .entered)
      files
  | giveUp (h : lease.phase thread = .waiting) :
    Moves process thread lease files .giveUp (lease.move thread .idle) files
  | outermost (h : lease.phase thread = .entered) (hdepth : lease.depth thread = 0) :
    Moves process thread lease files .look (lease.move thread .opening) files
  | nested (h : lease.phase thread = .entered) (hdepth : lease.depth thread ≠ 0) :
    Moves process thread lease files .look
      ((lease.setDepth thread (lease.depth thread + 1)).move thread .idle) files
  | opens (h : lease.phase thread = .opening) :
    Moves process thread lease files (.openFile .done)
      ({ lease with opens := lease.opens + 1 }.move thread (.opened ⟨process, thread, lease.opens⟩))
      (files.openFile ⟨process, thread, lease.opens⟩)
  | opensNot (raised : Raised) (h : lease.phase thread = .opening) :
    Moves process thread lease files (.openFile (.raises raised))
      (lease.move thread (.failing none raised)) files
  | prepared (handle : Handle π τ) (h : lease.phase thread = .opened handle) :
    Moves process thread lease files (.prepare .done) (lease.move thread (.polling handle)) files
  | preparedNot (handle : Handle π τ) (raised : Raised) (h : lease.phase thread = .opened handle) :
    Moves process thread lease files (.prepare (.raises raised))
      (lease.move thread (.failing (some handle) raised)) files
  | locks (handle : Handle π τ) (h : lease.phase thread = .polling handle)
    (hlocked : (files.tryLock handle).holder = some handle) :
    Moves process thread lease files (.tryLock false) (lease.move thread (.locked handle))
      (files.tryLock handle)
  | hadLocked (handle : Handle π τ) (h : lease.phase thread = .polling handle)
    (hlocked : files.holder = some handle) :
    Moves process thread lease files (.tryLock true) (lease.move thread (.locked handle)) files
  | locksNot (handle : Handle π τ) (h : lease.phase thread = .polling handle)
    (hnot : (files.tryLock handle).holder ≠ some handle) :
    Moves process thread lease files (.tryLock false) lease (files.tryLock handle)
  | stopped (handle : Handle π τ) (raised : Raised) (h : lease.phase thread = .polling handle) :
    Moves process thread lease files (.stopPolling raised)
      (lease.move thread (.failing (some handle) raised)) files
  | records (handle : Handle π τ) (leaseId : Nat) (h : lease.phase thread = .locked handle) :
    Moves process thread lease files (.record leaseId .done)
      (lease.move thread (.recorded handle leaseId)) files
  | recordsNot (handle : Handle π τ) (leaseId : Nat) (raised : Raised)
    (h : lease.phase thread = .locked handle) :
    Moves process thread lease files (.record leaseId (.raises raised))
      (lease.move thread (.failing (some handle) raised)) files
  | settles (handle : Handle π τ) (leaseId : Nat) (h : lease.phase thread = .recorded handle leaseId) :
    Moves process thread lease files .settle
      (({ lease with handle := some handle, ownerPayload := some leaseId }.setDepth thread 1).move
        thread .idle) files
  | passes (handle : Option (Handle π τ)) (closing : Outcome)
    (h : lease.phase thread = .failing handle .interrupt) :
    Moves process thread lease files (.cleanUp closing) (lease.move thread .idle) files
  | cleans (handle : Option (Handle π τ)) (raised : Raised) (closing : Outcome)
    (h : lease.phase thread = .failing handle raised) (hraised : raised ≠ .interrupt) :
    Moves process thread lease files (.cleanUp closing) ((lease.freeThread thread).move thread .idle)
      (closeHandle files handle)
  | cleansNot (handle : Option (Handle π τ)) (raised : Raised) (closing : Outcome)
    (h : lease.phase thread = .failing handle raised)
    (hclosing : ¬ (closing = .done ∨ closing = .raises .osError)) :
    Moves process thread lease files (.cleanUp closing) (lease.move thread .idle)
      (closeHandle files handle)
  | releases (handle : Handle π τ) (h : lease.phase thread = .idle) (hdepth : lease.depth thread = 1)
    (hhandle : lease.handle = some handle) :
    Moves process thread lease files .release (lease.move thread (.releasing handle)) files
  | unnests (depth : Nat) (h : lease.phase thread = .idle) (hdepth : lease.depth thread = depth + 2) :
    Moves process thread lease files .release
      ((lease.setDepth thread (depth + 1)).freeThread thread) files
  | marks (handle : Handle π τ) (outcome : Outcome) (h : lease.phase thread = .releasing handle) :
    Moves process thread lease files (.mark outcome) (lease.move thread (.marked handle)) files
  | marksNot (handle : Handle π τ) (outcome : Outcome) (h : lease.phase thread = .releasing handle)
    (houtcome : ¬ (outcome = .done ∨ outcome = .raises .osError)) :
    Moves process thread lease files (.mark outcome) (lease.move thread .finishing) files
  | unlocks (handle : Handle π τ) (h : lease.phase thread = .marked handle) :
    Moves process thread lease files (.unlock .done) (lease.move thread (.unlocked handle))
      (files.unlock handle)
  | unlocksNot (handle : Handle π τ) (outcome : Outcome) (h : lease.phase thread = .marked handle) :
    Moves process thread lease files (.unlock outcome) (lease.move thread (.unlocked handle)) files
  | closes (handle : Handle π τ) (h : lease.phase thread = .unlocked handle) :
    Moves process thread lease files .close (lease.move thread .finishing) (files.close handle)
  | finishes (h : lease.phase thread = .finishing) :
    Moves process thread lease files .finish
      (((({ lease with handle := none, ownerPayload := none }.setDepth thread 0).freeThread
        thread).move thread .idle)) files

section

variable (process : π) (thread : τ) (lease : FileLease π τ) (files : FileLock (Handle π τ))

/-- The operations before the `try` are moves. -/
theorem moves_enter (act : Act) :
    Moves process thread lease files act (lease.enter thread act) files := by
  cases act with
  | acquire negative =>
      rw [FileLease.enter]
      split
      · next h => exact h.2 ▸ .call h.1
      · exact .stay _
  | takeThreadLock =>
      rw [FileLease.enter]
      split
      · next threadLock h htake => exact .take threadLock h htake
      · exact .stay _
  | giveUp =>
      rw [FileLease.enter]
      split
      · next h => exact .giveUp h
      · exact .stay _
  | look =>
      rw [FileLease.enter]
      split
      · next h =>
        split
        · next hdepth => exact .outermost h hdepth
        · next hdepth => exact .nested h hdepth
      · exact .stay _
  | _ => exact .stay _

/-- The operations in the `try` are moves. -/
theorem moves_establish (act : Act) :
    Moves process thread lease files act (lease.establish files process thread act).1
      (lease.establish files process thread act).2 := by
  cases act with
  | openFile outcome =>
      unfold FileLease.establish
      dsimp only
      -- at the point the operation belongs to it moves, at any other it does nothing
      split
      · next h => exact .opens h
      · next raised h => exact .opensNot raised h
      · exact .stay _
  | prepare outcome =>
      unfold FileLease.establish
      dsimp only
      split
      · next handle h => exact .prepared handle h
      · next handle raised h => exact .preparedNot handle raised h
      · exact .stay _
  | tryLock fails =>
      unfold FileLease.establish
      dsimp only
      split
      · next handle h =>
        -- the operating system may refuse the lock to the handle that has it
        cases fails with
        | true =>
            by_cases hlocked : files.holder = some handle
            · rw [if_pos rfl, if_pos hlocked]
              exact .hadLocked handle h hlocked
            · rw [if_pos rfl, if_neg hlocked]
              exact .stay _
        | false =>
            have hfails : ¬ (false = true) := Bool.false_ne_true
            by_cases hlocked : (files.tryLock handle).holder = some handle
            · rw [if_neg hfails, if_pos hlocked]
              exact .locks handle h hlocked
            · rw [if_neg hfails, if_neg hlocked]
              exact .locksNot handle h hlocked
      · exact .stay _
  | stopPolling raised =>
      unfold FileLease.establish
      dsimp only
      split
      · next handle h => exact .stopped handle raised h
      · exact .stay _
  | record leaseId outcome =>
      unfold FileLease.establish
      dsimp only
      split
      · next handle h => exact .records handle leaseId h
      · next handle raised h => exact .recordsNot handle leaseId raised h
      · exact .stay _
  | settle =>
      unfold FileLease.establish
      dsimp only
      split
      · next handle leaseId h => exact .settles handle leaseId h
      · exact .stay _
  | _ => exact .stay _

/-- The `except` clause of `acquire` is a move. -/
theorem moves_recoverFrom {handle : Option (Handle π τ)} {raised : Raised} (closing : Outcome)
    (h : lease.phase thread = .failing handle raised) :
    Moves process thread lease files (.cleanUp closing)
      (lease.recoverFrom files thread handle raised closing).1
      (lease.recoverFrom files thread handle raised closing).2 := by
  rw [FileLease.recoverFrom]
  split
  · next hraised => exact .passes handle closing (hraised ▸ h)
  · next hraised =>
    split
    · exact .cleans handle raised closing h hraised
    · next hclosing => exact .cleansNot handle raised closing h fun hdone => hclosing (.inr hdone)

/-- The operations of `release` are moves. -/
theorem moves_leave (act : Act) :
    Moves process thread lease files act (lease.leave files thread act).1
      (lease.leave files thread act).2 := by
  cases act with
  | release =>
      rw [FileLease.leave]
      -- a release of the only acquire, or of a nested one
      split
      · next h =>
        split
        · exact .stay _
        · next hdepth =>
          split
          · next handle hhandle => exact .releases handle h hdepth hhandle
          · exact .stay _
        · next depth hdepth => exact .unnests depth h hdepth
      · exact .stay _
  | mark outcome =>
      rw [FileLease.leave]
      split
      · next handle h =>
        split
        · exact .marks handle outcome h
        · next houtcome => exact .marksNot handle outcome h houtcome
      · exact .stay _
  | unlock outcome =>
      rw [FileLease.leave]
      split
      · next handle h =>
        cases outcome with
        | done => exact .unlocks handle h
        | raises raised => exact .unlocksNot handle (.raises raised) h
      · exact .stay _
  | close =>
      rw [FileLease.leave]
      split
      · next handle h => exact .closes handle h
      · exact .stay _
  | finish =>
      rw [FileLease.leave]
      split
      · next h => exact .finishes h
      · exact .stay _
  | _ => exact .stay _

/-- **Every operation is one of the moves.** -/
theorem moves_act (act : Act) :
    Moves process thread lease files act (lease.act files process thread act).1
      (lease.act files process thread act).2 := by
  cases act with
  | acquire | takeThreadLock | giveUp | look => exact moves_enter process thread lease files _
  | openFile | prepare | tryLock | stopPolling | record | settle =>
      exact moves_establish process thread lease files _
  | cleanUp closing =>
      rw [FileLease.act]
      split
      · next handle raised h => exact moves_recoverFrom process thread lease files closing h
      · exact .stay _
  | release | mark | unlock | close | finish => exact moves_leave process thread lease files _

end

/-! ## The kernel lock -/

section

variable {process : π} {thread : τ} {lease lease' : FileLease π τ}
  {files files' : FileLock (Handle π τ)} {act : Act} {handle : Handle π τ}

/-- Only an attempt in the loop of `acquire` takes the kernel lock. -/
theorem Moves.taken (hmoves : Moves process thread lease files act lease' files')
    (hafter : files'.holder = some handle) (hbefore : files.holder ≠ some handle) :
    files.holder = none ∧ lease.phase thread = .polling handle ∧ act = .tryLock false := by
  have hclosed : ∀ mine, (files.close mine).holder ≠ some handle := by
    intro mine hclose
    rw [files.holder_close] at hclose
    split at hclose
    · cases hclose
    · exact hbefore hclose
  cases hmoves with
  | locks mine h hlocked =>
      rcases files.holder_tryLock_cases hafter with hhad | ⟨hfree, rfl⟩
      · exact absurd hhad hbefore
      · exact ⟨hfree, h, rfl⟩
  | locksNot mine h hnot =>
      rcases files.holder_tryLock_cases hafter with hhad | ⟨hfree, rfl⟩
      · exact absurd hhad hbefore
      · exact absurd hafter hnot
  | cleans mine raised closing h hraised | cleansNot mine raised closing h hclosing =>
      cases mine with
      | none => exact absurd hafter hbefore
      | some mine => exact absurd hafter (hclosed mine)
  | unlocks mine h => exact absurd hafter (hclosed mine)
  | closes mine h => exact absurd hafter (hclosed mine)
  | _ => exact absurd hafter hbefore

/-- Only `release` and the `except` clause of `acquire` give the kernel lock back. -/
theorem Moves.dropped (hmoves : Moves process thread lease files act lease' files')
    (hbefore : files.holder = some handle) (hafter : files'.holder ≠ some handle) :
    files'.holder = none ∧
      (lease.phase thread = .marked handle ∧ act = .unlock .done ∨
        lease.phase thread = .unlocked handle ∧ act = .close ∨
        ∃ raised closing, lease.phase thread = .failing (some handle) raised ∧
          act = .cleanUp closing) := by
  -- Closing another handle would leave the lock where it is.
  have hclosed : ∀ mine, (files.close mine).holder ≠ some handle → mine = handle := by
    intro mine hclose
    by_contra hne
    exact hclose (files.holder_close_of_ne hbefore fun heq => hne heq.symm)
  have hnone : (files.close handle).holder = none := by
    rw [files.holder_close, if_pos hbefore]
  cases hmoves with
  | locks mine h hlocked | locksNot mine h hnot =>
      exact absurd (files.holder_tryLock_of_some hbefore) hafter
  | cleans mine raised closing h hraised | cleansNot mine raised closing h hclosing =>
      cases mine with
      | none => exact absurd hbefore hafter
      | some mine =>
          have hmine := hclosed mine hafter
          subst hmine
          exact ⟨hnone, .inr (.inr ⟨raised, closing, h, rfl⟩)⟩
  | unlocks mine h =>
      have hmine := hclosed mine hafter
      subst hmine
      exact ⟨hnone, .inl ⟨h, rfl⟩⟩
  | closes mine h =>
      have hmine := hclosed mine hafter
      subst hmine
      exact ⟨hnone, .inr (.inl ⟨h, rfl⟩)⟩
  | _ => exact absurd hbefore hafter

end

end LlmHarness.Coordination
