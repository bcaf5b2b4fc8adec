/-
  LlmHarness.Coordination.FileLease

  `FileLease` of `coordination.py` as the threads of several processes run it.  The threads of
  a process share one lease of the lock path, which `shared_file_lease` makes: a re-entrant
  thread lock, the depth of each thread, and the handle that has the kernel lock.  `acquire`
  and `release` are taken apart into the operations that other threads can come between, each
  with the exception it may raise.

  What the metadata file says is the subject of `StaleOwner`; here a write of it succeeds or
  fails.
-/

import LlmHarness.Lib.Locks
import LlmHarness.Lib.Run

namespace LlmHarness.Coordination

/-! ## The state of a lease -/

/-- A handle that `open` returned: the process and the thread that opened it, and how many the
    process's lease had opened before. -/
structure Handle (π τ : Type) where
  process : π
  thread : τ
  serial : Nat
deriving DecidableEq

/-- What an operation raises: an `OSError`, another `Exception`, or an exception that is none
    (`KeyboardInterrupt`, `SystemExit`). -/
inductive Raised where
  | osError
  | exception
  | interrupt
deriving DecidableEq

/-- How an operation ends. -/
inductive Outcome where
  | done
  | raises (raised : Raised)
deriving DecidableEq

/-- How far a thread has come in a call on the lease; the handle is the local variable of that
    name. -/
inductive Phase (π τ : Type) where
  /-- In no call. -/
  | idle
  /-- `acquire` waits for the thread lock. -/
  | waiting
  /-- The thread lock is taken, the depth not looked at. -/
  | entered
  /-- In the `try` of an outermost `acquire`, before the lock file is open. -/
  | opening
  /-- The lock file is open. -/
  | opened (handle : Handle π τ)
  /-- In the loop that tries the kernel lock. -/
  | polling (handle : Handle π τ)
  /-- The kernel lock is taken. -/
  | locked (handle : Handle π τ)
  /-- The metadata is written. -/
  | recorded (handle : Handle π τ) (leaseId : Nat)
  /-- An exception leaves the `try` of `acquire`. -/
  | failing (handle : Option (Handle π τ)) (raised : Raised)
  /-- In an outermost `release`, before the release marker is written. -/
  | releasing (handle : Handle π τ)
  /-- Before the kernel lock is given back. -/
  | marked (handle : Handle π τ)
  /-- Before the handle is closed. -/
  | unlocked (handle : Handle π τ)
  /-- In the outer `finally` of `release`. -/
  | finishing
deriving DecidableEq

/-- `FileLease`: the thread lock, `_local.depth` of each thread, `_handle` and the `lease_id`
    of `_owner_payload`; and for each thread the call it is in, and how often the lock file was
    opened.  The time-outs that `shared_file_lease` sets are no part of it: a wait may end at
    any time. -/
structure FileLease (π τ : Type) where
  threadLock : RLock τ := .free
  depth : τ → Nat := fun _ => 0
  handle : Option (Handle π τ) := none
  ownerPayload : Option Nat := none
  phase : τ → Phase π τ := fun _ => .idle
  opens : Nat := 0

/-- The operations of `acquire` and `release`. -/
inductive Act where
  /-- `acquire` is called; a negative time-out is a `ValueError`. -/
  | acquire (negative : Bool)
  /-- `_thread_lock.acquire` succeeds. -/
  | takeThreadLock
  /-- `_thread_lock.acquire` is not in time, or raises. -/
  | giveUp
  /-- The depth is looked at. -/
  | look
  /-- `mkdir` and `open`. -/
  | openFile (outcome : Outcome)
  /-- The first byte of the lock file. -/
  | prepare (outcome : Outcome)
  /-- `_try_lock`, which also fails where `flock` is an `OSError`. -/
  | tryLock (fails : Bool)
  /-- The loop ends in an exception: the `LockContendedError` of the deadline, or that of an
      operation. -/
  | stopPolling (raised : Raised)
  /-- The metadata is read and written. -/
  | record (leaseId : Nat) (outcome : Outcome)
  /-- The fields are set and `acquire` returns. -/
  | settle
  /-- The `except` clause, whose `handle.close()` may raise. -/
  | cleanUp (closing : Outcome)
  /-- `release` is called. -/
  | release
  /-- The release marker is written. -/
  | mark (outcome : Outcome)
  /-- `_unlock`. -/
  | unlock (outcome : Outcome)
  /-- `handle.close()` of `release`. -/
  | close
  /-- The outer `finally`. -/
  | finish
deriving DecidableEq

section

variable {π τ : Type} [DecidableEq π] [DecidableEq τ]

/-- A thread comes to another point of its call. -/
def FileLease.move (lease : FileLease π τ) (thread : τ) (phase : Phase π τ) : FileLease π τ :=
  { lease with phase := Function.update lease.phase thread phase }

/-- A depth of one thread. -/
def FileLease.setDepth (lease : FileLease π τ) (thread : τ) (depth : Nat) : FileLease π τ :=
  { lease with depth := Function.update lease.depth thread depth }

/-- The thread lock once less. -/
def FileLease.freeThread (lease : FileLease π τ) (thread : τ) : FileLease π τ :=
  { lease with threadLock := lease.threadLock.release thread }

/-- A lease and the lock file. -/
abbrev Site (π τ : Type) : Type := FileLease π τ × FileLock (Handle π τ)

/-- `acquire` up to the `try`. -/
def FileLease.enter (lease : FileLease π τ) (thread : τ) : Act → FileLease π τ
  | .acquire negative =>
    if lease.phase thread = .idle ∧ negative = false then lease.move thread .waiting else lease
  | .takeThreadLock =>
    match lease.phase thread, lease.threadLock.acquire? thread with
    | .waiting, some threadLock => { lease with threadLock }.move thread .entered
    | _, _ => lease
  | .giveUp => if lease.phase thread = .waiting then lease.move thread .idle else lease
  | .look =>
    if lease.phase thread = .entered then
      -- a nested acquire counts and returns the payload of the outermost one
      if lease.depth thread = 0 then lease.move thread .opening
      else (lease.setDepth thread (lease.depth thread + 1)).move thread .idle
    else lease
  | _ => lease

/-- The `try` of an outermost `acquire`. -/
def FileLease.establish (lease : FileLease π τ) (files : FileLock (Handle π τ)) (process : π)
    (thread : τ) : Act → Site π τ
  | .openFile outcome =>
    match lease.phase thread, outcome with
    | .opening, .done =>
      let handle := ⟨process, thread, lease.opens⟩
      ({ lease with opens := lease.opens + 1 }.move thread (.opened handle), files.openFile handle)
    | .opening, .raises raised => (lease.move thread (.failing none raised), files)
    | _, _ => (lease, files)
  | .prepare outcome =>
    match lease.phase thread, outcome with
    | .opened handle, .done => (lease.move thread (.polling handle), files)
    | .opened handle, .raises raised => (lease.move thread (.failing (some handle) raised), files)
    | _, _ => (lease, files)
  | .tryLock fails =>
    match lease.phase thread with
    | .polling handle =>
      let tried := if fails then files else files.tryLock handle
      if tried.holder = some handle then (lease.move thread (.locked handle), tried)
      else (lease, tried)
    | _ => (lease, files)
  | .stopPolling raised =>
    match lease.phase thread with
    | .polling handle => (lease.move thread (.failing (some handle) raised), files)
    | _ => (lease, files)
  | .record leaseId outcome =>
    match lease.phase thread, outcome with
    | .locked handle, .done => (lease.move thread (.recorded handle leaseId), files)
    | .locked handle, .raises raised => (lease.move thread (.failing (some handle) raised), files)
    | _, _ => (lease, files)
  | .settle =>
    match lease.phase thread with
    | .recorded handle leaseId =>
      let settled := { lease with handle := some handle, ownerPayload := some leaseId }
      ((settled.setDepth thread 1).move thread .idle, files)
    | _ => (lease, files)
  | _ => (lease, files)

/-- `handle.close()` where there is a handle. -/
def closeHandle (files : FileLock (Handle π τ)) : Option (Handle π τ) → FileLock (Handle π τ)
  | some handle => files.close handle
  | none => files

/-- The `except Exception` clause of `acquire`. -/
def FileLease.recoverFrom (lease : FileLease π τ) (files : FileLock (Handle π τ)) (thread : τ)
    (handle : Option (Handle π τ)) (raised : Raised) (closing : Outcome) : Site π τ :=
  -- what is no `Exception` passes the clause by
  if raised = .interrupt then (lease.move thread .idle, files)
  -- only an `OSError` of the close is dropped
  else if handle = none ∨ closing = .done ∨ closing = .raises .osError then
    ((lease.freeThread thread).move thread .idle, closeHandle files handle)
  else (lease.move thread .idle, closeHandle files handle)

/-- `release`. -/
def FileLease.leave (lease : FileLease π τ) (files : FileLock (Handle π τ)) (thread : τ) :
    Act → Site π τ
  | .release =>
    if lease.phase thread = .idle then
      match lease.depth thread with
      | 0 => (lease, files)
      | 1 =>
        match lease.handle with
        | some handle => (lease.move thread (.releasing handle), files)
        | none => (lease, files)
      | depth + 2 => ((lease.setDepth thread (depth + 1)).freeThread thread, files)
    else (lease, files)
  | .mark outcome =>
    match lease.phase thread with
    | .releasing handle =>
      -- only an `OSError` of the write is dropped; any other exception skips the unlock
      if outcome = .done ∨ outcome = .raises .osError then (lease.move thread (.marked handle), files)
      else (lease.move thread .finishing, files)
    | _ => (lease, files)
  | .unlock outcome =>
    match lease.phase thread with
    | .marked handle =>
      (lease.move thread (.unlocked handle), if outcome = .done then files.unlock handle else files)
    | _ => (lease, files)
  | .close =>
    match lease.phase thread with
    | .unlocked handle => (lease.move thread .finishing, files.close handle)
    | _ => (lease, files)
  | .finish =>
    if lease.phase thread = .finishing then
      let cleared := { lease with handle := none, ownerPayload := none }
      (((cleared.setDepth thread 0).freeThread thread).move thread .idle, files)
    else (lease, files)
  | _ => (lease, files)

/-- One operation of a thread; one that is not due changes nothing. -/
def FileLease.act (lease : FileLease π τ) (files : FileLock (Handle π τ)) (process : π)
    (thread : τ) (act : Act) : Site π τ :=
  match act with
  | .acquire _ | .takeThreadLock | .giveUp | .look => (lease.enter thread act, files)
  | .openFile _ | .prepare _ | .tryLock _ | .stopPolling _ | .record _ _ | .settle =>
    lease.establish files process thread act
  | .cleanUp closing =>
    match lease.phase thread with
    | .failing handle raised => lease.recoverFrom files thread handle raised closing
    | _ => (lease, files)
  | .release | .mark _ | .unlock _ | .close | .finish => lease.leave files thread act

/-! ## Processes -/

/-- The processes that use the lock path: the lease that each one's `_LEASES` has for it, and
    the lock file. -/
structure World (π τ : Type) where
  leases : π → Option (FileLease π τ) := fun _ => none
  files : FileLock (Handle π τ) := {}

/-- A step of a process. -/
inductive Event (π τ : Type) where
  /-- A thread of the process calls `shared_file_lease`. -/
  | share (process : π)
  /-- A thread goes on in a call, or begins one. -/
  | thread (process : π) (thread : τ) (act : Act)
  /-- The interpreter closes a handle that nothing refers to. -/
  | collect (handle : Handle π τ)
deriving DecidableEq

/-- The handle that a thread's call refers to. -/
def Phase.handle? : Phase π τ → Option (Handle π τ)
  | idle | waiting | entered | opening | finishing => none
  | opened handle | polling handle | locked handle | recorded handle _ => some handle
  | failing handle _ => handle
  | releasing handle | marked handle | unlocked handle => some handle

/-- The lease of its process, or the call of its thread, refers to the handle. -/
def FileLease.Refers (lease : FileLease π τ) (handle : Handle π τ) : Prop :=
  lease.handle = some handle ∨ (lease.phase handle.thread).handle? = some handle

instance (lease : FileLease π τ) (handle : Handle π τ) : Decidable (lease.Refers handle) :=
  inferInstanceAs (Decidable (_ ∨ _))

/-- The lease of one process and the lock file are set. -/
def World.put (world : World π τ) (process : π) (lease : FileLease π τ)
    (files : FileLock (Handle π τ)) : World π τ where
  leases := Function.update world.leases process (some lease)
  files := files

/-- One step of the processes. -/
def World.step (world : World π τ) : Event π τ → World π τ
  | .share process =>
    -- `_LEASES` keeps the lease it has
    world.put process ((world.leases process).getD {}) world.files
  | .thread process thread act =>
    match world.leases process with
    | some lease =>
      let site := lease.act world.files process thread act
      world.put process site.1 site.2
    | none => world
  | .collect handle =>
    match world.leases handle.process with
    | some lease =>
      if lease.Refers handle then world else { world with files := world.files.close handle }
    | none => world

/-- The state after a run. -/
def World.run (events : List (Event π τ)) : World π τ := events.foldl World.step {}

end

end LlmHarness.Coordination
