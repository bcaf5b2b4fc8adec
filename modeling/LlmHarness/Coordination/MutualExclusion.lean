/-
  LlmHarness.Coordination.MutualExclusion

  What the lease owes its users over every run of any number of threads and processes: one
  holder at a time, the kernel lock taken by the outermost `acquire` and given back by the
  matching `release`, and nothing left behind by a call that has ended.

  A `KeyboardInterrupt` in the `try` of `acquire` passes its `except Exception` by and leaves
  the thread lock taken; an exception that is no `OSError` in the write of a release marker
  skips the unlock.  Runs without such interruptions keep all of it.
-/

import LlmHarness.Coordination.LeaseInvariant

namespace LlmHarness.Coordination

variable {π τ : Type} [DecidableEq τ]

/-! ## What the lease owes -/

/-- The thread is past the point of an outermost `release` at which the lock is given back. -/
def Phase.HasDropped : Phase π τ → Prop
  | .unlocked _ | .finishing => True
  | _ => False

/-- The thread holds the lease: an outermost `acquire` of it has returned, and the matching
    `release` has not given the lock back. -/
def World.Holds (world : World π τ) (process : π) (thread : τ) : Prop :=
  ∃ lease, world.leases process = some lease ∧ lease.depth thread ≠ 0 ∧
    ¬ (lease.phase thread).HasDropped

/-- No thread is in a call or holds the lease. -/
def World.Quiet (world : World π τ) : Prop :=
  ∀ process lease thread, world.leases process = some lease →
    lease.phase thread = .idle ∧ lease.depth thread = 0

/-- An `acquire` of one thread in which nothing fails. -/
def acquireAlone (process : π) (thread : τ) (leaseId : Nat) : List (Event π τ) :=
  .share process :: ([.acquire false, .takeThreadLock, .look, .openFile .done, .prepare .done,
    .tryLock false, .record leaseId .done, .settle] : List Act).map (.thread process thread)

section

variable [DecidableEq π]

/-- What a state owes. -/
structure World.Lawful (world : World π τ) : Prop where
  /-- At most one thread holds the lease. -/
  exclusive : ∀ process thread process' thread', world.Holds process thread →
    world.Holds process' thread' → process = process' ∧ thread = thread'
  /-- The holder has the kernel lock, with the handle that it opened itself. -/
  kernel : ∀ process thread, world.Holds process thread →
    ∃ lease handle, world.leases process = some lease ∧ lease.handle = some handle ∧
      handle.Of process thread ∧ world.files.holder = some handle
  /-- A thread that is in no call has the thread lock as often as its depth says; at depth zero
      it has no handle open, nor the kernel lock, nor `_handle`. -/
  clean : ∀ process lease thread, world.leases process = some lease → lease.phase thread = .idle →
    lease.threadLock.count thread = lease.depth thread ∧
      (lease.depth thread = 0 → ∀ handle : Handle π τ, handle.Of process thread →
        handle ∉ world.files.opened ∧ world.files.holder ≠ some handle ∧
          lease.handle ≠ some handle)
  /-- Nothing that ended calls left behind blocks a later `acquire`. -/
  reacquire : world.Quiet → ∀ process thread leaseId,
    ((acquireAlone process thread leaseId).foldl World.step world).Holds process thread

/-- What a step owes: the kernel lock is taken in an outermost `acquire`, and given back in the
    outermost `release` of the thread that has it, or when its `acquire` fails; and a thread
    that comes out of either is at depth zero. -/
structure World.KernelStep (world : World π τ) (event : Event π τ) : Prop where
  taken : ∀ handle, (world.step event).files.holder = some handle →
    world.files.holder ≠ some handle →
    world.files.holder = none ∧ ∃ lease, world.leases handle.process = some lease ∧
      lease.depth handle.thread = 0 ∧ lease.phase handle.thread = .polling handle ∧
      event = .thread handle.process handle.thread (.tryLock false)
  dropped : ∀ handle, world.files.holder = some handle →
    (world.step event).files.holder ≠ some handle →
    (world.step event).files.holder = none ∧ ∃ lease act, world.leases handle.process = some lease ∧
      event = .thread handle.process handle.thread act ∧
      (lease.depth handle.thread = 1 ∧ lease.handle = some handle ∧
          (act = .unlock .done ∨ act = .close) ∨
        lease.depth handle.thread = 0 ∧ ∃ raised closing, act = .cleanUp closing ∧
          lease.phase handle.thread = .failing (some handle) raised)
  ended : ∀ process thread act lease lease', event = .thread process thread act →
    world.leases process = some lease → (world.step event).leases process = some lease' →
    (lease.phase thread = .finishing ∨ ∃ handle raised, lease.phase thread = .failing handle raised) →
    lease'.phase thread = .idle → lease'.depth thread = 0

/-- The lease excludes: every state of every run and every step from it is as it should be. -/
def LeaseExcludes (π τ : Type) [DecidableEq π] [DecidableEq τ] : Prop :=
  ∀ events : List (Event π τ),
    (World.run events).Lawful ∧ ∀ event, (World.run events).KernelStep event

end

/-! ## The invariant of all threads -/

/-- What the invariants of the threads come to. -/
structure World.Sound (world : World π τ) : Prop where
  seat : ∀ process lease thread, world.leases process = some lease →
    Seat lease world.files process thread
  handle : ∀ process lease, world.leases process = some lease →
    ∀ handle, lease.handle = some handle →
      handle.process = process ∧ lease.depth handle.thread ≠ 0
  opened : ∀ handle ∈ world.files.opened, ∃ lease, world.leases handle.process = some lease

/-- An event that is not interrupted. -/
def Event.Uninterrupted : Event π τ → Prop
  | .thread _ _ act => act.Uninterrupted
  | .share _ | .collect _ => True

theorem sound_start : ({} : World π τ).Sound where
  seat _ _ _ h := by cases h
  handle _ _ h := by cases h
  opened _ h := by cases h

section

variable {world : World π τ}

/-- A lease that was just made. -/
theorem seat_fresh (hsound : world.Sound) {process : π} (hnone : world.leases process = none)
    (thread : τ) : Seat ({} : FileLease π τ) world.files process thread := by
  refine ⟨rfl, fun _ handle hopened hof => ?_, fun hdepth => absurd rfl hdepth⟩
  obtain ⟨lease, hlease⟩ := hsound.opened handle hopened
  rw [hof.1, hnone] at hlease
  cases hlease

/-- An open handle is referred to. -/
theorem refers_of_opened (hsound : world.Sound) {handle : Handle π τ}
    (hopened : handle ∈ world.files.opened) {lease : FileLease π τ}
    (hlease : world.leases handle.process = some lease) : lease.Refers handle := by
  have hseat := hsound.seat handle.process lease handle.thread hlease
  have hof : handle.Of handle.process handle.thread := ⟨rfl, rfl⟩
  -- outside the two calls the lease keeps the one handle that is open
  have hresting : ∀ extra, Resting lease world.files handle.process handle.thread extra →
      lease.Refers handle := by
    intro extra h
    by_cases hdepth : lease.depth handle.thread = 0
    · exact absurd hof (h.clean hdepth handle hopened)
    · obtain ⟨mine, -, hhandle, -, -, honly⟩ := h.held hdepth
      exact .inl (by rw [honly handle hopened hof, hhandle])
  -- what holds at the thread's point says which handle it is
  rw [Seat] at hseat
  cases hphase : lease.phase handle.thread with
  | idle | waiting | entered =>
      rw [hphase] at hseat
      exact hresting _ hseat
  | opening =>
      rw [hphase] at hseat
      cases Acquiring.only hseat handle hopened hof
  | finishing =>
      rw [hphase] at hseat
      cases Releasing.only hseat handle hopened hof
  | opened mine | polling mine =>
      rw [hphase] at hseat
      exact .inr (by rw [hphase, ← Acquiring.only hseat handle hopened hof]; rfl)
  | locked mine | recorded mine leaseId =>
      rw [hphase] at hseat
      exact .inr (by rw [hphase, ← hseat.1.only handle hopened hof]; rfl)
  | failing mine raised =>
      rw [hphase] at hseat
      exact .inr (by rw [hphase, ← hseat.1.only handle hopened hof]; rfl)
  | releasing mine | marked mine =>
      rw [hphase] at hseat
      exact .inr (by rw [hphase, ← hseat.1.only handle hopened hof]; rfl)
  | unlocked mine =>
      rw [hphase] at hseat
      exact .inr (by rw [hphase, ← Releasing.only hseat handle hopened hof]; rfl)

/-- The handle of the holder. -/
theorem World.Sound.kernel (hsound : world.Sound) {process : π} {thread : τ}
    (hholds : world.Holds process thread) :
    ∃ lease handle, world.leases process = some lease ∧ lease.handle = some handle ∧
      handle.Of process thread ∧ world.files.holder = some handle := by
  obtain ⟨lease, hlease, hdepth, hkept⟩ := hholds
  have hseat := hsound.seat process lease thread hlease
  -- outside the two calls the thread has the kernel lock as the lease says
  have hresting : ∀ extra, Resting lease world.files process thread extra →
      ∃ lease handle, world.leases process = some lease ∧ lease.handle = some handle ∧
        handle.Of process thread ∧ world.files.holder = some handle := by
    intro extra h
    obtain ⟨handle, hof, hhandle, -, hholder, -⟩ := h.held hdepth
    exact ⟨lease, handle, hlease, hhandle, hof, hholder⟩
  rw [Seat] at hseat
  cases hphase : lease.phase thread with
  | idle | waiting | entered =>
      rw [hphase] at hseat
      exact hresting _ hseat
  -- inside the `try` the depth is still zero
  | opening | opened | polling =>
      rw [hphase] at hseat
      exact absurd (Acquiring.depth hseat) hdepth
  | locked | recorded | failing =>
      rw [hphase] at hseat
      exact absurd hseat.1.depth hdepth
  | releasing handle | marked handle =>
      rw [hphase] at hseat
      obtain ⟨hof, hhandle⟩ := hseat.1.own handle rfl
      exact ⟨lease, handle, hlease, hhandle, hof, hseat.2⟩
  | unlocked | finishing =>
      rw [hphase] at hkept
      exact absurd trivial hkept

theorem World.Sound.clean (hsound : world.Sound) {process : π} {lease : FileLease π τ} {thread : τ}
    (hlease : world.leases process = some lease) (hidle : lease.phase thread = .idle) :
    lease.threadLock.count thread = lease.depth thread ∧
      (lease.depth thread = 0 → ∀ handle : Handle π τ, handle.Of process thread →
        handle ∉ world.files.opened ∧ world.files.holder ≠ some handle ∧
          lease.handle ≠ some handle) := by
  have hseat := hsound.seat process lease thread hlease
  rw [Seat, hidle] at hseat
  refine ⟨Resting.taken hseat, fun hdepth handle hof => ?_⟩
  have hclosed : handle ∉ world.files.opened :=
    fun hopened => Resting.clean hseat hdepth handle hopened hof
  refine ⟨hclosed, fun hholder => ?_, fun hhandle => ?_⟩
  · exact hclosed (world.files.opened_of_holder handle hholder)
  · have hpos := (hsound.handle process lease hlease handle hhandle).2
    rw [hof.2] at hpos
    exact hpos hdepth

variable [DecidableEq π]

theorem sound_share (hsound : world.Sound) (process : π) : (world.step (.share process)).Sound := by
  -- a process that has a lease keeps it, another one begins with an empty one
  cases hlease : world.leases process with
  | some lease =>
      have hsame : world.step (.share process) = world := by
        have hupdate : Function.update world.leases process (some lease) = world.leases := by
          rw [← hlease]
          exact Function.update_eq_self ..
        rw [World.step, hlease, Option.getD_some, World.put, hupdate]
      rw [hsame]
      exact hsound
  | none =>
      have hstep : world.step (.share process) = world.put process {} world.files := by
        rw [World.step, hlease, Option.getD_none]
      have hat : ∀ process' lease', (world.put process {} world.files).leases process' = some lease' →
          process' = process ∧ lease' = {} ∨ world.leases process' = some lease' := by
        intro process' lease' h
        by_cases hne : process' = process
        · rw [hne, World.leases_put] at h
          exact .inl ⟨hne, (Option.some.inj h).symm⟩
        · rw [World.leases_put_of_ne _ _ hne] at h
          exact .inr h
      rw [hstep]
      refine ⟨fun process' lease' thread h => ?_, fun process' lease' h => ?_, fun handle h => ?_⟩
      · rcases hat process' lease' h with ⟨rfl, rfl⟩ | hold
        · exact seat_fresh hsound hlease thread
        · exact hsound.seat process' lease' thread hold
      · rcases hat process' lease' h with ⟨rfl, rfl⟩ | hold
        · intro handle hheld
          cases hheld
        · exact hsound.handle process' lease' hold
      · obtain ⟨lease, hold⟩ := hsound.opened handle h
        have hne : handle.process ≠ process := by
          intro heq
          rw [heq, hlease] at hold
          cases hold
        exact ⟨lease, by rw [World.leases_put_of_ne _ _ hne, hold]⟩

/-- The step of a thread whose process has a lease. -/
theorem step_thread {process : π} {lease : FileLease π τ} (hlease : world.leases process = some lease)
    (thread : τ) (act : Act) :
    world.step (.thread process thread act) =
      world.put process (lease.act world.files process thread act).1
        (lease.act world.files process thread act).2 := by
  rw [World.step, hlease]

theorem step_thread_none {process : π} (hlease : world.leases process = none) (thread : τ)
    (act : Act) : world.step (.thread process thread act) = world := by
  rw [World.step, hlease]

theorem sound_thread (hsound : world.Sound) (process : π) (thread : τ) {act : Act}
    (hact : act.Uninterrupted) : (world.step (.thread process thread act)).Sound := by
  cases hlease : world.leases process with
  | none =>
      rw [step_thread_none hlease]
      exact hsound
  | some lease =>
      have hseat := hsound.seat process lease thread hlease
      have hmoves := moves_act process thread lease world.files act
      rw [step_thread hlease]
      refine ⟨fun process' lease' thread' h => ?_, fun process' lease' h => ?_, fun handle h => ?_⟩
      · by_cases hne : process' = process
        -- this process's lease is the new one, any other is as it was
        · rw [hne, World.leases_put] at h
          cases h
          rw [hne]
          by_cases hthread : thread' = thread
          · rw [hthread]
            exact hmoves.seat hseat hact
          · exact (hsound.seat _ _ thread' hlease).untouched (hmoves.untouched hseat hthread)
        · rw [World.leases_put_of_ne _ _ hne] at h
          exact (hsound.seat process' lease' thread' h).untouched
            (hmoves.untouched_elsewhere hseat hne thread' lease')
      · by_cases hne : process' = process
        · rw [hne, World.leases_put] at h
          cases h
          rw [hne]
          exact hmoves.handle_held hseat (hsound.handle _ _ hlease)
        · rw [World.leases_put_of_ne _ _ hne] at h
          exact hsound.handle process' lease' h
      -- a handle belongs to a process with a lease, also the one opened just now
      · by_cases hne : handle.process = process
        · rw [hne]
          exact ⟨_, World.leases_put ..⟩
        · have hother : ¬ handle.Of process thread := fun hof => hne hof.1
          have hbefore := (hmoves.files_untouched hseat hother).2.mp h
          obtain ⟨lease', hlease'⟩ := hsound.opened handle hbefore
          exact ⟨lease', by rw [World.leases_put_of_ne _ _ hne, hlease']⟩

/-- There is nothing to collect. -/
theorem step_collect (hsound : world.Sound) (handle : Handle π τ) :
    world.step (.collect handle) = world := by
  rw [World.step]
  cases hlease : world.leases handle.process with
  | none => rfl
  | some lease =>
      show (if lease.Refers handle then world
        else { world with files := world.files.close handle }) = world
      by_cases hrefers : lease.Refers handle
      · rw [if_pos hrefers]
      · have hclosed : handle ∉ world.files.opened :=
          fun hopened => hrefers (refers_of_opened hsound hopened hlease)
        rw [if_neg hrefers, world.files.close_of_not_opened hclosed]

/-- **Invariant.**  Every run without interruptions keeps what holds of its threads. -/
theorem sound_run {events : List (Event π τ)}
    (h : Run.Each World.step (fun _ event => event.Uninterrupted) {} events) :
    (World.run events).Sound := by
  refine h.invariant sound_start fun world event hsound hevent => ?_
  cases event with
  | share process => exact sound_share hsound process
  | thread process thread act => exact sound_thread hsound process thread hevent
  | collect handle =>
      rw [step_collect hsound handle]
      exact hsound

/-! ## The law -/

/-- The operations of one thread, on its lease alone. -/
theorem foldl_thread (process : π) (thread : τ) (lease : FileLease π τ)
    (files : FileLock (Handle π τ)) (acts : List Act) :
    (acts.map (Event.thread process thread)).foldl World.step (world.put process lease files) =
      world.put process
        (acts.foldl (fun site act => site.1.act site.2 process thread act) (lease, files)).1
        (acts.foldl (fun site act => site.1.act site.2 process thread act) (lease, files)).2 := by
  induction acts generalizing lease files with
  | nil => rfl
  | cons act acts ih =>
      rw [List.map_cons, List.foldl_cons, step_thread (World.leases_put ..), World.put_put]
      exact ih _ _

/-- Where nobody has a lock, an `acquire` goes through. -/
theorem holds_acquireAlone {process : π} {thread : τ} (leaseId : Nat) {lease : FileLease π τ}
    (hlease : (world.leases process).getD {} = lease) (hphase : lease.phase thread = .idle)
    (hdepth : lease.depth thread = 0) (hfree : lease.threadLock = .free)
    (hholder : world.files.holder = none) :
    ((acquireAlone process thread leaseId).foldl World.step world).Holds process thread := by
  have hshare : world.step (.share process) = world.put process lease world.files := by
    rw [World.step, hlease]
  rw [acquireAlone, List.foldl_cons, hshare, foldl_thread]
  have hlocks : ∀ handle : Handle π τ,
      ((world.files.openFile handle).tryLock handle).holder = some handle := fun handle =>
    FileLock.holder_tryLock_of_none _ hholder List.mem_cons_self
  simp [FileLease.act, FileLease.enter, FileLease.establish, hphase, hdepth, hfree, hlocks,
    RLock.acquire?, World.Holds]
  exact not_false

/-- A state in which the threads are as they should be owes nothing more. -/
theorem World.Sound.lawful (hsound : world.Sound) : world.Lawful where
  exclusive process thread process' thread' hholds hholds' := by
    obtain ⟨lease, handle, -, -, hof, hholder⟩ := hsound.kernel hholds
    obtain ⟨lease', handle', -, -, hof', hholder'⟩ := hsound.kernel hholds'
    have hsame : handle = handle' := Option.some.inj (hholder.symm.trans hholder')
    subst hsame
    exact ⟨hof.1.symm.trans hof'.1, hof.2.symm.trans hof'.2⟩
  kernel process thread hholds := hsound.kernel hholds
  clean process lease thread hlease hidle := hsound.clean hlease hidle
  -- nobody holds anything: no handle is open, so the lock of the file is free
  reacquire hquiet process thread leaseId := by
    have hholder : world.files.holder = none := by
      by_contra hsome
      obtain ⟨handle, hhandle⟩ := Option.ne_none_iff_exists'.mp hsome
      obtain ⟨lease, hlease⟩ := hsound.opened handle (world.files.opened_of_holder handle hhandle)
      obtain ⟨hidle, hdepth⟩ := hquiet handle.process lease handle.thread hlease
      exact ((hsound.clean hlease hidle).2 hdepth handle ⟨rfl, rfl⟩).2.1 hhandle
    cases hlease : world.leases process with
    | none => exact holds_acquireAlone leaseId (by rw [hlease, Option.getD_none]) rfl rfl rfl hholder
    | some lease =>
        obtain ⟨hidle, hdepth⟩ := hquiet process lease thread hlease
        have hfree : lease.threadLock = .free := by
          refine RLock.eq_free fun other => ?_
          obtain ⟨hotherIdle, hotherDepth⟩ := hquiet process lease other hlease
          rw [(hsound.clean hlease hotherIdle).1, hotherDepth]
        exact holds_acquireAlone leaseId (by rw [hlease, Option.getD_some]) hidle hdepth hfree hholder

/-- ... and what a step does to the kernel lock is as it should be. -/
theorem World.Sound.kernelStep (hsound : world.Sound) (event : Event π τ) :
    world.KernelStep event := by
  -- only an operation of a thread moves the kernel lock
  cases event with
  | share process =>
      refine ⟨fun handle h hnot => absurd h hnot, fun handle h hnot => absurd h hnot, ?_⟩
      exact fun _ _ _ _ _ hevent => by cases hevent
  | collect handle =>
      have hsame := step_collect hsound handle
      refine ⟨fun other h hnot => ?_, fun other h hnot => ?_,
        fun _ _ _ _ _ hevent => by cases hevent⟩
      · rw [hsame] at h
        exact absurd h hnot
      · rw [hsame] at hnot
        exact absurd h hnot
  | thread process thread act =>
      cases hlease : world.leases process with
      | none =>
          have hsame := step_thread_none hlease thread act
          refine ⟨fun other h hnot => ?_, fun other h hnot => ?_, ?_⟩
          · rw [hsame] at h
            exact absurd h hnot
          · rw [hsame] at hnot
            exact absurd h hnot
          · rintro process' thread' act' lease lease' ⟨⟩ hsome
            rw [hlease] at hsome
            cases hsome
      | some lease =>
          have hseat := hsound.seat process lease thread hlease
          have hmoves := moves_act process thread lease world.files act
          have hstep : (world.step (.thread process thread act)).files =
              (lease.act world.files process thread act).2 := by
            rw [step_thread hlease, World.files_put]
          refine ⟨fun handle hafter hbefore => ?_, fun handle hbefore hafter => ?_, ?_⟩
          · rw [hstep] at hafter
            -- it is taken by the thread's own handle, at the point where it locks
            obtain ⟨hnone, hphase, rfl⟩ := hmoves.taken hafter hbefore
            obtain ⟨rfl, rfl⟩ := hseat.of_handle? handle (by rw [hphase]; rfl)
            rw [Seat, hphase] at hseat
            exact ⟨hnone, lease, hlease, Acquiring.depth hseat, hphase, rfl⟩
          · rw [hstep] at hafter ⊢
            -- ... and dropped in the release, in the closing or after a failure
            obtain ⟨hnone, hcases⟩ := hmoves.dropped hbefore hafter
            have hmine : (lease.phase thread).handle? = some handle := by
              rcases hcases with ⟨hphase, -⟩ | ⟨hphase, -⟩ | ⟨raised, closing, hphase, -⟩ <;>
                rw [hphase] <;> rfl
            obtain ⟨rfl, rfl⟩ := hseat.of_handle? handle hmine
            refine ⟨hnone, lease, act, hlease, rfl, ?_⟩
            rw [Seat] at hseat
            rcases hcases with ⟨hphase, rfl⟩ | ⟨hphase, rfl⟩ | ⟨raised, closing, hphase, rfl⟩
            · rw [hphase] at hseat
              exact .inl ⟨hseat.1.depth, (hseat.1.own handle rfl).2, .inl rfl⟩
            · rw [hphase] at hseat
              exact .inl ⟨Releasing.depth hseat, (Releasing.own hseat handle rfl).2, .inr rfl⟩
            · rw [hphase] at hseat
              exact .inr ⟨hseat.1.depth, raised, closing, rfl, hphase⟩
          · rintro process' thread' act' before after ⟨⟩ hbefore hafter hending hidle
            rw [hlease] at hbefore
            cases hbefore
            rw [step_thread hlease, World.leases_put] at hafter
            cases hafter
            exact hmoves.ended hseat hending hidle

/-- **Mutual exclusion.**  Every run without interruptions leads to a state that is as it should
    be, and so does every step from there to the kernel lock. -/
theorem leaseExcludes_of_uninterrupted (events : List (Event π τ))
    (h : Run.Each World.step (fun _ event => event.Uninterrupted) {} events) :
    (World.run events).Lawful ∧ ∀ event, (World.run events).KernelStep event :=
  ⟨(sound_run h).lawful, (sound_run h).kernelStep⟩

end

/-! ## Two processes -/

/-- The steps of a thread of a process. -/
def threadSteps (process thread : Bool) (acts : List Act) : List (Event Bool Bool) :=
  .share process :: acts.map (.thread process thread)

/-- An `acquire` in which nothing fails. -/
def acquireSteps : List Act :=
  [.acquire false, .takeThreadLock, .look, .openFile .done, .prepare .done, .tryLock false,
    .record 1 .done, .settle]

/-- A process holds the lease while a thread of another one tries the kernel lock, until `stop`
    ends its loop; then the holder enters and leaves a nested hold, and releases the lease
    though the write of the marker is an `OSError`. -/
def contendedEvents (stop : Raised) : List (Event Bool Bool) :=
  threadSteps true true acquireSteps ++
  threadSteps false false [.acquire false, .takeThreadLock, .look, .openFile .done, .prepare .done,
    .tryLock false, .stopPolling stop, .cleanUp .done] ++
  threadSteps true true [.acquire false, .takeThreadLock, .look, .release, .release,
    .mark (.raises .osError), .unlock .done, .close, .finish]

/-- A hold whose release marker cannot be written as JSON. -/
def unmarkedEvents : List (Event Bool Bool) :=
  threadSteps true true (acquireSteps ++ [.release, .mark (.raises .exception), .finish])

theorem leaseExcludes_contended :
    (World.run (contendedEvents .exception)).Lawful ∧
      ∀ event, (World.run (contendedEvents .exception)).KernelStep event :=
  leaseExcludes_of_uninterrupted (contendedEvents .exception)
    (by simp [contendedEvents, threadSteps, acquireSteps, Run.Each, Event.Uninterrupted,
      Act.Uninterrupted])

/-- Ctrl-C in the polling loop leaves the thread lock taken, and a marker that cannot be written
    leaves the kernel lock with the handle. -/
theorem not_leaseExcludes_interrupted :
    (¬ (World.run (contendedEvents .interrupt)).Lawful ∧ ¬ (World.run unmarkedEvents).Lawful) ∧
      ¬ LeaseExcludes Bool Bool := by
  -- the interrupted thread is at rest, and has its thread lock once
  have hthread : ¬ (World.run (contendedEvents .interrupt)).Lawful := by
    intro hlawful
    have hleft : ((World.run (contendedEvents .interrupt)).leases false).map (fun lease =>
        (lease.phase false, lease.depth false, lease.threadLock.count false)) =
        some (.idle, 0, 1) := by decide
    obtain ⟨lease, hlease, hat⟩ := Option.map_eq_some_iff.mp hleft
    simp only [Prod.mk.injEq] at hat
    obtain ⟨hphase, hdepth, hcount⟩ := hat
    have hsame := (hlawful.clean false lease false hlease hphase).1
    rw [hdepth, hcount] at hsame
    exact Nat.one_ne_zero hsame
  -- at rest with depth zero, its handle still has the kernel lock
  have hkernel : ¬ (World.run unmarkedEvents).Lawful := by
    intro hlawful
    have hleft : ((World.run unmarkedEvents).leases true).map (fun lease =>
        (lease.phase true, lease.depth true)) = some (.idle, 0) := by decide
    have hholder : (World.run unmarkedEvents).files.holder = some ⟨true, true, 0⟩ := by decide
    obtain ⟨lease, hlease, hat⟩ := Option.map_eq_some_iff.mp hleft
    simp only [Prod.mk.injEq] at hat
    obtain ⟨hphase, hdepth⟩ := hat
    exact ((hlawful.clean true lease true hlease hphase).2 hdepth _ ⟨rfl, rfl⟩).2.1 hholder
  exact ⟨⟨hthread, hkernel⟩, fun hall => hthread (hall (contendedEvents .interrupt)).1⟩

end LlmHarness.Coordination
