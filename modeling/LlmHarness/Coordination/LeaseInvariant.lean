/-
  LlmHarness.Coordination.LeaseInvariant

  What each thread's call keeps, at every point of it: how often the thread has the thread
  lock, which of its handles are open, and when one of them has the kernel lock.  An operation
  keeps this for its own thread unless it is interrupted, and it leaves every other thread's
  share alone.
-/

import LlmHarness.Coordination.LeaseSteps

namespace LlmHarness.Coordination

variable {π τ : Type}

/-- The thread of the process opened the handle. -/
def Handle.Of (handle : Handle π τ) (process : π) (thread : τ) : Prop :=
  handle.process = process ∧ handle.thread = thread

variable [DecidableEq τ]

section

variable (lease : FileLease π τ) (files : FileLock (Handle π τ)) (process : π) (thread : τ)

/-- A thread outside the outermost `acquire` and `release`: it has the thread lock as often as
    its depth says, and `extra` times more; at depth zero none of its handles is open, and above
    it the one that is has the kernel lock. -/
structure Resting (extra : Nat) : Prop where
  taken : lease.threadLock.count thread = lease.depth thread + extra
  clean : lease.depth thread = 0 → ∀ handle ∈ files.opened, ¬ handle.Of process thread
  held : lease.depth thread ≠ 0 → ∃ handle : Handle π τ, handle.Of process thread ∧
    lease.handle = some handle ∧ lease.ownerPayload ≠ none ∧ files.holder = some handle ∧
    ∀ other ∈ files.opened, other.Of process thread → other = handle

/-- A thread in the `try` of an outermost `acquire`, and the handle it has open. -/
structure Acquiring (handle : Option (Handle π τ)) : Prop where
  taken : lease.threadLock.count thread = 1
  depth : lease.depth thread = 0
  own : ∀ mine, handle = some mine → mine.Of process thread ∧ mine ∈ files.opened
  only : ∀ other ∈ files.opened, other.Of process thread → handle = some other

/-- A thread in an outermost `release`, and the handle it has open. -/
structure Releasing (handle : Option (Handle π τ)) : Prop where
  taken : lease.threadLock.count thread = 1
  depth : lease.depth thread = 1
  own : ∀ mine, handle = some mine → mine.Of process thread ∧ lease.handle = some mine
  only : ∀ other ∈ files.opened, other.Of process thread → handle = some other

/-- What holds of a thread at a point of its call. -/
def SeatAt : Phase π τ → Prop
  | .idle | .waiting => Resting lease files process thread 0
  | .entered => Resting lease files process thread 1
  | .opening => Acquiring lease files process thread none
  | .opened handle | .polling handle => Acquiring lease files process thread (some handle)
  | .locked handle | .recorded handle _ =>
    Acquiring lease files process thread (some handle) ∧ files.holder = some handle
  | .failing handle raised => Acquiring lease files process thread handle ∧ raised ≠ .interrupt
  | .releasing handle | .marked handle =>
    Releasing lease files process thread (some handle) ∧ files.holder = some handle
  | .unlocked handle => Releasing lease files process thread (some handle)
  | .finishing => Releasing lease files process thread none

/-- What holds of a thread. -/
def Seat : Prop := SeatAt lease files process thread (lease.phase thread)

end

/-! ## What an operation leaves alone -/

/-- The share of a thread in a lease and in the lock file is the same before and after. -/
structure Untouched (process : π) (thread : τ) (lease lease' : FileLease π τ)
    (files files' : FileLock (Handle π τ)) : Prop where
  taken : lease'.threadLock.count thread = lease.threadLock.count thread
  depth : lease'.depth thread = lease.depth thread
  phase : lease'.phase thread = lease.phase thread
  shared : lease.threadLock.count thread ≠ 0 →
    lease'.handle = lease.handle ∧ lease'.ownerPayload = lease.ownerPayload
  holder : ∀ handle, handle.Of process thread → files.holder = some handle →
    files'.holder = some handle
  opened : ∀ handle, handle.Of process thread →
    (handle ∈ files'.opened ↔ handle ∈ files.opened)

section

variable {process : π} {thread : τ} {lease lease' : FileLease π τ}
  {files files' : FileLock (Handle π τ)} {handle : Option (Handle π τ)}

theorem Seat.of_phase {phase : Phase π τ} (hseat : Seat lease files process thread)
    (h : lease.phase thread = phase) : SeatAt lease files process thread phase := by
  rw [← h]
  exact hseat

theorem Resting.untouched {extra : Nat} (h : Resting lease files process thread extra)
    (hsame : Untouched process thread lease lease' files files') :
    Resting lease' files' process thread extra where
  taken := by rw [hsame.taken, hsame.depth, h.taken]
  clean hdepth other hother hof := by
    rw [hsame.depth] at hdepth
    exact h.clean hdepth other ((hsame.opened other hof).mp hother) hof
  held hdepth := by
    rw [hsame.depth] at hdepth
    obtain ⟨mine, hof, hhandle, hpayload, hholder, honly⟩ := h.held hdepth
    have hcount : lease.threadLock.count thread ≠ 0 := by
      rw [h.taken]
      omega
    obtain ⟨hsameHandle, hsamePayload⟩ := hsame.shared hcount
    refine ⟨mine, hof, by rw [hsameHandle, hhandle], by rwa [hsamePayload],
      hsame.holder mine hof hholder, fun other hother hmine => ?_⟩
    exact honly other ((hsame.opened other hmine).mp hother) hmine

theorem Acquiring.untouched (h : Acquiring lease files process thread handle)
    (hsame : Untouched process thread lease lease' files files') :
    Acquiring lease' files' process thread handle where
  taken := by rw [hsame.taken, h.taken]
  depth := by rw [hsame.depth, h.depth]
  own mine hmine := by
    obtain ⟨hof, hopened⟩ := h.own mine hmine
    exact ⟨hof, (hsame.opened mine hof).mpr hopened⟩
  only other hother hof := h.only other ((hsame.opened other hof).mp hother) hof

theorem Releasing.untouched (h : Releasing lease files process thread handle)
    (hsame : Untouched process thread lease lease' files files') :
    Releasing lease' files' process thread handle where
  taken := by rw [hsame.taken, h.taken]
  depth := by rw [hsame.depth, h.depth]
  own mine hmine := by
    obtain ⟨hof, hhandle⟩ := h.own mine hmine
    have hcount : lease.threadLock.count thread ≠ 0 := by rw [h.taken]; exact Nat.one_ne_zero
    exact ⟨hof, by rw [(hsame.shared hcount).1, hhandle]⟩
  only other hother hof := h.only other ((hsame.opened other hof).mp hother) hof

theorem Seat.untouched (h : Seat lease files process thread)
    (hsame : Untouched process thread lease lease' files files') :
    Seat lease' files' process thread := by
  rw [Seat, hsame.phase]
  cases hphase : lease.phase thread with
  | idle | waiting | entered => exact Resting.untouched (h.of_phase hphase) hsame
  | opening | opened | polling => exact Acquiring.untouched (h.of_phase hphase) hsame
  | locked mine | recorded mine leaseId =>
      obtain ⟨hacquiring, hholder⟩ := h.of_phase hphase
      exact ⟨hacquiring.untouched hsame, hsame.holder mine (hacquiring.own mine rfl).1 hholder⟩
  | failing =>
      obtain ⟨hacquiring, hraised⟩ := h.of_phase hphase
      exact ⟨hacquiring.untouched hsame, hraised⟩
  | releasing mine | marked mine =>
      obtain ⟨hreleasing, hholder⟩ := h.of_phase hphase
      exact ⟨hreleasing.untouched hsame, hsame.holder mine (hreleasing.own mine rfl).1 hholder⟩
  | unlocked | finishing => exact Releasing.untouched (h.of_phase hphase) hsame

end

/-! ## Another thread's operation -/

section

variable {process : π} {thread : τ} {lease lease' : FileLease π τ}
  {files files' : FileLock (Handle π τ)} {act : Act}

/-- A handle that a thread's phase has is the thread's own. -/
theorem Seat.of_handle? (h : Seat lease files process thread) (handle : Handle π τ)
    (hhandle : (lease.phase thread).handle? = some handle) : handle.Of process thread := by
  cases hphase : lease.phase thread with
  | idle | waiting | entered | opening | finishing =>
      rw [hphase] at hhandle
      cases hhandle
  | opened mine | polling mine =>
      rw [hphase] at hhandle
      exact (Acquiring.own (h.of_phase hphase) handle hhandle).1
  | locked mine | recorded mine leaseId | failing mine raised =>
      rw [hphase] at hhandle
      exact ((h.of_phase hphase).1.own handle hhandle).1
  | releasing mine | marked mine =>
      rw [hphase] at hhandle
      exact ((h.of_phase hphase).1.own handle hhandle).1
  | unlocked mine =>
      rw [hphase] at hhandle
      exact (Releasing.own (h.of_phase hphase) handle hhandle).1

variable [DecidableEq π]

/-- The lock file after an operation, for a handle of another thread. -/
theorem Moves.files_untouched (hmoves : Moves process thread lease files act lease' files')
    (hseat : Seat lease files process thread) {handle : Handle π τ}
    (hother : ¬ handle.Of process thread) :
    (files.holder = some handle → files'.holder = some handle) ∧
      (handle ∈ files'.opened ↔ handle ∈ files.opened) := by
  have hne : ∀ mine, (lease.phase thread).handle? = some mine → handle ≠ mine := by
    rintro mine hmine rfl
    exact hother (hseat.of_handle? _ hmine)
  -- Every operation works on the handle of its own thread.
  cases hmoves with
  | opens h =>
      refine ⟨id, ?_⟩
      rw [FileLock.opened_openFile, List.mem_cons]
      refine or_iff_right fun heq => hother ?_
      rw [heq]
      exact ⟨rfl, rfl⟩
  | locks mine h hlocked | locksNot mine h hnot =>
      refine ⟨fun hholder => files.holder_tryLock_of_some hholder, ?_⟩
      rw [FileLock.opened_tryLock]
  | cleans mine raised closing h hraised | cleansNot mine raised closing h hclosing =>
      cases mine with
      | none => exact ⟨id, Iff.rfl⟩
      | some mine =>
          have hmine : handle ≠ mine := hne mine (by rw [h]; rfl)
          refine ⟨fun hholder => files.holder_close_of_ne hholder hmine, ?_⟩
          exact (files.mem_opened_close).trans (and_iff_left hmine)
  | unlocks mine h =>
      have hmine : handle ≠ mine := hne mine (by rw [h]; rfl)
      exact ⟨fun hholder => files.holder_unlock_of_ne hholder hmine, Iff.rfl⟩
  | closes mine h =>
      have hmine : handle ≠ mine := hne mine (by rw [h]; rfl)
      refine ⟨fun hholder => files.holder_close_of_ne hholder hmine, ?_⟩
      exact (files.mem_opened_close).trans (and_iff_left hmine)
  | _ => exact ⟨id, Iff.rfl⟩

/-- The lease after an operation, for another thread of the process. -/
theorem Moves.lease_untouched (hmoves : Moves process thread lease files act lease' files')
    {other : τ} (hne : other ≠ thread) :
    lease'.threadLock.count other = lease.threadLock.count other ∧
      lease'.depth other = lease.depth other ∧ lease'.phase other = lease.phase other := by
  have hfree : (lease.threadLock.release thread).count other = lease.threadLock.count other :=
    RLock.count_release_other hne
  cases hmoves with
  | stay | locksNot => exact ⟨rfl, rfl, rfl⟩
  | take threadLock h htake =>
      exact ⟨RLock.count_acquire?_other htake hne, rfl, FileLease.phase_move_of_ne _ _ _ hne⟩
  | nested h hdepth =>
      exact ⟨rfl, FileLease.depth_setDepth_of_ne _ _ _ hne, FileLease.phase_move_of_ne _ _ _ hne⟩
  | settles handle leaseId h =>
      exact ⟨rfl, FileLease.depth_setDepth_of_ne _ _ _ hne, FileLease.phase_move_of_ne _ _ _ hne⟩
  | cleans handle raised closing h hraised =>
      exact ⟨hfree, rfl, FileLease.phase_move_of_ne _ _ _ hne⟩
  | unnests depth h hdepth => exact ⟨hfree, FileLease.depth_setDepth_of_ne _ _ _ hne, rfl⟩
  | finishes h =>
      exact ⟨hfree, FileLease.depth_setDepth_of_ne _ _ _ hne, FileLease.phase_move_of_ne _ _ _ hne⟩
  | _ => exact ⟨rfl, rfl, FileLease.phase_move_of_ne _ _ _ hne⟩

/-- The fields that the threads share are changed by a thread that has the thread lock. -/
theorem Moves.shared_untouched (hmoves : Moves process thread lease files act lease' files')
    (hseat : Seat lease files process thread) :
    lease'.handle = lease.handle ∧ lease'.ownerPayload = lease.ownerPayload ∨
      lease.threadLock.count thread ≠ 0 := by
  cases hmoves with
  | settles handle leaseId h =>
      right
      rw [(hseat.of_phase h).1.taken]
      exact Nat.one_ne_zero
  | finishes h =>
      right
      rw [Releasing.taken (hseat.of_phase h)]
      exact Nat.one_ne_zero
  | _ => exact .inl ⟨rfl, rfl⟩

/-- **Frame.**  An operation leaves the share of every other thread of the process alone. -/
theorem Moves.untouched (hmoves : Moves process thread lease files act lease' files')
    (hseat : Seat lease files process thread) {other : τ} (hne : other ≠ thread) :
    Untouched process other lease lease' files files' := by
  obtain ⟨htaken, hdepth, hphase⟩ := hmoves.lease_untouched hne
  have hfiles : ∀ handle : Handle π τ, handle.Of process other → ¬ handle.Of process thread :=
    fun handle hof hmine => hne (hof.2.symm.trans hmine.2)
  refine ⟨htaken, hdepth, hphase, fun hcount => ?_, fun handle hof => ?_, fun handle hof => ?_⟩
  · rcases hmoves.shared_untouched hseat with hsame | htakes
    · exact hsame
    · exact absurd (RLock.count_eq_zero_of_ne (Nat.pos_of_ne_zero htakes) hne) hcount
  · exact (hmoves.files_untouched hseat (hfiles handle hof)).1
  · exact (hmoves.files_untouched hseat (hfiles handle hof)).2

/-- ... and that of every thread of another process. -/
theorem Moves.untouched_elsewhere (hmoves : Moves process thread lease files act lease' files')
    (hseat : Seat lease files process thread) {elsewhere : π} (hne : elsewhere ≠ process) (other : τ)
    (there : FileLease π τ) : Untouched elsewhere other there there files files' := by
  have hfiles : ∀ handle : Handle π τ, handle.Of elsewhere other → ¬ handle.Of process thread :=
    fun handle hof hmine => hne (hof.1.symm.trans hmine.1)
  refine ⟨rfl, rfl, rfl, fun _ => ⟨rfl, rfl⟩, fun handle hof => ?_, fun handle hof => ?_⟩
  · exact (hmoves.files_untouched hseat (hfiles handle hof)).1
  · exact (hmoves.files_untouched hseat (hfiles handle hof)).2

end

/-! ## The thread's own operation -/

/-- No operation in the `try` of `acquire` or in its `except` clause ends in an exception that
    is no `Exception`, and no write of a release marker in one that is no `OSError`. -/
def Act.Uninterrupted : Act → Prop
  | .openFile outcome | .prepare outcome | .record _ outcome => outcome ≠ .raises .interrupt
  | .stopPolling raised => raised ≠ .interrupt
  | .cleanUp closing => closing = .done ∨ closing = .raises .osError
  | .mark outcome => outcome = .done ∨ outcome = .raises .osError
  | _ => True

section

variable {process : π} {thread : τ} {lease lease' : FileLease π τ}
  {files files' : FileLock (Handle π τ)} {act : Act}

/-- What holds at a point of a call holds when the thread has come to it. -/
theorem SeatAt.move (phase : Phase π τ) (h : SeatAt lease files process thread phase) :
    Seat (lease.move thread phase) files process thread := by
  rw [Seat, FileLease.phase_move]
  cases phase with
  | idle | waiting | entered => exact ⟨h.taken, h.clean, h.held⟩
  | opening | opened | polling => exact ⟨h.taken, h.depth, h.own, h.only⟩
  | locked | recorded => exact ⟨⟨h.1.taken, h.1.depth, h.1.own, h.1.only⟩, h.2⟩
  | failing => exact ⟨⟨h.1.taken, h.1.depth, h.1.own, h.1.only⟩, h.2⟩
  | releasing | marked => exact ⟨⟨h.1.taken, h.1.depth, h.1.own, h.1.only⟩, h.2⟩
  | unlocked | finishing => exact ⟨h.taken, h.depth, h.own, h.only⟩

theorem seat_takes {threadLock : RLock τ} (h : Resting lease files process thread 0)
    (htake : lease.threadLock.acquire? thread = some threadLock) :
    Resting { lease with threadLock } files process thread 1 where
  taken := by
    show threadLock.count thread = lease.depth thread + 1
    rw [RLock.count_acquire?_self htake, h.taken]
  clean := h.clean
  held := h.held

/-- At depth zero the thread has no handle, so the `try` begins without one. -/
theorem seat_outermost (h : Resting lease files process thread 1) (hdepth : lease.depth thread = 0) :
    Acquiring lease files process thread none where
  taken := by rw [h.taken, hdepth]
  depth := hdepth
  own := nofun
  only other hother hof := absurd hof (h.clean hdepth other hother)

theorem seat_opens (h : Acquiring lease files process thread none) :
    Acquiring { lease with opens := lease.opens + 1 }
      (files.openFile ⟨process, thread, lease.opens⟩) process thread
      (some ⟨process, thread, lease.opens⟩) where
  taken := h.taken
  depth := h.depth
  own mine hmine := by
    cases hmine
    exact ⟨⟨rfl, rfl⟩, List.mem_cons_self⟩
  only other hother hof := by
    rw [FileLock.opened_openFile, List.mem_cons] at hother
    rcases hother with rfl | hother
    · rfl
    · cases h.only other hother hof

theorem seat_settles {handle : Handle π τ} (leaseId : Nat)
    (h : Acquiring lease files process thread (some handle)) (hholder : files.holder = some handle) :
    Resting ({ lease with handle := some handle, ownerPayload := some leaseId }.setDepth thread 1)
      files process thread 0 where
  taken := by
    rw [FileLease.depth_setDepth]
    exact h.taken
  clean hdepth := by
    rw [FileLease.depth_setDepth] at hdepth
    exact absurd hdepth Nat.one_ne_zero
  held _ := by
    refine ⟨handle, (h.own handle rfl).1, rfl, nofun, hholder, fun other hother hof => ?_⟩
    exact (Option.some.inj (h.only other hother hof)).symm

/-- A nested `acquire` or `release` moves the depth and the thread lock together. -/
theorem seat_setDepth (lock : RLock τ) {depth extra : Nat}
    (h : Resting lease files process thread extra) (hheld : lease.depth thread ≠ 0)
    (hdepth : depth ≠ 0) (htaken : lock.count thread = depth) :
    Resting ({ lease with threadLock := lock }.setDepth thread depth) files process thread 0 where
  taken := by
    rw [FileLease.depth_setDepth]
    exact htaken
  clean hzero := by
    rw [FileLease.depth_setDepth] at hzero
    exact absurd hzero hdepth
  held _ := h.held hheld

/-- A nested `release` gives the thread lock back once, and keeps it. -/
theorem seat_unnests {depth : Nat} (h : Resting lease files process thread 0)
    (hdepth : lease.depth thread = depth + 2) :
    Resting ({ lease with threadLock := lease.threadLock.release thread }.setDepth thread (depth + 1))
      files process thread 0 := by
  have hheld : lease.depth thread ≠ 0 := by
    rw [hdepth]
    exact Nat.succ_ne_zero _
  have htaken : (lease.threadLock.release thread).count thread = depth + 1 := by
    rw [RLock.count_release_self, h.taken, hdepth]
    rfl
  exact seat_setDepth (lease.threadLock.release thread) h hheld (Nat.succ_ne_zero _) htaken

theorem seat_releases {handle : Handle π τ} (h : Resting lease files process thread 0)
    (hdepth : lease.depth thread = 1) (hhandle : lease.handle = some handle) :
    Releasing lease files process thread (some handle) ∧ files.holder = some handle := by
  obtain ⟨mine, hof, hmine, -, hholder, honly⟩ := h.held (by rw [hdepth]; exact Nat.one_ne_zero)
  have hsame : mine = handle := Option.some.inj (hmine.symm.trans hhandle)
  subst hsame
  refine ⟨⟨by rw [h.taken, hdepth], hdepth, fun other hother => ?_, fun other hother hother' => ?_⟩,
    hholder⟩
  · cases hother
    exact ⟨hof, hhandle⟩
  · rw [honly other hother hother']

theorem seat_finishes (h : Releasing lease files process thread none) :
    Resting (({ lease with handle := none, ownerPayload := none }.setDepth thread 0).freeThread
      thread) files process thread 0 where
  taken := by
    rw [FileLease.threadLock_freeThread, RLock.count_release_self, FileLease.depth_freeThread,
      FileLease.depth_setDepth]
    show lease.threadLock.count thread - 1 = 0
    rw [h.taken]
  clean _ other hother hof := by cases h.only other hother hof
  held hdepth := by
    rw [FileLease.depth_freeThread, FileLease.depth_setDepth] at hdepth
    exact absurd rfl hdepth

variable [DecidableEq π]

/-- The handle of a failed `acquire` is closed, and the thread lock given back. -/
theorem seat_cleans {handle : Option (Handle π τ)} (h : Acquiring lease files process thread handle) :
    Resting (lease.freeThread thread) (closeHandle files handle) process thread 0 where
  taken := by
    rw [FileLease.threadLock_freeThread, RLock.count_release_self, h.taken,
      FileLease.depth_freeThread, h.depth]
  clean _ other hother hof := by
    cases handle with
    | none => cases h.only other hother hof
    | some mine =>
        obtain ⟨hopened, hne⟩ := files.mem_opened_close.mp hother
        exact hne (Option.some.inj (h.only other hopened hof)).symm
  held hdepth := absurd h.depth hdepth

theorem seat_closes {handle : Handle π τ} (h : Releasing lease files process thread (some handle)) :
    Releasing lease (files.close handle) process thread none where
  taken := h.taken
  depth := h.depth
  own := nofun
  only other hother hof := by
    obtain ⟨hopened, hne⟩ := files.mem_opened_close.mp hother
    exact absurd (Option.some.inj (h.only other hopened hof)).symm hne

/-- An attempt at the kernel lock opens and closes nothing. -/
theorem seat_tried {handle : Handle π τ} (h : Acquiring lease files process thread (some handle)) :
    Acquiring lease (files.tryLock handle) process thread (some handle) where
  taken := h.taken
  depth := h.depth
  own mine hmine := by
    rw [FileLock.opened_tryLock]
    exact h.own mine hmine
  only other hother := h.only other (by rwa [FileLock.opened_tryLock] at hother)

/-- **Step.**  An operation that is not interrupted keeps what holds of its thread. -/
theorem Moves.seat (hmoves : Moves process thread lease files act lease' files')
    (hseat : Seat lease files process thread) (hact : act.Uninterrupted) :
    Seat lease' files' process thread := by
  cases hmoves with
  | stay => exact hseat
  -- the start of a call, and the thread lock
  | call h =>
      have hat := hseat.of_phase h
      exact SeatAt.move (.waiting) hat
  | take threadLock h htake => exact SeatAt.move (.entered) (seat_takes (hseat.of_phase h) htake)
  | giveUp h =>
      have hat := hseat.of_phase h
      exact SeatAt.move (.idle) hat
  | outermost h hdepth => exact SeatAt.move (.opening) (seat_outermost (hseat.of_phase h) hdepth)
  | nested h hdepth =>
      have hresting : Resting lease files process thread 1 := hseat.of_phase h
      exact SeatAt.move (.idle)
        (seat_setDepth lease.threadLock hresting hdepth (Nat.succ_ne_zero _) hresting.taken)
  -- the `try` of an outermost `acquire`
  | opens h => exact SeatAt.move (.opened _) (seat_opens (hseat.of_phase h))
  | prepared handle h =>
      have hat := hseat.of_phase h
      exact SeatAt.move (.polling handle) hat
  | locks handle h hlocked => exact SeatAt.move (.locked handle) ⟨seat_tried (hseat.of_phase h), hlocked⟩
  | hadLocked handle h hlocked => exact SeatAt.move (.locked handle) ⟨hseat.of_phase h, hlocked⟩
  | locksNot handle h hnot =>
      rw [Seat, h]
      exact seat_tried (hseat.of_phase h)
  | records handle leaseId h =>
      have hat := hseat.of_phase h
      exact SeatAt.move (.recorded handle leaseId) hat
  | settles handle leaseId h =>
      obtain ⟨hacquiring, hholder⟩ := hseat.of_phase h
      exact SeatAt.move (.idle) (seat_settles leaseId hacquiring hholder)
  -- an exception in it, which is no interrupt
  | opensNot raised h =>
      exact SeatAt.move (.failing none raised) ⟨hseat.of_phase h, fun heq => hact (by rw [heq])⟩
  | preparedNot handle raised h =>
      exact SeatAt.move (.failing (some handle) raised) ⟨hseat.of_phase h, fun heq => hact (by rw [heq])⟩
  | stopped handle raised h =>
      exact SeatAt.move (.failing (some handle) raised) ⟨hseat.of_phase h, hact⟩
  | recordsNot handle leaseId raised h =>
      exact SeatAt.move (.failing (some handle) raised)
        ⟨(hseat.of_phase h).1, fun heq => hact (by rw [heq])⟩
  | passes handle closing h => exact absurd rfl (hseat.of_phase h).2
  | cleans handle raised closing h hraised =>
      exact SeatAt.move (.idle) (seat_cleans (hseat.of_phase h).1)
  | cleansNot handle raised closing h hclosing => exact absurd hact hclosing
  -- `release`
  | unnests depth h hdepth =>
      rw [Seat, FileLease.phase_freeThread, FileLease.phase_setDepth, h]
      exact seat_unnests (hseat.of_phase h) hdepth
  | releases handle h hdepth hhandle =>
      exact SeatAt.move (.releasing handle) (seat_releases (hseat.of_phase h) hdepth hhandle)
  | marks handle outcome h =>
      have hat := hseat.of_phase h
      exact SeatAt.move (.marked handle) hat
  | marksNot handle outcome h houtcome => exact absurd hact houtcome
  | unlocks handle h =>
      obtain ⟨hreleasing, -⟩ := hseat.of_phase h
      exact SeatAt.move (.unlocked handle)
        ⟨hreleasing.taken, hreleasing.depth, hreleasing.own, hreleasing.only⟩
  | unlocksNot handle outcome h => exact SeatAt.move (.unlocked handle) (hseat.of_phase h).1
  | closes handle h => exact SeatAt.move (.finishing) (seat_closes (hseat.of_phase h))
  | finishes h => exact SeatAt.move (.idle) (seat_finishes (hseat.of_phase h))

/-- A thread that comes out of a failed `acquire` or an outermost `release` is at depth zero. -/
theorem Moves.ended (hmoves : Moves process thread lease files act lease' files')
    (hseat : Seat lease files process thread)
    (hending : lease.phase thread = .finishing ∨
      ∃ handle raised, lease.phase thread = .failing handle raised)
    (hidle : lease'.phase thread = .idle) : lease'.depth thread = 0 := by
  rcases hending with hphase | ⟨handle, raised, hphase⟩
  · cases hmoves with
    | finishes h => rw [FileLease.depth_move, FileLease.depth_freeThread, FileLease.depth_setDepth]
    | stay => cases hphase.symm.trans hidle
    | _ => cases hphase.symm.trans ‹lease.phase thread = _›
  · have hdepth := (hseat.of_phase hphase).1.depth
    cases hmoves with
    | passes | cleans | cleansNot => exact hdepth
    | stay => cases hphase.symm.trans hidle
    | _ => cases hphase.symm.trans ‹lease.phase thread = _›

/-- `_handle` is that of a thread with a depth. -/
theorem Moves.handle_held (hmoves : Moves process thread lease files act lease' files')
    (hseat : Seat lease files process thread)
    (hheld : ∀ handle, lease.handle = some handle →
      handle.process = process ∧ lease.depth handle.thread ≠ 0) :
    ∀ handle, lease'.handle = some handle →
      handle.process = process ∧ lease'.depth handle.thread ≠ 0 := by
  -- a depth other than zero for the thread itself, the old depth for every other one
  have hset : ∀ depth other, depth ≠ 0 → lease.depth other ≠ 0 →
      (lease.setDepth thread depth).depth other ≠ 0 := by
    intro depth other hdepth hother
    by_cases hne : other = thread
    · rw [hne, FileLease.depth_setDepth]
      exact hdepth
    · rw [FileLease.depth_setDepth_of_ne _ _ _ hne]
      exact hother
  cases hmoves with
  | nested h hdepth =>
      intro handle hhandle
      obtain ⟨hprocess, hpos⟩ := hheld handle hhandle
      exact ⟨hprocess, hset _ _ (Nat.succ_ne_zero _) hpos⟩
  | unnests depth h hdepth =>
      intro handle hhandle
      obtain ⟨hprocess, hpos⟩ := hheld handle hhandle
      exact ⟨hprocess, hset _ _ (Nat.succ_ne_zero _) hpos⟩
  | settles mine leaseId h =>
      intro handle hhandle
      have hmine : mine = handle := Option.some.inj hhandle
      obtain ⟨hprocess, hthread⟩ := ((hseat.of_phase h).1.own mine rfl).1
      rw [← hmine, hthread]
      refine ⟨hprocess, ?_⟩
      rw [FileLease.depth_move, FileLease.depth_setDepth]
      exact Nat.one_ne_zero
  | finishes h => exact nofun
  | _ => exact hheld

end

end LlmHarness.Coordination
