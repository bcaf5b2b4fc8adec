/-
  LlmHarness.Coordination.StaleOwner

  `FileLease` of `coordination.py`: a kernel lock and a metadata file beside it.  A
  holder takes the lock, reads what the file says, writes itself in as active, and at
  the end marks itself released before it drops the lock.  `status` reads the file
  first and probes the lock after it.

  Between the two reads a holder may finish its release; then the report shows a stale
  owner although nobody died.  Where no release ends there, every stale owner that is
  reported died between its two writes.

  Nested holds of one thread only count and are no steps here; a process that waits for
  the lock changes nothing either, so the phase is that of the process which has it.
  A write of the metadata replaces the file or leaves it; one that raises after it has
  replaced the file is no step either.
-/

import LlmHarness.Lib.Run

namespace LlmHarness

/-! ## The lease -/

/-- `status` of the lease metadata. -/
inductive LeaseMark where
  | active
  | released
deriving DecidableEq, Repr

/-- The lease metadata: a new `lease_id` and its mark, and `recovered_from` where the holder
    found an owner that was still marked active. -/
inductive LeaseOwner where
  | fresh (leaseId : Nat) (status : LeaseMark)
  | recovered (leaseId : Nat) (status : LeaseMark) (recoveredFrom : LeaseOwner)
deriving DecidableEq, Repr

namespace LeaseOwner

/-- `owner["status"]`. -/
def status : LeaseOwner → LeaseMark
  | fresh _ status => status
  | recovered _ status _ => status

/-- The payload with `status` set to released. -/
def release : LeaseOwner → LeaseOwner
  | fresh leaseId _ => fresh leaseId .released
  | recovered leaseId _ recoveredFrom => recovered leaseId .released recoveredFrom

/-- The metadata there is, if its `status` is active. -/
def activeOf (owner : Option LeaseOwner) : Option LeaseOwner := owner.filter (·.status = .active)

/-- The payload that `acquire` writes. -/
def acquired (leaseId : Nat) (previous : Option LeaseOwner) : LeaseOwner :=
  match activeOf previous with
  | some recoveredFrom => recovered leaseId .active recoveredFrom
  | none => fresh leaseId .active

theorem release_not_active (owner : LeaseOwner) : owner.release.status ≠ .active := by
  cases owner <;> exact LeaseMark.noConfusion

end LeaseOwner

/-- How far the process with the lock has come. -/
inductive HolderPhase where
  /-- Nobody has the lock. -/
  | idle
  /-- The lock is taken. -/
  | locked
  /-- `previous` is read. -/
  | read (previous : Option LeaseOwner)
  /-- The active metadata is written. -/
  | active (owner : LeaseOwner)
  /-- The released metadata of the owner is written. -/
  | released (owner : LeaseOwner)
deriving DecidableEq

/-- `LeaseStatus`. -/
structure LeaseStatus where
  available : Bool
  staleOwner : Bool
  owner : Option LeaseOwner

/-- The lease: the metadata file, the process with the lock, what a `status` call has read
    so far, and the owners that died between their two writes. -/
structure LeaseWorld where
  metadata : Option LeaseOwner := none
  holder : HolderPhase := .idle
  observed : Option (Option LeaseOwner) := none
  died : List LeaseOwner := []

/-- A step of a holder or of the process that asks for the status. -/
inductive LeaseEvent where
  /-- `_try_lock` of `acquire`. -/
  | takeLock
  /-- `_read_metadata` of `acquire`. -/
  | readMetadata
  /-- `atomic_write_json` of `acquire`, under a new `lease_id`. -/
  | writeActive (leaseId : Nat)
  /-- The write fails and `acquire` closes the handle. -/
  | acquireFails
  /-- `atomic_write_json` of `release`. -/
  | writeReleased
  /-- `_unlock` of `release`. -/
  | dropLock
  /-- The process with the lock dies, and the kernel frees the lock. -/
  | die
  /-- `_read_metadata` of `status`. -/
  | readStatus
  /-- `_try_lock` of `status`, and its report. -/
  | probe
deriving DecidableEq

/-- The report of a `status` call that has read the metadata and probes the lock now. -/
def LeaseWorld.report (world : LeaseWorld) : Option LeaseStatus :=
  world.observed.map fun owner =>
    let available := decide (world.holder = .idle)
    { available
      staleOwner := available && (LeaseOwner.activeOf owner).isSome
      owner }

/-- One step; a step that is not due changes nothing. -/
def LeaseWorld.step (world : LeaseWorld) : LeaseEvent → LeaseWorld
  | .takeLock => if world.holder = .idle then { world with holder := .locked } else world
  | .readMetadata =>
    if world.holder = .locked then { world with holder := .read world.metadata } else world
  | .writeActive leaseId =>
    match world.holder with
    | .read previous =>
      let owner := LeaseOwner.acquired leaseId previous
      { world with metadata := some owner, holder := .active owner }
    | _ => world
  | .acquireFails =>
    match world.holder with
    | .locked | .read _ => { world with holder := .idle }
    | _ => world
  | .writeReleased =>
    match world.holder with
    | .active owner => { world with metadata := some owner.release, holder := .released owner }
    | _ => world
  | .dropLock =>
    match world.holder with
    | .released _ => { world with holder := .idle }
    | _ => world
  | .die =>
    match world.holder with
    | .active owner => { world with holder := .idle, died := owner :: world.died }
    | _ => { world with holder := .idle }
  | .readStatus => { world with observed := some world.metadata }
  | .probe => { world with observed := none }

/-! ## What a report owes its reader -/

/-- A stale owner is reported only if some holder died between its two writes. -/
def StaleAccurate (world : LeaseWorld) (event : LeaseEvent) : Prop :=
  event = .probe → ∀ report, world.report = some report → report.staleOwner = true →
    world.died ≠ []

/-- The step does not end a release whose active metadata a `status` call has read and not
    yet followed up with its probe. -/
def ReleaseUnobserved (world : LeaseWorld) (event : LeaseEvent) : Prop :=
  event = .dropLock ∨ event = .die →
    ∀ owner, world.holder = .released owner → world.observed ≠ some (some owner)

/-- The active owner in the file, and the one a `status` call has read, are accounted for. -/
structure LeaseInvariant (world : LeaseWorld) : Prop where
  written : ∀ owner, world.metadata = some owner → owner.status = .active →
    world.holder = .active owner ∨ owner ∈ world.died
  observed : ∀ owner, world.observed = some (some owner) → owner.status = .active →
    world.holder = .active owner ∨ world.holder = .released owner ∨ owner ∈ world.died

/-- The process with the lock, if there is one, has not written its metadata yet. -/
def LeaseWorld.Unwritten (world : LeaseWorld) : Prop :=
  ∀ owner, world.holder ≠ .active owner ∧ world.holder ≠ .released owner

/-- Before a holder has written its metadata every active owner is one that died. -/
theorem LeaseInvariant.move {world : LeaseWorld} (hinv : LeaseInvariant world)
    (hunwritten : world.Unwritten) (holder : HolderPhase) :
    LeaseInvariant { world with holder } where
  written owner howner hactive :=
    Or.inr ((hinv.written owner howner hactive).resolve_left (hunwritten owner).1)
  observed owner howner hactive :=
    Or.inr (Or.inr (((hinv.observed owner howner hactive).resolve_left
      (hunwritten owner).1).resolve_left (hunwritten owner).2))

theorem leaseInvariant_writeActive {world : LeaseWorld} (hinv : LeaseInvariant world)
    (hunwritten : world.Unwritten) (owner : LeaseOwner) :
    LeaseInvariant { world with metadata := some owner, holder := .active owner } where
  written other hother _ := by
    rw [Option.some.inj hother]
    exact Or.inl rfl
  observed other hother hactive := (hinv.move hunwritten (.active owner)).observed other hother hactive

theorem leaseInvariant_writeReleased {world : LeaseWorld} (hinv : LeaseInvariant world)
    {owner : LeaseOwner} (hholder : world.holder = .active owner) :
    LeaseInvariant { world with metadata := some owner.release, holder := .released owner } where
  written other hother hactive := by
    rw [← Option.some.inj hother] at hactive
    exact absurd hactive owner.release_not_active
  observed other hother hactive := by
    rcases hinv.observed other hother hactive with h | h | h
    · -- the owner that was read is the one that releases now
      rw [hholder] at h
      cases h
      exact Or.inr (Or.inl rfl)
    · rw [hholder] at h
      cases h
    · exact Or.inr (Or.inr h)

/-- The end of a release that no `status` call has seen active. -/
theorem leaseInvariant_dropLock {world : LeaseWorld} (hinv : LeaseInvariant world)
    {owner : LeaseOwner} (hholder : world.holder = .released owner)
    (hunobserved : world.observed ≠ some (some owner)) :
    LeaseInvariant { world with holder := .idle } where
  written other hother hactive := by
    rcases hinv.written other hother hactive with h | h
    · rw [hholder] at h
      cases h
    · exact Or.inr h
  observed other hother hactive := by
    rcases hinv.observed other hother hactive with h | h | h
    · rw [hholder] at h
      cases h
    · rw [hholder] at h
      cases h
      exact absurd hother hunobserved
    · exact Or.inr (Or.inr h)

/-- The death of a holder between its two writes. -/
theorem leaseInvariant_died {world : LeaseWorld} (hinv : LeaseInvariant world)
    {owner : LeaseOwner} (hholder : world.holder = .active owner) :
    LeaseInvariant { world with holder := .idle, died := owner :: world.died } where
  written other hother hactive := by
    rcases hinv.written other hother hactive with h | h
    · rw [hholder] at h
      cases h
      exact Or.inr List.mem_cons_self
    · exact Or.inr (List.mem_cons_of_mem owner h)
  observed other hother hactive := by
    rcases hinv.observed other hother hactive with h | h | h
    · rw [hholder] at h
      cases h
      exact Or.inr (Or.inr List.mem_cons_self)
    · rw [hholder] at h
      cases h
    · exact Or.inr (Or.inr (List.mem_cons_of_mem owner h))

/-- **One step** keeps the invariant, unless it ends a release that is being watched. -/
theorem leaseInvariant_step {world : LeaseWorld} (hinv : LeaseInvariant world)
    {event : LeaseEvent} (hunobserved : ReleaseUnobserved world event) :
    LeaseInvariant (world.step event) := by
  cases event with
  -- each operation is made at one point of the holder's call, and does nothing elsewhere
  | takeLock =>
      by_cases hidle : world.holder = .idle
      · rw [LeaseWorld.step, if_pos hidle]
        exact hinv.move (by simp [LeaseWorld.Unwritten, hidle]) .locked
      · rw [LeaseWorld.step, if_neg hidle]
        exact hinv
  | readMetadata =>
      by_cases hlocked : world.holder = .locked
      · rw [LeaseWorld.step, if_pos hlocked]
        exact hinv.move (by simp [LeaseWorld.Unwritten, hlocked]) (.read world.metadata)
      · rw [LeaseWorld.step, if_neg hlocked]
        exact hinv
  | writeActive leaseId =>
      cases hholder : world.holder with
      | read previous =>
          rw [LeaseWorld.step, hholder]
          exact leaseInvariant_writeActive hinv (by simp [LeaseWorld.Unwritten, hholder]) _
      | _ =>
          rw [LeaseWorld.step, hholder]
          exact hinv
  | acquireFails =>
      cases hholder : world.holder with
      | locked =>
          rw [LeaseWorld.step, hholder]
          exact hinv.move (by simp [LeaseWorld.Unwritten, hholder]) .idle
      | read previous =>
          rw [LeaseWorld.step, hholder]
          exact hinv.move (by simp [LeaseWorld.Unwritten, hholder]) .idle
      | _ =>
          rw [LeaseWorld.step, hholder]
          exact hinv
  | writeReleased =>
      cases hholder : world.holder with
      | active owner =>
          rw [LeaseWorld.step, hholder]
          exact leaseInvariant_writeReleased hinv hholder
      | _ =>
          rw [LeaseWorld.step, hholder]
          exact hinv
  | dropLock =>
      cases hholder : world.holder with
      -- the released metadata are written, so nobody may have seen the owner active in between
      | released owner =>
          rw [LeaseWorld.step, hholder]
          exact leaseInvariant_dropLock hinv hholder (hunobserved (Or.inl rfl) owner hholder)
      | _ =>
          rw [LeaseWorld.step, hholder]
          exact hinv
  | die =>
      -- a death leaves the metadata as they are
      cases hholder : world.holder with
      | active owner =>
          rw [LeaseWorld.step, hholder]
          exact leaseInvariant_died hinv hholder
      | released owner =>
          rw [LeaseWorld.step, hholder]
          exact leaseInvariant_dropLock hinv hholder (hunobserved (Or.inr rfl) owner hholder)
      | _ =>
          rw [LeaseWorld.step, hholder]
          exact hinv.move (by simp [LeaseWorld.Unwritten, hholder]) .idle
  | readStatus =>
      -- what was read was written
      refine ⟨hinv.written, fun owner howner hactive => ?_⟩
      rcases hinv.written owner (Option.some.inj howner) hactive with h | h
      · exact Or.inl h
      · exact Or.inr (Or.inr h)
  | probe => exact ⟨hinv.written, fun owner howner _ => (nomatch howner)⟩

/-- The owner that a report calls stale died between its two writes. -/
theorem mem_died_of_stale {world : LeaseWorld} (hinv : LeaseInvariant world)
    {report : LeaseStatus} (hreport : world.report = some report)
    (hstale : report.staleOwner = true) :
    ∃ owner, report.owner = some owner ∧ owner ∈ world.died := by
  obtain ⟨observed, hobserved, rfl⟩ := Option.map_eq_some_iff.mp hreport
  obtain ⟨hfree, hactive⟩ := Bool.and_eq_true_iff.mp hstale
  have hidle : world.holder = .idle := of_decide_eq_true hfree
  obtain ⟨owner, howner⟩ := Option.isSome_iff_exists.mp hactive
  obtain ⟨rfl, hmark⟩ := Option.filter_eq_some_iff.mp howner
  refine ⟨owner, rfl, ?_⟩
  rcases hinv.observed owner hobserved (of_decide_eq_true hmark) with h | h | h
  · rw [hidle] at h
    cases h
  · rw [hidle] at h
    cases h
  · exact h

/-- **Stale owners.**  In a run where no release ends between the two reads of a `status`
    call that has seen its owner active, a stale owner is reported only if some holder died
    between its two writes. -/
theorem staleAccurate_of_unobserved (events : List LeaseEvent)
    (h : Run.Each LeaseWorld.step ReleaseUnobserved {} events) :
    Run.Each LeaseWorld.step StaleAccurate {} events := by
  have hstart : LeaseInvariant {} := ⟨fun _ h => (nomatch h), fun _ h => (nomatch h)⟩
  exact h.imp hstart (fun _ _ hinv hstep => leaseInvariant_step hinv hstep)
    fun world event hinv _ _ report hreport hstale => by
      obtain ⟨owner, -, hdied⟩ := mem_died_of_stale hinv hreport hstale
      exact List.ne_nil_of_mem hdied

/-! ## A death, and a release, between the two reads -/

/-- A holder dies while it is active, and the status is asked for afterwards. -/
def deathEvents : List LeaseEvent :=
  [.takeLock, .readMetadata, .writeActive 1, .die, .readStatus, .probe]

theorem staleAccurate_death : Run.Each LeaseWorld.step StaleAccurate {} deathEvents :=
  staleAccurate_of_unobserved deathEvents
    ⟨nofun, nofun, nofun, fun _ _ h => (nomatch h), nofun, nofun, trivial⟩

/-- The metadata is read while the holder is active, and the lock is probed when it has
    finished: the report shows a stale owner, and nobody died. -/
theorem not_staleAccurate_release :
    ¬ Run.Each LeaseWorld.step StaleAccurate {}
      [.takeLock, .readMetadata, .writeActive 1, .readStatus, .writeReleased, .dropLock, .probe] := by
  rintro ⟨-, -, -, -, -, -, hprobe, -⟩
  exact hprobe rfl _ rfl rfl rfl

end LlmHarness
