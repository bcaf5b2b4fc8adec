/-
  LlmHarness.State.Fencing

  Several processes and an operator on one store.  A claim hands out no token:
  the guard of a report is the status of the entry alone, and `recover_running`
  rests on the operator's word that the run was interrupted.  So a process that
  reports after its task was recovered and claimed again closes the attempt of
  another process; in runs where no recovered attempt is reported, a report
  lands on the very attempt it is about.
-/

import LlmHarness.State.Readiness

namespace LlmHarness

/-- One attempt: the process that claimed a task, and when. -/
structure Claim where
  process : String
  workItemId : String
  moment : Nat
deriving DecidableEq, Repr

/-- A step of one party on the shared store.  A report names the attempt whose
    outcome it is. -/
inductive Event where
  | claim (process : String) (call : ClaimCall)
  | recordResult (claim : Claim) (report : ResultReport)
  | recordFailure (claim : Claim)
      (startedAtUtc error updatedAt finishedAt freshRunId : String)
  | recoverRunning (workItemId reason now : String)

/-- The call the step makes. -/
def Event.op : Event → Op
  | .claim _ call => call.op
  | .recordResult attempt report => .recordResult { report with workItemId := attempt.workItemId }
  | .recordFailure attempt startedAtUtc error updatedAt finishedAt freshRunId =>
    .recordFailure attempt.workItemId startedAtUtc error updatedAt finishedAt freshRunId
  | .recoverRunning workItemId reason now => .recoverRunning workItemId reason now

/-- The process that claims in the step. -/
def Event.claimant : Event → Option String
  | .claim process _ => some process
  | _ => none

/-- The attempt the step reports. -/
def Event.claim? : Event → Option Claim
  | .recordResult attempt _ => some attempt
  | .recordFailure attempt _ _ _ _ _ => some attempt
  | _ => none

/-- A report through `record_failure`. -/
def Event.isFailure : Event → Bool
  | .recordFailure .. => true
  | _ => false

/-- The store and who holds what in it: the attempt behind the last start of
    each id, every attempt claimed so far, and those an operator recovered. -/
structure Fleet where
  store : Store
  moment : Nat := 0
  holder : String → Option Claim := fun _ => none
  claims : List Claim := []
  recovered : List Claim := []

/-- The ids a step moved to running. -/
def startedIds (s s' : Store) : List String :=
  (s'.tasks.map QueueTask.id).filter fun id =>
    latestStatus s'.tasks id = some .running && latestStatus s.tasks id != some .running

/-- The attempts a step starts. -/
def Event.newClaims (e : Event) (f : Fleet) : List Claim :=
  match e.claimant with
  | some process => (startedIds f.store (f.store.step e.op)).map fun id => ⟨process, id, f.moment⟩
  | none => []

/-- The attempt a step takes from its holder. -/
def Event.newRecoveries (e : Event) (f : Fleet) : List Claim :=
  match e with
  | .recoverRunning workItemId _ _ =>
    if latestStatus f.store.tasks workItemId = some .running then (f.holder workItemId).toList
    else []
  | _ => []

/-- One step of the fleet. -/
def Fleet.step (f : Fleet) (e : Event) : Fleet where
  store := f.store.step e.op
  moment := f.moment + 1
  holder id := ((e.newClaims f).find? fun claim => claim.workItemId = id).or (f.holder id)
  claims := f.claims ++ e.newClaims f
  recovered := f.recovered ++ e.newRecoveries f

/-- An interleaving of steps on a store. -/
def Fleet.run (s : Store) (events : List Event) : Fleet :=
  events.foldl Fleet.step { store := s }

/-- The attempt runs, and is the one that runs. -/
def Fleet.Runs (f : Fleet) (claim : Claim) : Prop :=
  latestStatus f.store.tasks claim.workItemId = some .running ∧
    f.holder claim.workItemId = some claim

/-- A report changes the queue only if the attempt it is about runs. -/
def Fenced (f : Fleet) (e : Event) : Prop :=
  ∀ claim, e.claim? = some claim → (f.step e).store.tasks ≠ f.store.tasks → f.Runs claim

/-- ... where a failure is only looked at when it finds the entry running. -/
def FencedWhileRunning (f : Fleet) (e : Event) : Prop :=
  (e.isFailure → ∀ claim, e.claim? = some claim →
    latestStatus f.store.tasks claim.workItemId = some .running) → Fenced f e

/-- A process reports an attempt that it made. -/
def ReportsOwn (f : Fleet) (e : Event) : Prop :=
  ∀ claim, e.claim? = some claim → claim ∈ f.claims

/-- The operator recovers only interrupted runs: an attempt that was recovered
    is not reported any more. -/
def RecoveredStaySilent (f : Fleet) (e : Event) : Prop :=
  ∀ claim, e.claim? = some claim → claim ∉ f.recovered

/-! ## Statuses across a step -/

/-- A single-entry call leaves every other id alone. -/
theorem latestTask?_single {op : Op} {s : Store} {workItemId : String} {kind : EdgeKind}
    (hlive : LiveQueue s.tasks) (hsingle : op.isSingle)
    (hR : ∀ kind' id, op.rewrites kind' id → kind' = kind ∧ id = workItemId)
    (hkind : kind ≠ .enqueued) (id : String) :
    latestTask? (s.step op).tasks id = latestTask? s.tasks id ∨
      id = workItemId ∧ ∃ old new, Edge kind old new ∧ latestTask? s.tasks id = some old ∧
        latestTask? (s.step op).tasks id = some new := by
  rcases taskStep_of_op op hsingle s with heq | hstep
  · exact Or.inl (by rw [heq])
  · rcases hstep.latest hlive id with hsame | ⟨hR', -, -⟩ | ⟨kind', old, new, hR', hedge, hold, hnew⟩
    · exact Or.inl hsame
    · exact absurd (hR _ _ hR').1.symm hkind
    · obtain ⟨rfl, hid⟩ := hR _ _ hR'
      exact Or.inr ⟨hid, old, new, hedge, hold, hnew⟩

/-- The statuses a report leaves. -/
def Ended (status : Option TaskStatus) : Prop :=
  status = some .done ∨ status = some .failed ∨ status = some .reviewPending

theorem Ended.ne_queued {status : Option TaskStatus} (h : Ended status) : status ≠ some .queued := by
  rcases h with rfl | rfl | rfl <;> decide

theorem Ended.ne_running {status : Option TaskStatus} (h : Ended status) :
    status ≠ some .running := by
  rcases h with rfl | rfl | rfl <;> decide

/-- A report ends the entry of its task or changes no status. -/
theorem latestStatus_reported {f : Fleet} {e : Event} {claim : Claim} (he : e.claim? = some claim)
    (hlive : LiveQueue f.store.tasks) (id : String) :
    latestStatus (f.step e).store.tasks id = latestStatus f.store.tasks id ∨
      id = claim.workItemId ∧ Ended (latestStatus (f.step e).store.tasks id) := by
  -- the two reports rewrite the task of their claim, by one rule each
  cases e with
  | recordResult claim' report =>
      cases he
      have hop : ∀ kind id', (Event.recordResult claim report).op.rewrites kind id' →
          kind = .recorded ∧ id' = claim.workItemId := fun _ _ h => h
      rcases latestTask?_single hlive rfl hop (by simp) id with
        hsame | ⟨hid, old, new, hedge, hold, hnew⟩
      · exact Or.inl (congrArg _ hsame)
      · refine Or.inr ⟨hid, ?_⟩
        -- a result ends the run in one of three statuses
        cases hedge with
        | recorded hstatus hended =>
            have hafter := congrArg (Option.map QueueTask.status) hnew
            rcases hended with rfl | rfl | rfl
            · exact Or.inr (Or.inr hafter)
            · exact Or.inl hafter
            · exact Or.inr (Or.inl hafter)
  | recordFailure claim startedAtUtc error updatedAt finishedAt freshRunId =>
      cases he
      have hop : ∀ kind id', (Event.recordFailure claim startedAtUtc error updatedAt finishedAt
          freshRunId).op.rewrites kind id' → kind = .failureRecorded ∧ id' = claim.workItemId :=
        fun _ _ h => h
      rcases latestTask?_single hlive rfl hop (by simp) id with
        hsame | ⟨hid, old, new, hedge, hold, hnew⟩
      · exact Or.inl (congrArg _ hsame)
      · refine Or.inr ⟨hid, ?_⟩
        -- a failure ends it as failed
        cases hedge
        exact Or.inr (Or.inl (congrArg (Option.map QueueTask.status) hnew))
  | claim | recoverRunning => cases he

/-- `record_result` rewrites running entries only. -/
theorem running_of_recordResult {f : Fleet} {claim : Claim} {report : ResultReport}
    (h : (f.step (.recordResult claim report)).store.tasks ≠ f.store.tasks) :
    latestStatus f.store.tasks claim.workItemId = some .running := by
  rcases taskStep_of_op (Event.recordResult claim report).op rfl f.store with heq | hstep
  · exact absurd heq h
  · generalize (f.store.step _).tasks = after at hstep
    cases hstep with
    | enqueued hitems hallowed =>
        obtain ⟨item, hitem⟩ := List.exists_mem_of_ne_nil _ hitems
        cases (hallowed item hitem).1
    | rewritten hallowed hedge htasks hlatest =>
        obtain ⟨rfl, hid⟩ := hallowed
        cases hedge with
        | recorded hstatus =>
            have hrunning := congrArg (Option.map QueueTask.status) hlatest
            rw [hid] at hrunning
            exact hrunning.trans (congrArg some hstatus)

/-! ## Who holds a running task -/

/-- Every attempt that was not recovered holds its running task, or its task has
    ended. -/
def AttemptsHeld (f : Fleet) : Prop :=
  ∀ claim ∈ f.claims, claim ∉ f.recovered →
    f.Runs claim ∨ Ended (latestStatus f.store.tasks claim.workItemId)

theorem mem_startedIds {s s' : Store} {id : String} : id ∈ startedIds s s' ↔
    latestStatus s'.tasks id = some .running ∧ latestStatus s.tasks id ≠ some .running := by
  simp only [startedIds, List.mem_filter, List.mem_map, Bool.and_eq_true, decide_eq_true_eq,
    bne_iff_ne, ne_eq, and_iff_right_iff_imp]
  rintro ⟨hrunning, -⟩
  obtain ⟨task, htask, -⟩ := Option.map_eq_some_iff.mp hrunning
  exact ⟨task, KeyedLog.mem_of_last? htask⟩

/-- A step that claims nothing leaves the holders and the attempts as they are. -/
theorem newClaims_of_not_claimant {e : Event} (h : e.claimant = none) (f : Fleet) :
    e.newClaims f = [] := by
  rw [Event.newClaims, h]

/-- Claims start queued tasks, and no attempt that was not recovered is on one. -/
theorem attemptsHeld_claimed {f : Fleet} {process : String} {call : ClaimCall} (h : AttemptsHeld f)
    (hlive : LiveQueue f.store.tasks) : AttemptsHeld (f.step (.claim process call)) := by
  -- the claims of this step are those of the ids it started
  have hnew : (Event.claim process call).newClaims f =
      (startedIds f.store (f.step (.claim process call)).store).map
        fun id => ⟨process, id, f.moment⟩ := rfl
  intro claim hclaim hsilent
  rcases List.mem_append.mp hclaim with hclaim | hclaim
  · -- an earlier attempt: its task was not queued, so this step did not touch it
    have hbefore := h claim hclaim fun hrecovered => hsilent (List.mem_append_left _ hrecovered)
    have hkept : latestStatus (f.step (.claim process call)).store.tasks claim.workItemId =
        latestStatus f.store.tasks claim.workItemId := by
      rcases latestTask?_claim call f.store hlive claim.workItemId with
        hsame | ⟨-, old, -, hold, -, -, hqueued, -⟩
      · exact congrArg _ hsame
      · have hstatus : latestStatus f.store.tasks claim.workItemId = some .queued := by
          rw [latestStatus, hold, Option.map_some, hqueued]
        rcases hbefore with hruns | hended
        · exact absurd (hstatus.symm.trans hruns.1) (by decide)
        · exact absurd hstatus hended.ne_queued
    rcases hbefore with ⟨hrunning, hholder⟩ | hended
    · refine Or.inl ⟨hkept.trans hrunning, ?_⟩
      -- no new claim is of this task, which was running before
      have hnone : ((Event.claim process call).newClaims f).find?
          (fun c => c.workItemId = claim.workItemId) = none := by
        rw [List.find?_eq_none, hnew]
        intro c hc hid
        obtain ⟨id, hid', rfl⟩ := List.mem_map.mp hc
        obtain rfl : id = claim.workItemId := of_decide_eq_true hid
        exact (mem_startedIds.mp hid').2 hrunning
      show (List.find? _ _).or _ = _
      rw [hnone, Option.none_or, hholder]
    · exact Or.inr (hkept ▸ hended)
  · -- an attempt of this step
    rw [hnew] at hclaim
    obtain ⟨id, hid, rfl⟩ := List.mem_map.mp hclaim
    refine Or.inl ⟨(mem_startedIds.mp hid).1, ?_⟩
    -- the newest claim of the task is the one of this step
    have hfound : ((Event.claim process call).newClaims f).find? (fun c => c.workItemId = id) =
        some ⟨process, id, f.moment⟩ := by
      cases hfind : ((Event.claim process call).newClaims f).find?
          (fun c => decide (c.workItemId = id)) with
      | none =>
          have hnot := List.find?_eq_none.mp hfind ⟨process, id, f.moment⟩ (hnew ▸ hclaim)
          exact absurd (decide_eq_true rfl) hnot
      | some c =>
          have hcid : c.workItemId = id := by simpa using List.find?_some hfind
          have hmem := List.mem_of_find?_eq_some hfind
          rw [hnew] at hmem
          obtain ⟨id', -, rfl⟩ := List.mem_map.mp hmem
          rw [← hcid]
    show (List.find? _ _).or _ = _
    rw [hfound, Option.some_or]

/-- A report ends its task or changes no status. -/
theorem attemptsHeld_reported {f : Fleet} {e : Event} {claim : Claim} (h : AttemptsHeld f)
    (hlive : LiveQueue f.store.tasks) (he : e.claim? = some claim) : AttemptsHeld (f.step e) := by
  have hnew : e.newClaims f = [] := by
    apply newClaims_of_not_claimant
    cases e with
    | recordResult | recordFailure => rfl
    | claim | recoverRunning => cases he
  intro other hother hsilent
  have hmem : other ∈ f.claims := by simpa [Fleet.step, hnew] using hother
  have hbefore := h other hmem fun hrecovered => hsilent (List.mem_append_left _ hrecovered)
  rcases latestStatus_reported he hlive other.workItemId with hsame | ⟨-, hended⟩
  · rcases hbefore with ⟨hrunning, hholder⟩ | hended
    · refine Or.inl ⟨hsame.trans hrunning, ?_⟩
      show (List.find? _ _).or _ = _
      rw [hnew, List.find?_nil, Option.none_or, hholder]
    · exact Or.inr (hsame ▸ hended)
  · exact Or.inr hended

/-- A recovery requeues a running task and takes the attempt of its holder. -/
theorem attemptsHeld_recovered {f : Fleet} {workItemId reason now : String} (h : AttemptsHeld f)
    (hlive : LiveQueue f.store.tasks) :
    AttemptsHeld (f.step (.recoverRunning workItemId reason now)) := by
  intro claim hclaim hsilent
  -- a recovery makes no claim
  have hmem : claim ∈ f.claims := by simpa [Fleet.step, Event.newClaims, Event.claimant] using hclaim
  have hbefore := h claim hmem fun hrecovered => hsilent (List.mem_append_left _ hrecovered)
  have hop : ∀ kind id, (Op.recoverRunning workItemId reason now).rewrites kind id →
      kind = .recovered ∧ id = workItemId := fun _ _ h => h
  rcases latestTask?_single hlive rfl hop (by simp) claim.workItemId with
    -- the task of the claim is not the recovered one, or is no longer held
    hsame | ⟨hid, old, new, hedge, hold, -⟩
  · have hkept : latestStatus (f.step (.recoverRunning workItemId reason now)).store.tasks
        claim.workItemId = latestStatus f.store.tasks claim.workItemId := congrArg _ hsame
    rcases hbefore with ⟨hrunning, hholder⟩ | hended
    · exact Or.inl ⟨hkept.trans hrunning, hholder⟩
    · exact Or.inr (hkept ▸ hended)
  · have hrunning : latestStatus f.store.tasks claim.workItemId = some .running := by
      -- only a running task is recovered
      cases hedge with
      | recovered hstatus => rw [latestStatus, hold, Option.map_some, hstatus]
    rcases hbefore with ⟨-, hholder⟩ | hended
    · -- the holder's attempt is recovered by this step
      exfalso
      apply hsilent
      apply List.mem_append_right
      rw [hid] at hrunning hholder
      show claim ∈ if _ then _ else _
      rw [if_pos hrunning, hholder]
      exact List.mem_singleton.mpr rfl
    · exact absurd hrunning hended.ne_running

/-- **Step lemma.** -/
theorem attemptsHeld_step {f : Fleet} (e : Event) (h : AttemptsHeld f)
    (hlive : LiveQueue f.store.tasks) : AttemptsHeld (f.step e) := by
  cases e with
  | claim => exact attemptsHeld_claimed h hlive
  | recordResult => exact attemptsHeld_reported h hlive rfl
  | recordFailure => exact attemptsHeld_reported h hlive rfl
  | recoverRunning => exact attemptsHeld_recovered h hlive

/-- **Run lemma.** -/
theorem attemptsHeld_run (setup : List Op) (events : List Event) :
    AttemptsHeld (Fleet.run (execute setup) events) := by
  suffices h : AttemptsHeld (Fleet.run (execute setup) events) ∧
      LiveQueue (Fleet.run (execute setup) events).store.tasks from h.1
  apply Run.invariant (I := fun f : Fleet => AttemptsHeld f ∧ LiveQueue f.store.tasks)
  · exact ⟨fun claim hclaim => absurd hclaim List.not_mem_nil, liveQueue_execute setup⟩
  · rintro f e ⟨hheld, hlive⟩
    exact ⟨attemptsHeld_step e hheld hlive, liveQueue_call hlive e.op⟩

/-- **Claim fencing.**  After every interleaving on a store, a process that
    reports an attempt of its own that no operator recovered changes the queue
    only if that attempt runs: always through `record_result`, and through
    `record_failure` when it finds the task running. -/
theorem fencedWhileRunning_run (setup : List Op) (events : List Event) (e : Event)
    (hown : ReportsOwn (Fleet.run (execute setup) events) e)
    (hsilent : RecoveredStaySilent (Fleet.run (execute setup) events) e) :
    FencedWhileRunning (Fleet.run (execute setup) events) e := by
  intro hfailure claim hclaim hchanged
  have hrunning : latestStatus (Fleet.run (execute setup) events).store.tasks claim.workItemId =
      some .running := by
    cases e with
    | recordResult =>
        cases hclaim
        exact running_of_recordResult hchanged
    | recordFailure => exact hfailure rfl claim hclaim
    | claim | recoverRunning => cases hclaim
  rcases attemptsHeld_run setup events claim (hown claim hclaim) (hsilent claim hclaim) with
    hruns | hended
  · exact hruns
  · exact absurd hrunning hended.ne_running

/-! ## Two processes -/

/-- One queued task. -/
def oneTask : List Op := [.enqueueMany [(sampleItem "a", "")] "t0"]

/-- The first process claims the task, an operator recovers it, and the second
    process claims it. -/
def reclaimed : List Event :=
  [.claim "p1" (.claimNext none "t1"), .recoverRunning "a" "interrupted" "t2",
    .claim "p2" (.claimNext none "t3")]

/-- The report of an attempt whose gates passed. -/
def acceptedReport (claim : Claim) (runId : String) : Event :=
  .recordResult claim {
    workItemId := claim.workItemId
    startedAtUtc := "t"
    result := acceptedResult claim.workItemId "c1"
    runId := some runId }

/-- The second process reports, after the first one stayed silent. -/
theorem fencedWhileRunning_secondReport :
    FencedWhileRunning (Fleet.run (execute oneTask) reclaimed)
      (acceptedReport ⟨"p2", "a", 2⟩ "r2") := by
  apply fencedWhileRunning_run oneTask reclaimed
  · rintro claim ⟨⟩
    decide +kernel
  · rintro claim ⟨⟩
    decide +kernel

/-- The first process reports late: its outcome closes the attempt of the second
    one. -/
theorem not_fenced_lateReport :
    ReportsOwn (Fleet.run (execute oneTask) reclaimed) (acceptedReport ⟨"p1", "a", 0⟩ "r1") ∧
      ¬ Fenced (Fleet.run (execute oneTask) reclaimed) (acceptedReport ⟨"p1", "a", 0⟩ "r1") ∧
      (Fleet.run (execute oneTask) reclaimed).Runs ⟨"p2", "a", 2⟩ ∧
      latestStatus (Fleet.run (execute oneTask)
        (reclaimed ++ [acceptedReport ⟨"p1", "a", 0⟩ "r1"])).store.tasks "a" = some .done := by
  refine ⟨?_, ?_, ⟨by decide +kernel, by decide +kernel⟩, by decide +kernel⟩
  · rintro claim ⟨⟩
    decide +kernel
  · intro h
    have hruns := h ⟨"p1", "a", 0⟩ rfl (by decide +kernel)
    exact absurd hruns.2 (by decide +kernel)

end LlmHarness
