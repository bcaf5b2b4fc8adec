/-
  LlmHarness.State.Recording

  What the calls that record a run leave: each rewrites the latest entry of the
  task by its first write, and what follows keeps the queue.
-/

import LlmHarness.State.ClaimBatch

namespace LlmHarness

open StoreM

variable {s : Store} {workItemId : String} {α : Type}

/-- A call that returned `a` and whose first write rewrites the latest entry `task` into `new`. -/
def RewritesLast (s : Store) (task new : QueueTask) (outcome : Outcome α) (a : α) : Prop :=
  ∃ pre post rest, KeyedLog.IsLast QueueTask.id s.tasks pre task post ∧ KeepsQueue rest ∧
    outcome = ⟨.queue (pre ++ new :: post) :: rest, .ok a⟩

namespace RewritesLast

variable {task new : QueueTask} {outcome : Outcome α} {a : α}

theorem value_eq (h : RewritesLast s task new outcome a) : outcome.value = .ok a := by
  obtain ⟨_, _, _, _, _, rfl⟩ := h
  rfl

/-- Cut after its first writes, the call left the queue as it was or rewrote it. -/
theorem tasks_take (h : RewritesLast s task new outcome a) (written : Nat) :
    (s.applyAll (outcome.writes.take written)).tasks = s.tasks ∨
      (s.applyAll (outcome.writes.take written)).tasks = (s.applyAll outcome.writes).tasks := by
  obtain ⟨pre, post, rest, -, hkeeps, rfl⟩ := h
  have htasks : (s.applyAll (Write.queue (pre ++ new :: post) :: rest)).tasks = pre ++ new :: post :=
    hkeeps.tasks_eq (s.apply (.queue (pre ++ new :: post)))
  rw [htasks]
  exact tasks_take_queue hkeeps s written

/-- The entry it left is the latest one. -/
theorem latest (h : RewritesLast s task new outcome a) (hid : new.id = task.id) :
    latestTask? (s.applyAll outcome.writes).tasks task.id = some new := by
  obtain ⟨pre, post, rest, hlast, hkeeps, rfl⟩ := h
  have htasks : (s.applyAll (Write.queue (pre ++ new :: post) :: rest)).tasks = pre ++ new :: post :=
    hkeeps.tasks_eq (s.apply (.queue (pre ++ new :: post)))
  show latestTask? (s.applyAll (Write.queue (pre ++ new :: post) :: rest)).tasks task.id = some new
  rw [htasks, latestTask?_rewritten hlast hid, if_pos rfl]

/-- Live entries stay last. -/
theorem liveQueue (h : RewritesLast s task new outcome a) (hid : new.id = task.id)
    (hlive : LiveQueue s.tasks) : LiveQueue (s.applyAll outcome.writes).tasks := by
  obtain ⟨pre, post, rest, hlast, hkeeps, rfl⟩ := h
  have htasks : (s.applyAll (Write.queue (pre ++ new :: post) :: rest)).tasks = pre ++ new :: post :=
    hkeeps.tasks_eq (s.apply (.queue (pre ++ new :: post)))
  show LiveQueue (s.applyAll (Write.queue (pre ++ new :: post) :: rest)).tasks
  rw [htasks]
  have hqueue : KeyedLog.LiveLast QueueTask.id (fun task => task.status.isActive)
      (pre ++ task :: post) := by
    rw [← hlast.eq_append]
    exact hlive
  exact KeyedLog.LiveLast.replace hqueue hid fun _ => hlast.fresh

end RewritesLast

/-- An `_update_task` followed by evidence. -/
theorem rewritesLast_updateTask {task : QueueTask} {status : TaskStatus} {now : String}
    {attemptsDelta : Nat} {lastCommit lastError : Option String} {next : QueueTask → StoreM α} {a : α}
    (hlatest : latestTask? s.tasks workItemId = some task)
    (hnext : ∀ s', KeepsQueue (next (updatedTask task status now attemptsDelta lastCommit lastError)
      s').writes ∧ (next (updatedTask task status now attemptsDelta lastCommit lastError) s').value =
        .ok a) :
    RewritesLast s task (updatedTask task status now attemptsDelta lastCommit lastError)
      ((updateTask workItemId status now attemptsDelta lastCommit lastError >>= next) s) a := by
  obtain ⟨pre, post, hlast, hrun⟩ :=
    updateTask_run status now attemptsDelta lastCommit lastError hlatest
  obtain ⟨hkeeps, hvalue⟩ := hnext (s.applyAll
    [.queue (pre ++ updatedTask task status now attemptsDelta lastCommit lastError :: post)])
  refine ⟨pre, post, _, hlast, hkeeps, ?_⟩
  rw [LlmHarness.bind_of_ok hrun, hvalue]
  rfl

/-! ## `record_result` -/

/-- No recorded result leaves its task running. -/
theorem ResultReport.status_ne_running (report : ResultReport) : report.status ≠ .running := by
  intro h
  rcases resultStatus_cases report.result report.reviewRequired with hstatus | hstatus | hstatus
  all_goals
    rw [ResultReport.status, hstatus] at h
    cases h

/-- The entry `record_result` leaves. -/
def recordedTask (report : ResultReport) (current : QueueTask) : QueueTask :=
  updatedTask current report.status report.updatedAt 0 report.result.commit report.expectedError

/-- The history record it appends. -/
def recordedRun (report : ResultReport) (current : QueueTask) : RunRecord :=
  runRecord report.selectedRunId report.startedAtUtc report.finishedAt (recordedTask report current)
    report.result

/-- The journal event it writes. -/
def recordedEvent (report : ResultReport) (current : QueueTask) : JournalEvent where
  eventType := .stateTransition
  actor := "supervisor"
  action := "task.run_recorded"
  transition := some ⟨some .running, report.status⟩
  content := .obj [("ok", .bool report.result.ok)]
  taskId := some current.id
  runId := some report.selectedRunId

/-- `record_result` of a running task under a fresh run id: its three writes. -/
theorem recordResult_run {report : ResultReport} {current : QueueTask}
    (hfresh : ∀ item ∈ s.history, item.runId ≠ report.selectedRunId)
    (hlatest : latestTask? s.tasks report.workItemId = some current)
    (hrunning : current.status = .running) :
    ∃ pre post, KeyedLog.IsLast QueueTask.id s.tasks pre current post ∧
      recordResult report s = ⟨[.queue (pre ++ recordedTask report current :: post),
        .history (recordedRun report current), .journal (recordedEvent report current)],
        .ok (recordedRun report current)⟩ := by
  have hnone : s.history.find? (fun item => decide (item.runId = report.selectedRunId)) = none :=
    List.find?_eq_none.mpr fun item hitem => by simpa using hfresh item hitem
  have hother : ¬ (current.status = report.status ∧ current.lastCommit = report.result.commit ∧
      current.lastError = report.expectedError) := fun h =>
    report.status_ne_running (h.1.symm.trans hrunning)
  obtain ⟨pre, post, hlast, hrun⟩ := updateTask_run report.status report.updatedAt 0
    report.result.commit report.expectedError hlatest
  refine ⟨pre, post, hlast, ?_⟩
  rw [recordResult, read_bind, hnone]
  dsimp only
  rw [getTask_bind_some _ hlatest, if_neg hother, if_neg (not_not_intro hrunning),
    LlmHarness.bind_of_ok hrun]
  rfl

theorem rewritesLast_recordResult {report : ResultReport} {current : QueueTask}
    (hfresh : ∀ item ∈ s.history, item.runId ≠ report.selectedRunId)
    (hlatest : latestTask? s.tasks report.workItemId = some current)
    (hrunning : current.status = .running) :
    RewritesLast s current (recordedTask report current) (recordResult report s)
      (recordedRun report current) := by
  obtain ⟨pre, post, hlast, hrun⟩ := recordResult_run hfresh hlatest hrunning
  exact ⟨pre, post, _, hlast, by simp [KeepsQueue], hrun⟩

/-! ## `record_failure` and `recover_running` -/

theorem rewritesLast_recordFailure (startedAtUtc error updatedAt finishedAt freshRunId : String)
    {task : QueueTask} (hlatest : latestTask? s.tasks workItemId = some task) :
    ∃ record, RewritesLast s task (updatedTask task .failed updatedAt 0 none (some error))
      (recordFailure workItemId startedAtUtc error updatedAt finishedAt freshRunId s) record :=
  ⟨_, rewritesLast_updateTask hlatest fun _ => ⟨by simp [KeepsQueue, transitionEvent], rfl⟩⟩

theorem rewritesLast_recoverRunning (reason now : String) {task : QueueTask}
    (hlatest : latestTask? s.tasks workItemId = some task) (hrunning : task.status = .running) :
    RewritesLast s task (updatedTask task .queued now 0 task.lastCommit (some reason))
      (recoverRunning workItemId reason now s)
      (updatedTask task .queued now 0 task.lastCommit (some reason)) := by
  rw [recoverRunning, getTask_bind_some _ hlatest, if_neg (not_not_intro hrunning)]
  exact rewritesLast_updateTask hlatest fun _ => ⟨by simp [KeepsQueue, transitionEvent], rfl⟩

/-! ## The review setup -/

end LlmHarness
