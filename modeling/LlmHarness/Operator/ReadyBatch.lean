/-
  LlmHarness.Operator.ReadyBatch

  `_run_ready_batch` and `_run_next_queued_task`: which exceptions are caught,
  and what is recorded for each task the call claims.  What the store, the
  ledger, the workers and the supervisor answer is an argument of the call: the
  claims of other processes show in the batch that is claimed, which need not be
  the one that was scheduled.
-/

import Mathlib.Data.List.Count
import LlmHarness.Domain
import LlmHarness.Lib.Raising
import LlmHarness.State.Recording

namespace LlmHarness

open Raising

/-! ## Answers -/

/-- The exceptions the handlers tell apart. -/
inductive HarnessError where
  | lockContended (message : String)
  | stateStore (message : String)
  | other (message : String)
deriving DecidableEq, Repr

/-- One outcome of a call. -/
structure RunOutcome where
  empty : Bool := false
  dependencyBlocked : Bool := false
  taskId : Option String := none
  runId : Option String := none
  result : Option HarnessRunResult := none
  error : Option HarnessError := none
  reviewBundle : Option String := none
  criticReview : Option String := none
  lifecycleStatus : String

/-- What is answered before a claim. -/
structure SetupAnswers where
  /-- `_startup_reconcile`: whether operations block. -/
  startup : Except HarnessError Bool
  /-- `_reconcile_pending_review_setup`. -/
  reviewSetup : Except HarnessError Unit

/-- What is answered while one task is executed and recorded. -/
structure TaskAnswers where
  /-- The run id of its operation context. -/
  runId : String
  /-- The worker's completion; only its exception matters here. -/
  collect : Except HarnessError Unit
  /-- `execute_worker_completion`. -/
  execute : Except HarnessError HarnessRunResult
  recoverRunning : Except HarnessError Unit
  /-- `reconcile(auto_complete_state=True)`: whether operations block. -/
  reconcile : Except HarnessError Bool
  /-- `record_failure`: the id of its record. -/
  recordFailure : Except HarnessError String
  /-- `record_result`: the id of its record. -/
  recordResult : Except HarnessError String
  /-- The ledger calls of `_record_worker_result`. -/
  finishLedger : Except HarnessError Unit
  /-- The export, the attachment and the automatic review: the bundle and the status the critic
      left. -/
  setUpReview : Except HarnessError (String × Option String)
  /-- The bundle exported before the setup failed. -/
  exported : Option String
  /-- The status after a failed setup, with `fail_review_setup` where no bundle is attached. -/
  failSetup : Except HarnessError String

/-- What `claim_next` does. -/
inductive NextClaim where
  | claimed (taskId : String)
  | nothing
  /-- The call raised, with the task it had already started, if it had. -/
  | raised (started : Option String) (e : HarnessError)

/-- What a call of `_run_next_queued_task` is answered. -/
structure NextView where
  setup : SetupAnswers
  /-- `schedule`: the selected task, and whether tasks wait. -/
  schedule : Except HarnessError (Option String × Bool)
  claimNext : NextClaim
  /-- `list_tasks` after a refused claim: whether the selected task is escalated. -/
  listTasks : Except HarnessError Bool
  /-- `schedule` after a claim of nothing. -/
  scheduleAgain : Except HarnessError Unit
  task : TaskAnswers

/-- The ids of a batch: `claim_batch` claims no task twice. -/
abbrev BatchIds := {ids : List String // ids.Nodup}

/-- What a call of `_run_ready_batch` is answered. -/
structure BatchView where
  reviewRequired : Bool
  setup : SetupAnswers
  /-- `schedule_batch`: the number of tasks. -/
  scheduleBatch : Except HarnessError Nat
  /-- The tasks `claim_batch` started. -/
  started : BatchIds
  claimBatch : Except HarnessError Unit
  /-- `journal.record` of the batch. -/
  announce : Except HarnessError Unit
  /-- The submissions to the thread pool. -/
  submit : Except HarnessError Unit
  task : String → TaskAnswers
  next : NextView

/-! ## The calls -/

/-- What a call did to its tasks. -/
structure BatchRun where
  /-- The tasks the call started. -/
  claimed : List String := []
  /-- The tasks it took out of `running`: by a run record or a requeue. -/
  left : List String := []

/-- A call. -/
abbrev BatchM (α : Type) : Type := Raising BatchRun HarnessError α

/-- An answer of the store, the ledger or the journal. -/
def ask {α : Type} (result : Except HarnessError α) : BatchM α := answer id result

/-- The call started these tasks. -/
def start (ids : List String) : BatchM Unit := change fun run => { run with claimed := run.claimed ++ ids }

/-- The call took the task out of `running`. -/
def leave (taskId : String) : BatchM Unit := change fun run => { run with left := run.left ++ [taskId] }

/-- `record_failure` and its outcome. -/
def failTask (answers : TaskAnswers) (taskId : String) (e : HarnessError) : BatchM RunOutcome := do
  let runId ← ask answers.recordFailure
  leave taskId
  return { taskId := some taskId, runId := some runId, error := some e, lifecycleStatus := "failed" }

/-- `_record_worker_result`. -/
def recordWorkerResult (reviewRequired : Bool) (answers : TaskAnswers) (taskId : String)
    (result : HarnessRunResult) : BatchM RunOutcome := do
  let runId ← ask answers.recordResult
  leave taskId
  ask answers.finishLedger
  if reviewRequired && result.ok then
    match answers.setUpReview with
    | .ok (bundle, critic) =>
      return { taskId := some taskId, runId := some runId, result := some result,
               reviewBundle := some bundle, criticReview := critic,
               lifecycleStatus := critic.getD "review_pending" }
    | .error e =>
      let status ← ask answers.failSetup
      return { taskId := some taskId, runId := some runId, result := some result, error := some e,
               reviewBundle := answers.exported, lifecycleStatus := status }
  else
    return { taskId := some taskId, runId := some runId, result := some result,
             lifecycleStatus := if result.ok then "done" else "failed" }

/-- The outcome of a task whose operation blocks. -/
def blockedOutcome (answers : TaskAnswers) (taskId : String) (e : HarnessError) : RunOutcome where
  taskId := some taskId
  runId := some answers.runId
  error := some e
  lifecycleStatus := "reconciliation_blocked"

/-- The execution of a task with its two handlers. -/
def executeTask (reviewRequired : Bool) (answers : TaskAnswers) (taskId : String) :
    BatchM RunOutcome :=
  match answers.execute with
  | .ok result => recordWorkerResult reviewRequired answers taskId result
  | .error (.lockContended message) => do
    ask answers.recoverRunning
    leave taskId
    return { taskId := some taskId, error := some (.lockContended message),
             lifecycleStatus := "claim_contended" }
  | .error e => do
    let blocking ← ask answers.reconcile
    if blocking then return blockedOutcome answers taskId e
    else failTask answers taskId e

/-- What a call comes to before it claims: an outcome that ends it, or nothing. -/
def prepareRun (setup : SetupAnswers) : BatchM (Option RunOutcome) :=
  match setup.startup with
  | .error (.lockContended message) =>
    return some { error := some (.lockContended message), lifecycleStatus := "claim_contended" }
  | .error e => raise e
  | .ok true =>
    return some { error := some (.other "Unresolved canonical operation blocks Worker execution."),
                  lifecycleStatus := "reconciliation_blocked" }
  | .ok false => do
    ask setup.reviewSetup
    return none

/-- `_run_next_queued_task` from its claim on. -/
def claimAndRun (reviewRequired : Bool) (view : NextView) (selected : String) : BatchM RunOutcome :=
  match view.claimNext with
  | .raised started (.stateStore message) => do
    start started.toList
    let escalated ← ask view.listTasks
    return { taskId := some selected, error := some (.stateStore message),
             lifecycleStatus := if escalated then "escalated" else "claim_contended" }
  | .raised started e => do
    start started.toList
    raise e
  | .nothing => do
    ask view.scheduleAgain
    return { empty := true, lifecycleStatus := "empty" }
  | .claimed taskId => do
    start [taskId]
    executeTask reviewRequired view.task taskId

/-- `_run_next_queued_task`. -/
def runNextQueuedTask (reviewRequired : Bool) (view : NextView) : BatchM RunOutcome := do
  match ← prepareRun view.setup with
  | some outcome => return outcome
  | none =>
    match ← ask view.schedule with
    | (none, true) =>
      return { dependencyBlocked := true
               error := some (.stateStore
                 "Queued tasks are waiting for dependencies; no task is runnable.")
               lifecycleStatus := "dependency_blocked" }
    | (none, false) => return { empty := true, lifecycleStatus := "empty" }
    | (some selected, _) => claimAndRun reviewRequired view selected

/-- One task of the batch: what its worker raised is recorded at once. -/
def integrateTask (view : BatchView) (taskId : String) : BatchM RunOutcome :=
  match (view.task taskId).collect with
  | .error e => failTask (view.task taskId) taskId e
  | .ok () => executeTask view.reviewRequired (view.task taskId) taskId

/-- The loop over the batch. -/
def integrateBatch (view : BatchView) : List String → BatchM (List RunOutcome)
  | [] => pure []
  | taskId :: taskIds => do
    let outcome ← integrateTask view taskId
    let outcomes ← integrateBatch view taskIds
    return outcome :: outcomes

/-- `_run_ready_batch` from the claim of its batch on. -/
def claimAndIntegrate (view : BatchView) : BatchM (List RunOutcome) := do
  start view.started.val
  ask view.claimBatch
  ask view.announce
  if view.started.val = [] then raise (.other "max_workers must be greater than 0")
  else
    ask view.submit
    integrateBatch view view.started.val

/-- `_run_ready_batch`, with a limit over one. -/
def runReadyBatch (view : BatchView) : BatchM (List RunOutcome) := do
  match ← prepareRun view.setup with
  | some outcome => return [outcome]
  | none =>
    let scheduled ← ask view.scheduleBatch
    if scheduled ≤ 1 then
      let outcome ← runNextQueuedTask view.reviewRequired view.next
      return [outcome]
    else claimAndIntegrate view

/-! ## Accounting -/

/-- The task left `running`, or is reported as blocked. -/
def Settled (run : BatchRun) (outcomes : List RunOutcome) (taskId : String) : Prop :=
  taskId ∈ run.left ∨ ∃ outcome ∈ outcomes, outcome.taskId = some taskId ∧
    outcome.lifecycleStatus = "reconciliation_blocked"

/-- A call that claims nothing returns an outcome; a call that claims tasks returns exactly one
    outcome for each and leaves none of them running. -/
structure Accounted (call : Except HarnessError (List RunOutcome) × BatchRun) : Prop where
  idle : call.2.claimed = [] → ∃ outcomes, call.1 = .ok outcomes ∧ outcomes ≠ []
  claimed : ∀ taskId ∈ call.2.claimed, ∃ outcomes, call.1 = .ok outcomes ∧
    Settled call.2 outcomes taskId ∧
    (outcomes.countP fun outcome => outcome.taskId = some taskId) = 1

/-- Recording the result raises nothing. -/
def ResultRecorded (reviewRequired : Bool) (answers : TaskAnswers) (result : HarnessRunResult) :
    Prop :=
  answers.recordResult.isOk ∧ answers.finishLedger.isOk ∧
    ((reviewRequired && result.ok) = true → answers.setUpReview.isOk ∨ answers.failSetup.isOk)

/-- The handler of an execution raises nothing. -/
def ExecutionRecorded (reviewRequired : Bool) (answers : TaskAnswers) : Prop :=
  match answers.execute with
  | .ok result => ResultRecorded reviewRequired answers result
  | .error (.lockContended _) => answers.recoverRunning.isOk
  | .error _ => answers.reconcile = .ok true ∨ answers.reconcile = .ok false ∧ answers.recordFailure.isOk

/-- Recording a task of the batch raises nothing. -/
def TaskRecorded (view : BatchView) (taskId : String) : Prop :=
  match (view.task taskId).collect with
  | .error _ => (view.task taskId).recordFailure.isOk
  | .ok () => ExecutionRecorded view.reviewRequired (view.task taskId)

/-- The setup ends the call with an outcome. -/
def SetupEnds (setup : SetupAnswers) : Prop :=
  setup.startup = .ok true ∨ ∃ message, setup.startup = .error (.lockContended message)

/-- The setup lets the call go on. -/
def SetupPasses (setup : SetupAnswers) : Prop := setup.startup = .ok false ∧ setup.reviewSetup.isOk

/-- The claim of a single task and its record raise nothing, and a refused claim started nothing. -/
def ClaimRecorded (reviewRequired : Bool) (view : NextView) : Prop :=
  match view.claimNext with
  | .raised started (.stateStore _) => started = none ∧ view.listTasks.isOk
  | .raised _ _ => False
  | .nothing => view.scheduleAgain.isOk
  | .claimed _ => ExecutionRecorded reviewRequired view.task

/-- A single task is claimed and recorded, or nothing is claimed and an outcome says so. -/
def NextRecorded (reviewRequired : Bool) (view : NextView) : Prop :=
  SetupEnds view.setup ∨ SetupPasses view.setup ∧ ∃ selected waiting,
    view.schedule = .ok (selected, waiting) ∧
      (selected = none ∨ ClaimRecorded reviewRequired view)

/-- The batch is claimed, is not empty, and recording it raises nothing. -/
structure BatchRecorded (view : BatchView) : Prop where
  claimed : view.claimBatch.isOk
  announced : view.announce.isOk
  started : view.started.val ≠ []
  submitted : view.submit.isOk
  tasks : ∀ taskId ∈ view.started.val, TaskRecorded view taskId

/-- Nothing that the call does not catch raises, and the claimed batch is not empty. -/
def NothingRaises (view : BatchView) : Prop :=
  SetupEnds view.setup ∨ SetupPasses view.setup ∧ ∃ scheduled, view.scheduleBatch = .ok scheduled ∧
    if scheduled ≤ 1 then NextRecorded view.reviewRequired view.next else BatchRecorded view

/-! ## Recording one task -/

section

variable {reviewRequired : Bool} {answers : TaskAnswers} {taskId : String} {run : BatchRun}

/-- The call ends with one outcome of the task, which is settled. -/
def EndsSettled (taskId : String) (run : BatchRun) (call : Except HarnessError RunOutcome × BatchRun) :
    Prop :=
  ∃ outcome left, call = (.ok outcome, { run with left := run.left ++ left }) ∧
    outcome.taskId = some taskId ∧
    (left = [taskId] ∨ left = [] ∧ outcome.lifecycleStatus = "reconciliation_blocked")

/-- The call raises, and the tasks it started stay as they are. -/
def Raises {α : Type} (run : BatchRun) (call : Except HarnessError α × BatchRun) : Prop :=
  ∃ e run', call = (.error e, run') ∧ run'.claimed = run.claimed

theorem ask_bind_ok {α β : Type} {result : Except HarnessError α} {a : α} (h : result = .ok a)
    (next : α → BatchM β) : (ask result >>= next) run = next a run := by
  rw [h]
  rfl

theorem ask_bind_error {α β : Type} {result : Except HarnessError α} {e : HarnessError}
    (h : result = .error e) (next : α → BatchM β) :
    (ask result >>= next) run = (.error e, run) := by
  rw [h]
  rfl

/-- The call ends settled exactly when its records are made, and raises otherwise. -/
def Decides (recorded : Prop) (taskId : String) (run : BatchRun)
    (call : Except HarnessError RunOutcome × BatchRun) : Prop :=
  recorded ∧ EndsSettled taskId run call ∨ ¬ recorded ∧ Raises run call

theorem failTask_decides (answers : TaskAnswers) (taskId : String) (run : BatchRun)
    (e : HarnessError) :
    Decides answers.recordFailure.isOk taskId run (failTask answers taskId e run) := by
  cases hrecord : answers.recordFailure with
  | ok runId =>
      rw [failTask, ask_bind_ok hrecord]
      exact Or.inl ⟨rfl, _, [taskId], rfl, rfl, Or.inl rfl⟩
  | error e' =>
      rw [failTask, ask_bind_error hrecord]
      exact Or.inr ⟨fun h => (nomatch h), _, _, rfl, rfl⟩

theorem recordWorkerResult_decides (result : HarnessRunResult) :
    Decides (ResultRecorded reviewRequired answers result) taskId run
      (recordWorkerResult reviewRequired answers taskId result run) := by
  -- the state, the ledger and, where the result asks for it, the review setup may raise
  cases hrecord : answers.recordResult with
  | error e =>
      rw [recordWorkerResult, ask_bind_error hrecord]
      refine Or.inr ⟨fun h => ?_, _, _, rfl, rfl⟩
      rw [ResultRecorded, hrecord] at h
      cases h.1
  | ok runId =>
      cases hledger : answers.finishLedger with
      | error e =>
          rw [recordWorkerResult, ask_bind_ok hrecord, leave, change_bind, ask_bind_error hledger]
          refine Or.inr ⟨fun h => ?_, _, _, rfl, rfl⟩
          rw [ResultRecorded, hledger] at h
          cases h.2.1
      | ok finished =>
          have hrecorded : ResultRecorded reviewRequired answers result ↔
              ((reviewRequired && result.ok) = true →
                answers.setUpReview.isOk ∨ answers.failSetup.isOk) := by
            rw [ResultRecorded, hrecord, hledger]
            exact ⟨fun h => h.2.2, fun h => ⟨rfl, rfl, h⟩⟩
          rw [hrecorded, recordWorkerResult, ask_bind_ok hrecord, leave, change_bind,
            ask_bind_ok hledger]
          -- a setup that fails is recorded as failed, and only that recording may raise again
          by_cases hrequired : (reviewRequired && result.ok) = true
          · rw [if_pos hrequired]
            cases hsetup : answers.setUpReview with
            | ok review =>
                exact Or.inl ⟨fun _ => Or.inl rfl, _, [taskId], rfl, rfl, Or.inl rfl⟩
            | error e =>
                cases hfail : answers.failSetup with
                | ok status =>
                    exact Or.inl ⟨fun _ => Or.inr rfl, _, [taskId], rfl, rfl, Or.inl rfl⟩
                | error e' =>
                    refine Or.inr ⟨fun h => ?_, _, _, rfl, rfl⟩
                    rcases h hrequired with h | h
                    · cases h
                    · cases h
          · rw [if_neg hrequired]
            exact Or.inl ⟨fun h => absurd h hrequired, _, [taskId], rfl, rfl, Or.inl rfl⟩

/-- The two handlers of an execution. -/
theorem executeTask_decides (reviewRequired : Bool) (answers : TaskAnswers) (taskId : String)
    (run : BatchRun) :
    Decides (ExecutionRecorded reviewRequired answers) taskId run
      (executeTask reviewRequired answers taskId run) := by
  -- a fault of the worker ends in the ledger's blocking records or as a failed task
  have hreconciled : ∀ e, Decides (answers.reconcile = .ok true ∨
      answers.reconcile = .ok false ∧ answers.recordFailure.isOk) taskId run
      ((do
        let blocking ← ask answers.reconcile
        if blocking then return blockedOutcome answers taskId e
        else failTask answers taskId e : BatchM RunOutcome) run) := by
    intro e
    cases hreconcile : answers.reconcile with
    | error e' =>
        rw [ask_bind_error rfl]
        refine Or.inr ⟨fun h => ?_, _, _, rfl, rfl⟩
        rcases h with h | h
        · cases h
        · cases h.1
    | ok blocking =>
        rw [ask_bind_ok rfl]
        cases blocking with
        | true =>
            have hsame : { run with left := run.left ++ [] } = run := by rw [List.append_nil]
            refine Or.inl ⟨Or.inl rfl, blockedOutcome answers taskId e, [], ?_, rfl,
              Or.inr ⟨rfl, rfl⟩⟩
            rw [hsame]
            rfl
        | false =>
            have hfail := failTask_decides answers taskId run e
            rcases hfail with ⟨hrecord, hends⟩ | ⟨hrecord, hraises⟩
            · exact Or.inl ⟨Or.inr ⟨rfl, hrecord⟩, hends⟩
            · refine Or.inr ⟨fun h => ?_, hraises⟩
              rcases h with h | h
              · cases h
              · exact hrecord h.2
  rw [ExecutionRecorded, executeTask]
  cases hexecute : answers.execute with
  | ok result => exact recordWorkerResult_decides result
  | error e =>
      cases e with
      -- contention hands the task back; the other two are reconciled
      | lockContended message =>
          cases hrecover : answers.recoverRunning with
          | ok recovered => exact Or.inl ⟨rfl, _, [taskId], rfl, rfl, Or.inl rfl⟩
          | error e' => exact Or.inr ⟨fun h => (nomatch h), _, _, rfl, rfl⟩
      | stateStore message => exact hreconciled _
      | other message => exact hreconciled _

/-! ## The batch -/

variable {view : BatchView}

theorem integrateTask_decides (view : BatchView) (taskId : String) (run : BatchRun) :
    Decides (TaskRecorded view taskId) taskId run (integrateTask view taskId run) := by
  rw [TaskRecorded, integrateTask]
  cases (view.task taskId).collect with
  | ok collected => exact executeTask_decides _ _ taskId run
  | error e => exact failTask_decides _ taskId run e

/-- The batch ends with one settled outcome for each task, in order. -/
def BatchSettled (taskIds : List String) (run : BatchRun)
    (call : Except HarnessError (List RunOutcome) × BatchRun) : Prop :=
  ∃ outcomes left, call = (.ok outcomes, { run with left := run.left ++ left }) ∧
    outcomes.map RunOutcome.taskId = taskIds.map some ∧
    ∀ taskId ∈ taskIds, taskId ∈ left ∨ ∃ outcome ∈ outcomes, outcome.taskId = some taskId ∧
      outcome.lifecycleStatus = "reconciliation_blocked"

/-- The loop over the batch settles every task, or raises. -/
theorem integrateBatch_decides (view : BatchView) (taskIds : List String) (run : BatchRun) :
    (∀ taskId ∈ taskIds, TaskRecorded view taskId) ∧
        BatchSettled taskIds run (integrateBatch view taskIds run) ∨
      ¬ (∀ taskId ∈ taskIds, TaskRecorded view taskId) ∧
        Raises run (integrateBatch view taskIds run) := by
  induction taskIds generalizing run with
  | nil =>
      refine Or.inl ⟨fun _ h => (nomatch h), [], [], ?_, rfl, fun _ h => (nomatch h)⟩
      rw [List.append_nil]
      rfl
  | cons taskId taskIds ih =>
      rw [integrateBatch, List.forall_mem_cons]
      -- the tasks are integrated in turn, and the first that raises ends the batch
      rcases integrateTask_decides view taskId run with
        ⟨hrecorded, outcome, left, hcall, hid, hsettled⟩ | ⟨hrecorded, e, run', hcall, hclaimed⟩
      · rw [Raising.bind_of_ok hcall]
        rcases ih { run with left := run.left ++ left } with
          ⟨hrest, outcomes, left', hcalls, hids, hall⟩ | ⟨hrest, e, run', hcalls, hclaimed⟩
        · rw [Raising.bind_of_ok hcalls]
          refine Or.inl ⟨⟨hrecorded, hrest⟩, outcome :: outcomes, left ++ left', ?_, ?_, ?_⟩
          · rw [← List.append_assoc]
            rfl
          · rw [List.map_cons, List.map_cons, hid, hids]
          · intro other hother
            -- a task is settled by its own integration or by one of the rest
            rcases List.mem_cons.mp hother with rfl | hother
            · rcases hsettled with rfl | ⟨rfl, hblocked⟩
              · exact Or.inl (List.mem_append_left _ (List.mem_singleton_self _))
              · exact Or.inr ⟨outcome, List.mem_cons_self .., hid, hblocked⟩
            · rcases hall other hother with hleft | ⟨outcome', hmem, houtcome⟩
              · exact Or.inl (List.mem_append_right _ hleft)
              · exact Or.inr ⟨outcome', List.mem_cons_of_mem _ hmem, houtcome⟩
        · rw [Raising.bind_of_error hcalls]
          exact Or.inr ⟨fun h => hrest h.2, _, _, rfl, hclaimed⟩
      · rw [Raising.bind_of_error hcall]
        exact Or.inr ⟨fun h => hrecorded h.1, _, _, rfl, hclaimed⟩

/-- A settled batch of distinct tasks is accounted. -/
theorem accounted_of_batchSettled {taskIds : List String} {run : BatchRun}
    {call : Except HarnessError (List RunOutcome) × BatchRun} (hnodup : taskIds.Nodup)
    (hnonempty : taskIds ≠ []) (hclaimed : run.claimed = taskIds)
    (h : BatchSettled taskIds run call) : Accounted call := by
  obtain ⟨outcomes, left, rfl, hids, hall⟩ := h
  have hsame : ({ run with left := run.left ++ left } : BatchRun).claimed = taskIds := hclaimed
  refine ⟨fun hnone => absurd (hsame.symm.trans hnone) hnonempty, fun taskId htask => ?_⟩
  have hmem : taskId ∈ taskIds := hsame ▸ htask
  refine ⟨outcomes, rfl, ?_, ?_⟩
  · rcases hall taskId hmem with hleft | hblocked
    · exact Or.inl (List.mem_append_right _ hleft)
    · exact Or.inr hblocked
  · have hcount : (outcomes.countP fun outcome => outcome.taskId = some taskId) =
        (taskIds.map some).count (some taskId) := by
      rw [← hids, List.count, List.countP_map]
      refine List.countP_congr fun outcome _ => ?_
      simp
    rw [hcount, List.count_map_of_injective _ _ (Option.some_injective _)]
    exact List.count_eq_one_of_mem hnodup hmem

/-- A call that raises is not accounted. -/
theorem not_accounted_of_error {call : Except HarnessError (List RunOutcome) × BatchRun}
    {e : HarnessError} (h : call.1 = .error e) : ¬ Accounted call := by
  intro haccounted
  by_cases hnone : call.2.claimed = []
  · obtain ⟨outcomes, hcall, -⟩ := haccounted.idle hnone
    rw [h] at hcall
    cases hcall
  · obtain ⟨taskId, htask⟩ := List.exists_mem_of_ne_nil _ hnone
    obtain ⟨outcomes, hcall, -⟩ := haccounted.claimed taskId htask
    rw [h] at hcall
    cases hcall

/-- A call that claimed nothing and returned an outcome is accounted. -/
theorem accounted_idle (outcome : RunOutcome) : Accounted (.ok [outcome], {}) where
  idle _ := ⟨_, rfl, List.cons_ne_nil _ _⟩
  claimed _ h := (nomatch h)

/-! ## The calls -/

/-- What happens before a claim. -/
theorem prepareRun_cases (setup : SetupAnswers) (run : BatchRun) :
    (SetupEnds setup ∧ ∃ outcome, prepareRun setup run = (.ok (some outcome), run)) ∨
      (¬ SetupEnds setup ∧ SetupPasses setup ∧ prepareRun setup run = (.ok none, run)) ∨
      (¬ SetupEnds setup ∧ ¬ SetupPasses setup ∧ ∃ e, prepareRun setup run = (.error e, run)) := by
  have hends : ∀ result, setup.startup = result → (SetupEnds setup ↔
      result = .ok true ∨ ∃ message, result = .error (.lockContended message)) :=
    fun result hresult => hresult ▸ Iff.rfl
  have hpasses : ∀ result, setup.startup = result →
      (SetupPasses setup ↔ result = .ok false ∧ setup.reviewSetup.isOk) :=
    fun result hresult => hresult ▸ Iff.rfl
  rw [prepareRun]
  -- the startup ends the run, raises, or lets it go on to the review setup
  cases hstartup : setup.startup with
  | error e =>
      have hnotPasses : ¬ SetupPasses setup := fun h => (nomatch ((hpasses _ hstartup).mp h).1)
      have hraised : (∀ message, e ≠ .lockContended message) → ¬ SetupEnds setup := by
        intro hne h
        rcases (hends _ hstartup).mp h with h | ⟨message, h⟩
        · cases h
        · exact hne message (Except.error.inj h)
      -- contention at the startup is an outcome of its own
      cases e with
      | lockContended message =>
          exact Or.inl ⟨(hends _ hstartup).mpr (Or.inr ⟨message, rfl⟩), _, rfl⟩
      | stateStore message =>
          exact Or.inr (Or.inr ⟨hraised (fun _ => HarnessError.noConfusion), hnotPasses, _, rfl⟩)
      | other message =>
          exact Or.inr (Or.inr ⟨hraised (fun _ => HarnessError.noConfusion), hnotPasses, _, rfl⟩)
  | ok blocking =>
      cases blocking with
      | true => exact Or.inl ⟨(hends _ hstartup).mpr (Or.inl rfl), _, rfl⟩
      | false =>
          have hnotEnds : ¬ SetupEnds setup := by
            intro h
            rcases (hends _ hstartup).mp h with h | ⟨message, h⟩
            · cases h
            · cases h
          cases hreview : setup.reviewSetup with
          | ok reviewed =>
              exact Or.inr (Or.inl ⟨hnotEnds, (hpasses _ hstartup).mpr ⟨rfl, hreview ▸ rfl⟩,
                rfl⟩)
          | error e =>
              refine Or.inr (Or.inr ⟨hnotEnds, fun h => ?_, e, rfl⟩)
              have hok := ((hpasses _ hstartup).mp h).2
              rw [hreview] at hok
              cases hok

/-- The outcomes of a call that returns one. -/
def single (call : Except HarnessError RunOutcome × BatchRun) :
    Except HarnessError (List RunOutcome) × BatchRun :=
  (call.1.map fun outcome => [outcome], call.2)

theorem accounted_of_endsSettled {call : Except HarnessError RunOutcome × BatchRun}
    (h : EndsSettled taskId { claimed := [taskId] } call) : Accounted (single call) := by
  obtain ⟨outcome, left, rfl, hid, hsettled⟩ := h
  refine accounted_of_batchSettled (List.nodup_singleton taskId) (List.cons_ne_nil _ _) rfl
    ⟨[outcome], left, rfl, ?_, ?_⟩
  · rw [List.map_singleton, hid]
    rfl
  · intro other hother
    rw [List.mem_singleton.mp hother]
    rcases hsettled with rfl | ⟨-, hblocked⟩
    · exact Or.inl (List.mem_singleton_self _)
    · exact Or.inr ⟨outcome, List.mem_singleton_self _, hid, hblocked⟩

/-- A claim that raised or claimed nothing. -/
theorem claimAndRun_accounted (view : NextView) (selected : String) :
    Accounted (single (claimAndRun reviewRequired view selected {})) ↔
      ClaimRecorded reviewRequired view := by
  rw [ClaimRecorded, claimAndRun]
  cases hclaim : view.claimNext with
  -- a claim that raised may have left a task running
  | claimed taskId =>
      show Accounted (single (executeTask reviewRequired view.task taskId { claimed := [taskId] })) ↔ _
      rcases executeTask_decides reviewRequired view.task taskId { claimed := [taskId] } with
        ⟨hrecorded, hends⟩ | ⟨hrecorded, e, run', hcall, -⟩
      · exact iff_of_true (accounted_of_endsSettled hends) hrecorded
      · rw [hcall]
        exact iff_of_false (not_accounted_of_error rfl) hrecorded
  | nothing =>
      cases hagain : view.scheduleAgain with
      | ok again => exact iff_of_true (accounted_idle _) rfl
      | error e => exact iff_of_false (not_accounted_of_error rfl) (fun h => (nomatch h))
  | raised started e =>
      cases e with
      | stateStore message =>
          cases hlist : view.listTasks with
          | error e => exact iff_of_false (not_accounted_of_error rfl) (fun h => (nomatch h.2))
          | ok escalated =>
              cases started with
              | none => exact iff_of_true (accounted_idle _) ⟨rfl, rfl⟩
              | some taskId =>
                  -- the task it started stays running, whatever the outcome reports
                  refine iff_of_false (fun haccounted => ?_) (fun h => (nomatch h.1))
                  obtain ⟨outcomes, hcall, hsettled, -⟩ :=
                    haccounted.claimed taskId (List.mem_singleton_self _)
                  cases hcall
                  rcases hsettled with hleft | ⟨outcome, hmem, -, hblocked⟩
                  · cases hleft
                  · rw [List.mem_singleton.mp hmem] at hblocked
                    have hreported : (if escalated then "escalated" else "claim_contended") =
                        "reconciliation_blocked" := hblocked
                    revert hreported
                    cases escalated with
                    | true => decide
                    | false => decide
      | lockContended message => exact iff_of_false (not_accounted_of_error rfl) id
      | other message => exact iff_of_false (not_accounted_of_error rfl) id

/-- `_run_next_queued_task`, called before anything is claimed. -/
theorem runNextQueuedTask_accounted (view : NextView) :
    Accounted (single (runNextQueuedTask reviewRequired view {})) ↔
      NextRecorded reviewRequired view := by
  rw [runNextQueuedTask]
  -- the startup ended the run, let it go on, or raised
  rcases prepareRun_cases view.setup {} with
    ⟨hends, outcome, hprepare⟩ | ⟨hnotEnds, hpasses, hprepare⟩ | ⟨hnotEnds, hnotPasses, e, hprepare⟩
  · rw [Raising.bind_of_ok hprepare]
    exact iff_of_true (accounted_idle outcome) (Or.inl hends)
  · rw [Raising.bind_of_ok hprepare]
    -- past the startup only the schedule and the claim can raise
    have hrecorded : NextRecorded reviewRequired view ↔ ∃ selected waiting,
        view.schedule = .ok (selected, waiting) ∧
          (selected = none ∨ ClaimRecorded reviewRequired view) :=
      ⟨fun h => (h.resolve_left hnotEnds).2, fun h => Or.inr ⟨hpasses, h⟩⟩
    rw [hrecorded]
    cases hschedule : view.schedule with
    | error e =>
        exact iff_of_false (not_accounted_of_error rfl) (fun ⟨_, _, h, _⟩ => (nomatch h))
    | ok scheduled =>
        obtain ⟨selected, waiting⟩ := scheduled
        cases selected with
        | none =>
            have hnone : ∃ selected' waiting', (Except.ok (none, waiting) :
                Except HarnessError (Option String × Bool)) = .ok (selected', waiting') ∧
                (selected' = none ∨ ClaimRecorded reviewRequired view) :=
              ⟨none, waiting, rfl, Or.inl rfl⟩
            cases waiting with
            | true => exact iff_of_true (accounted_idle _) hnone
            | false => exact iff_of_true (accounted_idle _) hnone
        | some selected =>
            have hsome : (∃ selected' waiting', (Except.ok (some selected, waiting) :
                Except HarnessError (Option String × Bool)) = .ok (selected', waiting') ∧
                (selected' = none ∨ ClaimRecorded reviewRequired view)) ↔
                ClaimRecorded reviewRequired view := by
              constructor
              · rintro ⟨_, _, h, hrest⟩
                cases h
                exact hrest.resolve_left (Option.some_ne_none _)
              · exact fun h => ⟨_, _, rfl, Or.inr h⟩
            rw [hsome]
            exact claimAndRun_accounted view selected
  · rw [Raising.bind_of_error hprepare]
    exact iff_of_false (not_accounted_of_error rfl)
      (fun h => h.elim hnotEnds (fun h => hnotPasses h.1))

end

/-- The claimed batch is accounted for exactly when it is claimed and recorded. -/
theorem claimAndIntegrate_accounted {view : BatchView} :
    Accounted (claimAndIntegrate view {}) ↔ BatchRecorded view := by
  rw [claimAndIntegrate, start, change_bind]
  cases hclaim : view.claimBatch with
  | error e =>
      exact iff_of_false (not_accounted_of_error rfl) (fun h => (nomatch hclaim ▸ h.claimed))
  | ok claimed =>
  rw [ask_bind_ok rfl]
  cases hannounce : view.announce with
  | error e =>
      exact iff_of_false (not_accounted_of_error rfl) (fun h => (nomatch hannounce ▸ h.announced))
  | ok announced =>
  rw [ask_bind_ok rfl]
  by_cases hempty : view.started.val = []
  -- a batch that started nothing reports nothing of what it claimed
  · rw [if_pos hempty]
    exact iff_of_false (not_accounted_of_error rfl) (fun h => h.started hempty)
  · rw [if_neg hempty]
    cases hsubmit : view.submit with
    | error e =>
        exact iff_of_false (not_accounted_of_error rfl) (fun h => (nomatch hsubmit ▸ h.submitted))
    | ok submitted =>
        rw [ask_bind_ok rfl]
        rcases integrateBatch_decides view view.started.val
          { claimed := view.started.val } with ⟨htasks, hsettled⟩ | ⟨htasks, e, run', hcall, -⟩
        · exact iff_of_true (accounted_of_batchSettled view.started.property hempty rfl hsettled)
            ⟨hclaim ▸ rfl, hannounce ▸ rfl, hempty, hsubmit ▸ rfl, htasks⟩
        · refine iff_of_false (not_accounted_of_error (e := e) ?_) (fun h => htasks h.tasks)
          exact congrArg Prod.fst hcall

/-- `_run_ready_batch` accounts for what it claims exactly when nothing it leaves uncaught raises. -/
theorem accounted_iff_nothingRaises (view : BatchView) :
    Accounted (runReadyBatch view {}) ↔ NothingRaises view := by
  rw [runReadyBatch]
  rcases prepareRun_cases view.setup {} with
    ⟨hends, outcome, hprepare⟩ | ⟨hnotEnds, hpasses, hprepare⟩ | ⟨hnotEnds, hnotPasses, e, hprepare⟩
  · rw [Raising.bind_of_ok hprepare]
    exact iff_of_true (accounted_idle outcome) (Or.inl hends)
  · rw [Raising.bind_of_ok hprepare]
    cases hscheduled : view.scheduleBatch with
    | error e =>
        refine iff_of_false (not_accounted_of_error rfl) (fun h => ?_)
        obtain ⟨-, _, hok, -⟩ := h.resolve_left hnotEnds
        rw [hscheduled] at hok
        cases hok
    | ok scheduled =>
        -- past the startup and the schedule one of the two runs decides
        have hraises : NothingRaises view ↔
            if scheduled ≤ 1 then NextRecorded view.reviewRequired view.next
            else BatchRecorded view := by
          constructor
          · intro h
            obtain ⟨-, _, hok, hrest⟩ := h.resolve_left hnotEnds
            rw [hscheduled] at hok
            cases hok
            exact hrest
          · exact fun h => Or.inr ⟨hpasses, _, hscheduled, h⟩
        rw [hraises]
        show Accounted ((if scheduled ≤ 1 then (do
          let outcome ← runNextQueuedTask view.reviewRequired view.next
          return [outcome]) else claimAndIntegrate view : BatchM (List RunOutcome)) {}) ↔ _
        -- one scheduled task or none: the batch is the run of the next task
        by_cases hone : scheduled ≤ 1
        · rw [if_pos hone, if_pos hone, ← runNextQueuedTask_accounted]
          refine iff_of_eq (congrArg Accounted ?_)
          rcases hcall : runNextQueuedTask view.reviewRequired view.next {} with ⟨result, run⟩
          cases result with
          | ok outcome => rw [Raising.bind_of_ok hcall]; rfl
          | error e => rw [Raising.bind_of_error hcall]; rfl
        · rw [if_neg hone, if_neg hone]
          exact claimAndIntegrate_accounted
  · rw [Raising.bind_of_error hprepare]
    exact iff_of_false (not_accounted_of_error rfl)
      (fun h => h.elim hnotEnds (fun h => hnotPasses h.1))

/-- Two tasks are claimed, the worker of the first fails, and the state lease is contended when its
    failure is recorded: the store's transaction raises `StateStoreError`. -/
def contendedRecordView : BatchView where
  reviewRequired := false
  setup := { startup := .ok false, reviewSetup := .ok () }
  scheduleBatch := .ok 2
  started := ⟨["a", "b"], by decide⟩
  claimBatch := .ok ()
  announce := .ok ()
  submit := .ok ()
  task taskId :=
    { runId := "run-" ++ taskId
      collect := if taskId = "a" then .error (.other "exit 1") else .ok ()
      execute := .error (.other "not reached")
      recoverRunning := .ok ()
      reconcile := .ok false
      recordFailure := .error (.stateStore "state lease contention")
      recordResult := .ok ("run-" ++ taskId)
      finishLedger := .ok ()
      setUpReview := .ok ("bundle-" ++ taskId, none)
      exported := none
      failSetup := .ok "review_setup_failed" }
  next :=
    { setup := { startup := .ok false, reviewSetup := .ok () }
      schedule := .ok (none, false)
      claimNext := .nothing
      listTasks := .ok false
      scheduleAgain := .ok ()
      task :=
        { runId := "run"
          collect := .ok ()
          execute := .error (.other "not reached")
          recoverRunning := .ok ()
          reconcile := .ok false
          recordFailure := .ok "run"
          recordResult := .ok "run"
          finishLedger := .ok ()
          setUpReview := .ok ("bundle", none)
          exported := none
          failSetup := .ok "review_setup_failed" } }

/-- Both tasks stay running, and no outcome is returned. -/
theorem not_accounted_contendedRecord :
    runReadyBatch contendedRecordView {} =
        (.error (.stateStore "state lease contention"), { claimed := ["a", "b"] }) ∧
      ¬ Accounted (runReadyBatch contendedRecordView {}) :=
  ⟨rfl, not_accounted_of_error rfl⟩

/-! ## The store behind the answers -/

/-- `claim_batch` starts no task twice. -/
theorem nodup_claimBatch (ops : List Op) {limit : Int} (hlimit : 2 ≤ limit) (now : Nat → String) :
    ∃ batch, (claimBatch limit now (execute ops)).value = .ok batch ∧
      (batch.map QueueTask.id).Nodup := by
  obtain ⟨batch, hbatch, hclaimed⟩ :=
    batchClaimed_claimBatch (liveQueue_execute ops) (show 1 ≤ limit by omega) now
  refine ⟨_, hclaimed.value, ?_⟩
  have hids : (batch.map (claimedFrom now 0 batch)).map QueueTask.id = batch.map QueueTask.id := by
    rw [List.map_map]
    refine List.map_congr_left fun task htask => ?_
    show (claimedFrom now 0 batch task).id = task.id
    rw [claimedFrom, if_pos htask]
    rfl
  rw [hids]
  exact (claimable_of_scheduleBatch (liveQueue_execute ops) hbatch).2

end LlmHarness
