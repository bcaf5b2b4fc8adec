/-
  LlmHarness.State.Store

  `HohStateStore`: its durable content and its mutators.  A mutator runs under
  the state lease; what it does is the list of its durable writes, in order, and
  what it returns or raises.  A refused call has no writes.  Every `_utc_now`
  and `uuid4` reading is an argument.

  The JSONL stores are lists of records and the queue file is a list of entries:
  `DurableIo` says when a JSONL text reads back as the records written to it.
-/

import LlmHarness.State.Payloads
import LlmHarness.State.Queue

namespace LlmHarness

open Python

/-- The durable content of a state root. -/
structure Store where
  tasks : List QueueTask := []
  history : List RunRecord := []
  rollbackRecords : List RollbackRecord := []
  reviewBundles : List ReviewBundleRecord := []
  reviewDecisions : List ReviewDecisionRecord := []
  operatorEvents : List OperatorEvent := []
  auditReports : List AuditRecord := []
  telegramOffset : Option Int := none
  journal : List JournalEvent := []

/-- A store whose files are all absent. -/
def Store.empty : Store := {}

/-- One durable write: a file replaced as a whole, or a record appended. -/
inductive Write where
  | queue (tasks : List QueueTask)
  | history (record : RunRecord)
  | rollbackRecord (record : RollbackRecord)
  | reviewBundle (record : ReviewBundleRecord)
  | reviewDecision (record : ReviewDecisionRecord)
  | operatorEvent (event : OperatorEvent)
  | auditReport (record : AuditRecord)
  | telegramOffset (offset : Int)
  | journal (event : JournalEvent)

/-- The store after one write. -/
def Store.apply (s : Store) : Write → Store
  | .queue tasks => { s with tasks := tasks }
  | .history record => { s with history := s.history ++ [record] }
  | .rollbackRecord record => { s with rollbackRecords := s.rollbackRecords ++ [record] }
  | .reviewBundle record => { s with reviewBundles := s.reviewBundles ++ [record] }
  | .reviewDecision record => { s with reviewDecisions := s.reviewDecisions ++ [record] }
  | .operatorEvent event => { s with operatorEvents := s.operatorEvents ++ [event] }
  | .auditReport record => { s with auditReports := s.auditReports ++ [record] }
  | .telegramOffset offset => { s with telegramOffset := some offset }
  | .journal event => { s with journal := s.journal ++ [event] }

/-- The store after a list of writes. -/
def Store.applyAll (s : Store) (writes : List Write) : Store :=
  writes.foldl Store.apply s

/-- What a mutator did: its durable writes and its result. -/
structure Outcome (α : Type) where
  writes : List Write
  value : Except StateStoreError α

/-- A store operation. -/
abbrev StoreM (α : Type) : Type := Store → Outcome α

namespace StoreM

variable {α β : Type}

/-- Runs `next` on the store the writes of `m` left, unless `m` raised. -/
def bind (m : StoreM α) (next : α → StoreM β) : StoreM β := fun s =>
  match (m s).value with
  | .error e => ⟨(m s).writes, .error e⟩
  | .ok a =>
    let outcome := next a (s.applyAll (m s).writes)
    ⟨(m s).writes ++ outcome.writes, outcome.value⟩

instance : Monad StoreM where
  pure a := fun _ => ⟨[], .ok a⟩
  bind := bind

/-- Raises `StateStoreError`. -/
def refuse (message : String) : StoreM α := fun _ => ⟨[], .error ⟨message⟩⟩

/-- One durable write. -/
def write (w : Write) : StoreM Unit := fun _ => ⟨[w], .ok ()⟩

/-- Reads the store. -/
def read (f : Store → α) : StoreM α := fun s => ⟨[], .ok (f s)⟩

/-- Returns the value of a result or raises its error. -/
def lift (result : Except StateStoreError α) : StoreM α := fun _ => ⟨[], result⟩

end StoreM

open StoreM

/-! ## Helpers -/

/-- `_get_task`. -/
def getTask (workItemId : String) : StoreM QueueTask := do
  match latestTask? (← read Store.tasks) workItemId with
  | some task => return task
  | none => refuse s!"Unknown queued task: {workItemId}"

/-- `_update_task`: rewrites the last entry of an id.  The bundle and decision
    ids are copied, `last_commit` and `last_error` are what the caller names. -/
def updateTask (workItemId : String) (status : TaskStatus) (now : String)
    (attemptsDelta : Nat := 0) (lastCommit : Option String := none)
    (lastError : Option String := none) : StoreM QueueTask := do
  let updated? := KeyedLog.updateLast QueueTask.id workItemId
    (fun task => { task with
      status := status
      updatedAtUtc := now
      attempts := task.attempts + attemptsDelta
      lastCommit := lastCommit
      lastError := lastError })
    (← read Store.tasks)
  match updated? with
  | some (updated, tasks) =>
    write (.queue tasks)
    return updated
  | none => refuse s!"Unknown queued task: {workItemId}"

/-- `_replace_task`: rewrites the first entry equal to `current`; what the
    change does not name is kept. -/
def replaceTask (current : QueueTask) (now : String) (changes : QueueTask → QueueTask) :
    StoreM QueueTask := do
  let updated? := KeyedLog.updateFirst current
    (fun task => changes { task with updatedAtUtc := now }) (← read Store.tasks)
  match updated? with
  | some (updated, tasks) =>
    write (.queue tasks)
    return updated
  | none => refuse ("Queued task changed before transition: " ++ current.id)

/-- `_transition_event`. -/
def transitionEvent (task : QueueTask) (previous current : TaskStatus) (action : String)
    (details : Json := .null) (runId : Option String := none) : StoreM Unit :=
  write (.journal {
    eventType := .stateTransition
    actor := "supervisor"
    action := action
    transition := some ⟨some previous, current⟩
    content := details
    taskId := some task.id
    runId := runId })

/-! ## Queue -/

/-- The entry `enqueue_many` adds for an item. -/
def queuedTask (now : String) (item : WorkItem × String) : QueueTask :=
  { workItem := item.1, status := .queued, source := item.2, addedAtUtc := now, updatedAtUtc := now }

/-- The journal event of an added entry. -/
def enqueuedEvent (task : QueueTask) : JournalEvent :=
  { eventType := .stateTransition
    actor := "supervisor"
    action := "task.enqueued"
    recipient := some "worker"
    transition := some ⟨none, .queued⟩
    content := .obj [("source", .str task.source), ("priority", .int task.workItem.priority),
      ("depends_on", .arr (task.workItem.dependsOn.map Json.str))]
    taskId := some task.id }

/-- Journal events, one after the other. -/
def recordEvents : List JournalEvent → StoreM Unit
  | [] => pure ()
  | event :: events => do
    write (.journal event)
    recordEvents events

/-- The items of a batch whose id has an unended lifecycle. -/
def activeIncoming (tasks : List QueueTask) (items : List WorkItem) : List WorkItem :=
  items.filter fun workItem => tasks.any fun task =>
    task.id = workItem.id && task.status.isActive

/-- `enqueue_many`. -/
def enqueueMany (items : List (WorkItem × String)) (now : String) : StoreM (List QueueTask) := do
  if items = [] then return []
  else
    let tasks ← read Store.tasks
    let workItems := items.map Prod.fst
    if ¬ (workItems.map WorkItem.id).Nodup then
      refuse "Enqueue batch must contain unique task ids."
    else
      match activeIncoming tasks workItems with
      | workItem :: _ =>
        refuse ("Task already has an active or unresolved lifecycle: " ++ workItem.id)
      | [] =>
        lift (validateEnqueueGraph tasks workItems)
        let added := items.map (queuedTask now)
        write (.queue (tasks ++ added))
        recordEvents (added.map enqueuedEvent)
        return added

/-- `mark_running`. -/
def markRunning (workItemId now : String) : StoreM QueueTask := do
  let task ← getTask workItemId
  if task.status ≠ .queued then
    refuse s!"Only queued tasks can start running: {workItemId}"
  else
    let schedule ← read fun s => schedule s.tasks
    match schedule.ready.find? fun item => item.task.id = workItemId with
    | none =>
      let waiting := schedule.waiting.find? fun item => item.task.id = workItemId
      let blockers := (waiting.map TaskReadiness.blockers).getD []
      let details := blockers.map fun blocker => blocker.taskId ++ "=" ++ blocker.status
      refuse (s!"Task dependencies are not ready: {workItemId} (" ++ ", ".intercalate details
        ++ ").")
    | some _ =>
      let updated ← updateTask workItemId .running now 1
      transitionEvent updated task.status .running "task.started"
      return updated

/-- `escalate_attempt_limit`. -/
def escalateAttemptLimit (workItemId : String) (maxAttempts : Int) (now : String) :
    StoreM QueueTask := do
  let task ← getTask workItemId
  if task.status ≠ .queued ∨ (task.attempts : Int) < maxAttempts then return task
  else
    let updated ← replaceTask task now fun task => { task with
      status := .escalated
      lastError := some ("Worker attempt limit reached (" ++ toString task.attempts ++ "/"
        ++ toString maxAttempts ++ ").") }
    transitionEvent updated task.status .escalated "worker.attempt_limit"
    return updated

/-- `claim_next`. -/
def claimNext (maxAttempts : Option Int) (now : String) : StoreM (Option QueueTask) := do
  match (← read fun s => schedule s.tasks).selected with
  | none => return none
  | some selected =>
    match maxAttempts with
    | none =>
      let task ← markRunning selected.id now
      return some task
    | some maxAttempts =>
      if maxAttempts ≤ (selected.attempts : Int) then
        let escalated ← escalateAttemptLimit selected.id maxAttempts now
        refuse (match escalated.lastError with
          | some message => if message = "" then "Worker attempt limit reached." else message
          | none => "Worker attempt limit reached.")
      else
        let task ← markRunning selected.id now
        return some task

/-- The generator of `claim_batch`: `mark_running` on one task after the other,
    each with its own clock reading. -/
def markAllRunning (now : Nat → String) : Nat → List QueueTask → StoreM (List QueueTask)
  | _, [] => pure []
  | index, task :: tasks => do
    let updated ← markRunning task.id (now index)
    let rest ← markAllRunning now (index + 1) tasks
    return updated :: rest

/-- `claim_batch`. -/
def claimBatch (limit : Int) (now : Nat → String) : StoreM (List QueueTask) := do
  let tasks ← read Store.tasks
  let batch ← lift (scheduleBatch tasks limit)
  markAllRunning now 0 batch

/-- `requeue_failed`. -/
def requeueFailed (workItemId now : String) : StoreM QueueTask := do
  let task ← getTask workItemId
  if task.status ≠ .failed then
    refuse s!"Only failed tasks can be retried: {workItemId}"
  else
    let updated ← updateTask workItemId .queued now 0 task.lastCommit none
    transitionEvent updated task.status .queued "task.retry_confirmed"
    return updated

/-- `recover_running`. -/
def recoverRunning (workItemId reason now : String) : StoreM QueueTask := do
  let task ← getTask workItemId
  if task.status ≠ .running then
    refuse s!"Only running tasks can be recovered: {workItemId}"
  else
    let updated ← updateTask workItemId .queued now 0 task.lastCommit (some reason)
    transitionEvent updated task.status .queued "task.recovered" (.obj [("reason", .str reason)])
    return updated

/-- `_result_error`. -/
def resultError (result : HarnessRunResult) : Option String :=
  let findings := result.preApply.findings ++ result.postApply.findings
  let failedCommands := result.commandResults.filter fun item => !item.ok
  if findings ≠ [] then some ("; ".intercalate findings)
  else if failedCommands ≠ [] then
    some ("; ".intercalate (failedCommands.map fun item =>
      item.command ++ " exited " ++ toString item.returnCode))
  else if result.commit = none then some "No commit was created."
  else none

/-- The status a result gives its task. -/
def resultStatus (result : HarnessRunResult) (reviewRequired : Bool) : TaskStatus :=
  if result.ok && reviewRequired then .reviewPending
  else if result.ok then .done else .failed

/-- `a or b` on optional strings. -/
def orElseEmpty (a b : Option String) : Option String :=
  if a = none ∨ a = some "" then b else a

/-- The history record of a result. -/
def runRecord (runId startedAtUtc finishedAtUtc : String) (task : QueueTask)
    (result : HarnessRunResult) : RunRecord :=
  { runId := runId
    workItemId := task.id
    startedAtUtc := startedAtUtc
    finishedAtUtc := finishedAtUtc
    ok := result.ok
    commit := result.commit
    error := task.lastError
    preApplyFindings := result.preApply.findings
    postApplyFindings := result.postApply.findings
    commandResults := result.commandResults
    semanticVerification := result.semanticVerification }

/-- The arguments of `record_result`, with its clock and id readings. -/
structure ResultReport where
  workItemId : String
  startedAtUtc : String
  result : HarnessRunResult
  error : Option String := none
  reviewRequired : Bool := false
  runId : Option String := none
  finishedAt : String := ""
  updatedAt : String := ""
  freshRunId : String := ""

/-- `run_id or str(uuid4())`. -/
def ResultReport.selectedRunId (report : ResultReport) : String :=
  (orElseEmpty report.runId (some report.freshRunId)).getD report.freshRunId

/-- The status the report asks for. -/
def ResultReport.status (report : ResultReport) : TaskStatus :=
  resultStatus report.result report.reviewRequired

/-- The error the report asks for. -/
def ResultReport.expectedError (report : ResultReport) : Option String :=
  orElseEmpty report.error (resultError report.result)

/-- `record_result`. -/
def recordResult (report : ResultReport) : StoreM RunRecord := do
  let result := report.result
  match (← read Store.history).find? fun item => item.runId = report.selectedRunId with
  | some existing =>
    if existing.workItemId = report.workItemId ∧ existing.commit = result.commit ∧
        existing.ok = result.ok then return existing
    else refuse ("Run id already exists with different evidence: " ++ report.selectedRunId)
  | none =>
    let current ← getTask report.workItemId
    if current.status = report.status ∧ current.lastCommit = result.commit ∧
        current.lastError = report.expectedError then
      let record := runRecord report.selectedRunId report.startedAtUtc report.finishedAt current result
      write (.history record)
      if current.status = .running then
        transitionEvent current .running report.status "task.run_recorded"
          (.obj [("ok", .bool result.ok)]) (some record.runId)
        return record
      else return record
    else if current.status ≠ .running then
      refuse ("Only a running task can record a new result: " ++ report.workItemId ++ "="
        ++ current.status.text)
    else
      let task ← updateTask report.workItemId report.status report.updatedAt 0 result.commit
        report.expectedError
      let record := runRecord report.selectedRunId report.startedAtUtc report.finishedAt task result
      write (.history record)
      transitionEvent task .running report.status "task.run_recorded"
        (.obj [("ok", .bool result.ok)]) (some record.runId)
      return record

/-- `record_failure`: the entry fails whatever its status was. -/
def recordFailure (workItemId startedAtUtc error : String) (updatedAt finishedAt freshRunId : String) :
    StoreM RunRecord := do
  let task ← updateTask workItemId .failed updatedAt 0 none (some error)
  let record : RunRecord :=
    { runId := freshRunId
      workItemId := task.id
      startedAtUtc := startedAtUtc
      finishedAtUtc := finishedAt
      ok := false
      commit := none
      error := some error
      preApplyFindings := []
      postApplyFindings := []
      commandResults := [] }
  write (.history record)
  transitionEvent task .running .failed "task.failed" (.obj [("error", .str error)])
    (some record.runId)
  return record

/-! ## Review -/

/-- `attach_review_bundle`. -/
def attachReviewBundle (workItemId bundleId now : String) : StoreM QueueTask := do
  let task ← getTask workItemId
  if task.status ≠ .reviewPending then
    refuse s!"Only review-pending tasks can receive a review bundle: {workItemId}"
  else
    let updated ← replaceTask task now fun task => { task with
      pendingReviewBundleId := some bundleId
      lastError := none }
    write (.journal {
      eventType := .artifact
      actor := "supervisor"
      action := "review.bundle_attached"
      recipient := some "critic"
      content := .obj [("bundle_id", .str bundleId)]
      taskId := some workItemId })
    return updated

/-- `fail_review_setup`: the pending bundle id is not named, so it is kept. -/
def failReviewSetup (workItemId error now : String) : StoreM QueueTask := do
  let task ← getTask workItemId
  if task.status ≠ .reviewPending then
    refuse s!"Task is not waiting for review setup: {workItemId}"
  else
    let updated ← replaceTask task now fun task => { task with
      status := .failed
      lastError := some error }
    transitionEvent updated task.status .failed "review.setup_failed" (.obj [("error", .str error)])
    return updated

/-- `record_review_failure`. -/
def recordReviewFailure (workItemId error now : String) : StoreM QueueTask := do
  let task ← getTask workItemId
  if task.status ≠ .reviewPending ∨ task.pendingReviewBundleId = none ∨
      task.pendingReviewBundleId = some "" then
    refuse s!"Task is not waiting for critic review: {workItemId}"
  else
    let updated ← replaceTask task now fun task => { task with lastError := some error }
    write (.journal {
      eventType := .toolResult
      actor := "critic"
      action := "critic.review_failed"
      recipient := some "supervisor"
      content := .obj [("error", .str error),
        ("bundle_id", .str (task.pendingReviewBundleId.getD ""))]
      taskId := some workItemId
      correlationId := task.pendingReviewBundleId })
    return updated

/-- The status and the error a critic decision gives its task. -/
def decisionEffect (decision summary : String) : Option (TaskStatus × Option String) :=
  if decision = "approve" then some (.done, none)
  else if decision = "reject" then some (.reworkRequired, some summary)
  else if decision = "escalate" then some (.escalated, some summary)
  else none

/-- `resolve_review`. -/
def resolveReview (workItemId bundleId decisionId decision summary now : String) :
    StoreM QueueTask := do
  let task ← getTask workItemId
  if task.status ≠ .reviewPending then
    refuse s!"Task is not waiting for critic review: {workItemId}"
  else if task.pendingReviewBundleId ≠ some bundleId then
    refuse s!"Critic decision does not match the pending bundle for task: {workItemId}"
  else
    match decisionEffect decision summary with
    | none => refuse s!"Unsupported critic decision: {decision}"
    | some (status, error) =>
      let updated ← replaceTask task now fun task => { task with
        status := status
        pendingReviewBundleId := none
        lastReviewDecisionId := some decisionId
        lastError := error }
      transitionEvent updated task.status status "critic.decision_applied"
        (.obj [("decision", .str decision), ("decision_id", .str decisionId),
          ("summary", .str summary)])
      return updated

/-- `confirm_rework`. -/
def confirmRework (workItemId decisionId : String) (instructions : List String)
    (maxAttempts : Int) (now : String) : StoreM QueueTask := do
  let task ← getTask workItemId
  if task.status ≠ .reworkRequired then
    refuse s!"Task is not awaiting supervisor-confirmed rework: {workItemId}"
  else if task.lastReviewDecisionId ≠ some decisionId then
    refuse s!"Correction brief does not match the latest critic decision: {decisionId}"
  else if instructions = [] ∨ instructions.any (fun instruction => isBlank instruction.toList) then
    refuse "Supervisor-confirmed correction instructions must be non-empty."
  else if maxAttempts < 1 then
    refuse "Three-head max_attempts must be at least 1."
  else if maxAttempts ≤ (task.attempts : Int) then
    let updated ← replaceTask task now fun task => { task with
      status := .escalated
      lastError := some ("Rework attempt limit reached (" ++ toString task.attempts ++ "/"
        ++ toString maxAttempts ++ ").") }
    transitionEvent updated task.status .escalated "rework.attempt_limit"
    return updated
  else
    let updated ← replaceTask task now fun task => { task with
      status := .queued
      workItem := { task.workItem with
        correctionInstructions := instructions
        correctionDecisionId := some decisionId }
      pendingReviewBundleId := none
      lastError := none }
    transitionEvent updated task.status .queued "rework.supervisor_confirmed"
      (.obj [("decision_id", .str decisionId), ("instructions", .arr (instructions.map Json.str))])
    return updated

/-- The status, attempts and error an escalation resolution gives its task. -/
def resolutionEffect (resolution reason : String) (attempts : Nat) :
    Option (TaskStatus × Nat × Option String) :=
  if resolution = "requeue" then some (.queued, 0, none)
  else if resolution = "fail" then some (.failed, attempts, some reason)
  else none

/-- `resolve_escalation`. -/
def resolveEscalation (workItemId resolution reason now : String) : StoreM QueueTask := do
  let task ← getTask workItemId
  if task.status ≠ .escalated then
    refuse s!"Only escalated tasks can be resolved: {workItemId}"
  else if isBlank reason.toList then
    refuse "Escalation resolution requires an operator reason."
  else
    match resolutionEffect resolution reason task.attempts with
    | none => refuse s!"Unsupported escalation resolution: {resolution}"
    | some (status, attempts, error) =>
      let updated ← replaceTask task now fun task => { task with
        status := status
        attempts := attempts
        pendingReviewBundleId := none
        lastError := error }
      transitionEvent updated task.status status "escalation.resolved"
        (.obj [("resolution", .str resolution), ("reason", .str reason)])
      return updated

/-! ## Rollback -/

/-- The error text of a rolled back task. -/
def rolledBackError (targetCommit rollbackCommit : String) : String :=
  "Rolled back by " ++ rollbackCommit ++ "; target commit was " ++ targetCommit ++ "."

/-- `mark_rolled_back`. -/
def markRolledBack (workItemId targetCommit rollbackCommit now : String) : StoreM QueueTask := do
  let task ← getTask workItemId
  if task.status = .rolledBack ∧
      task.lastError = some (rolledBackError targetCommit rollbackCommit) then return task
  else if task.status ≠ .done then
    refuse s!"Only done tasks can be marked rolled back: {workItemId}"
  else
    let updated ← replaceTask task now fun task => { task with
      status := .rolledBack
      lastError := some (rolledBackError targetCommit rollbackCommit) }
    transitionEvent updated task.status .rolledBack "rollback.applied"
      (.obj [("target_commit", .str targetCommit), ("rollback_commit", .str rollbackCommit)])
    return updated

/-- `record_rollback`. -/
def recordRollback (record : RollbackRecord) : StoreM RollbackRecord := do
  match (← read Store.rollbackRecords).find? fun item => item.rollbackId = record.rollbackId with
  | some existing =>
    if existing = record then return existing
    else refuse ("Rollback id already exists with different evidence: " ++ record.rollbackId)
  | none =>
    write (.rollbackRecord record)
    write (.journal {
      eventType := .decision
      actor := "supervisor"
      action := "rollback.recorded"
      content := StateCodec.rollbackRecordToJson record
      taskId := some record.workItemId
      runId := some record.runId
      correlationId := some record.rollbackId })
    return record

/-- `complete_rollback`. -/
def completeRollback (record : RollbackRecord) (now : String) : StoreM RollbackRecord := do
  match record.ok, record.rollbackCommit with
  | true, some rollbackCommit =>
    let _ ← markRolledBack record.workItemId record.targetCommit rollbackCommit now
    recordRollback record
  | _, _ => refuse "Only a successful rollback with a commit can complete state."

/-! ## Evidence that leaves the queue alone -/

/-- `record_review_bundle`. -/
def recordReviewBundle (record : ReviewBundleRecord) : StoreM ReviewBundleRecord := do
  match (← read Store.reviewBundles).find? fun item => item.bundleId = record.bundleId with
  | some existing =>
    if existing = record then return existing
    else refuse ("Review bundle id already exists with different evidence: " ++ record.bundleId)
  | none =>
    write (.reviewBundle record)
    write (.journal {
      eventType := .interaction
      actor := "supervisor"
      action := "critic.review_bundle"
      recipient := some "critic"
      content := .obj [("bundle_id", .str record.bundleId), ("commit", .str record.commit),
        ("sha256", .str record.bundleSha256)]
      taskId := some record.workItemId
      runId := some record.runId })
    return record

/-- The loop of `record_review_decision` over the recorded decisions: the
    existing record, a refusal, or nothing in the way. -/
def findReviewDecision (record : ReviewDecisionRecord) :
    List ReviewDecisionRecord → Except StateStoreError (Option ReviewDecisionRecord)
  | [] => .ok none
  | existing :: rest =>
    if existing.decisionId = record.decisionId then
      if existing = record then .ok (some existing)
      else .error ⟨"Review decision id already exists with different evidence: "
        ++ record.decisionId⟩
    else if existing.bundleId = record.bundleId then
      .error ⟨"Review bundle already has an immutable decision: " ++ record.bundleId⟩
    else findReviewDecision record rest

/-- The journal event of a recorded decision. -/
def decisionEvent (record : ReviewDecisionRecord) : JournalEvent :=
  { eventType := .decision
    actor := "critic"
    action := "critic.decision"
    recipient := some "supervisor"
    content := StateCodec.reviewDecisionRecordToJson record
    taskId := some record.workItemId
    runId := some record.runId }

/-- `record_review_decision`. -/
def recordReviewDecision (record : ReviewDecisionRecord) : StoreM ReviewDecisionRecord := do
  let decisions ← read Store.reviewDecisions
  match ← lift (findReviewDecision record decisions) with
  | some existing => return existing
  | none =>
    write (.reviewDecision record)
    write (.journal (decisionEvent record))
    return record

/-- `record_operator_event`. -/
def recordOperatorEvent (event : OperatorEvent) : StoreM OperatorEvent := do
  write (.operatorEvent event)
  write (.journal {
    eventType := .interaction
    actor := "customer"
    action := "operator.command"
    recipient := some "supervisor"
    content := .obj [("raw_text", .str event.rawText), ("message", .str event.message),
      ("ok", .bool event.ok)]
    taskId := event.taskId })
  return event

/-- `record_audit_report`, for a record whose report is already written. -/
def recordAuditReport (record : AuditRecord) : StoreM AuditRecord := do
  write (.auditReport record)
  write (.journal {
    eventType := .artifact
    actor := "supervisor"
    action := "audit.recorded"
    content := .obj [("audit_id", .str record.auditId), ("ok", .bool record.ok),
      ("report_path", .str record.reportPath)] })
  return record

/-- `set_telegram_update_offset`. -/
def setTelegramUpdateOffset (offset : Int) : StoreM Unit := do
  match ← read Store.telegramOffset with
  | some current =>
    if offset < current then return () else write (.telegramOffset offset)
  | none => write (.telegramOffset offset)

/-! ## Runs -/

/-- A call of a mutator of `HohStateStore`. -/
inductive Op where
  | enqueueMany (items : List (WorkItem × String)) (now : String)
  | claimNext (maxAttempts : Option Int) (now : String)
  | claimBatch (limit : Int) (now : Nat → String)
  | markRunning (workItemId now : String)
  | requeueFailed (workItemId now : String)
  | recoverRunning (workItemId reason now : String)
  | recordResult (report : ResultReport)
  | recordFailure (workItemId startedAtUtc error updatedAt finishedAt freshRunId : String)
  | attachReviewBundle (workItemId bundleId now : String)
  | failReviewSetup (workItemId error now : String)
  | recordReviewFailure (workItemId error now : String)
  | resolveReview (workItemId bundleId decisionId decision summary now : String)
  | confirmRework (workItemId decisionId : String) (instructions : List String)
      (maxAttempts : Int) (now : String)
  | escalateAttemptLimit (workItemId : String) (maxAttempts : Int) (now : String)
  | resolveEscalation (workItemId resolution reason now : String)
  | markRolledBack (workItemId targetCommit rollbackCommit now : String)
  | completeRollback (record : RollbackRecord) (now : String)
  | recordRollback (record : RollbackRecord)
  | recordReviewBundle (record : ReviewBundleRecord)
  | recordReviewDecision (record : ReviewDecisionRecord)
  | recordOperatorEvent (event : OperatorEvent)
  | recordAuditReport (record : AuditRecord)
  | setTelegramUpdateOffset (offset : Int)
  /-- A call cut short by a crash or a failing write after its first `written` writes. -/
  | interrupted (op : Op) (written : Nat)

/-- The durable writes of a call. -/
def opWrites : Op → Store → List Write
  | .enqueueMany items now, s => (enqueueMany items now s).writes
  | .claimNext maxAttempts now, s => (claimNext maxAttempts now s).writes
  | .claimBatch limit now, s => (claimBatch limit now s).writes
  | .markRunning workItemId now, s => (markRunning workItemId now s).writes
  | .requeueFailed workItemId now, s => (requeueFailed workItemId now s).writes
  | .recoverRunning workItemId reason now, s => (recoverRunning workItemId reason now s).writes
  | .recordResult report, s => (recordResult report s).writes
  | .recordFailure workItemId startedAtUtc error updatedAt finishedAt freshRunId, s =>
    (recordFailure workItemId startedAtUtc error updatedAt finishedAt freshRunId s).writes
  | .attachReviewBundle workItemId bundleId now, s =>
    (attachReviewBundle workItemId bundleId now s).writes
  | .failReviewSetup workItemId error now, s => (failReviewSetup workItemId error now s).writes
  | .recordReviewFailure workItemId error now, s =>
    (recordReviewFailure workItemId error now s).writes
  | .resolveReview workItemId bundleId decisionId decision summary now, s =>
    (resolveReview workItemId bundleId decisionId decision summary now s).writes
  | .confirmRework workItemId decisionId instructions maxAttempts now, s =>
    (confirmRework workItemId decisionId instructions maxAttempts now s).writes
  | .escalateAttemptLimit workItemId maxAttempts now, s =>
    (escalateAttemptLimit workItemId maxAttempts now s).writes
  | .resolveEscalation workItemId resolution reason now, s =>
    (resolveEscalation workItemId resolution reason now s).writes
  | .markRolledBack workItemId targetCommit rollbackCommit now, s =>
    (markRolledBack workItemId targetCommit rollbackCommit now s).writes
  | .completeRollback record now, s => (completeRollback record now s).writes
  | .recordRollback record, s => (recordRollback record s).writes
  | .recordReviewBundle record, s => (recordReviewBundle record s).writes
  | .recordReviewDecision record, s => (recordReviewDecision record s).writes
  | .recordOperatorEvent event, s => (recordOperatorEvent event s).writes
  | .recordAuditReport record, s => (recordAuditReport record s).writes
  | .setTelegramUpdateOffset offset, s => (setTelegramUpdateOffset offset s).writes
  | .interrupted op written, s => (opWrites op s).take written

/-- The store a call leaves. -/
def Store.step (s : Store) (op : Op) : Store := s.applyAll (opWrites op s)

/-- The store a sequence of calls leaves, from an empty one. -/
def execute (ops : List Op) : Store := ops.foldl Store.step Store.empty

/-! ## Small inputs -/

/-- An item with the given id and dependencies. -/
def sampleItem (id : String) (dependsOn : List String := []) : WorkItem :=
  { id := id
    title := id
    objective := "Change one file."
    acceptanceCriteria := ["The file is changed."]
    verificationCommands := ["pytest"]
    allowedPaths := ["src"]
    dependsOn := dependsOn }

/-- A result all of whose gates passed. -/
def acceptedResult (workItemId commit : String) : HarnessRunResult :=
  { repository := "/repo"
    workItemId := workItemId
    commit := some commit
    preApply := { ok := true }
    postApply := { ok := true }
    commandResults := [⟨"pytest", 0, "", ""⟩] }

/-- The call that records such a result. -/
def recordAccepted (workItemId commit runId : String) (reviewRequired : Bool := false) : Op :=
  .recordResult {
    workItemId := workItemId
    startedAtUtc := "t"
    result := acceptedResult workItemId commit
    reviewRequired := reviewRequired
    runId := some runId }

end LlmHarness
