/-
  LlmHarness.Supervisor.Execution

  `execute_worker_completion` and the handlers of the commands that run a claimed
  task, with an exception at any step.  The store is the one of the state root;
  of Git only the commit that carries the operation id is kept, of the ledger
  only the result payload of the `verified` phase.  The review of an accepted
  result is the one of `Review.Setup`.
-/

import LlmHarness.Operations.ResultPayload
import LlmHarness.Operator.ReadyBatch
import LlmHarness.Review.SetupSteps
import LlmHarness.Verifier.Policy

namespace LlmHarness

open Python Raising PolicyVerifier

/-! ## Steps -/

/-- The calls of an execution that may raise, in the order of the source. -/
inductive ExecutionStep where
  /-- The worker, before the supervisor starts. -/
  | worker
  | lease
  | assertNoBlocking
  | patchReturned
  | policyChecked
  | beginTask
  | applyPatch
  | patchApplied
  | applyRecorded
  | commands
  | commandRecorded (index : Nat)
  | semanticVerify
  | semanticChecked
  | revertPatch
  | reverted
  | notify
  | verified
  | stagePaths
  | diffCached
  | gitCommit
  | revParse
  | resolveCommit
  | commitCreated
  | commitRecorded
  | stateRecorded
  | ledgerTerminal
deriving DecidableEq, Repr

/-- A claimed task, with what its calls answer and where they raise. -/
structure TaskExecution where
  repository : String
  workItem : WorkItem
  runId : String
  startedAtUtc : String
  verifier : PolicyVerifier
  redact : String → String
  fault : ExecutionStep → Option HarnessError
  /-- `completion.patch`. -/
  patch : Option WorkerPatch
  commandResults : List CommandResult
  /-- `bool(documentation_paths(changed_files))`. -/
  documentationUpdated : Bool
  /-- The semantic verifier, if there is one: its report, or the error that is caught. -/
  semantic : Option (Except String SemanticVerificationReport)
  /-- `git diff --cached --quiet` finds a difference. -/
  staged : Bool
  /-- `git rev-parse --short HEAD` after the commit. -/
  shortCommit : String
  fullCommit : String
  /-- `reconcile` completes the state of an operation whose commit it finds. -/
  completes : Bool
  /-- `reconcile`: whether operations block. -/
  blocks : Except HarnessError Bool
  /-- `record_result` raises after its first writes. -/
  recordCut : Option (Nat × HarnessError)
  /-- What the review code calls outside the repository. -/
  runtime : Runtime
  /-- The configuration of the review, and what its setup finds outside the store. -/
  setup : SetupCall
  /-- The exception that ends the review setup, if there is one. -/
  setupFault : Option SetupFault := none
  updatedAt : String := ""
  finishedAt : String := ""
  freshRunId : String := ""

/-- What a run works on. -/
structure ExecutionWorld where
  store : Store
  /-- The files of the review: bundles and decision documents. -/
  files : String → Option Payload := fun _ => none
  /-- `record["result"]` of the operation. -/
  payload : Json := .null
  /-- The commit that carries the operation id. -/
  committed : Option String := none

/-- A run. -/
abbrev ExecM (α : Type) : Type := Raising ExecutionWorld HarnessError α

/-- A call of the store. -/
def callStore {α : Type} (m : StoreM α) : ExecM α := fun w =>
  ((m w.store).value.mapError fun e => .stateStore e.message,
    { w with store := w.store.applyAll (m w.store).writes })

/-- A call of the store that raises after its first writes, if it is cut. -/
def callStoreCut {α : Type} (cut : Option (Nat × HarnessError)) (m : StoreM α) : ExecM α := fun w =>
  match cut with
  | none => callStore m w
  | some (written, e) =>
    (.error e, { w with store := w.store.applyAll ((m w.store).writes.take written) })

/-- A call of the review code. -/
def callReview {α : Type} (m : ReviewM α) : ExecM α := fun w =>
  let before : ReviewWorld := ⟨w.store, w.files⟩
  let after := m.final before
  ((m before).value.mapError fun e => .other e.message,
    { w with store := after.store, files := after.files })

namespace TaskExecution

/-- `config.three_head.required`. -/
def reviewRequired (task : TaskExecution) : Bool := task.setup.threeHead.mode = .required

/-- One step. -/
def reach (task : TaskExecution) (step : ExecutionStep) : ExecM Unit :=
  match task.fault step with
  | some e => raise e
  | none => pure ()

/-- Steps, one after the other. -/
def reachAll (task : TaskExecution) : List ExecutionStep → ExecM Unit
  | [] => pure ()
  | step :: steps => do
    task.reach step
    task.reachAll steps

/-! ## `_execute_worker_completion_locked` -/

/-- `all(result.ok for result in command_results)`. -/
def commandsOk (task : TaskExecution) : Bool := task.commandResults.all CommandResult.ok

/-- The report after the apply. -/
def postApply (task : TaskExecution) : VerificationReport :=
  verifyAfterApply task.workItem task.commandsOk task.documentationUpdated

/-- The report of the semantic verifier. -/
def semanticReport (answer : Except String SemanticVerificationReport) : SemanticVerificationReport :=
  match answer with
  | .ok report => report
  | .error message =>
    { decision := .fail
      summary := "Semantic verification could not produce trustworthy evidence."
      findings := [message] }

/-- A result without a commit. -/
def uncommitted (task : TaskExecution) (preApply postApply : VerificationReport)
    (commandResults : List CommandResult) (semantic : Option SemanticVerificationReport := none) :
    HarnessRunResult where
  repository := task.repository
  workItemId := task.workItem.id
  commit := none
  preApply := preApply
  postApply := postApply
  commandResults := commandResults
  semanticVerification := semantic

/-- The rejection of an applied patch. -/
def revert (task : TaskExecution) (result : HarnessRunResult) :
    ExecM (HarnessRunResult ⊕ HarnessRunResult) := do
  task.reachAll [.revertPatch, .reverted, .notify]
  return .inl result

/-- The semantic verdict on an accepted worktree. -/
def verifySemantics (task : TaskExecution) (preApply : VerificationReport) :
    ExecM (HarnessRunResult ⊕ HarnessRunResult) := do
  match task.semantic with
  | none => return .inr (task.uncommitted preApply task.postApply task.commandResults)
  | some verdict =>
    task.reachAll [.semanticVerify, .semanticChecked]
    let result := task.uncommitted preApply task.postApply task.commandResults
      (some (semanticReport verdict))
    if !(semanticReport verdict).ok then task.revert result
    else return .inr result

/-- The steps from the intent to the recorded commands. -/
def applySteps (task : TaskExecution) : List ExecutionStep :=
  [.beginTask, .applyPatch, .patchApplied, .applyRecorded, .commands] ++
    (List.range task.commandResults.length).map ExecutionStep.commandRecorded

/-- The part from the intent to the provisional result. -/
def applyAndVerify (task : TaskExecution) (preApply : VerificationReport) :
    ExecM (HarnessRunResult ⊕ HarnessRunResult) := do
  task.reachAll task.applySteps
  if !task.postApply.ok then
    task.revert (task.uncommitted preApply task.postApply task.commandResults)
  else task.verifySemantics preApply

/-- The part up to the provisional result: a result that ends the execution, or the provisional
    one. -/
def verifyCompletion (task : TaskExecution) : ExecM (HarnessRunResult ⊕ HarnessRunResult) := do
  task.reachAll [.lease, .assertNoBlocking]
  let failed := verifyAfterApply task.workItem false false
  match task.patch with
  | none =>
    task.reach .notify
    return .inl (task.uncommitted failed failed [])
  | some workerPatch =>
    task.reach .patchReturned
    let preApply ← answer HarnessError.other
      (task.verifier.verifyPatchBeforeApply task.workItem workerPatch)
    task.reach .policyChecked
    if !preApply.ok then
      task.reach .notify
      return .inl (task.uncommitted preApply failed [])
    else task.applyAndVerify preApply

/-- `commit_staged`. -/
def commitStaged (task : TaskExecution) : ExecM (Option String) := do
  task.reach .diffCached
  if task.staged then
    task.reach .gitCommit
    change fun w => { w with committed := some task.fullCommit }
    task.reach .revParse
    return some task.shortCommit
  else return none

/-- The part from the `verified` phase on. -/
def commitVerified (task : TaskExecution) (provisional : HarnessRunResult) :
    ExecM HarnessRunResult := do
  task.reach .verified
  change fun w => { w with payload := resultToJson task.redact provisional }
  task.reach .stagePaths
  let commit ← task.commitStaged
  if commit.isSome then
    task.reach .resolveCommit
    task.reachAll [.commitCreated, .commitRecorded]
    return { provisional with commit := commit }
  else
    task.reachAll [.commitCreated, .commitRecorded]
    return { provisional with commit := commit }

/-- `execute_worker_completion`. -/
def executeWorkerCompletion (task : TaskExecution) : ExecM HarnessRunResult := do
  match ← task.verifyCompletion with
  | .inl result => return result
  | .inr provisional => task.commitVerified provisional

/-! ## The handlers -/

/-- The arguments of `record_result`. -/
def report (task : TaskExecution) (result : HarnessRunResult) : ResultReport where
  workItemId := task.workItem.id
  startedAtUtc := task.startedAtUtc
  result := result
  reviewRequired := task.reviewRequired
  runId := some task.runId
  finishedAt := task.finishedAt
  updatedAt := task.updatedAt
  freshRunId := task.freshRunId

/-- The part of `_complete_state` that writes into the store. -/
def completeStore (task : TaskExecution) (commit : String) : ExecM Unit := do
  let payload ← read ExecutionWorld.payload
  let result ← answer (fun e : OperationError => HarnessError.other e.message)
    (resultFromJson task.repository commit payload)
  let _ ← callStore (recordResult (task.report result))

/-- `reconcile(auto_complete_state=True)`: no state is completed without a commit that carries the
    operation id. -/
def reconcileOperation (task : TaskExecution) : ExecM Bool := do
  match ← read ExecutionWorld.committed with
  | some commit =>
    if task.completes then
      task.completeStore commit
      answer id task.blocks
    else answer id task.blocks
  | none => answer id task.blocks

/-- `record_failure`. -/
def failRun (task : TaskExecution) (message : String) : ExecM Unit := do
  let _ ← callStore (recordFailure task.workItem.id task.startedAtUtc message task.updatedAt
    task.finishedAt task.freshRunId)

/-- The text of an exception. -/
def errorText : HarnessError → String
  | .lockContended message | .stateStore message | .other message => message

/-- The two handlers of an execution. -/
def handleFault (task : TaskExecution) : HarnessError → ExecM Unit
  | .lockContended message => do
    let _ ← callStore (recoverRunning task.workItem.id
      ("Repository execution lease contention; task was safely requeued: " ++ message)
      task.updatedAt)
  | e => do
    if ← task.reconcileOperation then pure ()
    else task.failRun (errorText e)

/-- `_record_worker_result`. -/
def recordRun (task : TaskExecution) (result : HarnessRunResult) : ExecM Unit := do
  let record ← callStoreCut task.recordCut (recordResult (task.report result))
  task.reachAll [.stateRecorded, .ledgerTerminal]
  let _ ← callReview (setUpReview task.runtime task.setup task.workItem.id record.runId result.ok
    task.setupFault)

/-- The execution with its handlers. -/
def executeAndRecord (task : TaskExecution) : ExecM Unit := fun w =>
  match task.executeWorkerCompletion w with
  | (.ok result, w) => task.recordRun result w
  | (.error e, w) => task.handleFault e w

/-- A claimed task of `_run_next_queued_task`, or of `_run_ready_batch`, which records what its
    worker raises at once. -/
def runClaimedTask (task : TaskExecution) (batched : Bool) : ExecM Unit := fun w =>
  match task.fault .worker with
  | some e => if batched then task.failRun (errorText e) w else task.handleFault e w
  | none => task.executeAndRecord w

end TaskExecution

end LlmHarness
