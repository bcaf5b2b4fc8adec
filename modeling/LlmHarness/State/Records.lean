/-
  LlmHarness.State.Records

  The records of `state.py`: queue entries, run history, rollback, review,
  operator and audit evidence, and the journal events the store writes.
-/

import LlmHarness.Domain
import LlmHarness.Python.Json

namespace LlmHarness

open Python

/-- `TaskStatus`. -/
inductive TaskStatus where
  | queued
  | running
  | reviewPending
  | reworkRequired
  | escalated
  | done
  | failed
  | rolledBack
deriving DecidableEq, Repr

namespace TaskStatus

/-- The literal the queue file and the messages hold. -/
def text : TaskStatus → String
  | queued => "queued"
  | running => "running"
  | reviewPending => "review_pending"
  | reworkRequired => "rework_required"
  | escalated => "escalated"
  | done => "done"
  | failed => "failed"
  | rolledBack => "rolled_back"

/-- The statuses `enqueue_many` calls active: a lifecycle that has not ended. -/
def isActive : TaskStatus → Bool
  | queued | running | reviewPending | reworkRequired | escalated => true
  | done | failed | rolledBack => false

end TaskStatus

/-- `StateStoreError`, with its message. -/
structure StateStoreError where
  message : String
deriving DecidableEq, Repr

/-- `QueueTask`. -/
structure QueueTask where
  workItem : WorkItem
  status : TaskStatus
  source : String
  addedAtUtc : String
  updatedAtUtc : String
  attempts : Nat := 0
  lastCommit : Option String := none
  lastError : Option String := none
  pendingReviewBundleId : Option String := none
  lastReviewDecisionId : Option String := none
deriving DecidableEq, Repr

/-- `DependencyBlocker`. -/
structure DependencyBlocker where
  taskId : String
  status : String
deriving DecidableEq, Repr

/-- `TaskReadiness`. -/
structure TaskReadiness where
  task : QueueTask
  ready : Bool
  blockers : List DependencyBlocker := []
deriving DecidableEq, Repr

/-- `QueueSchedule`. -/
structure QueueSchedule where
  selected : Option QueueTask
  ready : List TaskReadiness
  waiting : List TaskReadiness
deriving DecidableEq, Repr

/-- `RunRecord`. -/
structure RunRecord where
  runId : String
  workItemId : String
  startedAtUtc : String
  finishedAtUtc : String
  ok : Bool
  commit : Option String
  error : Option String
  preApplyFindings : List String
  postApplyFindings : List String
  commandResults : List CommandResult
  semanticVerification : Option SemanticVerificationReport := none
deriving DecidableEq, Repr

/-- `RollbackRecord`. -/
structure RollbackRecord where
  rollbackId : String
  createdAtUtc : String
  workItemId : String
  runId : String
  targetCommit : String
  rollbackCommit : Option String
  reason : String
  ok : Bool
  changedFiles : List String
  commandResults : List CommandResult
  error : Option String := none
deriving DecidableEq, Repr

/-- `OperatorEvent`. -/
structure OperatorEvent where
  eventId : String
  createdAtUtc : String
  command : String
  ok : Bool
  message : String
  rawText : String
  taskId : Option String := none
deriving DecidableEq, Repr

/-- `AuditRecord`, its report path relative to the state root. -/
structure AuditRecord where
  auditId : String
  createdAtUtc : String
  ok : Bool
  reportPath : String
  findingsCount : Int
  commandResultsCount : Int
deriving DecidableEq, Repr

/-- `ReviewBundleRecord`, its bundle path relative to the state root. -/
structure ReviewBundleRecord where
  bundleId : String
  createdAtUtc : String
  runId : String
  workItemId : String
  commit : String
  bundleSha256 : String
  bundlePath : String
deriving DecidableEq, Repr

/-- `ReviewFinding`. -/
structure ReviewFinding where
  code : String
  severity : String
  message : String
  path : Option String := none
deriving DecidableEq, Repr

/-- `CorrectionBrief`. -/
structure CorrectionBrief where
  rationale : String
  instructions : List String
  validationFocus : List String := []
deriving DecidableEq, Repr

/-- `EscalationRequest`. -/
structure EscalationRequest where
  reason : String
  question : String
  options : List String
deriving DecidableEq, Repr

/-- `ReviewDecision`. -/
inductive ReviewDecision where
  | approve
  | reject
  | escalate
deriving DecidableEq, Repr

/-- `ReviewDecisionRecord`. -/
structure ReviewDecisionRecord where
  decisionId : String
  bundleId : String
  bundleSha256 : String
  runId : String
  workItemId : String
  commit : String
  reviewerId : String
  reviewerKind : String
  decision : ReviewDecision
  summary : String
  findings : List ReviewFinding
  createdAtUtc : String
  importedAtUtc : String
  protocolVersion : String := "1.0"
  correctionBrief : Option CorrectionBrief := none
  escalation : Option EscalationRequest := none
deriving DecidableEq, Repr

/-- `JournalEventType`. -/
inductive JournalEventType where
  | interaction
  | toolCall
  | toolResult
  | stateTransition
  | artifact
  | decision
deriving DecidableEq, Repr

/-- The `from` and `to` of a `state_transition` event. -/
structure Transition where
  previous : Option TaskStatus
  current : TaskStatus
deriving DecidableEq, Repr

/-- `JournalEvent`, as the store records it.  The content of a
    `state_transition` is its `from`/`to` pair and the details beside it. -/
structure JournalEvent where
  eventType : JournalEventType
  actor : String
  action : String
  recipient : Option String := none
  transition : Option Transition := none
  content : Json := .null
  taskId : Option String := none
  runId : Option String := none
  correlationId : Option String := none

end LlmHarness
