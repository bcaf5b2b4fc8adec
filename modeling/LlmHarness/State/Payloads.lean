/-
  LlmHarness.State.Payloads

  The encoders of the state files: what a queue entry, a run, a rollback record, an
  operator event, a review decision, a review bundle and an audit report are as JSON.
-/

import LlmHarness.Operations.ResultPayload
import LlmHarness.Python.PathText
import LlmHarness.State.Records

namespace LlmHarness.StateCodec

open Python

/-! ## Records -/

/-- `QueueTask`, its attempts any `int`. -/
structure TaskEntry where
  workItem : WorkItem
  status : TaskStatus
  source : String
  addedAtUtc : String
  updatedAtUtc : String
  attempts : Int
  lastCommit : Option String
  lastError : Option String
  pendingReviewBundleId : Option String
  lastReviewDecisionId : Option String
deriving DecidableEq

/-- `AuditRecord` with its report path. -/
structure AuditEntry where
  auditId : String
  createdAtUtc : String
  ok : Bool
  reportPath : PurePath
  findingsCount : Int
  commandResultsCount : Int
deriving DecidableEq

/-- `ReviewBundleRecord` with its bundle path. -/
structure BundleEntry where
  bundleId : String
  createdAtUtc : String
  runId : String
  workItemId : String
  commit : String
  bundleSha256 : String
  bundlePath : PurePath
deriving DecidableEq

/-! ## Writing -/

/-- `_work_item_to_json`. -/
def workItemToJson (workItem : WorkItem) : Json :=
  .obj [("id", .str workItem.id), ("title", .str workItem.title),
    ("objective", .str workItem.objective),
    ("acceptance_criteria", textList workItem.acceptanceCriteria),
    ("verification_commands", textList workItem.verificationCommands),
    ("allowed_paths", textList workItem.allowedPaths), ("non_goals", textList workItem.nonGoals),
    ("depends_on", textList workItem.dependsOn), ("priority", .int workItem.priority),
    ("correction_instructions", textList workItem.correctionInstructions),
    ("correction_decision_id", optionJson Json.str workItem.correctionDecisionId)]

/-- `_task_to_json`. -/
def taskToJson (task : TaskEntry) : Json :=
  .obj [("work_item", workItemToJson task.workItem), ("status", .str task.status.text),
    ("source", .str task.source), ("added_at_utc", .str task.addedAtUtc),
    ("updated_at_utc", .str task.updatedAtUtc), ("attempts", .int task.attempts),
    ("last_commit", optionJson Json.str task.lastCommit),
    ("last_error", optionJson Json.str task.lastError),
    ("pending_review_bundle_id", optionJson Json.str task.pendingReviewBundleId),
    ("last_review_decision_id", optionJson Json.str task.lastReviewDecisionId)]

/-- The command results of a record. -/
def commandsToJson (results : List CommandResult) : Json := .arr (results.map (commandToJson id))

/-- `_semantic_verification_to_json`. -/
def semanticVerificationToJson (report : Option SemanticVerificationReport) : Json :=
  optionJson (semanticToJson id) report

/-- `_run_to_json`. -/
def runToJson (record : RunRecord) : Json :=
  .obj [("run_id", .str record.runId), ("work_item_id", .str record.workItemId),
    ("started_at_utc", .str record.startedAtUtc), ("finished_at_utc", .str record.finishedAtUtc),
    ("ok", .bool record.ok), ("commit", optionJson Json.str record.commit),
    ("error", optionJson Json.str record.error),
    ("pre_apply_findings", textList record.preApplyFindings),
    ("post_apply_findings", textList record.postApplyFindings),
    ("command_results", commandsToJson record.commandResults),
    ("semantic_verification", semanticVerificationToJson record.semanticVerification)]

/-- `_rollback_record_to_json`. -/
def rollbackRecordToJson (record : RollbackRecord) : Json :=
  .obj [("rollback_id", .str record.rollbackId), ("created_at_utc", .str record.createdAtUtc),
    ("work_item_id", .str record.workItemId), ("run_id", .str record.runId),
    ("target_commit", .str record.targetCommit),
    ("rollback_commit", optionJson Json.str record.rollbackCommit),
    ("reason", .str record.reason), ("ok", .bool record.ok),
    ("changed_files", textList record.changedFiles),
    ("command_results", commandsToJson record.commandResults),
    ("error", optionJson Json.str record.error)]

/-- `_operator_event_to_json`. -/
def operatorEventToJson (event : OperatorEvent) : Json :=
  .obj [("event_id", .str event.eventId), ("created_at_utc", .str event.createdAtUtc),
    ("command", .str event.command), ("ok", .bool event.ok), ("message", .str event.message),
    ("raw_text", .str event.rawText), ("task_id", optionJson Json.str event.taskId)]

/-- `_relative_or_absolute`. -/
def relativeOrAbsolute (root path : PurePath) : String :=
  String.ofList ((path.relativeTo? root).getD path).asPosix

/-- `_audit_record_to_json`. -/
def auditRecordToJson (root : PurePath) (record : AuditEntry) : Json :=
  .obj [("audit_id", .str record.auditId), ("created_at_utc", .str record.createdAtUtc),
    ("ok", .bool record.ok), ("report_path", .str (relativeOrAbsolute root record.reportPath)),
    ("findings_count", .int record.findingsCount),
    ("command_results_count", .int record.commandResultsCount)]

/-- `_review_bundle_record_to_json`. -/
def reviewBundleRecordToJson (root : PurePath) (record : BundleEntry) : Json :=
  .obj [("bundle_id", .str record.bundleId), ("created_at_utc", .str record.createdAtUtc),
    ("run_id", .str record.runId), ("work_item_id", .str record.workItemId),
    ("commit", .str record.commit), ("bundle_sha256", .str record.bundleSha256),
    ("bundle_path", .str (relativeOrAbsolute root record.bundlePath))]

/-- The payload of a finding. -/
def findingToJson (finding : ReviewFinding) : Json :=
  .obj [("code", .str finding.code), ("severity", .str finding.severity),
    ("message", .str finding.message), ("path", optionJson Json.str finding.path)]

/-- The payload of a correction brief. -/
def correctionToJson (correction : CorrectionBrief) : Json :=
  .obj [("rationale", .str correction.rationale), ("instructions", textList correction.instructions),
    ("validation_focus", textList correction.validationFocus)]

/-- The payload of an escalation. -/
def escalationToJson (escalation : EscalationRequest) : Json :=
  .obj [("reason", .str escalation.reason), ("question", .str escalation.question),
    ("options", textList escalation.options)]

/-- The text of a review decision. -/
def decisionText : ReviewDecision → String
  | .approve => "approve"
  | .reject => "reject"
  | .escalate => "escalate"

/-- `_review_decision_record_to_json`. -/
def reviewDecisionRecordToJson (record : ReviewDecisionRecord) : Json :=
  .obj [("decision_id", .str record.decisionId), ("bundle_id", .str record.bundleId),
    ("bundle_sha256", .str record.bundleSha256), ("run_id", .str record.runId),
    ("work_item_id", .str record.workItemId), ("commit", .str record.commit),
    ("reviewer_id", .str record.reviewerId), ("reviewer_kind", .str record.reviewerKind),
    ("decision", .str (decisionText record.decision)), ("summary", .str record.summary),
    ("findings", .arr (record.findings.map findingToJson)),
    ("created_at_utc", .str record.createdAtUtc), ("imported_at_utc", .str record.importedAtUtc),
    ("protocol_version", .str record.protocolVersion),
    ("correction_brief", optionJson correctionToJson record.correctionBrief),
    ("escalation", optionJson escalationToJson record.escalation)]

/-! ## Keys -/

/-- A number or `null` has no keys. -/
theorem distinctKeys_optionInt (value : Option Int) : (optionJson Json.int value).DistinctKeys :=
  distinctKeys_optionJson (fun number => show (Json.int number).DistinctKeys from trivial) value

/-- A task is a dict with the dict of its work item in it. -/
theorem distinctKeys_taskToJson (task : TaskEntry) : (taskToJson task).DistinctKeys := by
  simp [taskToJson, workItemToJson, Json.DistinctKeys, Json.DistinctMembers, distinctKeys_textList,
    distinctKeys_optionText]

/-- The results of commands are flat dicts. -/
theorem distinctKeys_commandsToJson (results : List CommandResult) :
    (commandsToJson results).DistinctKeys :=
  distinctItems_map (fun result => by
    simp [commandToJson, Json.DistinctKeys, Json.DistinctMembers]) results

/-- A semantic report holds the dict of the invocation that is its evidence. -/
theorem distinctKeys_semanticVerificationToJson (report : Option SemanticVerificationReport) :
    (semanticVerificationToJson report).DistinctKeys := by
  refine distinctKeys_optionJson (fun semantic => ?_) report
  have hevidence : (optionJson invocationToJson semantic.evidence).DistinctKeys :=
    distinctKeys_optionJson (fun evidence => by
      simp [invocationToJson, Json.DistinctKeys, Json.DistinctMembers, distinctKeys_optionText,
        distinctKeys_optionInt]) _
  have hfindings : (redactedTexts id semantic.findings).DistinctKeys :=
    distinctKeys_textList semantic.findings
  simp [semanticToJson, Json.DistinctKeys, Json.DistinctMembers, hevidence, hfindings]

/-- A run holds the results of its commands and its semantic report. -/
theorem distinctKeys_runToJson (record : RunRecord) : (runToJson record).DistinctKeys := by
  simp [runToJson, Json.DistinctKeys, Json.DistinctMembers, distinctKeys_textList,
    distinctKeys_optionText, distinctKeys_commandsToJson, distinctKeys_semanticVerificationToJson]

/-- A rollback holds the results of its commands. -/
theorem distinctKeys_rollbackRecordToJson (record : RollbackRecord) :
    (rollbackRecordToJson record).DistinctKeys := by
  simp [rollbackRecordToJson, Json.DistinctKeys, Json.DistinctMembers, distinctKeys_textList,
    distinctKeys_optionText, distinctKeys_commandsToJson]

theorem distinctKeys_operatorEventToJson (event : OperatorEvent) :
    (operatorEventToJson event).DistinctKeys := by
  simp [operatorEventToJson, Json.DistinctKeys, Json.DistinctMembers, distinctKeys_optionText]

theorem distinctKeys_auditRecordToJson (root : PurePath) (record : AuditEntry) :
    (auditRecordToJson root record).DistinctKeys := by
  simp [auditRecordToJson, Json.DistinctKeys, Json.DistinctMembers]

theorem distinctKeys_reviewBundleRecordToJson (root : PurePath) (record : BundleEntry) :
    (reviewBundleRecordToJson root record).DistinctKeys := by
  simp [reviewBundleRecordToJson, Json.DistinctKeys, Json.DistinctMembers]

/-- A decision holds its findings, and a correction brief or an escalation where it has one. -/
theorem distinctKeys_reviewDecisionRecordToJson (record : ReviewDecisionRecord) :
    (reviewDecisionRecordToJson record).DistinctKeys := by
  have hfindings : Json.DistinctItems (record.findings.map findingToJson) :=
    distinctItems_map (fun finding => by
      simp [findingToJson, Json.DistinctKeys, Json.DistinctMembers, distinctKeys_optionText]) _
  have hcorrection : (optionJson correctionToJson record.correctionBrief).DistinctKeys :=
    distinctKeys_optionJson (fun correction => by
      simp [correctionToJson, Json.DistinctKeys, Json.DistinctMembers, distinctKeys_textList]) _
  have hescalation : (optionJson escalationToJson record.escalation).DistinctKeys :=
    distinctKeys_optionJson (fun escalation => by
      simp [escalationToJson, Json.DistinctKeys, Json.DistinctMembers, distinctKeys_textList]) _
  simp [reviewDecisionRecordToJson, Json.DistinctKeys, Json.DistinctMembers, hfindings,
    hcorrection, hescalation]

end LlmHarness.StateCodec
