/-
  LlmHarness.State.Codec

  The decoders of the state files: queue entries, run history, rollback records,
  operator events, review decisions, review bundles and audit reports.  A decoder
  converts with `str`, `int` and `bool`, fills what is absent with a default, and
  takes a path that is not absolute as one below the state root.

  Every record is read back from its own encoding; for the two kinds that hold a
  path the path must be absolute or lie below the state root.
-/

import LlmHarness.Python.JsonQuotes
import LlmHarness.State.Payloads

namespace LlmHarness.StateCodec

open Python Guards

/-! ## Reading -/

/-- What a decoder raises. -/
inductive DecodeError where
  /-- `StateStoreError`. -/
  | store (message : String)
  /-- `KeyError`. -/
  | key (name : String)
  /-- `TypeError` or `ValueError` of a conversion. -/
  | conversion (value : Json)

/-- A decoder. -/
abbrev Decoder (α : Type) : Type := Json → Except DecodeError α

/-- `if not isinstance(data, dict): raise StateStoreError(message)`. -/
def asDict (message : String) : Decoder (List (String × Json))
  | .obj members => .ok members
  | _ => .error (.store message)

/-- `data[key]`. -/
def item (data : List (String × Json)) (key : String) : Except DecodeError Json :=
  match dictGet? data key with
  | some value => .ok value
  | none => .error (.key key)

/-- `str(data[key])`. -/
def strItem (data : List (String × Json)) (key : String) : Except DecodeError String := do
  return pyStr (← item data key)

/-- `bool(data[key])`. -/
def boolItem (data : List (String × Json)) (key : String) : Except DecodeError Bool := do
  return isTruthy (← item data key)

/-- `str(data.get(key) or "")`. -/
def strOrEmpty (data : List (String × Json)) (key : String) : String :=
  pyStr (pyOr (field data key) (.str ""))

/-- The values a `for` loop runs over. -/
def iterate : Decoder (List Json)
  | .arr items => .ok items
  | .str text => .ok (text.toList.map fun c => .str (String.singleton c))
  | .obj members => .ok (members.map fun member => .str member.1)
  | value => .error (.conversion value)

/-- `data.get(key, ())`. -/
def itemsOf (data : List (String × Json)) (key : String) : Except DecodeError (List Json) :=
  iterate ((dictGet? data key).getD (.arr []))

/-- `tuple(str(item) for item in data.get(key, ()))`. -/
def stringsOf (data : List (String × Json)) (key : String) : Except DecodeError (List String) := do
  return (← itemsOf data key).map pyStr

/-- `tuple(str(item) for item in data[key])`. -/
def stringsItem (data : List (String × Json)) (key : String) : Except DecodeError (List String) := do
  return (← iterate (← item data key)).map pyStr

/-- `_optional_string`. -/
def optionalString : Json → Option String
  | .null => none
  | value => some (pyStr value)

/-- A value that may be `None`. -/
def optional {α : Type} (decode : Decoder α) : Decoder (Option α)
  | .null => .ok none
  | value => (decode value).map some

/-- `_status_from_json`; a list or a dict is not hashable. -/
def statusFromJson (value : Json) : Except DecodeError TaskStatus :=
  match value with
  | .str "queued" => .ok .queued
  | .str "running" => .ok .running
  | .str "review_pending" => .ok .reviewPending
  | .str "rework_required" => .ok .reworkRequired
  | .str "escalated" => .ok .escalated
  | .str "done" => .ok .done
  | .str "failed" => .ok .failed
  | .str "rolled_back" => .ok .rolledBack
  | .arr items => .error (.conversion (.arr items))
  | .obj members => .error (.conversion (.obj members))
  | value => .error (.store ("Invalid task status: " ++ pyStr value))

/-- `_priority_from_json`; a bool is no number. -/
def priorityFromJson : Decoder Int
  | .int value => .ok value
  | _ => .error (.store "Queue work_item priority must be an integer.")

/-- `_work_item_from_json`. -/
def workItemFromJson : Decoder WorkItem := fun data => do
  let data ← asDict "Queue work_item must be an object." data
  let id ← strItem data "id"
  let title ← strItem data "title"
  let objective ← strItem data "objective"
  let acceptanceCriteria ← stringsItem data "acceptance_criteria"
  let verificationCommands ← stringsItem data "verification_commands"
  let allowedPaths ← stringsOf data "allowed_paths"
  let nonGoals ← stringsOf data "non_goals"
  let dependsOn ← stringsOf data "depends_on"
  let priority ← priorityFromJson ((dictGet? data "priority").getD (.int 0))
  let correctionInstructions ← stringsOf data "correction_instructions"
  return { id, title, objective, acceptanceCriteria, verificationCommands, allowedPaths, nonGoals,
           dependsOn, priority, correctionInstructions
           correctionDecisionId := optionalString (field data "correction_decision_id") }

section

variable (intOf : Json → Option Int)

/-- `int(value)`; `intOf` says what a value that is no number gives, `none` where it raises. -/
def intFromJson : Decoder Int
  | .int value => .ok value
  | .bool value => .ok (if value then 1 else 0)
  | value => match intOf value with
    | some number => .ok number
    | none => .error (.conversion value)

/-- `int(data[key])`. -/
def intItem (data : List (String × Json)) (key : String) : Except DecodeError Int := do
  intFromJson intOf (← item data key)

/-- `_task_from_json`. -/
def taskFromJson : Decoder TaskEntry := fun data => do
  let data ← asDict "Queue task entry must be an object." data
  let workItem ← workItemFromJson (field data "work_item")
  let status ← statusFromJson (field data "status")
  let attempts ← intFromJson intOf (pyOr (field data "attempts") (.int 0))
  return { workItem, status, attempts
           source := strOrEmpty data "source"
           addedAtUtc := strOrEmpty data "added_at_utc"
           updatedAtUtc := strOrEmpty data "updated_at_utc"
           lastCommit := optionalString (field data "last_commit")
           lastError := optionalString (field data "last_error")
           pendingReviewBundleId := optionalString (field data "pending_review_bundle_id")
           lastReviewDecisionId := optionalString (field data "last_review_decision_id") }

/-- `_command_result_from_json`. -/
def commandResultFromJson : Decoder CommandResult := fun data => do
  let data ← asDict "Command result entry must be an object." data
  let command ← strItem data "command"
  let returnCode ← intItem intOf data "return_code"
  return { command, returnCode, stdout := strOrEmpty data "stdout"
           stderr := strOrEmpty data "stderr" }

/-- The `evidence` of `_semantic_verification_from_json`. -/
def evidenceFromJson : Decoder ModelInvocationEvidence := fun data => do
  let data ← asDict "Semantic verification evidence must be an object." data
  let provider ← strItem data "provider"
  let model ← strItem data "model"
  let endpoint ← strItem data "endpoint"
  let attempts ← intItem intOf data "attempts"
  let latencyMs ← intItem intOf data "latency_ms"
  let inputTokens ← optional (intFromJson intOf) (field data "input_tokens")
  let outputTokens ← optional (intFromJson intOf) (field data "output_tokens")
  let totalTokens ← optional (intFromJson intOf) (field data "total_tokens")
  return { provider, model, endpoint, attempts, latencyMs, inputTokens, outputTokens, totalTokens
           requestId := optionalString (field data "request_id")
           requestSha256 := pyStr ((dictGet? data "request_sha256").getD (.str ""))
           responseSha256 := pyStr ((dictGet? data "response_sha256").getD (.str "")) }

/-- `SemanticVerificationReport.__post_init__` on a decision. -/
def semanticDecisionFromText : String → Except DecodeError SemanticDecision
  | "pass" => .ok .pass
  | "fail" => .ok .fail
  | "escalate" => .ok .escalate
  | other => .error (.conversion (.str other))

/-- `_semantic_verification_from_json` of a value that is not `None`. -/
def semanticReportFromJson : Decoder SemanticVerificationReport := fun data => do
  let data ← asDict "Semantic verification history must be an object." data
  let evidence ← optional (evidenceFromJson intOf) (field data "evidence")
  let decision ← strItem data "decision"
  let summary ← strItem data "summary"
  let findings ← stringsOf data "findings"
  let decision ← semanticDecisionFromText decision
  return { decision, summary, findings, evidence }

/-- `_run_from_json`. -/
def runFromJson : Decoder RunRecord := fun data => do
  let data ← asDict "Run history entry must be an object." data
  let runId ← strItem data "run_id"
  let workItemId ← strItem data "work_item_id"
  let startedAtUtc ← strItem data "started_at_utc"
  let finishedAtUtc ← strItem data "finished_at_utc"
  let ok ← boolItem data "ok"
  let preApplyFindings ← stringsOf data "pre_apply_findings"
  let postApplyFindings ← stringsOf data "post_apply_findings"
  let commandResults ← (← itemsOf data "command_results").mapM (commandResultFromJson intOf)
  let semanticVerification ←
    optional (semanticReportFromJson intOf) (field data "semantic_verification")
  return { runId, workItemId, startedAtUtc, finishedAtUtc, ok, preApplyFindings, postApplyFindings,
           commandResults, semanticVerification
           commit := optionalString (field data "commit")
           error := optionalString (field data "error") }

/-- `_rollback_record_from_json`. -/
def rollbackRecordFromJson : Decoder RollbackRecord := fun data => do
  let data ← asDict "Rollback record entry must be an object." data
  let rollbackId ← strItem data "rollback_id"
  let createdAtUtc ← strItem data "created_at_utc"
  let workItemId ← strItem data "work_item_id"
  let runId ← strItem data "run_id"
  let targetCommit ← strItem data "target_commit"
  let reason ← strItem data "reason"
  let ok ← boolItem data "ok"
  let changedFiles ← stringsOf data "changed_files"
  let commandResults ← (← itemsOf data "command_results").mapM (commandResultFromJson intOf)
  return { rollbackId, createdAtUtc, workItemId, runId, targetCommit, reason, ok, changedFiles,
           commandResults
           rollbackCommit := optionalString (field data "rollback_commit")
           error := optionalString (field data "error") }

/-- `_operator_event_from_json`. -/
def operatorEventFromJson : Decoder OperatorEvent := fun data => do
  let data ← asDict "Operator event entry must be an object." data
  let eventId ← strItem data "event_id"
  let createdAtUtc ← strItem data "created_at_utc"
  let command ← strItem data "command"
  let ok ← boolItem data "ok"
  let message ← strItem data "message"
  let rawText ← strItem data "raw_text"
  return { eventId, createdAtUtc, command, ok, message, rawText
           taskId := optionalString (field data "task_id") }

/-- A path the decoders read: below the root unless it is absolute. -/
def pathFromText (root : PurePath) (text : String) : PurePath :=
  let path := PurePath.ofText text.toList
  if path.isAbsolute then path else root.join path

/-- `_audit_record_from_json`. -/
def auditRecordFromJson (root : PurePath) : Decoder AuditEntry := fun data => do
  let data ← asDict "Audit report entry must be an object." data
  let reportPath ← strItem data "report_path"
  let auditId ← strItem data "audit_id"
  let createdAtUtc ← strItem data "created_at_utc"
  let ok ← boolItem data "ok"
  let findingsCount ← intItem intOf data "findings_count"
  let commandResultsCount ← intItem intOf data "command_results_count"
  return { auditId, createdAtUtc, ok, reportPath := pathFromText root reportPath, findingsCount,
           commandResultsCount }

/-- `_review_bundle_record_from_json`. -/
def reviewBundleRecordFromJson (root : PurePath) : Decoder BundleEntry := fun data => do
  let data ← asDict "Review bundle record must be an object." data
  let bundlePath ← strItem data "bundle_path"
  let bundleId ← strItem data "bundle_id"
  let createdAtUtc ← strItem data "created_at_utc"
  let runId ← strItem data "run_id"
  let workItemId ← strItem data "work_item_id"
  let commit ← strItem data "commit"
  let bundleSha256 ← strItem data "bundle_sha256"
  return { bundleId, createdAtUtc, runId, workItemId, commit, bundleSha256
           bundlePath := pathFromText root bundlePath }

/-- A finding of `_review_decision_record_from_json`. -/
def findingFromJson : Decoder ReviewFinding := fun data => do
  let data ← asDict "Review finding must be an object." data
  let code ← strItem data "code"
  let severity ← strItem data "severity"
  let message ← strItem data "message"
  return { code, severity, message, path := optionalString (field data "path") }

/-- The correction brief of `_review_decision_record_from_json`. -/
def correctionFromJson : Decoder CorrectionBrief := fun data => do
  let data ← asDict "Review correction_brief must be an object or null." data
  let rationale ← strItem data "rationale"
  let instructions ← stringsOf data "instructions"
  let validationFocus ← stringsOf data "validation_focus"
  return { rationale, instructions, validationFocus }

/-- The escalation of `_review_decision_record_from_json`. -/
def escalationFromJson : Decoder EscalationRequest := fun data => do
  let data ← asDict "Review escalation must be an object or null." data
  let reason ← strItem data "reason"
  let question ← strItem data "question"
  let options ← stringsOf data "options"
  return { reason, question, options }

/-- The decision of `_review_decision_record_from_json`. -/
def decisionFromJson : Decoder ReviewDecision
  | .str "approve" => .ok .approve
  | .str "reject" => .ok .reject
  | .str "escalate" => .ok .escalate
  | .arr items => .error (.conversion (.arr items))
  | .obj members => .error (.conversion (.obj members))
  | value => .error (.store ("Invalid review decision: " ++ pyStr value))

/-- `_review_decision_record_from_json`. -/
def reviewDecisionRecordFromJson : Decoder ReviewDecisionRecord := fun data => do
  let data ← asDict "Review decision record must be an object." data
  let decision ← decisionFromJson (field data "decision")
  let rawFindings ← match dictGet? data "findings" with
    | some (.arr items) => .ok items
    | _ => .error (.store "Review decision findings must be a list.")
  let findings ← rawFindings.mapM findingFromJson
  let correctionBrief ← optional correctionFromJson (field data "correction_brief")
  let escalation ← optional escalationFromJson (field data "escalation")
  let decisionId ← strItem data "decision_id"
  let bundleId ← strItem data "bundle_id"
  let bundleSha256 ← strItem data "bundle_sha256"
  let runId ← strItem data "run_id"
  let workItemId ← strItem data "work_item_id"
  let commit ← strItem data "commit"
  let reviewerId ← strItem data "reviewer_id"
  let reviewerKind ← strItem data "reviewer_kind"
  let summary ← strItem data "summary"
  let createdAtUtc ← strItem data "created_at_utc"
  let importedAtUtc ← strItem data "imported_at_utc"
  return { decisionId, bundleId, bundleSha256, runId, workItemId, commit, reviewerId, reviewerKind,
           decision, summary, findings, createdAtUtc, importedAtUtc
           protocolVersion := pyStr ((dictGet? data "protocol_version").getD (.str "1.0"))
           correctionBrief, escalation }

end

/-! ## Fields read back -/

section

variable {data : List (String × Json)} {key : String}

/-- `str` of a string is the string. -/
theorem map_pyStr_textList (texts : List String) : (texts.map Json.str).map pyStr = texts := by
  rw [List.map_map]
  exact List.map_id texts

/-- A list of texts is decoded as it was encoded. -/
theorem stringsOf_ok {texts : List String} (h : dictGet? data key = some (textList texts)) :
    stringsOf data key = .ok texts := by
  rw [stringsOf, itemsOf, h]
  exact congrArg Except.ok (map_pyStr_textList texts)

/-- ... also where it has to be there. -/
theorem stringsItem_ok {texts : List String} (h : dictGet? data key = some (textList texts)) :
    stringsItem data key = .ok texts := by
  rw [stringsItem, item, h]
  exact congrArg Except.ok (map_pyStr_textList texts)

/-- A text is decoded as it was encoded, the empty one as the default. -/
theorem strOrEmpty_ok {text : String} (h : dictGet? data key = some (.str text)) :
    strOrEmpty data key = text := by
  rw [strOrEmpty, field, h, Option.getD_some, pyOr]
  by_cases htext : text = ""
  · simp [htext, isTruthy, pyStr]
  · simp [htext, isTruthy, pyStr]

/-- An optional text comes back as it was, `null` as `None`. -/
theorem optionalString_ok {text : Option String}
    (h : dictGet? data key = some (optionJson Json.str text)) :
    optionalString (field data key) = text := by
  rw [field, h]
  cases text <;> rfl

/-- A number comes back as it was, zero as the default. -/
theorem intOrZero_ok (intOf : Json → Option Int) {value : Int}
    (h : dictGet? data key = some (.int value)) :
    intFromJson intOf (pyOr (field data key) (.int 0)) = .ok value := by
  rw [field, h, Option.getD_some, pyOr]
  by_cases hvalue : value = 0
  · simp [hvalue, isTruthy, intFromJson]
  · simp [hvalue, isTruthy, intFromJson]

/-- A value that may be `None` is read back when the value is. -/
theorem optional_ok {α : Type} (encode : α → Json) {decode : Decoder α}
    (hnull : ∀ a, encode a ≠ .null) (hread : ∀ a, decode (encode a) = .ok a) {value : Option α}
    (h : dictGet? data key = some (optionJson encode value)) :
    optional decode (field data key) = .ok value := by
  rw [field, h, Option.getD_some]
  cases value with
  | none => rfl
  | some a =>
      have hsome : optional decode (encode a) = (decode (encode a)).map some := by
        rw [optional]
        exact hnull a
      rw [optionJson, hsome, hread]
      rfl

/-- ... and so is an optional number. -/
theorem optionalInt_ok (intOf : Json → Option Int) {value : Option Int}
    (h : dictGet? data key = some (optionJson Json.int value)) :
    optional (intFromJson intOf) (field data key) = .ok value :=
  optional_ok Json.int (fun _ => nofun) (fun _ => rfl) h

end

/-- A list encoded item by item is read back item by item. -/
theorem mapM_encoded {α : Type} {encode : α → Json} {decode : Decoder α}
    (hread : ∀ a, decode (encode a) = .ok a) (items : List α) :
    (items.map encode).mapM decode = .ok items := by
  have hmap := mapM_map_ok encode decode id hread items
  rwa [List.map_id] at hmap

/-! ## Records read back -/

/-- A status is decoded from its own spelling. -/
theorem statusFromJson_text (status : TaskStatus) :
    statusFromJson (.str status.text) = .ok status := by
  cases status <;> rfl

/-- A work item comes back. -/
theorem workItem_decoded (workItem : WorkItem) :
    workItemFromJson (workItemToJson workItem) = .ok workItem := by
  refine bind_eq_ok.mpr ⟨_, rfl, ?_⟩
  refine bind_eq_ok.mpr ⟨_, rfl, bind_eq_ok.mpr ⟨_, rfl, bind_eq_ok.mpr ⟨_, rfl, ?_⟩⟩⟩
  refine bind_eq_ok.mpr ⟨_, stringsItem_ok rfl, bind_eq_ok.mpr ⟨_, stringsItem_ok rfl, ?_⟩⟩
  refine bind_eq_ok.mpr ⟨_, stringsOf_ok rfl, bind_eq_ok.mpr ⟨_, stringsOf_ok rfl, ?_⟩⟩
  refine bind_eq_ok.mpr ⟨_, stringsOf_ok rfl, bind_eq_ok.mpr ⟨_, rfl, ?_⟩⟩
  refine bind_eq_ok.mpr ⟨_, stringsOf_ok rfl, pure_eq_ok.mpr ?_⟩
  cases workItem
  rw [WorkItem.mk.injEq]
  exact ⟨rfl, rfl, rfl, rfl, rfl, rfl, rfl, rfl, rfl, rfl, optionalString_ok rfl⟩

variable (intOf : Json → Option Int)

/-- An entry of the queue comes back. -/
theorem task_decoded (task : TaskEntry) : taskFromJson intOf (taskToJson task) = .ok task := by
  refine bind_eq_ok.mpr ⟨_, rfl, bind_eq_ok.mpr ⟨_, workItem_decoded task.workItem, ?_⟩⟩
  refine bind_eq_ok.mpr ⟨_, statusFromJson_text task.status, ?_⟩
  refine bind_eq_ok.mpr ⟨_, intOrZero_ok intOf rfl, pure_eq_ok.mpr ?_⟩
  cases task
  rw [TaskEntry.mk.injEq]
  exact ⟨rfl, rfl, strOrEmpty_ok rfl, strOrEmpty_ok rfl, strOrEmpty_ok rfl, rfl,
    optionalString_ok rfl, optionalString_ok rfl, optionalString_ok rfl, optionalString_ok rfl⟩

/-- The result of a command comes back. -/
theorem command_decoded (result : CommandResult) :
    commandResultFromJson intOf (commandToJson id result) = .ok result := by
  refine bind_eq_ok.mpr ⟨_, rfl, bind_eq_ok.mpr ⟨_, rfl, bind_eq_ok.mpr ⟨_, rfl, pure_eq_ok.mpr ?_⟩⟩⟩
  cases result
  rw [CommandResult.mk.injEq]
  exact ⟨rfl, rfl, strOrEmpty_ok rfl, strOrEmpty_ok rfl⟩

/-- The evidence of an invocation comes back. -/
theorem evidence_decoded (evidence : ModelInvocationEvidence) :
    evidenceFromJson intOf (invocationToJson evidence) = .ok evidence := by
  refine bind_eq_ok.mpr ⟨_, rfl, ?_⟩
  refine bind_eq_ok.mpr ⟨_, rfl, bind_eq_ok.mpr ⟨_, rfl, bind_eq_ok.mpr ⟨_, rfl, ?_⟩⟩⟩
  refine bind_eq_ok.mpr ⟨_, rfl, bind_eq_ok.mpr ⟨_, rfl, ?_⟩⟩
  refine bind_eq_ok.mpr ⟨_, optionalInt_ok intOf rfl, bind_eq_ok.mpr ⟨_, optionalInt_ok intOf rfl, ?_⟩⟩
  refine bind_eq_ok.mpr ⟨_, optionalInt_ok intOf rfl, pure_eq_ok.mpr ?_⟩
  cases evidence
  rw [ModelInvocationEvidence.mk.injEq]
  exact ⟨rfl, rfl, rfl, optionalString_ok rfl, rfl, rfl, rfl, rfl, rfl, rfl, rfl⟩

/-- A semantic report comes back, with its evidence. -/
theorem semanticReport_decoded (report : SemanticVerificationReport) :
    semanticReportFromJson intOf (semanticToJson id report) = .ok report := by
  have hdecision : semanticDecisionFromText report.decision.text = .ok report.decision := by
    cases report.decision <;> rfl
  refine bind_eq_ok.mpr ⟨_, rfl, ?_⟩
  refine bind_eq_ok.mpr ⟨_, optional_ok invocationToJson (fun _ => nofun) (evidence_decoded intOf) rfl, ?_⟩
  refine bind_eq_ok.mpr ⟨_, rfl, bind_eq_ok.mpr ⟨_, rfl, ?_⟩⟩
  exact bind_eq_ok.mpr ⟨_, stringsOf_ok rfl, bind_eq_ok.mpr ⟨_, hdecision, rfl⟩⟩

/-- A run comes back. -/
theorem run_decoded (record : RunRecord) : runFromJson intOf (runToJson record) = .ok record := by
  refine bind_eq_ok.mpr ⟨_, rfl, bind_eq_ok.mpr ⟨_, rfl, bind_eq_ok.mpr ⟨_, rfl, ?_⟩⟩⟩
  refine bind_eq_ok.mpr ⟨_, rfl, bind_eq_ok.mpr ⟨_, rfl, bind_eq_ok.mpr ⟨_, rfl, ?_⟩⟩⟩
  refine bind_eq_ok.mpr ⟨_, stringsOf_ok rfl, bind_eq_ok.mpr ⟨_, stringsOf_ok rfl, ?_⟩⟩
  refine bind_eq_ok.mpr ⟨_, rfl, ?_⟩
  refine bind_eq_ok.mpr ⟨_, mapM_encoded (command_decoded intOf) record.commandResults, ?_⟩
  refine bind_eq_ok.mpr
    ⟨_, optional_ok (semanticToJson id) (fun _ => nofun) (semanticReport_decoded intOf) rfl, pure_eq_ok.mpr ?_⟩
  cases record
  rw [RunRecord.mk.injEq]
  exact ⟨rfl, rfl, rfl, rfl, rfl, optionalString_ok rfl, optionalString_ok rfl, rfl, rfl, rfl, rfl⟩

/-- A rollback comes back. -/
theorem rollbackRecord_decoded (record : RollbackRecord) :
    rollbackRecordFromJson intOf (rollbackRecordToJson record) = .ok record := by
  refine bind_eq_ok.mpr ⟨_, rfl, bind_eq_ok.mpr ⟨_, rfl, bind_eq_ok.mpr ⟨_, rfl, ?_⟩⟩⟩
  refine bind_eq_ok.mpr ⟨_, rfl, bind_eq_ok.mpr ⟨_, rfl, bind_eq_ok.mpr ⟨_, rfl, ?_⟩⟩⟩
  refine bind_eq_ok.mpr ⟨_, rfl, bind_eq_ok.mpr ⟨_, rfl, ?_⟩⟩
  refine bind_eq_ok.mpr ⟨_, stringsOf_ok rfl, bind_eq_ok.mpr ⟨_, rfl, ?_⟩⟩
  refine bind_eq_ok.mpr
    ⟨_, mapM_encoded (command_decoded intOf) record.commandResults, pure_eq_ok.mpr ?_⟩
  cases record
  rw [RollbackRecord.mk.injEq]
  exact ⟨rfl, rfl, rfl, rfl, rfl, optionalString_ok rfl, rfl, rfl, rfl, rfl, optionalString_ok rfl⟩

/-- An operator event comes back. -/
theorem operatorEvent_decoded (event : OperatorEvent) :
    operatorEventFromJson (operatorEventToJson event) = .ok event := by
  refine bind_eq_ok.mpr ⟨_, rfl, bind_eq_ok.mpr ⟨_, rfl, bind_eq_ok.mpr ⟨_, rfl, ?_⟩⟩⟩
  refine bind_eq_ok.mpr ⟨_, rfl, bind_eq_ok.mpr ⟨_, rfl, bind_eq_ok.mpr ⟨_, rfl, ?_⟩⟩⟩
  refine bind_eq_ok.mpr ⟨_, rfl, pure_eq_ok.mpr ?_⟩
  cases event
  rw [OperatorEvent.mk.injEq]
  exact ⟨rfl, rfl, rfl, rfl, rfl, rfl, optionalString_ok rfl⟩

/-- A finding comes back. -/
theorem finding_decoded (finding : ReviewFinding) :
    findingFromJson (findingToJson finding) = .ok finding := by
  refine bind_eq_ok.mpr ⟨_, rfl, bind_eq_ok.mpr ⟨_, rfl, ?_⟩⟩
  refine bind_eq_ok.mpr ⟨_, rfl, bind_eq_ok.mpr ⟨_, rfl, pure_eq_ok.mpr ?_⟩⟩
  cases finding
  rw [ReviewFinding.mk.injEq]
  exact ⟨rfl, rfl, rfl, optionalString_ok rfl⟩

/-- A correction brief comes back. -/
theorem correction_decoded (correction : CorrectionBrief) :
    correctionFromJson (correctionToJson correction) = .ok correction := by
  refine bind_eq_ok.mpr ⟨_, rfl, bind_eq_ok.mpr ⟨_, rfl, ?_⟩⟩
  exact bind_eq_ok.mpr ⟨_, stringsOf_ok rfl, bind_eq_ok.mpr ⟨_, stringsOf_ok rfl, rfl⟩⟩

/-- An escalation comes back. -/
theorem escalation_decoded (escalation : EscalationRequest) :
    escalationFromJson (escalationToJson escalation) = .ok escalation := by
  refine bind_eq_ok.mpr ⟨_, rfl, bind_eq_ok.mpr ⟨_, rfl, bind_eq_ok.mpr ⟨_, rfl, ?_⟩⟩⟩
  exact bind_eq_ok.mpr ⟨_, stringsOf_ok rfl, rfl⟩

/-- A decision comes back, with its brief or its escalation. -/
theorem reviewDecisionRecord_decoded (record : ReviewDecisionRecord) :
    reviewDecisionRecordFromJson (reviewDecisionRecordToJson record) = .ok record := by
  have hdecision : decisionFromJson (.str (decisionText record.decision)) = .ok record.decision := by
    cases record.decision <;> rfl
  refine bind_eq_ok.mpr ⟨_, rfl, bind_eq_ok.mpr ⟨_, hdecision, bind_eq_ok.mpr ⟨_, rfl, ?_⟩⟩⟩
  refine bind_eq_ok.mpr ⟨_, mapM_encoded finding_decoded record.findings, ?_⟩
  refine bind_eq_ok.mpr ⟨_, optional_ok correctionToJson (fun _ => nofun) correction_decoded rfl, ?_⟩
  refine bind_eq_ok.mpr ⟨_, optional_ok escalationToJson (fun _ => nofun) escalation_decoded rfl, ?_⟩
  rfl

/-! ## Paths -/

/-- A path the state files keep: absolute, or below the state root. -/
def Kept (root path : PurePath) : Prop := path.isAbsolute ∨ path.IsRelativeTo root

/-- A path comes back from the text relative to the state root, or from the absolute one. -/
theorem path_decoded {root path : PurePath} (h : Kept root path) :
    pathFromText root (relativeOrAbsolute root path) = path := by
  rw [pathFromText, relativeOrAbsolute, String.toList_ofList, PurePath.ofText_asPosix]
  cases hrelative : path.relativeTo? root with
  | none =>
      have habsolute : path.isAbsolute := by
        refine h.resolve_right fun hbelow => ?_
        rw [PurePath.relativeTo?, if_pos hbelow] at hrelative
        cases hrelative
      rw [Option.getD_none, if_pos habsolute]
  | some relative =>
      rw [Option.getD_some, if_neg (by simp [PurePath.isAbsolute_relativeTo hrelative])]
      exact PurePath.join_relativeTo hrelative

/-- An audit comes back, if its report path does. -/
theorem auditRecord_decoded {root : PurePath} {record : AuditEntry} (h : Kept root record.reportPath) :
    auditRecordFromJson intOf root (auditRecordToJson root record) = .ok record := by
  refine bind_eq_ok.mpr ⟨_, rfl, bind_eq_ok.mpr ⟨_, rfl, bind_eq_ok.mpr ⟨_, rfl, ?_⟩⟩⟩
  refine bind_eq_ok.mpr ⟨_, rfl, bind_eq_ok.mpr ⟨_, rfl, bind_eq_ok.mpr ⟨_, rfl, ?_⟩⟩⟩
  refine bind_eq_ok.mpr ⟨_, rfl, pure_eq_ok.mpr ?_⟩
  cases record
  rw [AuditEntry.mk.injEq]
  exact ⟨rfl, rfl, rfl, path_decoded h, rfl, rfl⟩

/-- A bundle comes back, if its path does. -/
theorem reviewBundleRecord_decoded {root : PurePath} {record : BundleEntry}
    (h : Kept root record.bundlePath) :
    reviewBundleRecordFromJson root (reviewBundleRecordToJson root record) = .ok record := by
  refine bind_eq_ok.mpr ⟨_, rfl, bind_eq_ok.mpr ⟨_, rfl, bind_eq_ok.mpr ⟨_, rfl, ?_⟩⟩⟩
  refine bind_eq_ok.mpr ⟨_, rfl, bind_eq_ok.mpr ⟨_, rfl, bind_eq_ok.mpr ⟨_, rfl, ?_⟩⟩⟩
  refine bind_eq_ok.mpr ⟨_, rfl, bind_eq_ok.mpr ⟨_, rfl, pure_eq_ok.mpr ?_⟩⟩
  cases record
  rw [BundleEntry.mk.injEq]
  exact ⟨rfl, rfl, rfl, rfl, rfl, rfl, path_decoded h⟩

/-- **The state codec.**  Every record is read back from its encoding; the two kinds that
    hold a path whenever the path is kept. -/
theorem codec_roundTrip (root : PurePath) :
    (∀ task, taskFromJson intOf (taskToJson task) = .ok task) ∧
    (∀ record, runFromJson intOf (runToJson record) = .ok record) ∧
    (∀ record, rollbackRecordFromJson intOf (rollbackRecordToJson record) = .ok record) ∧
    (∀ event, operatorEventFromJson (operatorEventToJson event) = .ok event) ∧
    (∀ record, reviewDecisionRecordFromJson (reviewDecisionRecordToJson record) = .ok record) ∧
    (∀ record : BundleEntry, Kept root record.bundlePath →
      reviewBundleRecordFromJson root (reviewBundleRecordToJson root record) = .ok record) ∧
    ∀ record : AuditEntry, Kept root record.reportPath →
      auditRecordFromJson intOf root (auditRecordToJson root record) = .ok record :=
  ⟨task_decoded intOf, run_decoded intOf, rollbackRecord_decoded intOf, operatorEvent_decoded,
    reviewDecisionRecord_decoded, fun _ => reviewBundleRecord_decoded,
    fun _ => auditRecord_decoded intOf⟩

/-- A state root, and a report below it. -/
def sampleRoot : PurePath := PurePath.ofText "/srv/state".toList

def sampleAudit : AuditEntry where
  auditId := "a1"
  createdAtUtc := "t0"
  ok := true
  reportPath := PurePath.ofText "/srv/state/audits/a1.md".toList
  findingsCount := 0
  commandResultsCount := 2

theorem codec_roundTrip_sample :
    Kept sampleRoot sampleAudit.reportPath ∧
      auditRecordFromJson (fun _ => none) sampleRoot (auditRecordToJson sampleRoot sampleAudit) =
        .ok sampleAudit := by
  have hkept : Kept sampleRoot sampleAudit.reportPath := Or.inl (by decide)
  exact ⟨hkept, (codec_roundTrip (fun _ => none) sampleRoot).2.2.2.2.2.2 sampleAudit hkept⟩

/-! ## The queue file -/

/-- The text `_write_tasks` writes. -/
def queueFile (tasks : List TaskEntry) : Text := (Json.arr (tasks.map taskToJson)).dumpsIndent ++ ['\n']

/-- `list_tasks` on the text of the queue file, `none` where there is none. -/
def listTasks : Option Text → Except DecodeError (List TaskEntry)
  | none => .ok []
  | some file =>
    match loads (universalNewlines file) with
    | none => .error (.store "Corrupted or unreadable JSON state")
    | some (.arr items) => items.mapM (taskFromJson intOf)
    | some _ => .error (.store "Queue file must contain a JSON list.")

/-- **The queue file.**  The entries written are the entries listed, so that a change that
    rewrites the file as a whole keeps every entry it does not touch. -/
theorem listTasks_queueFile (tasks : List TaskEntry) :
    listTasks intOf (some (queueFile tasks)) = .ok tasks := by
  have hkeys : (Json.arr (tasks.map taskToJson)).DistinctKeys := by
    refine (distinctItems_iff _).mpr fun item hitem => ?_
    obtain ⟨task, -, rfl⟩ := List.mem_map.mp hitem
    exact distinctKeys_taskToJson task
  have hreturn : ∀ c ∈ queueFile tasks, c ≠ '\r' :=
    List.forall_mem_append.mpr ⟨no_return_dumpsIndent _, by decide⟩
  rw [listTasks, universalNewlines_of_no_return _ hreturn, queueFile, loads_dumpsIndent _ hkeys]
  exact mapM_encoded (task_decoded intOf) tasks

end LlmHarness.StateCodec
