/-
  LlmHarness.Operations.ResultPayload

  `result_to_json` and `_result_from_json`: the result of a task as an operation
  record keeps it, and the result a reconciliation completes the state with.
-/

import LlmHarness.Domain
import LlmHarness.Lib.Guards
import LlmHarness.Operations.Ledger

namespace LlmHarness

open Python Guards

/-! ## Writing -/

/-- A value of `metrics`. -/
def metricJson : MetricValue → Json
  | .int value => .int value
  | .str value => .str value
  | .bool value => .bool value

/-- `redact(list(findings))`. -/
def redactedTexts (redact : String → String) (texts : List String) : Json :=
  .arr (texts.map fun text => .str (redact text))

/-- The payload of a verification report. -/
def reportToJson (redact : String → String) (report : VerificationReport) : Json :=
  .obj [("ok", .bool report.ok), ("findings", redactedTexts redact report.findings),
    ("metrics", .obj (report.metrics.map fun entry => (entry.1, metricJson entry.2)))]

/-- The payload of a command result. -/
def commandToJson (redact : String → String) (item : CommandResult) : Json :=
  .obj [("command", .str item.command), ("return_code", .int item.returnCode),
    ("stdout", .str (redact item.stdout)), ("stderr", .str (redact item.stderr))]

/-- The payload of the evidence of a model call. -/
def invocationToJson (evidence : ModelInvocationEvidence) : Json :=
  .obj [("provider", .str evidence.provider), ("model", .str evidence.model),
    ("endpoint", .str evidence.endpoint), ("request_id", optionJson Json.str evidence.requestId),
    ("attempts", .int evidence.attempts), ("latency_ms", .int evidence.latencyMs),
    ("input_tokens", optionJson Json.int evidence.inputTokens),
    ("output_tokens", optionJson Json.int evidence.outputTokens),
    ("total_tokens", optionJson Json.int evidence.totalTokens),
    ("request_sha256", .str evidence.requestSha256),
    ("response_sha256", .str evidence.responseSha256)]

/-- The payload of a semantic report. -/
def semanticToJson (redact : String → String) (semantic : SemanticVerificationReport) : Json :=
  .obj [("decision", .str semantic.decision.text), ("summary", .str (redact semantic.summary)),
    ("findings", redactedTexts redact semantic.findings),
    ("evidence", optionJson invocationToJson semantic.evidence)]

/-- `result_to_json`. -/
def resultToJson (redact : String → String) (result : HarnessRunResult) : Json :=
  .obj [("pre_apply", reportToJson redact result.preApply),
    ("post_apply", reportToJson redact result.postApply),
    ("command_results", .arr (result.commandResults.map (commandToJson redact))),
    ("semantic_verification", optionJson (semanticToJson redact) result.semanticVerification)]

/-! ## Reading -/

/-- A value where a text is used. -/
def asText : Json → Except OperationError String
  | .str text => .ok text
  | _ => .error .shape

/-- A value where a number is used. -/
def asInt : Json → Except OperationError Int
  | .int value => .ok value
  | _ => .error .shape

/-- A value where a dict is used. -/
def asObject : Json → Except OperationError (List (String × Json))
  | .obj members => .ok members
  | _ => .error .shape

/-- A value where a list is used. -/
def asItems : Json → Except OperationError (List Json)
  | .arr items => .ok items
  | _ => .error .shape

/-- A value that may be `None`. -/
def asOption {α : Type} (read : Json → Except OperationError α) :
    Json → Except OperationError (Option α)
  | .null => .ok none
  | json => (read json).map some

/-- `payload[key]`. -/
def member (members : List (String × Json)) (key : String) : Except OperationError Json :=
  match dictGet? members key with
  | some value => .ok value
  | none => .error .shape

/-- A value of `metrics`. -/
def metricFromJson : Json → Except OperationError MetricValue
  | .int value => .ok (.int value)
  | .str value => .ok (.str value)
  | .bool value => .ok (.bool value)
  | _ => .error .shape

/-- `tuple(payload.get(key, []))`. -/
def textsOf (members : List (String × Json)) (key : String) : Except OperationError (List String) :=
  match dictGet? members key with
  | none => .ok []
  | some json => do (← asItems json).mapM asText

/-- The members of `metrics`. -/
def metricsOf (members : List (String × Json)) : Except OperationError (List (String × MetricValue)) :=
  match dictGet? members "metrics" with
  | none => .ok []
  | some json => do
    (← asObject json).mapM fun entry => do return (entry.1, ← metricFromJson entry.2)

/-- `VerificationReport(ok=bool(payload["ok"]), ..)`. -/
def reportFromJson (payload : Json) : Except OperationError VerificationReport := do
  let members ← asObject payload
  let ok ← member members "ok"
  let findings ← textsOf members "findings"
  let metrics ← metricsOf members
  return { ok := isTruthy ok, findings, metrics }

/-- `CommandResult(**item)`. -/
def commandFromJson (payload : Json) : Except OperationError CommandResult := do
  let members ← asObject payload
  let command ← asText (← member members "command")
  let returnCode ← asInt (← member members "return_code")
  let stdout ← asText (← member members "stdout")
  let stderr ← asText (← member members "stderr")
  return { command, returnCode, stdout, stderr }

/-- `ModelInvocationEvidence(**raw_evidence)`. -/
def invocationFromJson (payload : Json) : Except OperationError ModelInvocationEvidence := do
  let members ← asObject payload
  let provider ← asText (← member members "provider")
  let model ← asText (← member members "model")
  let endpoint ← asText (← member members "endpoint")
  let requestId ← asOption asText (← member members "request_id")
  let attempts ← asInt (← member members "attempts")
  let latencyMs ← asInt (← member members "latency_ms")
  let inputTokens ← asOption asInt (← member members "input_tokens")
  let outputTokens ← asOption asInt (← member members "output_tokens")
  let totalTokens ← asOption asInt (← member members "total_tokens")
  let requestSha256 ← asText (← member members "request_sha256")
  let responseSha256 ← asText (← member members "response_sha256")
  return { provider, model, endpoint, requestId, attempts, latencyMs, inputTokens, outputTokens,
           totalTokens, requestSha256, responseSha256 }

/-- `SemanticVerificationReport.__post_init__` on a decision. -/
def decisionFromText : String → Except OperationError SemanticDecision
  | "pass" => .ok .pass
  | "fail" => .ok .fail
  | "escalate" => .ok .escalate
  | _ => .error .shape

/-- `SemanticVerificationReport(..)`. -/
def semanticFromJson (payload : Json) : Except OperationError SemanticVerificationReport := do
  let members ← asObject payload
  let evidence ← asOption invocationFromJson (← member members "evidence")
  let decision ← decisionFromText (pyStr (← member members "decision"))
  let summary ← member members "summary"
  let findings ← textsOf members "findings"
  return { decision, summary := pyStr summary, findings, evidence }

/-- `_result_from_json`. -/
def resultFromJson (repository commit : String) : Json → Except OperationError HarnessRunResult
  | .obj members => do
    let semanticVerification ←
      asOption semanticFromJson ((dictGet? members "semantic_verification").getD .null)
    let preApply ← reportFromJson (← member members "pre_apply")
    let postApply ← reportFromJson (← member members "post_apply")
    let commandResults ←
      (← asItems ((dictGet? members "command_results").getD (.arr []))).mapM commandFromJson
    return { repository, workItemId := "", commit := some commit, preApply, postApply,
             commandResults, semanticVerification }
  | _ => .error (.ledger "Missing durable task result payload.")

/-! ## What is read back -/

/-- The report with its texts redacted. -/
def VerificationReport.redacted (redact : String → String) (report : VerificationReport) :
    VerificationReport := { report with findings := report.findings.map redact }

/-- The command result with its outputs redacted. -/
def CommandResult.redacted (redact : String → String) (item : CommandResult) : CommandResult :=
  { item with stdout := redact item.stdout, stderr := redact item.stderr }

/-- The semantic report with its texts redacted. -/
def SemanticVerificationReport.redacted (redact : String → String)
    (semantic : SemanticVerificationReport) : SemanticVerificationReport :=
  { semantic with summary := redact semantic.summary, findings := semantic.findings.map redact }

/-- The result a reconciliation works with. -/
def restoredResult (redact : String → String) (repository commit : String)
    (result : HarnessRunResult) : HarnessRunResult where
  repository := repository
  workItemId := ""
  commit := some commit
  preApply := result.preApply.redacted redact
  postApply := result.postApply.redacted redact
  commandResults := result.commandResults.map (CommandResult.redacted redact)
  semanticVerification := result.semanticVerification.map (SemanticVerificationReport.redacted redact)

section

variable (redact : String → String)

theorem texts_read (texts : List String) :
    (texts.map fun text => Json.str (redact text)).mapM asText = .ok (texts.map redact) :=
  mapM_map_ok (fun text => Json.str (redact text)) asText redact (fun _ => rfl) texts

theorem metrics_read (metrics : List (String × MetricValue)) :
    ((metrics.map fun entry => (entry.1, metricJson entry.2)).mapM fun entry => do
      return (entry.1, ← metricFromJson entry.2)) = (.ok metrics : Except OperationError _) := by
  have hread := mapM_map_ok (fun entry : String × MetricValue => (entry.1, metricJson entry.2))
    (fun entry => do return (entry.1, ← metricFromJson entry.2)) id
    (fun entry => by rcases entry with ⟨name, value | value | value⟩ <;> rfl) metrics
  rwa [List.map_id] at hread

theorem report_read (report : VerificationReport) :
    reportFromJson (reportToJson redact report) = .ok (report.redacted redact) := by
  have hfindings : textsOf [("ok", .bool report.ok),
      ("findings", redactedTexts redact report.findings),
      ("metrics", .obj (report.metrics.map fun entry => (entry.1, metricJson entry.2)))] "findings" =
      .ok (report.findings.map redact) := texts_read redact report.findings
  have hmetrics : metricsOf [("ok", .bool report.ok),
      ("findings", redactedTexts redact report.findings),
      ("metrics", .obj (report.metrics.map fun entry => (entry.1, metricJson entry.2)))] =
      .ok report.metrics := metrics_read report.metrics
  show (do
    let findings ← textsOf _ "findings"
    let metrics ← metricsOf _
    return ({ ok := report.ok, findings, metrics } : VerificationReport)) = _
  rw [hfindings, hmetrics]
  rfl

theorem commands_read (items : List CommandResult) :
    (items.map (commandToJson redact)).mapM commandFromJson =
      .ok (items.map (CommandResult.redacted redact)) :=
  mapM_map_ok (commandToJson redact) commandFromJson (CommandResult.redacted redact) (fun _ => rfl)
    items

theorem option_read {α β : Type} {write : α → Json} {read : Json → Except OperationError β}
    (value : α → β) (hnull : ∀ a, write a ≠ .null) (h : ∀ a, read (write a) = .ok (value a))
    (a : Option α) : asOption read (optionJson write a) = .ok (a.map value) := by
  cases a with
  | none => rfl
  | some a =>
      have hwrite : asOption read (write a) = (read (write a)).map some := by
        rw [asOption]
        exact hnull a
      rw [optionJson, hwrite, h]
      rfl

theorem invocation_read (evidence : ModelInvocationEvidence) :
    invocationFromJson (invocationToJson evidence) = .ok evidence := by
  rcases evidence with ⟨_, _, _, requestId, _, _, input, output, total, _, _⟩
  cases requestId <;> cases input <;> cases output <;> cases total <;> rfl

theorem semantic_read (semantic : SemanticVerificationReport) :
    semanticFromJson (semanticToJson redact semantic) = .ok (semantic.redacted redact) := by
  have hevidence : asOption invocationFromJson (optionJson invocationToJson semantic.evidence) =
      .ok semantic.evidence := by
    have hread := option_read id (fun _ => Json.noConfusion) invocation_read
      semantic.evidence
    rwa [Option.map_id] at hread
  have hfindings : textsOf [("decision", .str semantic.decision.text),
      ("summary", .str (redact semantic.summary)),
      ("findings", redactedTexts redact semantic.findings),
      ("evidence", optionJson invocationToJson semantic.evidence)] "findings" =
      .ok (semantic.findings.map redact) := texts_read redact semantic.findings
  have hdecision : decisionFromText semantic.decision.text = .ok semantic.decision := by
    cases semantic.decision <;> rfl
  show (do
    let evidence ← asOption invocationFromJson (optionJson invocationToJson semantic.evidence)
    let decision ← decisionFromText semantic.decision.text
    let findings ← textsOf _ "findings"
    return ({ decision, summary := redact semantic.summary, findings, evidence } :
      SemanticVerificationReport)) = _
  rw [hevidence, hdecision]
  show (do
    let findings ← textsOf _ "findings"
    return ({ decision := semantic.decision, summary := redact semantic.summary,
              findings := findings, evidence := semantic.evidence } :
      SemanticVerificationReport)) = _
  rw [hfindings]
  rfl

/-- **The payload round trip.**  A reconciliation reads the result that was written, with its texts
    redacted and the commit of the record. -/
theorem result_read (repository commit : String) (result : HarnessRunResult) :
    resultFromJson repository commit (resultToJson redact result) =
      .ok (restoredResult redact repository commit result) := by
  have hsemantic := option_read (SemanticVerificationReport.redacted redact) (fun _ => Json.noConfusion)
    (semantic_read redact) result.semanticVerification
  show (do
    let semanticVerification ←
      asOption semanticFromJson (optionJson (semanticToJson redact) result.semanticVerification)
    let preApply ← reportFromJson (reportToJson redact result.preApply)
    let postApply ← reportFromJson (reportToJson redact result.postApply)
    let commandResults ← (result.commandResults.map (commandToJson redact)).mapM commandFromJson
    return ({ repository, workItemId := "", commit := some commit, preApply, postApply,
              commandResults, semanticVerification } : HarnessRunResult)) = _
  rw [hsemantic, report_read, report_read, commands_read]
  rfl

/-- Redaction keeps the verdict. -/
theorem restoredResult_ok (repository commit : String) (result : HarnessRunResult) :
    (restoredResult redact repository commit result).ok =
      HarnessRunResult.ok { result with commit := some commit } := by
  have hcommands : (result.commandResults.map (CommandResult.redacted redact)).all CommandResult.ok =
      result.commandResults.all CommandResult.ok := by
    rw [List.all_map]
    rfl
  rw [HarnessRunResult.ok, HarnessRunResult.ok, restoredResult, hcommands]
  cases result.semanticVerification <;> rfl

end

end LlmHarness
