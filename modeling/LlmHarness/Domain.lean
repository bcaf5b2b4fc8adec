/-
  LlmHarness.Domain

  The records of `domain.py` that the store, the verifier and the supervisor
  exchange.
-/

import Mathlib.Data.String.Basic

namespace LlmHarness

/-- `WorkItem`. -/
structure WorkItem where
  id : String
  title : String
  objective : String
  acceptanceCriteria : List String
  verificationCommands : List String
  allowedPaths : List String := []
  nonGoals : List String := []
  dependsOn : List String := []
  priority : Int := 0
  correctionInstructions : List String := []
  correctionDecisionId : Option String := none
deriving DecidableEq, Repr

/-- `WorkerPatch`. -/
structure WorkerPatch where
  workerName : String
  workItemId : String
  patch : String
  notes : String := ""
deriving DecidableEq, Repr

/-- A value of `VerificationReport.metrics`. -/
inductive MetricValue where
  | int (value : Int)
  | str (value : String)
  | bool (value : Bool)
deriving DecidableEq, Repr

/-- `VerificationReport`. -/
structure VerificationReport where
  ok : Bool
  findings : List String := []
  metrics : List (String × MetricValue) := []
deriving DecidableEq, Repr

/-- `ModelInvocationEvidence`. -/
structure ModelInvocationEvidence where
  provider : String
  model : String
  endpoint : String
  requestId : Option String
  attempts : Int
  latencyMs : Int
  inputTokens : Option Int := none
  outputTokens : Option Int := none
  totalTokens : Option Int := none
  requestSha256 : String := ""
  responseSha256 : String := ""
deriving DecidableEq, Repr

/-- The decisions `SemanticVerificationReport.__post_init__` accepts. -/
inductive SemanticDecision where
  | pass
  | fail
  | escalate
deriving DecidableEq, Repr

/-- The text of a semantic decision. -/
def SemanticDecision.text : SemanticDecision → String
  | .pass => "pass"
  | .fail => "fail"
  | .escalate => "escalate"

/-- `SemanticVerificationReport`. -/
structure SemanticVerificationReport where
  decision : SemanticDecision
  summary : String
  findings : List String := []
  evidence : Option ModelInvocationEvidence := none
deriving DecidableEq, Repr

/-- `SemanticVerificationReport.ok`. -/
def SemanticVerificationReport.ok (report : SemanticVerificationReport) : Bool :=
  report.decision = .pass

/-- `CommandResult`. -/
structure CommandResult where
  command : String
  returnCode : Int
  stdout : String
  stderr : String
deriving DecidableEq, Repr

/-- `CommandResult.ok`. -/
def CommandResult.ok (result : CommandResult) : Bool :=
  result.returnCode = 0

/-- `HarnessRunResult`. -/
structure HarnessRunResult where
  repository : String
  workItemId : String
  commit : Option String
  preApply : VerificationReport
  postApply : VerificationReport
  commandResults : List CommandResult
  semanticVerification : Option SemanticVerificationReport := none
deriving DecidableEq, Repr

/-- `HarnessRunResult.ok`. -/
def HarnessRunResult.ok (result : HarnessRunResult) : Bool :=
  result.commit.isSome && result.preApply.ok && result.postApply.ok &&
    result.commandResults.all CommandResult.ok &&
    (match result.semanticVerification with
      | none => true
      | some report => report.ok)

end LlmHarness
