/-
  LlmHarness.Review.Decision

  The decision documents of `review_protocol.py`: `validate_verifier_decision`
  (protocol 1.0) and `validate_critic_decision` (protocol 2.0).  A validated
  document is a record of what the import reads from it.  A set lookup of a list
  or an object raises `TypeError`, which is an error of its own here.
  `datetime.fromisoformat` is a parameter: nothing when it raises `ValueError`,
  else whether the time it reads has an offset.
-/

import LlmHarness.Python.Value
import LlmHarness.State.Records

namespace LlmHarness

open Python

/-- What the review code raises. -/
inductive ReviewError where
  /-- `ReviewProtocolError`. -/
  | protocol (message : String)
  /-- `StateStoreError`. -/
  | state (message : String)
  /-- `CriticAdapterError`. -/
  | adapter (message : String)
  /-- `ReconciliationBlockedError`. -/
  | blocked (message : String)
  /-- `TypeError`: a list or an object is not hashable. -/
  | unhashable
  /-- `KeyError`, or `TypeError` for a value that is no dict. -/
  | missing (key : String)
deriving DecidableEq, Repr

/-- A check. -/
abbrev Check (α : Type) := Except ReviewError α

/-- A check that returns. -/
def passes {α : Type} (check : Check α) : Bool :=
  match check with
  | .ok _ => true
  | .error _ => false

/-- Raises `ReviewProtocolError`. -/
def refuseReview {α : Type} (message : String) : Check α := .error (.protocol message)

/-- Raises unless the condition holds. -/
def require (ok : Bool) (message : String) : Check Unit :=
  if ok then .ok () else refuseReview message

/-! ## Values -/

/-- A JSON value equal to a string. -/
def isText (value : Json) (text : String) : Bool :=
  match value with
  | .str s => s = text
  | _ => false

/-- `_require_object`. -/
def requireObject (value : Json) (label : String) : Check (List (String × Json)) :=
  match value with
  | .obj members => .ok members
  | _ => refuseReview (label ++ " must be an object.")

/-- `', '.join(sorted(names))`. -/
def joinSorted (names : List String) : String :=
  ", ".intercalate (names.insertionSort fun a b => a ≤ b)

/-- `_require_exact_keys`. -/
def requireExactKeys (payload : List (String × Json)) (keys : List String) (label : String) :
    Check Unit := do
  let missing := keys.filter fun key => key ∉ payload.map Prod.fst
  let unknown := (payload.map Prod.fst).filter fun key => key ∉ keys
  require missing.isEmpty (label ++ " is missing fields: " ++ joinSorted missing)
  require unknown.isEmpty (label ++ " contains unknown fields: " ++ joinSorted unknown)

/-- `PROTOCOL_NAMESPACE`. -/
def protocolNamespace : String := "hoh.protocol"

/-- `PROTOCOL_VERSION`. -/
def protocolVersion : String := "1.0"

/-- `THREE_HEAD_PROTOCOL_VERSION`. -/
def threeHeadProtocolVersion : String := "2.0"

/-- `_require_protocol_version`. -/
def requireProtocolVersion (payload : List (String × Json)) (version messageType : String) :
    Check Unit := do
  require (isText (field payload "protocol") protocolNamespace)
    ("protocol must be " ++ protocolNamespace ++ ".")
  require (isText (field payload "protocol_version") version)
    ("protocol_version must be " ++ version ++ ".")
  require (isText (field payload "message_type") messageType)
    ("message_type must be " ++ messageType ++ ".")

/-- `_require_protocol`. -/
def requireProtocol (payload : List (String × Json)) (messageType : String) : Check Unit :=
  requireProtocolVersion payload protocolVersion messageType

/-- `[A-Za-z0-9]`. -/
def isIdStart (c : Char) : Bool :=
  ('A' ≤ c && c ≤ 'Z') || ('a' ≤ c && c ≤ 'z') || ('0' ≤ c && c ≤ '9')

/-- `[A-Za-z0-9._:-]`. -/
def isIdChar (c : Char) : Bool :=
  isIdStart c || c = '.' || c = '_' || c = ':' || c = '-'

/-- A full match of `SAFE_ID_RE`. -/
def isSafeId (text : String) : Bool :=
  match text.toList with
  | [] => false
  | c :: cs => isIdStart c && cs.all isIdChar && cs.length ≤ 127

/-- `_require_safe_id`. -/
def requireSafeId (value : Json) (label : String) : Check String :=
  match value with
  | .str s =>
    if isSafeId s then .ok s
    else refuseReview (label ++ " must be a safe non-empty identifier up to 128 characters.")
  | _ => refuseReview (label ++ " must be a safe non-empty identifier up to 128 characters.")

/-- `[0-9a-f]`. -/
def isLowerHex (c : Char) : Bool := ('0' ≤ c && c ≤ '9') || ('a' ≤ c && c ≤ 'f')

/-- A full match of `^[0-9a-f]{n}$`. -/
def isLowerHexOf (n : Nat) (text : String) : Bool :=
  text.toList.length = n && text.toList.all isLowerHex

/-- `_is_sha256`, with the message of its caller. -/
def requireSha256 (value : Json) (message : String) : Check String :=
  match value with
  | .str s => if isLowerHexOf 64 s then .ok s else refuseReview message
  | _ => refuseReview message

/-- `isinstance(value, str) and value.strip()`, with the message of its caller. -/
def requireNonBlank (value : Json) (message : String) : Check String :=
  match value with
  | .str s => if isBlank s.toList then refuseReview message else .ok s
  | _ => refuseReview message

/-- Null, or a string that is not blank, with the message of its caller. -/
def requireOptionalText (value : Json) (message : String) : Check (Option String) :=
  match value with
  | .null => .ok none
  | value => (requireNonBlank value message).map some

/-- `value in {...}`, with the message of its caller. -/
def requireMember (value : Json) (allowed : List String) (message : String) : Check String :=
  match value with
  | .str s => if s ∈ allowed then .ok s else refuseReview message
  | .arr _ | .obj _ => .error .unhashable
  | _ => refuseReview message

/-- `value.replace("Z", "+00:00")`. -/
def offsetSpelled (text : String) : String :=
  String.ofList (text.toList.flatMap fun c => if c = 'Z' then "+00:00".toList else [c])

/-- `_require_timestamp`. -/
def requireTimestamp (fromisoformat : String → Option Bool) (value : Json) (label : String) :
    Check String :=
  match value with
  | .str s =>
    match fromisoformat (offsetSpelled s) with
    | none => refuseReview (label ++ " must be an ISO-8601 timestamp.")
    | some false => refuseReview (label ++ " must include a timezone offset.")
    | some true => .ok s
  | _ => refuseReview (label ++ " must be an ISO-8601 timestamp.")

/-- A list of non-empty strings, with the messages of its caller. -/
def requireTexts (value : Json) (nonEmpty : Bool) (listMessage itemMessage : String) :
    Check (List String) :=
  match value with
  | .arr items =>
    if nonEmpty && items.isEmpty then refuseReview listMessage
    else items.mapM fun item => requireNonBlank item itemMessage
  | _ => refuseReview listMessage

/-! ## Parts of a decision -/

/-- The severities of a finding. -/
def severities : List String := ["info", "warning", "error", "blocker"]

/-- The kinds of a reviewer. -/
def reviewerKinds : List String := ["agent", "human", "service"]

/-- The text of a decision. -/
def ReviewDecision.text : ReviewDecision → String
  | .approve => "approve"
  | .reject => "reject"
  | .escalate => "escalate"

/-- One finding of `_normalize_findings`. -/
def normalizeFinding (decision : ReviewDecision) (index : Nat) (raw : Json) : Check ReviewFinding := do
  let label := "findings[" ++ toString index ++ "]"
  let finding ← requireObject raw label
  let keys := finding.map Prod.fst
  require (["code", "severity", "message"].all (fun key => key ∈ keys) &&
      keys.all fun key => key ∈ ["code", "severity", "message", "path"])
    (label ++ " has missing or unknown fields.")
  let code ← requireSafeId (field finding "code") (label ++ ".code")
  let severity ← requireMember (field finding "severity") severities (label ++ ".severity is invalid.")
  require (!(decision = .approve && severity ∈ ["error", "blocker"]))
    "An approve decision cannot contain error or blocker findings."
  let message ← requireNonBlank (field finding "message")
    (label ++ ".message must be a non-empty string.")
  let path ← requireOptionalText (field finding "path")
    (label ++ ".path must be null or a non-empty string.")
  return ⟨code, severity, message, path⟩

/-- The loop of `_normalize_findings`. -/
def normalizeFindingsFrom (decision : ReviewDecision) : Nat → List Json → Check (List ReviewFinding)
  | _, [] => .ok []
  | index, raw :: rest => do
    let finding ← normalizeFinding decision index raw
    let findings ← normalizeFindingsFrom decision (index + 1) rest
    return finding :: findings

/-- `_normalize_findings`. -/
def normalizeFindings (value : Json) (decision : ReviewDecision) : Check (List ReviewFinding) :=
  match value with
  | .arr items =>
    if decision ≠ .approve ∧ items = [] then
      refuseReview ("A " ++ decision.text ++ " decision must contain at least one finding.")
    else normalizeFindingsFrom decision 0 items
  | _ => refuseReview "findings must be a list."

/-- `_validate_correction_brief`. -/
def validateCorrectionBrief (value : Json) : Check CorrectionBrief := do
  let brief ← requireObject value "correction_brief"
  requireExactKeys brief ["rationale", "instructions", "validation_focus"] "correction_brief"
  let rationale ← requireNonBlank (field brief "rationale") "correction_brief.rationale must be non-empty."
  let instructions ← requireTexts (field brief "instructions") true
    "correction_brief.instructions must be a list of strings."
    "correction_brief.instructions must contain non-empty strings."
  let validationFocus ← requireTexts (field brief "validation_focus") false
    "correction_brief.validation_focus must be a list of strings."
    "correction_brief.validation_focus must contain non-empty strings."
  return ⟨rationale, instructions, validationFocus⟩

/-- The options every escalation offers. -/
def escalationOptions : List String := ["реши сам", "свой"]

/-- `_validate_escalation`. -/
def validateEscalation (value : Json) : Check EscalationRequest := do
  let escalation ← requireObject value "escalation"
  requireExactKeys escalation ["reason", "question", "options"] "escalation"
  let reason ← requireNonBlank (field escalation "reason") "escalation.reason must be non-empty."
  let question ← requireNonBlank (field escalation "question") "escalation.question must be non-empty."
  let options ← requireTexts (field escalation "options") false
    "escalation.options must contain non-empty strings."
    "escalation.options must contain non-empty strings."
  require (escalationOptions.all fun option => option ∈ options)
    "escalation.options must include 'реши сам' and 'свой'."
  return ⟨reason, question, options⟩

/-! ## Decisions -/

/-- A decision of a closed set of verdicts, with the message of its caller. -/
def requireDecision (value : Json) (allowed : List ReviewDecision) (message : String) :
    Check ReviewDecision := do
  let text ← requireMember value (allowed.map ReviewDecision.text) message
  match allowed.find? fun decision => decision.text = text with
  | some decision => return decision
  | none => refuseReview message

/-- What a validated decision document says. -/
structure ValidatedDecision where
  protocolVersion : String
  decisionId : String
  bundleId : String
  bundleSha256 : String
  /-- `critic.identity`, or `reviewer.id`. -/
  actorId : String
  actorKind : String
  decision : ReviewDecision
  summary : String
  findings : List ReviewFinding
  createdAtUtc : String
  reviewedCommit : String
  reviewedPatchSha256 : String
  correctionBrief : Option CorrectionBrief := none
  escalation : Option EscalationRequest := none
deriving DecidableEq, Repr

/-- The `attestation` of a decision. -/
def validateAttestation (value : Json) : Check (String × String) := do
  let attestation ← requireObject value "attestation"
  requireExactKeys attestation ["reviewed_commit", "reviewed_patch_sha256"] "attestation"
  let commit ← requireNonBlank (field attestation "reviewed_commit")
    "attestation.reviewed_commit must be a non-empty string."
  let patchSha256 ← requireSha256 (field attestation "reviewed_patch_sha256")
    "attestation.reviewed_patch_sha256 must be a lowercase SHA-256 digest."
  return (commit, patchSha256)

/-- The members of a verifier decision. -/
def verifierDecisionKeys : List String :=
  ["protocol", "protocol_version", "message_type", "decision_id", "bundle_id", "bundle_sha256",
    "reviewer", "decision", "summary", "findings", "created_at_utc", "attestation"]

/-- `validate_verifier_decision`. -/
def validateVerifierDecision (fromisoformat : String → Option Bool)
    (payload : List (String × Json)) : Check ValidatedDecision := do
  requireExactKeys payload verifierDecisionKeys "Verifier decision"
  requireProtocol payload "verifier.decision"
  let decisionId ← requireSafeId (field payload "decision_id") "decision_id"
  let bundleId ← requireSafeId (field payload "bundle_id") "bundle_id"
  let bundleSha256 ← requireSha256 (field payload "bundle_sha256")
    "Verifier decision bundle_sha256 must be a lowercase SHA-256 digest."
  let reviewer ← requireObject (field payload "reviewer") "reviewer"
  requireExactKeys reviewer ["id", "kind"] "reviewer"
  let actorId ← requireSafeId (field reviewer "id") "reviewer.id"
  let actorKind ← requireMember (field reviewer "kind") reviewerKinds
    "reviewer.kind must be agent, human, or service."
  let decision ← requireDecision (field payload "decision") [.approve, .reject]
    "decision must be approve or reject."
  let summary ← requireNonBlank (field payload "summary") "summary must be a non-empty string."
  let createdAtUtc ← requireTimestamp fromisoformat (field payload "created_at_utc") "created_at_utc"
  let (commit, patchSha256) ← validateAttestation (field payload "attestation")
  let findings ← normalizeFindings (field payload "findings") decision
  return {
    protocolVersion := protocolVersion, decisionId := decisionId, bundleId := bundleId
    bundleSha256 := bundleSha256, actorId := actorId, actorKind := actorKind
    decision := decision, summary := summary, findings := findings
    createdAtUtc := createdAtUtc, reviewedCommit := commit, reviewedPatchSha256 := patchSha256 }

/-- The members of a critic decision. -/
def criticDecisionKeys : List String :=
  ["protocol", "protocol_version", "message_type", "decision_id", "bundle_id", "bundle_sha256",
    "critic", "decision", "summary", "findings", "correction_brief", "escalation",
    "created_at_utc", "attestation"]

/-- A member that is `None`. -/
def isNone (value : Json) : Bool :=
  match value with
  | .null => true
  | _ => false

/-- The brief and the escalation a verdict comes with. -/
def validateVerdict (decision : ReviewDecision) (correction escalation : Json) :
    Check (Option CorrectionBrief × Option EscalationRequest) :=
  match decision with
  | .approve => do
    require (isNone correction && isNone escalation)
      "Approve decisions cannot contain correction_brief or escalation."
    return (none, none)
  | .reject => do
    require (!isNone correction && isNone escalation)
      "Reject decisions require correction_brief and cannot contain escalation."
    let brief ← validateCorrectionBrief correction
    return (some brief, none)
  | .escalate => do
    require (!isNone escalation && isNone correction)
      "Escalate decisions require escalation and cannot contain correction_brief."
    let request ← validateEscalation escalation
    return (none, some request)

/-- `validate_critic_decision`. -/
def validateCriticDecision (fromisoformat : String → Option Bool)
    (payload : List (String × Json)) : Check ValidatedDecision := do
  requireExactKeys payload criticDecisionKeys "Critic decision"
  requireProtocolVersion payload threeHeadProtocolVersion "critic.decision"
  let decisionId ← requireSafeId (field payload "decision_id") "decision_id"
  let bundleId ← requireSafeId (field payload "bundle_id") "bundle_id"
  let bundleSha256 ← requireSha256 (field payload "bundle_sha256")
    "Critic decision bundle_sha256 must be a lowercase SHA-256 digest."
  let critic ← requireObject (field payload "critic") "critic"
  requireExactKeys critic ["identity", "kind"] "critic"
  let actorId ← requireSafeId (field critic "identity") "critic.identity"
  let actorKind ← requireMember (field critic "kind") reviewerKinds
    "critic.kind must be agent, human, or service."
  let decision ← requireDecision (field payload "decision") [.approve, .reject, .escalate]
    "decision must be approve, reject, or escalate."
  let summary ← requireNonBlank (field payload "summary") "summary must be a non-empty string."
  let createdAtUtc ← requireTimestamp fromisoformat (field payload "created_at_utc") "created_at_utc"
  let (commit, patchSha256) ← validateAttestation (field payload "attestation")
  let findings ← normalizeFindings (field payload "findings") decision
  let (brief, request) ← validateVerdict decision (field payload "correction_brief")
    (field payload "escalation")
  return {
    protocolVersion := threeHeadProtocolVersion, decisionId := decisionId, bundleId := bundleId
    bundleSha256 := bundleSha256, actorId := actorId, actorKind := actorKind
    decision := decision, summary := summary, findings := findings
    createdAtUtc := createdAtUtc, reviewedCommit := commit, reviewedPatchSha256 := patchSha256
    correctionBrief := brief, escalation := request }

end LlmHarness
