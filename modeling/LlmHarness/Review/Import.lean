/-
  LlmHarness.Review.Import

  `import_verifier_decision`.  What a call reads outside the store (the decision
  file, the bundle files, the commit git resolves) is its argument; what it does
  to the store is the list of its durable writes.
-/

import LlmHarness.Review.Bundle
import LlmHarness.State.Store

namespace LlmHarness

open Python StoreM Guards

/-- `_load_json_object`: the document of a file, or what reading it raises. -/
abbrev JsonFile := Check Payload

/-- The object of a file. -/
def loadJsonObject (file : JsonFile) (label : String) : Check (List (String × Json)) := do
  let document ← file
  match document.val with
  | .obj members => return members
  | _ => refuseReview (label ++ " must be a JSON object.")

/-- What a call of `import_verifier_decision` finds outside the store. -/
structure ImportCall where
  decisionFile : JsonFile
  /-- The file of a recorded bundle path. -/
  bundleFile : String → JsonFile
  /-- `_resolve_commit`. -/
  resolveCommit : String → Check String
  importedAt : String
  appliedAt : String

/-- `_decision_matches`: findings, brief and escalation part by part. -/
def decisionMatches (existing : ReviewDecisionRecord) (validated : ValidatedDecision)
    (bundle : ReviewBundleRecord) : Bool :=
  existing.bundleId = bundle.bundleId &&
    existing.bundleSha256 = validated.bundleSha256 &&
    existing.reviewerId = validated.actorId &&
    existing.reviewerKind = validated.actorKind &&
    existing.decision = validated.decision &&
    existing.summary = validated.summary &&
    existing.createdAtUtc = validated.createdAtUtc &&
    existing.protocolVersion = validated.protocolVersion &&
    existing.findings = validated.findings &&
    existing.correctionBrief = validated.correctionBrief &&
    existing.escalation = validated.escalation

/-- The record of a decision that is imported for the first time. -/
def decisionRecord (validated : ValidatedDecision) (bundle : ReviewBundleRecord)
    (importedAt : String) : ReviewDecisionRecord :=
  { decisionId := validated.decisionId
    bundleId := bundle.bundleId
    bundleSha256 := bundle.bundleSha256
    runId := bundle.runId
    workItemId := bundle.workItemId
    commit := bundle.commit
    reviewerId := validated.actorId
    reviewerKind := validated.actorKind
    decision := validated.decision
    summary := validated.summary
    findings := validated.findings
    createdAtUtc := validated.createdAtUtc
    importedAtUtc := importedAt
    protocolVersion := validated.protocolVersion
    correctionBrief := validated.correctionBrief
    escalation := validated.escalation }

/-- What an import does once its checks passed. -/
inductive ImportPlan where
  /-- The decision is recorded already. -/
  | recorded (existing : ReviewDecisionRecord)
  /-- The decision is new; `document` is what the journal gets. -/
  | fresh (record : ReviewDecisionRecord) (document : Json)

/-- The decision of a document, by the protocol version it states. -/
def validateDecision (runtime : Runtime) (document : List (String × Json)) : Check ValidatedDecision :=
  if isStrict document then validateCriticDecision runtime.fromisoformat document
  else validateVerifierDecision runtime.fromisoformat document

/-- The bundle of a decision: same protocol, same critic. -/
def requireBundleOf (document bundle : List (String × Json)) (validated : ValidatedDecision) :
    Check Unit := do
  require (isStrict bundle == isStrict document)
    "Three-head review bundles require a protocol v2 critic decision."
  if isStrict bundle then do
    let expected ← criticIdentity bundle
    require (isText expected validated.actorId)
      "Critic decision identity does not match the review bundle role manifest."
  else return ()

/-- The digests and the commit a decision attests. -/
def requireEvidence (call : ImportCall) (bundle : List (String × Json))
    (record : ReviewBundleRecord) (validated : ValidatedDecision) : Check Unit := do
  let integrity ← item (.obj bundle) "integrity"
  let digest ← item integrity "payload_sha256"
  require (isText digest validated.bundleSha256 && isText digest record.bundleSha256)
    "Verifier decision bundle_sha256 does not match canonical bundle evidence."
  let artifact ← item (.obj bundle) "artifact"
  let commit ← item artifact "commit"
  require (isText commit validated.reviewedCommit)
    "Verifier decision reviewed_commit does not match canonical bundle evidence."
  let patchSha256 ← item artifact "patch_sha256"
  require (isText patchSha256 validated.reviewedPatchSha256)
    "Verifier decision reviewed_patch_sha256 does not match canonical bundle evidence."
  let resolved ← call.resolveCommit validated.reviewedCommit
  require (resolved = record.commit)
    "Canonical repository no longer resolves the reviewed commit evidence."

/-- The checks of `_import_verifier_decision_locked`.  `readBundles` and `readDecisions` say what
    reading the two record files raises. -/
def planImportReading (readBundles readDecisions : Check Unit) (runtime : Runtime) (call : ImportCall)
    (s : Store) : Check ImportPlan := do
  let document ← loadJsonObject call.decisionFile "Verifier decision"
  let validated ← validateDecision runtime document
  readBundles
  match s.reviewBundles.find? fun item => item.bundleId = validated.bundleId with
  | none => refuseReview ("Unknown review bundle: " ++ validated.bundleId)
  | some record =>
    let bundle ← loadJsonObject (call.bundleFile record.bundlePath) "Review bundle"
    validateReviewBundle runtime bundle
    requireBundleOf document bundle validated
    requireEvidence call bundle record validated
    readDecisions
    match s.reviewDecisions.find? fun item => item.decisionId = validated.decisionId with
    | some existing =>
      if decisionMatches existing validated record then return .recorded existing
      else refuseReview ("Review decision id already exists with different evidence: "
        ++ existing.decisionId)
    | none => return .fresh (decisionRecord validated record call.importedAt) (.obj document)

/-- The checks of an import that reads both files. -/
def planImport (runtime : Runtime) (call : ImportCall) (s : Store) : Check ImportPlan :=
  planImportReading (.ok ()) (.ok ()) runtime call s

/-- The status a decision gives its task. -/
def ReviewDecision.status : ReviewDecision → TaskStatus
  | .approve => .done
  | .reject => .reworkRequired
  | .escalate => .escalated

/-- An entry waits for the decision on a bundle. -/
def QueueTask.awaits (bundleId : String) (task : QueueTask) : Bool :=
  task.status = .reviewPending && task.pendingReviewBundleId = some bundleId

/-- `_apply_strict_decision_if_pending`. -/
def applyStrictDecisionIfPending (record : ReviewDecisionRecord) (now : String) : StoreM Unit := do
  match latestTask? (← read Store.tasks) record.workItemId with
  | none => refuse ("Critic decision references an unknown task: " ++ record.workItemId)
  | some task =>
    if task.status = record.decision.status ∧
        task.lastReviewDecisionId = some record.decisionId then return ()
    else
      let _ ← resolveReview record.workItemId record.bundleId record.decisionId record.decision.text
        record.summary now
      return ()

/-- A decision of the three-head protocol.  A recorded decision that matches a document has
    the protocol version of the document, and so of its bundle. -/
def ReviewDecisionRecord.isStrict (record : ReviewDecisionRecord) : Bool :=
  record.protocolVersion = threeHeadProtocolVersion

/-- The journal event that holds a decision document. -/
def decisionPayloadEvent (record : ReviewDecisionRecord) (document : Json) : JournalEvent :=
  { eventType := .interaction
    actor := if record.isStrict then "critic" else "external-verifier"
    action := "review.decision_payload"
    recipient := some "supervisor"
    content := document
    taskId := some record.workItemId
    runId := some record.runId
    correlationId := some record.bundleId }

/-- The durable part of an import. -/
def executeImport (plan : ImportPlan) (appliedAt : String) : StoreM ReviewDecisionRecord :=
  match plan with
  | .recorded existing =>
    if existing.isStrict then do
      applyStrictDecisionIfPending existing appliedAt
      return existing
    else return existing
  | .fresh record document => do
    let stored ← recordReviewDecision record
    write (.journal (decisionPayloadEvent record document))
    if stored.isStrict then do
      applyStrictDecisionIfPending stored appliedAt
      return stored
    else return stored

/-- What an import did: its durable writes and its result. -/
structure ImportOutcome where
  writes : List Write
  value : Check ReviewDecisionRecord

/-- `import_verifier_decision`: a `StateStoreError` becomes a `ReviewProtocolError`. -/
def importVerifierDecision (runtime : Runtime) (call : ImportCall) (s : Store) : ImportOutcome :=
  match planImport runtime call s with
  | .error e => ⟨[], .error e⟩
  | .ok plan =>
    let outcome := executeImport plan call.appliedAt s
    ⟨outcome.writes, match outcome.value with
      | .ok record => .ok record
      | .error e => .error (.protocol e.message)⟩

/-! ## What the checks say -/

/-- The checks of an import all passed, for these documents and records. -/
structure ImportChecked (runtime : Runtime) (call : ImportCall) (s : Store)
    (document : List (String × Json)) (validated : ValidatedDecision) (record : ReviewBundleRecord)
    (bundle : List (String × Json)) : Prop where
  documentRead : loadJsonObject call.decisionFile "Verifier decision" = .ok document
  documentValid : validateDecision runtime document = .ok validated
  recorded : s.reviewBundles.find? (fun item => item.bundleId = validated.bundleId) = some record
  bundleRead : loadJsonObject (call.bundleFile record.bundlePath) "Review bundle" = .ok bundle
  valid : ValidBundle runtime bundle
  strict : isStrict bundle = isStrict document
  critic : isStrict bundle → criticIdentity bundle = .ok (.str validated.actorId)
  digest : contentSha256 runtime bundle = validated.bundleSha256
  recordDigest : record.bundleSha256 = validated.bundleSha256
  evidence : requireEvidence call bundle record validated = .ok ()

theorem requireBundleOf_eq_ok {document bundle : List (String × Json)} {validated : ValidatedDecision} :
    requireBundleOf document bundle validated = .ok () ↔ isStrict bundle = isStrict document ∧
      (isStrict bundle → criticIdentity bundle = .ok (.str validated.actorId)) := by
  rw [requireBundleOf, unit_bind_eq_ok, require_eq_ok, beq_iff_eq]
  refine and_congr_right fun _ => ?_
  by_cases h : isStrict bundle
  · simp only [h, if_true, bind_eq_ok, require_eq_ok, isText_iff, forall_const]
    constructor
    · rintro ⟨expected, hexpected, rfl⟩
      exact hexpected
    · exact fun hexpected => ⟨_, hexpected, rfl⟩
  · simp [h, pure_eq_ok]

/-- The digests an accepted decision was compared with. -/
theorem digests_of_requireEvidence {runtime : Runtime} {call : ImportCall}
    {bundle : List (String × Json)} {record : ReviewBundleRecord} {validated : ValidatedDecision}
    (hvalid : ValidBundle runtime bundle) (h : requireEvidence call bundle record validated = .ok ()) :
    contentSha256 runtime bundle = validated.bundleSha256 ∧
      record.bundleSha256 = validated.bundleSha256 := by
  obtain ⟨integrity, hintegrity, hdigest⟩ := hvalid.item_digest
  simp only [requireEvidence, bind_eq_ok, exists_unit, require_eq_ok, hintegrity, Except.ok.injEq,
    exists_eq_left', hdigest, isText, Bool.and_eq_true, decide_eq_true_eq] at h
  exact ⟨h.1.1, h.1.2.symm.trans h.1.1⟩

/-- What the checks of an import allow. -/
theorem planImportReading_eq_ok {readBundles readDecisions : Check Unit} {runtime : Runtime}
    {call : ImportCall} {s : Store} {plan : ImportPlan} :
    planImportReading readBundles readDecisions runtime call s = .ok plan ↔
      readBundles = .ok () ∧ readDecisions = .ok () ∧ ∃ document validated record bundle,
      ImportChecked runtime call s document validated record bundle ∧
      ((∃ existing, s.reviewDecisions.find? (fun item => item.decisionId = validated.decisionId) =
          some existing ∧ decisionMatches existing validated record ∧ plan = .recorded existing) ∨
        (s.reviewDecisions.find? (fun item => item.decisionId = validated.decisionId) = none ∧
          plan = .fresh (decisionRecord validated record call.importedAt) (.obj document))) := by
  rw [planImportReading]
  simp only [bind_eq_ok, exists_unit]
  constructor
  · rintro ⟨document, hdocument, validated, hvalidated, hbundles, h⟩
    -- The bundle of the decision has to be recorded.
    cases hrecord : s.reviewBundles.find? fun item => item.bundleId = validated.bundleId with
    | none => simp [hrecord, refuseReview] at h
    | some record =>
        simp only [hrecord, bind_eq_ok, exists_unit, validateReviewBundle_eq_ok,
          requireBundleOf_eq_ok] at h
        obtain ⟨bundle, hbundle, hvalid, ⟨hstrict, hcritic⟩, hevidence, hdecisions, h⟩ := h
        obtain ⟨hdigest, hrecordDigest⟩ := digests_of_requireEvidence hvalid hevidence
        refine ⟨hbundles, hdecisions, document, validated, record, bundle, ⟨hdocument, hvalidated,
          hrecord, hbundle, hvalid, hstrict, hcritic, hdigest, hrecordDigest, hevidence⟩, ?_⟩
        -- A decision of that id is new, or is the recorded one.
        cases hexisting : s.reviewDecisions.find? fun item => item.decisionId = validated.decisionId with
        | none =>
            rw [hexisting] at h
            exact Or.inr ⟨rfl, (pure_eq_ok.mp h).symm⟩
        | some existing =>
            simp only [hexisting] at h
            by_cases hmatches : decisionMatches existing validated record
            · rw [if_pos hmatches] at h
              exact Or.inl ⟨existing, rfl, hmatches, (pure_eq_ok.mp h).symm⟩
            · simp [if_neg hmatches, refuseReview] at h
  · rintro ⟨hbundles, hdecisions, document, validated, record, bundle, hchecked, h⟩
    refine ⟨document, hchecked.documentRead, validated, hchecked.documentValid, hbundles, ?_⟩
    simp only [hchecked.recorded, bind_eq_ok, exists_unit, validateReviewBundle_eq_ok,
      requireBundleOf_eq_ok]
    refine ⟨bundle, hchecked.bundleRead, hchecked.valid, ⟨hchecked.strict, hchecked.critic⟩,
      hchecked.evidence, hdecisions, ?_⟩
    -- The two ends of the checks, read the other way.
    rcases h with ⟨existing, hexisting, hmatches, rfl⟩ | ⟨hnone, rfl⟩
    · simp only [hexisting, if_pos hmatches]
      rfl
    · simp only [hnone]
      rfl

/-- What the checks allow where both files are read. -/
theorem planImport_eq_ok {runtime : Runtime} {call : ImportCall} {s : Store} {plan : ImportPlan} :
    planImport runtime call s = .ok plan ↔ ∃ document validated record bundle,
      ImportChecked runtime call s document validated record bundle ∧
      ((∃ existing, s.reviewDecisions.find? (fun item => item.decisionId = validated.decisionId) =
          some existing ∧ decisionMatches existing validated record ∧ plan = .recorded existing) ∨
        (s.reviewDecisions.find? (fun item => item.decisionId = validated.decisionId) = none ∧
          plan = .fresh (decisionRecord validated record call.importedAt) (.obj document))) := by
  rw [planImport, planImportReading_eq_ok]
  simp only [true_and]

/-- The checks pass exactly when both files are read and the checks on their records pass. -/
theorem planImportReading_iff {readBundles readDecisions : Check Unit} {runtime : Runtime}
    {call : ImportCall} {s : Store} {plan : ImportPlan} :
    planImportReading readBundles readDecisions runtime call s = .ok plan ↔
      readBundles = .ok () ∧ readDecisions = .ok () ∧ planImport runtime call s = .ok plan := by
  rw [planImportReading_eq_ok, planImport_eq_ok]

/-- What the checks raise is what reading a file raises or what they raise on the records. -/
theorem planImportReading_error {readBundles readDecisions : Check Unit} {runtime : Runtime}
    {call : ImportCall} {s : Store} {e : ReviewError}
    (h : planImportReading readBundles readDecisions runtime call s = .error e) :
    readBundles = .error e ∨ readDecisions = .error e ∨ planImport runtime call s = .error e := by
  rw [planImportReading] at h
  rw [planImport, planImportReading]
  simp only [bind_eq_error, reduceCtorEq, exists_unit, true_and, false_or] at h ⊢
  -- each check before the decisions raises in both
  rcases h with h | ⟨document, hdocument, h | ⟨validated, hvalidated, h | ⟨_, h⟩⟩⟩
  · exact Or.inr (Or.inr (Or.inl h))
  · exact Or.inr (Or.inr (Or.inr ⟨document, hdocument, Or.inl h⟩))
  · exact Or.inl h
  · by_cases hdecisions : readDecisions = .error e
    · exact Or.inr (Or.inl hdecisions)
    · refine Or.inr (Or.inr (Or.inr ⟨document, hdocument, Or.inr ⟨validated, hvalidated, ?_⟩⟩))
      cases hrecord : s.reviewBundles.find? fun item => item.bundleId = validated.bundleId with
      | none => rwa [hrecord] at h
      | some record =>
          simp only [hrecord, bind_eq_error, exists_unit, hdecisions, reduceCtorEq, true_and,
            false_or] at h ⊢
          rcases h with h | ⟨bundle, hbundle, h | ⟨hvalid, h | ⟨hof, h | ⟨hevidence, -, h⟩⟩⟩⟩
          · exact Or.inl h
          · exact Or.inr ⟨bundle, hbundle, Or.inl h⟩
          · exact Or.inr ⟨bundle, hbundle, Or.inr ⟨hvalid, Or.inl h⟩⟩
          · exact Or.inr ⟨bundle, hbundle, Or.inr ⟨hvalid, Or.inr ⟨hof, Or.inl h⟩⟩⟩
          · exact Or.inr ⟨bundle, hbundle, Or.inr ⟨hvalid, Or.inr ⟨hof, Or.inr ⟨hevidence, h⟩⟩⟩⟩

/-- The decision a document states has the protocol version of the document. -/
theorem protocolVersion_of_validateDecision {runtime : Runtime} {document : List (String × Json)}
    {validated : ValidatedDecision} (h : validateDecision runtime document = .ok validated) :
    validated.protocolVersion = threeHeadProtocolVersion ↔ isStrict document := by
  rw [validateDecision] at h
  by_cases hstrict : isStrict document
  · rw [if_pos hstrict, validateCriticDecision_eq_ok] at h
    exact iff_of_true h.1.protocolVersion hstrict
  · rw [if_neg hstrict, validateVerifierDecision_eq_ok] at h
    refine iff_of_false ?_ hstrict
    rw [h.1.protocolVersion]
    decide

end LlmHarness
