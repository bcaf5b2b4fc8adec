/-
  LlmHarness.Review.Export

  `export_review_bundle`: the bundle of a committed run, written as a file, then
  indexed, then journalled.  The world of the review code is the store and the
  bundle and decision files below the state root.
-/

import LlmHarness.Lib.Durable
import LlmHarness.Review.Import

namespace LlmHarness

open Python Durable Durable.Program

/-! ## The world -/

/-- The store and the documents beside it, by their path below the state root. -/
structure ReviewWorld where
  store : Store
  files : String → Option Payload

/-- A write of the review code. -/
inductive ReviewWrite where
  | store (write : Write)
  | file (path : String) (document : Payload)
  /-- A request to the critic: nothing durable, but it is made. -/
  | criticCall

/-- The world after a write. -/
def ReviewWorld.apply (w : ReviewWorld) : ReviewWrite → ReviewWorld
  | .store write => { w with store := w.store.apply write }
  | .file path document =>
    { w with files := fun other => if other = path then some document else w.files other }
  | .criticCall => w

instance : World ReviewWorld ReviewWrite := ⟨ReviewWorld.apply⟩

/-- A program of the review code. -/
abbrev ReviewM (α : Type) : Type := Program ReviewWorld ReviewWrite ReviewError α

/-- A store operation. -/
def onStore {α : Type} (m : StoreM α) : ReviewM α := fun w =>
  let outcome := m w.store
  ⟨outcome.writes.map .store, outcome.value.mapError fun e => .state e.message⟩

theorem applyAll_map_store (w : ReviewWorld) (ws : List Write) :
    applyAll w (ws.map ReviewWrite.store) = { w with store := w.store.applyAll ws } := by
  induction ws generalizing w with
  | nil => rfl
  | cons write ws ih => exact ih (w.apply (.store write))

/-- `_load_json_object` on a path. -/
def readObject (path label : String) : ReviewM (List (String × Json)) := fun w =>
  ⟨[], match w.files path with
    | none => refuseReview (label ++ " cannot be read: " ++ path)
    | some document => loadJsonObject (.ok document) label⟩

/-! ## Role identities -/

/-- `RoleIdentityConfig`. -/
structure RoleIdentity where
  identity : String
  provider : String
  model : String
deriving DecidableEq, Repr

/-- `ThreeHeadConfig.mode`. -/
inductive ThreeHeadMode where
  | disabled
  | manual
  | required
deriving DecidableEq, Repr

/-- Identity, provider and model are not blank. -/
def RoleIdentity.isNamed (role : RoleIdentity) : Bool :=
  !isBlank role.identity.toList && !isBlank role.provider.toList && !isBlank role.model.toList

/-- `model_fingerprint`. -/
def RoleIdentity.modelFingerprint (role : RoleIdentity) : Text × Text :=
  (foldedText role.provider, foldedText role.model)

/-- The identities of required roles are distinct. -/
def DistinctIdentities (mode : ThreeHeadMode) (logic worker critic : RoleIdentity) : Prop :=
  mode = .required → ([logic, worker, critic].map fun role => foldedText role.identity).Nodup

instance (mode : ThreeHeadMode) (logic worker critic : RoleIdentity) :
    Decidable (DistinctIdentities mode logic worker critic) :=
  inferInstanceAs (Decidable (_ → _))

/-- `ThreeHeadConfig`, with what `__post_init__` checks. -/
structure ThreeHeadConfig where
  mode : ThreeHeadMode
  maxAttempts : Int
  logic : RoleIdentity
  worker : RoleIdentity
  critic : RoleIdentity
  positiveAttempts : 1 ≤ maxAttempts
  rolesNamed : ∀ role ∈ [logic, worker, critic], role.isNamed
  distinctIdentities : DistinctIdentities mode logic worker critic

/-- `ThreeHeadConfig.__post_init__`, after the mode is read. -/
def threeHeadConfig? (mode : ThreeHeadMode) (maxAttempts : Int) (logic worker critic : RoleIdentity) :
    Except String ThreeHeadConfig :=
  if hattempts : 1 ≤ maxAttempts then
    if hnamed : ∀ role ∈ [logic, worker, critic], role.isNamed then
      if hdistinct : DistinctIdentities mode logic worker critic then
        .ok ⟨mode, maxAttempts, logic, worker, critic, hattempts, hnamed, hdistinct⟩
      else .error "three_head required mode needs distinct logic, worker, and critic identities."
    else .error "three_head role identity, provider, and model must be non-empty."
  else .error "three_head.max_attempts must be at least 1."

/-- `three_head is not None and three_head.required`, with the config. -/
def requiredConfig (threeHead : Option ThreeHeadConfig) : Option ThreeHeadConfig :=
  threeHead.filter fun config => config.mode = .required

/-! ## Payloads -/

/-- An optional number. -/
def optionalInt : Option Int → Json
  | none => .null
  | some n => .int n

/-- `work_item_payload`. -/
def workItemPayload (item : WorkItem) : Json := .obj [
  ("id", .str item.id), ("title", .str item.title), ("objective", .str item.objective),
  ("acceptance_criteria", textList item.acceptanceCriteria),
  ("verification_commands", textList item.verificationCommands),
  ("allowed_paths", textList item.allowedPaths), ("non_goals", textList item.nonGoals),
  ("depends_on", textList item.dependsOn), ("priority", .int item.priority)]

/-- `command_result_payload`. -/
def commandResultPayload (result : CommandResult) : Json := .obj [
  ("command", .str result.command), ("return_code", .int result.returnCode),
  ("ok", .bool result.ok), ("stdout", .str result.stdout), ("stderr", .str result.stderr)]

/-- The `evidence` of `semantic_verification_payload`. -/
def invocationEvidencePayload : Option ModelInvocationEvidence → Json
  | none => .null
  | some evidence => .obj [
    ("provider", .str evidence.provider), ("model", .str evidence.model),
    ("endpoint", .str evidence.endpoint), ("request_id", optionalText evidence.requestId),
    ("attempts", .int evidence.attempts), ("latency_ms", .int evidence.latencyMs),
    ("input_tokens", optionalInt evidence.inputTokens),
    ("output_tokens", optionalInt evidence.outputTokens),
    ("total_tokens", optionalInt evidence.totalTokens),
    ("request_sha256", .str evidence.requestSha256),
    ("response_sha256", .str evidence.responseSha256)]

/-- `semantic_verification_payload`. -/
def semanticVerificationPayload : Option SemanticVerificationReport → Json
  | none => .null
  | some report => .obj [
    ("decision", .str report.decision.text), ("ok", .bool report.ok),
    ("summary", .str report.summary), ("findings", textList report.findings),
    ("evidence", invocationEvidencePayload report.evidence)]

/-- `run_record_payload`. -/
def runRecordPayload (record : RunRecord) : Json := .obj [
  ("run_id", .str record.runId), ("work_item_id", .str record.workItemId),
  ("started_at_utc", .str record.startedAtUtc), ("finished_at_utc", .str record.finishedAtUtc),
  ("ok", .bool record.ok), ("commit", optionalText record.commit),
  ("error", optionalText record.error),
  ("pre_apply_findings", textList record.preApplyFindings),
  ("post_apply_findings", textList record.postApplyFindings),
  ("command_results", .arr (record.commandResults.map commandResultPayload)),
  ("semantic_verification", semanticVerificationPayload record.semanticVerification)]

/-- `_role_payload`. -/
def rolePayload (role : RoleIdentity) : Json := .obj [
  ("identity", .str role.identity), ("provider", .str role.provider), ("model", .str role.model)]

/-- The `three_head` of a bundle. -/
def threeHeadPayload (config : ThreeHeadConfig) (task : QueueTask) : List (String × Json) := [
  ("mode", .str "required"), ("attempt", .int task.attempts), ("max_attempts", .int config.maxAttempts),
  ("roles", .obj [("logic", rolePayload config.logic), ("worker", rolePayload config.worker),
    ("critic", rolePayload config.critic)]),
  ("correction_context", .obj [
    ("decision_id", optionalText task.workItem.correctionDecisionId),
    ("instructions", textList task.workItem.correctionInstructions)]),
  ("closure_policy", .obj [("critic_approval_required", .bool true),
    ("supervisor_owns_git", .bool true), ("supervisor_confirms_rework", .bool true)])]

/-- What git says about a commit. -/
structure CommitEvidence where
  root : String
  commit : String
  parentCommit : Option String
  patchText : String
  changedFiles : List String

/-- The `authority` of a bundle. -/
def authorityPayload (strict : Bool) : Json := .obj [
  ("worker", textList ["produce_candidate_patch"]),
  ("verifier", textList (["inspect_evidence", "approve", "reject"] ++
    if strict then ["escalate"] else [])),
  ("supervisor", textList ["apply_patch", "run_checks", "commit", "merge", "handoff"]),
  ("worker_commit_allowed", .bool false), ("worker_merge_allowed", .bool false),
  ("verifier_commit_allowed", .bool false), ("verifier_merge_allowed", .bool false)]

/-- The bundle of a run, before its digest. -/
def bundlePayload (runtime : Runtime) (config : Option ThreeHeadConfig) (bundleId createdAt : String)
    (evidence : CommitEvidence) (task : QueueTask) (run : RunRecord) : List (String × Json) := [
  ("protocol", .str protocolNamespace),
  ("protocol_version", .str (if config.isSome then threeHeadProtocolVersion else protocolVersion)),
  ("message_type",
    .str (if config.isSome then "critic.review_bundle" else "verifier.review_bundle")),
  ("bundle_id", .str bundleId),
  ("created_at_utc", .str createdAt),
  ("repository", .obj [("path", .str evidence.root), ("commit", .str evidence.commit),
    ("parent_commit", optionalText evidence.parentCommit)]),
  ("task", workItemPayload task.workItem),
  ("scope", .obj [("allowed_paths", textList task.workItem.allowedPaths),
    ("non_goals", textList task.workItem.nonGoals),
    ("changed_files", textList evidence.changedFiles)]),
  ("artifact", .obj [("contract", .str "git_commit_diff"), ("commit", .str evidence.commit),
    ("patch_sha256", .str (runtime.sha256 evidence.patchText.toList)),
    ("patch_text", .str evidence.patchText)]),
  ("verification", .obj [("run", runRecordPayload run),
    ("pre_apply_ok", .bool (run.preApplyFindings = [])),
    ("post_apply_ok", .bool (run.postApplyFindings = [])),
    ("commands_ok", .bool (run.commandResults.all CommandResult.ok)),
    ("command_results", .arr (run.commandResults.map commandResultPayload))]),
  ("authority", authorityPayload config.isSome)] ++
    match config with
    | none => []
    | some config => [("three_head", .obj (threeHeadPayload config task))]

/-- The `integrity` of a bundle. -/
def integrityPayload (runtime : Runtime) (content : List (String × Json)) : Json := .obj [
  ("algorithm", .str "sha256"), ("payload_sha256", .str (runtime.sha256 (canonicalJson content)))]

/-- The bundle with its digest. -/
def sealedBundle (runtime : Runtime) (content : List (String × Json)) : List (String × Json) :=
  content ++ [("integrity", integrityPayload runtime content)]

theorem distinctKeys_optionalText (text : Option String) : (optionalText text).DistinctKeys := by
  cases text <;> trivial

theorem distinctKeys_commandResults (results : List CommandResult) :
    Json.DistinctItems (results.map commandResultPayload) :=
  (distinctItems_iff _).mpr fun item hitem => by
    obtain ⟨result, -, rfl⟩ := List.mem_map.mp hitem
    simp [commandResultPayload, Json.DistinctKeys, Json.DistinctMembers]

theorem distinctKeys_semanticVerification (report : Option SemanticVerificationReport) :
    (semanticVerificationPayload report).DistinctKeys := by
  have hint : ∀ n : Option Int, (optionalInt n).DistinctKeys := fun n => by cases n <;> trivial
  have hevidence : ∀ e, (invocationEvidencePayload e).DistinctKeys := by
    intro e
    cases e <;>
      simp [invocationEvidencePayload, Json.DistinctKeys, Json.DistinctMembers,
        distinctKeys_optionalText, hint]
  cases report <;>
    simp [semanticVerificationPayload, Json.DistinctKeys, Json.DistinctMembers,
      distinctKeys_textList, hevidence]

/-- A sealed bundle is a JSON document. -/
theorem distinctKeys_sealedBundle (runtime : Runtime) (config : Option ThreeHeadConfig)
    (bundleId createdAt : String) (evidence : CommitEvidence) (task : QueueTask) (run : RunRecord) :
    (Json.obj (sealedBundle runtime
      (bundlePayload runtime config bundleId createdAt evidence task run))).DistinctKeys := by
  cases config <;>
    simp [sealedBundle, bundlePayload, integrityPayload, threeHeadPayload, rolePayload,
      runRecordPayload, workItemPayload, authorityPayload, Json.DistinctKeys, Json.DistinctMembers,
      distinctKeys_optionalText, distinctKeys_textList, distinctKeys_commandResults,
      distinctKeys_semanticVerification]

/-! ## The export -/

/-- The git commands of the export, each of which may fail. -/
structure GitReader where
  root : String
  /-- `_resolve_commit`. -/
  resolveCommit : String → Check String
  /-- `git show --format= --binary --no-ext-diff`. -/
  patchText : String → Check String
  /-- `_changed_files`. -/
  changedFiles : String → Check (List String)
  /-- `_parent_commit`. -/
  parentCommit : String → Check (Option String)

/-- `ReviewBundleExport`. -/
structure ReviewBundleExport where
  record : ReviewBundleRecord
  payload : List (String × Json)

/-- The path of a canonical bundle. -/
def canonicalPath (bundleId : String) : String := "review-bundles/" ++ bundleId ++ ".json"

/-- The id of the bundle of a run. -/
def bundleIdOf (strict : Bool) (runId : String) : String :=
  (if strict then "three-head-" else "review-") ++ runId

/-- `_find_run`. -/
def findRun (runId : String) : ReviewM RunRecord := do
  match (← read fun w => w.store.history).find? fun run => run.runId = runId with
  | some run => return run
  | none => raise (.protocol ("Unknown run id: " ++ runId))

/-- `_find_task`. -/
def findTask (workItemId : String) : ReviewM QueueTask := do
  match latestTask? (← read fun w => w.store.tasks) workItemId with
  | some task => return task
  | none => raise (.protocol ("Run references an unknown queued task: " ++ workItemId))

/-- The commit of a run that can be reviewed. -/
def reviewedCommit (run : RunRecord) : Check String :=
  match run.commit with
  | some commit =>
    if run.ok then .ok commit
    else refuseReview ("Only a successful committed run can be exported for review: " ++ run.runId)
  | none => refuseReview ("Only a successful committed run can be exported for review: " ++ run.runId)

/-- A bundle that is indexed already is read back and compared with its index. -/
def reloadBundle (runtime : Runtime) (existing : ReviewBundleRecord) (commit : String) :
    ReviewM ReviewBundleExport := do
  let payload ← readObject existing.bundlePath "Review bundle"
  lift (validateReviewBundle runtime payload)
  let digest ← lift (item (field payload "integrity") "payload_sha256")
  if isText digest existing.bundleSha256 ∧ existing.commit = commit then
    return ⟨existing, payload⟩
  else raise (.protocol
    ("Stored review bundle evidence does not match its index: " ++ existing.bundleId))

/-- The index record of a new bundle. -/
def bundleRecord (runtime : Runtime) (bundleId createdAt : String) (run : RunRecord) (commit : String)
    (content : List (String × Json)) : ReviewBundleRecord :=
  { bundleId := bundleId
    createdAtUtc := createdAt
    runId := run.runId
    workItemId := run.workItemId
    commit := commit
    bundleSha256 := runtime.sha256 (canonicalJson content)
    bundlePath := canonicalPath bundleId }

/-- The journal event that holds a bundle. -/
def bundlePayloadEvent (run : RunRecord) (bundleId : String) (payload : List (String × Json)) :
    JournalEvent :=
  { eventType := .interaction
    actor := "supervisor"
    action := "critic.review_bundle_payload"
    recipient := some "critic"
    content := .obj payload
    taskId := some run.workItemId
    runId := some run.runId
    correlationId := some bundleId }

/-- A new bundle: file, index, journal. -/
def writeBundle (runtime : Runtime) (git : GitReader) (config : Option ThreeHeadConfig)
    (bundleId commit createdAt : String) (task : QueueTask) (run : RunRecord) :
    ReviewM ReviewBundleExport := do
  let patchText ← lift (git.patchText commit)
  let changedFiles ← lift (git.changedFiles commit)
  let parentCommit ← lift (git.parentCommit commit)
  let evidence : CommitEvidence := ⟨git.root, commit, parentCommit, patchText, changedFiles⟩
  let content := bundlePayload runtime config bundleId createdAt evidence task run
  let payload := sealedBundle runtime content
  lift (validateReviewBundle runtime payload)
  write (.file (canonicalPath bundleId)
    ⟨.obj payload, distinctKeys_sealedBundle runtime config bundleId createdAt evidence task run⟩)
  let record ← onStore (recordReviewBundle (bundleRecord runtime bundleId createdAt run commit content))
  write (.store (.journal (bundlePayloadEvent run bundleId payload)))
  return ⟨record, payload⟩

/-- `_export_review_bundle_locked`, for the canonical output path. -/
def exportReviewBundle (runtime : Runtime) (git : GitReader) (threeHead : Option ThreeHeadConfig)
    (runId createdAt : String) : ReviewM ReviewBundleExport := do
  let run ← findRun runId
  let runCommit ← lift (reviewedCommit run)
  let task ← findTask run.workItemId
  let commit ← lift (git.resolveCommit runCommit)
  let config := requiredConfig threeHead
  let bundleId := bundleIdOf config.isSome run.runId
  match (← read fun w => w.store.reviewBundles).find? fun item => item.bundleId = bundleId with
  | some existing => reloadBundle runtime existing commit
  | none => writeBundle runtime git config bundleId commit createdAt task run

/-! ## Small inputs -/

/-- A patch of one line. -/
def samplePatch : String :=
  "diff --git a/src/app.py b/src/app.py\n--- a/src/app.py\n+++ b/src/app.py\n@@ -1 +1 @@\n" ++
    "-x = 1\n+x = 2\n"

/-- The digest of that patch. -/
def samplePatchSha256 : String := "0e6fd369a0c77073565a9771fd18933ff0cf51056c9ab330374f37b043923ddc"

/-- SHA-256 on the patch and on one bundle content, whose digest is given. -/
def sampleRuntime (contentSha256 : String) : Runtime where
  sha256 text := if text = samplePatch.toList then samplePatchSha256 else contentSha256
  fromisoformat _ := some true

/-- A commit. -/
def sampleCommit : String := "3f5c1a9e7b2d4c6f8a0b1c2d3e4f5a6b7c8d9e0f"

/-- Three roles with distinct identities and models. -/
def sampleRoles : ThreeHeadConfig where
  mode := .required
  maxAttempts := 3
  logic := ⟨"logic", "cloud", "logic-model"⟩
  worker := ⟨"worker", "local", "worker-model"⟩
  critic := ⟨"critic", "cloud", "critic-model"⟩
  positiveAttempts := by decide
  rolesNamed := by decide
  distinctIdentities := by decide +kernel

/-- A repository with that commit at its head. -/
def sampleGit : GitReader where
  root := "/repo"
  resolveCommit _ := .ok sampleCommit
  patchText _ := .ok samplePatch
  changedFiles _ := .ok ["src/app.py"]
  parentCommit _ := .ok (some "9e0f8d7c6b5a4f3e2d1c0b9a8f7e6d5c4b3a2f1e")

/-- The calls that bring item `a` to its first accepted run. -/
def acceptedRun : List Op :=
  [.enqueueMany [(sampleItem "a", "cli")] "t",
    .claimNext none "t",
    recordAccepted "a" "3f5c1a9" "r1" true]

/-- The digest of the bundle of that run. -/
def sampleContentSha256 : String :=
  "92498fffc51562815ea105b46a059021b72f90d49a74028e74484a7d1811930f"

/-- The world after that run. -/
def acceptedWorld : ReviewWorld := ⟨execute acceptedRun, fun _ => none⟩

/-- The export of its bundle. -/
def sampleExport : ReviewM ReviewBundleExport :=
  exportReviewBundle (sampleRuntime sampleContentSha256) sampleGit (some sampleRoles) "r1"
    "2026-01-01T00:00:00+00:00"

/-- A critic decision on that bundle. -/
def sampleDecision (verdict : String) (findings : List Json) (correction : Json) :
    List (String × Json) := [
  ("protocol", .str "hoh.protocol"), ("protocol_version", .str "2.0"),
  ("message_type", .str "critic.decision"), ("decision_id", .str "critic-decision-1"),
  ("bundle_id", .str "three-head-r1"), ("bundle_sha256", .str sampleContentSha256),
  ("critic", .obj [("identity", .str "critic"), ("kind", .str "agent")]),
  ("decision", .str verdict), ("summary", .str "Reviewed."), ("findings", .arr findings),
  ("correction_brief", correction), ("escalation", .null),
  ("created_at_utc", .str "2026-01-01T00:05:00Z"),
  ("attestation", .obj [("reviewed_commit", .str sampleCommit),
    ("reviewed_patch_sha256", .str samplePatchSha256)])]

/-- An approval. -/
def sampleApproval : Payload :=
  ⟨.obj (sampleDecision "approve" [] .null), by
    simp [sampleDecision, Json.DistinctKeys, Json.DistinctMembers, Json.DistinctItems]⟩

/-- A rejection. -/
def sampleRejection : Payload :=
  ⟨.obj (sampleDecision "reject"
      [.obj [("code", .str "TESTS"), ("severity", .str "error"), ("message", .str "No test.")]]
      (.obj [("rationale", .str "No test covers the change."),
        ("instructions", .arr [.str "Add a test."]), ("validation_focus", .arr [])])), by
    simp [sampleDecision, Json.DistinctKeys, Json.DistinctMembers, Json.DistinctItems]⟩

/-- The sample run can be exported. -/
example : passes (sampleExport acceptedWorld).value = true := by decide +kernel

end LlmHarness
