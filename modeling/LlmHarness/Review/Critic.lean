/-
  LlmHarness.Review.Critic

  `run_critic_review`: the pending bundle goes to the configured critic, its
  judgment becomes a decision document, and the document is imported.  The
  critic is a parameter, so two calls may get different answers from it.  What an
  adapter writes to the journal and the metrics is left out.
-/

import LlmHarness.Review.ExportRun
import LlmHarness.Review.Reachable

namespace LlmHarness

open Python Guards Durable Durable.Program

/-- Raises `CriticAdapterError`. -/
def refuseCritic {α : Type} (message : String) : Check α := .error (.adapter message)

/-- Raises `CriticAdapterError` unless the condition holds. -/
def requireCritic (ok : Bool) (message : String) : Check Unit :=
  if ok then .ok () else refuseCritic message

/-! ## Judgments -/

/-- A JSON object: the judgment of a critic. -/
abbrev Judgment := {members : List (String × Json) // (Json.obj members).DistinctKeys}

/-- The members of a judgment. -/
def judgmentKeys : List String :=
  ["decision", "summary", "findings", "correction_brief", "escalation"]

/-- The `decision` of a judgment. -/
def judgedDecision (value : Json) : Check ReviewDecision :=
  match value with
  | .str s =>
    match [ReviewDecision.approve, .reject, .escalate].find? fun decision => decision.text = s with
    | some decision => .ok decision
    | none => refuseCritic "Critic judgment decision must be approve, reject, or escalate."
  | .arr _ | .obj _ => .error .unhashable
  | _ => refuseCritic "Critic judgment decision must be approve, reject, or escalate."

/-- `isinstance(value, str) and value.strip()`. -/
def isNonBlankText (value : Json) : Bool :=
  match value with
  | .str s => !isBlank s.toList
  | _ => false

/-- `isinstance(value, list)`. -/
def isList (value : Json) : Bool :=
  match value with
  | .arr _ => true
  | _ => false

/-- The brief and the escalation a judgment comes with. -/
def judgedVerdict (decision : ReviewDecision) (correction escalation : Json) : Check Unit :=
  match decision with
  | .approve => requireCritic (isNone correction && isNone escalation)
      "Approve judgment cannot include correction or escalation."
  | .reject => requireCritic (!isNone correction && isNone escalation)
      "Reject judgment requires correction_brief only."
  | .escalate => requireCritic (!isNone escalation && isNone correction)
      "Escalate judgment requires escalation only."

/-- `_validate_judgment`. -/
def validateJudgment (judgment : List (String × Json)) : Check Unit := do
  let keys := judgment.map Prod.fst
  requireCritic (judgmentKeys.all (fun key => key ∈ keys) && keys.all fun key => key ∈ judgmentKeys)
    "Critic judgment has unexpected or missing fields."
  let decision ← judgedDecision (field judgment "decision")
  requireCritic (isNonBlankText (field judgment "summary")) "Critic judgment summary must be non-empty."
  requireCritic (isList (field judgment "findings")) "Critic judgment findings must be an array."
  judgedVerdict decision (field judgment "correction_brief") (field judgment "escalation")

/-! ## Decisions -/

/-- `_require_mapping`. -/
def requireMapping (value : Json) (label : String) : Check (List (String × Json)) :=
  match value with
  | .obj members => .ok members
  | _ => refuseCritic (label ++ " must be an object.")

/-- `_require_string`. -/
def requireString (value : Json) (label : String) : Check String :=
  match value with
  | .str s =>
    if isBlank s.toList then refuseCritic (label ++ " must be a non-empty string.") else .ok s
  | _ => refuseCritic (label ++ " must be a non-empty string.")

/-- What a decision takes from its bundle. -/
structure BundleEvidence where
  protocol : Json
  bundleId : String
  bundleSha256 : String
  commit : String
  patchSha256 : String

/-- The evidence `build_critic_decision` reads. -/
def bundleEvidence (bundle : List (String × Json)) : Check BundleEvidence := do
  let artifact ← requireMapping (field bundle "artifact") "bundle.artifact"
  let integrity ← requireMapping (field bundle "integrity") "bundle.integrity"
  let bundleId ← requireString (field bundle "bundle_id") "bundle.bundle_id"
  let bundleSha256 ← requireString (field integrity "payload_sha256") "bundle.integrity.payload_sha256"
  let commit ← requireString (field artifact "commit") "bundle.artifact.commit"
  let patchSha256 ← requireString (field artifact "patch_sha256") "bundle.artifact.patch_sha256"
  return ⟨field bundle "protocol", bundleId, bundleSha256, commit, patchSha256⟩

/-- The id of a decision: the start of the digest of what it says about which bundle. -/
def criticDecisionId (runtime : Runtime) (evidence : BundleEvidence) (judgment : Judgment) : String :=
  let digest := runtime.sha256 (canonicalJson [("bundle_id", .str evidence.bundleId),
    ("bundle_sha256", .str evidence.bundleSha256), ("judgment", .obj judgment.val)])
  "critic-" ++ String.ofList (digest.toList.take 24)

/-- The decision document of a judgment. -/
def criticDecisionPayload (runtime : Runtime) (evidence : BundleEvidence) (identity : String)
    (judgment : Judgment) (createdAt : String) : List (String × Json) := [
  ("protocol", evidence.protocol), ("protocol_version", .str threeHeadProtocolVersion),
  ("message_type", .str "critic.decision"),
  ("decision_id", .str (criticDecisionId runtime evidence judgment)),
  ("bundle_id", .str evidence.bundleId), ("bundle_sha256", .str evidence.bundleSha256),
  ("critic", .obj [("identity", .str identity), ("kind", .str "agent")]),
  ("decision", field judgment.val "decision"), ("summary", field judgment.val "summary"),
  ("findings", field judgment.val "findings"),
  ("correction_brief", field judgment.val "correction_brief"),
  ("escalation", field judgment.val "escalation"),
  ("created_at_utc", .str createdAt),
  ("attestation", .obj [("reviewed_commit", .str evidence.commit),
    ("reviewed_patch_sha256", .str evidence.patchSha256)])]

theorem distinctKeys_field {members : List (String × Json)} (h : (Json.obj members).DistinctKeys)
    (name : String) : (field members name).DistinctKeys := by
  rw [field]
  cases hget : dictGet? members name with
  | none => trivial
  | some value =>
      have hmem := (mem_iff_dictGet? h.1 name value).mpr hget
      exact (distinctMembers_iff members).mp h.2 _ hmem

/-- A decision that validates is a JSON document. -/
theorem distinctKeys_criticDecision {runtime : Runtime} {evidence : BundleEvidence}
    {identity : String} {judgment : Judgment} {createdAt : String} {validated : ValidatedDecision}
    (h : validateCriticDecision runtime.fromisoformat
      (criticDecisionPayload runtime evidence identity judgment createdAt) = .ok validated) :
    (Json.obj (criticDecisionPayload runtime evidence identity judgment createdAt)).DistinctKeys := by
  have hprotocol : evidence.protocol = .str protocolNamespace := by
    have hread := (validateCriticDecision_eq_ok.mp h).1
    exact hread.protocol
  have hjudgment := distinctKeys_field judgment.property
  simp [criticDecisionPayload, Json.DistinctKeys, Json.DistinctMembers, hprotocol, hjudgment]

/-- `build_critic_decision`. -/
def buildCriticDecision (runtime : Runtime) (bundle : List (String × Json)) (identity : String)
    (judgment : Judgment) (createdAt : String) : Check Payload := do
  validateJudgment judgment.val
  let evidence ← bundleEvidence bundle
  let payload := criticDecisionPayload runtime evidence identity judgment createdAt
  match h : validateCriticDecision runtime.fromisoformat payload with
  | .ok _ => return ⟨.obj payload, distinctKeys_criticDecision h⟩
  | .error e => .error e

/-! ## The review -/

/-- The bundle a review is asked for. -/
inductive BundleChoice where
  | exported (bundle : ReviewBundleExport)
  | recorded (bundleId : String)

/-- A call of `run_critic_review`. -/
structure CriticCall where
  threeHead : ThreeHeadConfig
  /-- `config.critic.automatic`. -/
  automatic : Bool
  bundle : BundleChoice
  /-- `create_critic_adapter`. -/
  createAdapter : Check Unit
  /-- What the critic answers on a bundle.  The handler treats an `OSError` and a `ValueError`
      as it treats a `ReviewProtocolError`. -/
  judge : List (String × Json) → Check Judgment
  /-- `_resolve_commit`. -/
  resolveCommit : String → Check String
  createdAt : String
  importedAt : String
  appliedAt : String
  failedAt : String

/-- The id of the bundle under review. -/
def CriticCall.bundleId (call : CriticCall) : String :=
  match call.bundle with
  | .exported bundle => bundle.record.bundleId
  | .recorded bundleId => bundleId

/-- `CriticReviewResult`. -/
structure CriticReviewResult where
  decision : ReviewDecisionRecord
  decisionPath : String
  taskStatus : TaskStatus
deriving DecidableEq

/-- `load_review_bundle`. -/
def loadReviewBundle (runtime : Runtime) (bundleId : String) : ReviewM (List (String × Json)) := do
  match (← read fun w => w.store.reviewBundles).find? fun item => item.bundleId = bundleId with
  | none => raise (.protocol ("Unknown review bundle: " ++ bundleId))
  | some record =>
    let payload ← readObject record.bundlePath "Review bundle"
    lift (validateReviewBundle runtime payload)
    let digest ← lift (item (field payload "integrity") "payload_sha256")
    if isText digest record.bundleSha256 then return payload
    else raise (.protocol ("Stored review bundle evidence does not match its index: " ++ bundleId))

/-- The document of the bundle under review. -/
def selectedBundle (runtime : Runtime) (call : CriticCall) : ReviewM (List (String × Json)) :=
  match call.bundle with
  | .exported bundle => pure bundle.payload
  | .recorded bundleId => loadReviewBundle runtime bundleId

/-- `_pending_work_item_id`. -/
def pendingWorkItemId (bundleId : String) : ReviewM String := do
  let pending := (← read fun w => w.store.tasks).filter (QueueTask.awaits bundleId)
  match pending with
  | [task] => return task.id
  | _ => raise (.adapter ("Expected exactly one review-pending task for bundle " ++ bundleId
      ++ "; found " ++ toString pending.length ++ "."))

/-- `next(item for item in tasks if item.work_item.id == work_item_id)`: the first entry. -/
def firstTask? (tasks : List QueueTask) (workItemId : String) : Option QueueTask :=
  tasks.find? fun task => task.id = workItemId

/-- The path of a decision document. -/
def decisionPath (document : Payload) : String :=
  "review-decision-payloads/" ++ (match document.val with
    | .obj members =>
      match field members "decision_id" with
      | .str decisionId => decisionId
      | _ => ""
    | _ => "") ++ ".json"

/-- What reading a document below the state root gives. -/
def ReviewWorld.jsonFile (w : ReviewWorld) (label path : String) : JsonFile :=
  match w.files path with
  | some document => .ok document
  | none => refuseReview (label ++ " cannot be read: " ++ path)

/-- What the import of a review finds outside the store. -/
def CriticCall.importCall (call : CriticCall) (w : ReviewWorld) (path : String) : ImportCall where
  decisionFile := w.jsonFile "Verifier decision" path
  bundleFile := w.jsonFile "Review bundle"
  resolveCommit := call.resolveCommit
  importedAt := call.importedAt
  appliedAt := call.appliedAt

/-- `import_verifier_decision` on a document below the state root. -/
def importDecision (runtime : Runtime) (call : CriticCall) (path : String) :
    ReviewM ReviewDecisionRecord := fun w =>
  let outcome := importVerifierDecision runtime (call.importCall w path) w.store
  ⟨outcome.writes.map .store, outcome.value⟩

/-- The guarded part of a review: critic, decision document, import. -/
def attemptReview (runtime : Runtime) (call : CriticCall) (bundle : List (String × Json)) :
    ReviewM (ReviewDecisionRecord × String) := do
  write .criticCall
  let judgment ← lift (call.judge bundle)
  let document ← lift (buildCriticDecision runtime bundle call.threeHead.critic.identity judgment
    call.createdAt)
  write (.file (decisionPath document) document)
  let decision ← importDecision runtime call (decisionPath document)
  return (decision, decisionPath document)

/-- The error a failed attempt is reported as; `TypeError`, `KeyError` and the errors of the store
    and of the ledger pass the handler. -/
def caughtError : ReviewError → Option (String × ReviewError)
  | .adapter message => some (message, .adapter message)
  | .protocol message =>
    some (message, .adapter ("Critic decision could not be imported: " ++ message))
  | .state _ | .blocked _ | .unhashable | .missing _ => none

/-- The handler of a failed attempt. -/
def reviewFailed (call : CriticCall) (workItemId : String) (e : ReviewError) :
    ReviewM (ReviewDecisionRecord × String) :=
  match caughtError e with
  | some (message, reported) => do
    let _ ← onStore (recordReviewFailure workItemId message call.failedAt)
    raise reported
  | none => raise e

/-- The checks before a review. -/
def requireAutomatic (call : CriticCall) : Check Unit := do
  requireCritic (call.threeHead.mode = .required)
    "Automatic Critic requires three_head.mode = 'required'."
  requireCritic call.automatic
    "Critic transport is manual; no automatic adapter is configured."

/-- A review whose bundle and task are found: the attempt, and the status of the first entry. -/
def conductReview (runtime : Runtime) (call : CriticCall) (bundle : List (String × Json))
    (workItemId : String) : ReviewM CriticReviewResult := do
  let (decision, path) ← tryExcept (attemptReview runtime call bundle) (reviewFailed call workItemId)
  match firstTask? (← read fun w => w.store.tasks) workItemId with
  | some task => return ⟨decision, path, task.status⟩
  -- `next` without a default: the entry that waited is still there
  | none => raise (.missing workItemId)

/-- `run_critic_review`. -/
def runCriticReview (runtime : Runtime) (call : CriticCall) : ReviewM CriticReviewResult := do
  lift (requireAutomatic call)
  let bundle ← selectedBundle runtime call
  let workItemId ← pendingWorkItemId call.bundleId
  lift call.createAdapter
  conductReview runtime call bundle workItemId

/-! ## What a review does -/

variable {runtime : Runtime} {call : CriticCall} {w : ReviewWorld}

theorem silent_loadReviewBundle (bundleId : String) : Silent (loadReviewBundle runtime bundleId) := by
  refine (silent_read _).bind fun bundles => ?_
  split
  · exact silent_raise _
  · refine (silent_readObject _ _).bind fun payload => (silent_lift _).bind fun _ => ?_
    refine (silent_lift _).bind fun digest => ?_
    split
    · exact silent_pure _
    · exact silent_raise _

theorem silent_selectedBundle (runtime : Runtime) (call : CriticCall) :
    Silent (selectedBundle runtime call) := by
  rw [selectedBundle]
  split
  · exact silent_pure _
  · exact silent_loadReviewBundle _

theorem silent_pendingWorkItemId (bundleId : String) : Silent (pendingWorkItemId bundleId) := by
  refine (silent_read _).bind fun tasks => ?_
  dsimp only
  split
  · exact silent_pure _
  · exact silent_raise _

/-- The one entry that waits for a bundle is the one `_pending_work_item_id` names. -/
theorem pendingWorkItemId_value {bundleId workItemId : String}
    (h : (pendingWorkItemId bundleId w).value = .ok workItemId) :
    ∃ task, w.store.tasks.filter (QueueTask.awaits bundleId) = [task] ∧ task.id = workItemId := by
  rw [pendingWorkItemId, Durable.read_bind] at h
  cases hfilter : w.store.tasks.filter (QueueTask.awaits bundleId) with
  | nil => simp [hfilter] at h
  | cons task rest =>
      cases rest with
      | nil => exact ⟨task, rfl, by simpa [hfilter] using h⟩
      | cons other rest => simp [hfilter] at h

/-- A review refuses before it asks the critic, or conducts the review of the one waiting entry. -/
theorem runCriticReview_cases (runtime : Runtime) (call : CriticCall) (w : ReviewWorld) :
    (∃ e, runCriticReview runtime call w = ⟨[], .error e⟩) ∨
      ∃ bundle task, (selectedBundle runtime call w).value = .ok bundle ∧
        w.store.tasks.filter (QueueTask.awaits call.bundleId) = [task] ∧
        call.createAdapter = .ok () ∧
        runCriticReview runtime call w = conductReview runtime call bundle task.id w := by
  -- the adapter is created after the bundle and the task are selected, as in the source
  rw [runCriticReview, (silent_lift _).bind_run]
  cases (lift (requireAutomatic call) : ReviewM Unit) w |>.value with
  | error e => exact Or.inl ⟨e, rfl⟩
  | ok _ =>
      simp only
      rw [(silent_selectedBundle runtime call).bind_run]
      cases hbundle : (selectedBundle runtime call w).value with
      | error e => exact Or.inl ⟨e, rfl⟩
      | ok bundle =>
          simp only
          rw [(silent_pendingWorkItemId _).bind_run]
          cases hpending : (pendingWorkItemId call.bundleId w).value with
          | error e => exact Or.inl ⟨e, rfl⟩
          | ok workItemId =>
              simp only
              cases hcreate : call.createAdapter with
              | error e => exact Or.inl ⟨e, Durable.lift_bind_error _ rfl⟩
              | ok created =>
                  obtain ⟨task, htask, rfl⟩ := pendingWorkItemId_value hpending
                  exact Or.inr ⟨bundle, task, rfl, htask, rfl, Durable.lift_bind_ok _ rfl⟩

/-- What `build_critic_decision` returns spells a decision of the judgment on the bundle. -/
theorem buildCriticDecision_eq_ok {bundle : List (String × Json)} {identity createdAt : String}
    {judgment : Judgment} {document : Payload} :
    buildCriticDecision runtime bundle identity judgment createdAt = .ok document ↔
      ∃ evidence validated, validateJudgment judgment.val = .ok () ∧
        bundleEvidence bundle = .ok evidence ∧
        validateCriticDecision runtime.fromisoformat
          (criticDecisionPayload runtime evidence identity judgment createdAt) = .ok validated ∧
        document.val = .obj (criticDecisionPayload runtime evidence identity judgment createdAt) := by
  rw [buildCriticDecision]
  simp only [bind_eq_ok, exists_unit]
  constructor
  · rintro ⟨hjudgment, evidence, hevidence, h⟩
    -- the judgment, the evidence and the rules are checked in turn
    split at h
    · rename_i validated hvalidated
      obtain rfl := pure_eq_ok.mp h
      exact ⟨evidence, validated, hjudgment, hevidence, hvalidated, rfl⟩
    · cases h
  · rintro ⟨evidence, validated, hjudgment, hevidence, hvalidated, hdocument⟩
    refine ⟨hjudgment, evidence, hevidence, ?_⟩
    split
    · exact congrArg Except.ok (Subtype.ext hdocument.symm)
    · rename_i e he
      rw [hvalidated] at he
      cases he

theorem bundleEvidence_bundleId {bundle : List (String × Json)} {evidence : BundleEvidence}
    (h : bundleEvidence bundle = .ok evidence) : field bundle "bundle_id" = .str evidence.bundleId := by
  have hstring : ∀ {value : Json} {label s : String}, requireString value label = .ok s →
      value = .str s := by
    intro value label s hs
    cases value with
    | str text =>
        rw [requireString] at hs
        split at hs
        · cases hs
        · exact congrArg Json.str (Except.ok.inj hs)
    | _ => cases hs
  simp only [bundleEvidence, bind_eq_ok, pure_eq_ok] at h
  obtain ⟨artifact, -, integrity, -, bundleId, hbundleId, digest, -, commit, -, patch, -, rfl⟩ := h
  exact hstring hbundleId

/-- An attempt asks the critic, writes its decision and imports it; or it stops at the answer. -/
theorem attemptReview_cases (runtime : Runtime) (call : CriticCall) (bundle : List (String × Json))
    (w : ReviewWorld) :
    (∃ e, attemptReview runtime call bundle w = ⟨[.criticCall], .error e⟩) ∨
      ∃ judgment document outcome, call.judge bundle = .ok judgment ∧
        buildCriticDecision runtime bundle call.threeHead.critic.identity judgment call.createdAt =
          .ok document ∧
        outcome = importVerifierDecision runtime (call.importCall
          (w.apply (.file (decisionPath document) document)) (decisionPath document)) w.store ∧
        attemptReview runtime call bundle w =
          ⟨.criticCall :: .file (decisionPath document) document :: outcome.writes.map .store,
            outcome.value.map fun decision => (decision, decisionPath document)⟩ := by
  rw [attemptReview, Durable.write_bind]
  cases hjudge : call.judge bundle with
  | error e =>
      rw [Durable.lift_bind_error _ rfl]
      exact Or.inl ⟨e, rfl⟩
  | ok judgment =>
      -- the document is written before it is imported
      rw [Durable.lift_bind_ok _ rfl]
      cases hbuild : buildCriticDecision runtime bundle call.threeHead.critic.identity judgment
          call.createdAt with
      | error e =>
          rw [Durable.lift_bind_error _ rfl]
          exact Or.inl ⟨e, rfl⟩
      | ok document =>
          rw [Durable.lift_bind_ok _ rfl, Durable.write_bind]
          refine Or.inr ⟨judgment, document, _, rfl, hbuild, rfl, ?_⟩
          generalize houtcome : importVerifierDecision runtime _ w.store = outcome
          have himport : importDecision runtime call (decisionPath document)
              (w.apply (.file (decisionPath document) document)) =
              ⟨outcome.writes.map .store, outcome.value⟩ := by
            rw [← houtcome]
            rfl
          -- the import raised or returned; its writes follow the document's either way
          cases hvalue : outcome.value with
          | error e =>
              rw [hvalue] at himport
              rw [show World.apply (World.apply w .criticCall) _ =
                w.apply (.file (decisionPath document) document) from rfl,
                Durable.bind_of_error himport]
              rfl
          | ok decision =>
              rw [hvalue] at himport
              rw [show World.apply (World.apply w .criticCall) _ =
                w.apply (.file (decisionPath document) document) from rfl,
                Durable.bind_of_ok himport, Durable.pure_run, List.append_nil]
              rfl

/-- The handler of a failed attempt writes to the queue and the journal, and always raises. -/
theorem reviewFailed_run (call : CriticCall) (workItemId : String) (e : ReviewError)
    (w : ReviewWorld) : ∃ (ws : List Write) (e' : ReviewError),
      reviewFailed call workItemId e w = ⟨ws.map .store, .error e'⟩ ∧
        (ws = [] ∨ ∃ message, ws = (recordReviewFailure workItemId message call.failedAt w.store).writes) := by
  cases hcaught : caughtError e with
  | none =>
      rw [reviewFailed, hcaught]
      exact ⟨[], e, rfl, Or.inl rfl⟩
  | some caught =>
      obtain ⟨message, reported⟩ := caught
      rw [reviewFailed, hcaught]
      dsimp only
      rw [Durable.bind_run]
      dsimp only [onStore]
      cases (recordReviewFailure workItemId message call.failedAt w.store).value with
      | error e' => exact ⟨_, .state e'.message, rfl, Or.inr ⟨message, rfl⟩⟩
      | ok task =>
          refine ⟨(recordReviewFailure workItemId message call.failedAt w.store).writes, reported, ?_,
            Or.inr ⟨message, rfl⟩⟩
          simp [Except.mapError]

/-- A review whose attempt succeeded reports the status of the first entry. -/
theorem conductReview_of_ok {bundle : List (String × Json)} (workItemId : String) {path : String}
    {ws : List ReviewWrite} {decision : ReviewDecisionRecord}
    (h : attemptReview runtime call bundle w = ⟨ws, .ok (decision, path)⟩) :
    conductReview runtime call bundle workItemId w =
      ⟨ws, match firstTask? (applyAll w ws).store.tasks workItemId with
        | some task => .ok ⟨decision, path, task.status⟩
        | none => .error (.missing workItemId)⟩ := by
  rw [conductReview, Durable.bind_of_ok (tryExcept_of_ok h)]
  dsimp only
  rw [Durable.read_bind]
  cases firstTask? (applyAll w ws).store.tasks workItemId <;> simp

/-- A review whose attempt raised ends in the handler. -/
theorem conductReview_of_error {bundle : List (String × Json)} (workItemId : String)
    {ws : List ReviewWrite} {e : ReviewError}
    (h : attemptReview runtime call bundle w = ⟨ws, .error e⟩) :
    ∃ (handled : List Write) (e' : ReviewError), conductReview runtime call bundle workItemId w =
      ⟨ws ++ handled.map .store, .error e'⟩ ∧ (handled = [] ∨ ∃ message,
        handled = (recordReviewFailure workItemId message call.failedAt (applyAll w ws).store).writes) := by
  obtain ⟨handled, e', hrun, hhandled⟩ := reviewFailed_run call workItemId e (applyAll w ws)
  refine ⟨handled, e', ?_, hhandled⟩
  have htry : tryExcept (attemptReview runtime call bundle) (reviewFailed call workItemId) w = _ :=
    tryExcept_of_error h
  rw [hrun] at htry
  rw [conductReview, Durable.bind_of_error htry]

/-! ## The import of a pending bundle -/

/-- A bundle as its export and its attachment leave it: the document states the id of the bundle,
    and its index record is of the work item whose entry waits for it. -/
structure PendingBundle (runtime : Runtime) (call : CriticCall) (w : ReviewWorld) : Prop where
  document : ∀ bundle, (selectedBundle runtime call w).value = .ok bundle →
    field bundle "bundle_id" = .str call.bundleId
  indexed : ∀ record, w.store.reviewBundles.find? (fun item => item.bundleId = call.bundleId) =
    some record → ∀ task ∈ w.store.tasks, task.awaits call.bundleId → task.id = record.workItemId

theorem awaits_iff (bundleId : String) (task : QueueTask) : task.awaits bundleId ↔
    task.status = .reviewPending ∧ task.pendingReviewBundleId = some bundleId := by
  simp [QueueTask.awaits]

/-- A waiting entry is the last of its id. -/
theorem latestTask?_of_awaits {tasks : List QueueTask} (h : LiveQueue tasks) {task : QueueTask}
    (htask : task ∈ tasks) {bundleId : String} (hawaits : task.awaits bundleId) :
    latestTask? tasks task.id = some task := by
  apply KeyedLog.LiveLast.last?_of_mem h htask
  rw [((awaits_iff bundleId task).mp hawaits).1]
  rfl

/-- A decision on the bundle an entry waits for is applied to that entry. -/
theorem appliedImport_awaits {s : Store} (recorded : List Write) {stored : ReviewDecisionRecord}
    (now : String) (hrecorded : KeepsQueue recorded) (hstrict : stored.isStrict) {task : QueueTask}
    (hlatest : latestTask? s.tasks stored.workItemId = some task)
    (hawaits : task.awaits stored.bundleId) :
    ∃ pre post new event, s.tasks = pre ++ task :: post ∧
      Resolved task new stored.decision stored.decisionId ∧
      appliedImport recorded stored now s =
        ⟨recorded ++ [.queue (pre ++ new :: post), .journal event], .ok stored⟩ := by
  have htasks : (s.applyAll recorded).tasks = s.tasks := hrecorded.tasks_eq s
  obtain ⟨hstatus, -⟩ := (awaits_iff _ _).mp hawaits
  -- an entry that waits shows no decision yet
  have hshows : ¬ (task.status = stored.decision.status ∧
      task.lastReviewDecisionId = some stored.decisionId) := by
    rintro ⟨hdecided, -⟩
    exact stored.decision.status_ne_reviewPending (hdecided.symm.trans hstatus)
  rcases resolveReview_cases stored.workItemId stored.bundleId stored.decisionId stored.summary now
    stored.decision (s.applyAll recorded) with
    ⟨e, -, hno⟩ | ⟨old, pre, post, new, event, hold, -, hsplit, hresolved, hrun⟩
  -- the entry of the call is the one that waits
  · rw [hno task (htasks ▸ hlatest)] at hawaits
    cases hawaits
  · obtain rfl : old = task := Option.some.inj (hold.symm.trans (htasks ▸ hlatest))
    refine ⟨pre, post, new, event, htasks ▸ hsplit, hresolved, ?_⟩
    have happly : applyStrictDecisionIfPending stored now (s.applyAll recorded) =
        ⟨[.queue (pre ++ new :: post), .journal event], .ok ()⟩ := by
      rw [applyStrictDecisionIfPending, read_bind, htasks, hlatest]
      simp only [if_neg hshows]
      rw [bind_of_ok hrun]
      rfl
    rw [appliedImport, applyPart, if_pos hstrict, bind_of_ok happly]
    rfl

/-- What the import of a review does while one entry waits for the bundle. -/
inductive PendingImport (call : CriticCall) (judgment : Judgment) (tasks : List QueueTask)
    (task : QueueTask) : ImportOutcome → Prop where
  | refused (e : ReviewError) : PendingImport call judgment tasks task ⟨[], .error e⟩
  | applied {recorded : List Write} {d : ReviewDecisionRecord} {pre post : List QueueTask}
      {new : QueueTask} {event : JournalEvent}
      (records : recorded = [] ∨ ∃ e e', recorded = [.reviewDecision d, .journal e, .journal e'])
      (bundle : d.bundleId = call.bundleId) (item : d.workItemId = task.id)
      (verdict : field judgment.val "decision" = .str d.decision.text)
      (split : tasks = pre ++ task :: post) (resolved : Resolved task new d.decision d.decisionId) :
    PendingImport call judgment tasks task
      ⟨recorded ++ [.queue (pre ++ new :: post), .journal event], .ok d⟩

/-- The decision a checked import of a review is about. -/
theorem checked_critic {bundle document' bundle' : List (String × Json)} {judgment : Judgment}
    {document : Payload} {validated : ValidatedDecision} {record : ReviewBundleRecord}
    (hbuild : buildCriticDecision runtime bundle call.threeHead.critic.identity judgment
      call.createdAt = .ok document)
    (hchecked : ImportChecked runtime (call.importCall
      (w.apply (.file (decisionPath document) document)) (decisionPath document)) w.store document'
      validated record bundle') :
    validated.protocolVersion = threeHeadProtocolVersion ∧
      field bundle "bundle_id" = .str validated.bundleId ∧
      field judgment.val "decision" = .str validated.decision.text := by
  obtain ⟨evidence, validated', -, hevidence, hvalidated, hdocument⟩ :=
    buildCriticDecision_eq_ok.mp hbuild
  -- the document the import read is the one just written
  have hread : document' =
      criticDecisionPayload runtime evidence call.threeHead.critic.identity judgment call.createdAt := by
    have hload := hchecked.documentRead
    have hfile : (call.importCall (w.apply (.file (decisionPath document) document))
        (decisionPath document)).decisionFile = .ok document := by
      simp [CriticCall.importCall, ReviewWorld.jsonFile, ReviewWorld.apply]
    rw [hfile, loadJsonObject] at hload
    obtain ⟨payload, hpayload, hload⟩ := bind_eq_ok.mp hload
    obtain rfl := Except.ok.inj hpayload
    rw [hdocument] at hload
    exact (pure_eq_ok.mp hload).symm
  have hstrict : isStrict document' := by
    rw [hread]
    rfl
  have hvalid := hchecked.documentValid
  rw [validateDecision, if_pos hstrict, hread] at hvalid
  obtain ⟨hreads, -, -⟩ := validateCriticDecision_eq_ok.mp hvalid
  have hid : (Json.str evidence.bundleId) = .str validated.bundleId := hreads.bundleId
  -- the bundle of the decision is the one the evidence names
  refine ⟨hreads.protocolVersion, ?_, hreads.decision⟩
  rw [bundleEvidence_bundleId hevidence, hid]

/-- **The import of a review on a pending bundle.** -/
theorem pendingImport {bundle : List (String × Json)} {judgment : Judgment} {document : Payload}
    {task : QueueTask} (hw : ReachableWorld runtime w) (hpending : PendingBundle runtime call w)
    (hbundle : (selectedBundle runtime call w).value = .ok bundle)
    (hfilter : w.store.tasks.filter (QueueTask.awaits call.bundleId) = [task])
    (hbuild : buildCriticDecision runtime bundle call.threeHead.critic.identity judgment
      call.createdAt = .ok document) :
    PendingImport call judgment w.store.tasks task (importVerifierDecision runtime (call.importCall
      (w.apply (.file (decisionPath document) document)) (decisionPath document)) w.store) := by
  obtain ⟨htask, hawaits⟩ := List.mem_filter.mp (hfilter ▸ List.mem_singleton.mpr rfl)
  have hlatest := latestTask?_of_awaits hw.liveQueue htask hawaits
  -- what both kinds of import know of the index record and of the decision
  have hfacts : ∀ {document' bundle' : List (String × Json)} {validated : ValidatedDecision}
      {record : ReviewBundleRecord}, ImportChecked runtime (call.importCall
        (w.apply (.file (decisionPath document) document)) (decisionPath document)) w.store document'
        validated record bundle' →
      validated.protocolVersion = threeHeadProtocolVersion ∧ record.bundleId = call.bundleId ∧
        record.workItemId = task.id ∧
        w.store.reviewBundles.find? (fun item => item.bundleId = call.bundleId) = some record ∧
        field judgment.val "decision" = .str validated.decision.text := by
    intro document' bundle' validated record hchecked
    obtain ⟨hversion, hid, hdecision⟩ := checked_critic hbuild hchecked
    have hcall : validated.bundleId = call.bundleId :=
      (Json.str.inj ((hpending.document bundle hbundle).symm.trans hid)).symm
    have hfound := hchecked.recorded
    rw [hcall] at hfound
    exact ⟨hversion, by simpa using List.find?_some hfound,
      (hpending.indexed record hfound task htask hawaits).symm, hfound, hdecision⟩
  generalize call.importCall (w.apply (.file (decisionPath document) document))
    (decisionPath document) = found at hfacts ⊢
  have hrun := importRun runtime found w.store
  generalize importVerifierDecision runtime found w.store = outcome at hrun ⊢
  -- the import was refused, found the decision, or recorded it
  cases hrun with
  | refused e => exact .refused e
  | @again document' validated record bundle' existing checked hexisting same =>
      obtain ⟨hversion, hrecordBundle, hrecordItem, hrecord, hdecision⟩ := hfacts checked
      simp only [decisionMatches, Bool.and_eq_true, decide_eq_true_eq] at same
      obtain ⟨⟨⟨⟨⟨⟨⟨⟨⟨⟨hbundleId, -⟩, -⟩, -⟩, hsame⟩, -⟩, -⟩, hprotocol⟩, -⟩, -⟩, -⟩ := same
      -- the stored decision is bound to the same index record
      obtain ⟨b, hb, hbound⟩ := hw.integrity.bound existing (List.mem_of_find?_eq_some hexisting)
      have hitem : existing.workItemId = task.id := by
        rw [hbundleId, hrecordBundle, hrecord] at hb
        rw [hbound.workItemId, ← Option.some.inj hb, hrecordItem]
      have hstrict : existing.isStrict := decide_eq_true (hprotocol.trans hversion)
      obtain ⟨pre, post, new, event, hsplit, hresolved, happlied⟩ := appliedImport_awaits [] found.appliedAt
        (fun _ h => absurd h List.not_mem_nil) hstrict (hitem ▸ hlatest)
        (hbundleId.trans hrecordBundle ▸ hawaits)
      have hverdict : field judgment.val "decision" = .str existing.decision.text := by
        rw [hdecision, hsame]
      rw [happlied]
      exact .applied (Or.inl rfl) (hbundleId.trans hrecordBundle) hitem hverdict hsplit hresolved
  | @fresh document' validated record bundle' checked newId newBundle =>
      obtain ⟨hversion, hrecordBundle, hrecordItem, -, hdecision⟩ := hfacts checked
      have hstrict : (decisionRecord validated record found.importedAt).isStrict :=
        decide_eq_true hversion
      have hitem : (decisionRecord validated record found.importedAt).workItemId = task.id := hrecordItem
      have hwaits : task.awaits (decisionRecord validated record found.importedAt).bundleId := by
        show task.awaits record.bundleId
        rw [hrecordBundle]
        exact hawaits
      obtain ⟨pre, post, new, applied, hsplit, hresolved, happlied⟩ := appliedImport_awaits
        [.reviewDecision (decisionRecord validated record found.importedAt),
          .journal (decisionEvent (decisionRecord validated record found.importedAt)),
          .journal (decisionPayloadEvent (decisionRecord validated record found.importedAt)
            (.obj document'))]
        found.appliedAt (by simp [KeepsQueue]) hstrict (hitem ▸ hlatest) hwaits
      rw [happlied]
      exact .applied (Or.inr ⟨_, _, rfl⟩) hrecordBundle hitem hdecision hsplit hresolved

end LlmHarness
