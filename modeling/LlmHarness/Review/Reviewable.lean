/-
  LlmHarness.Review.Reviewable

  When an accepted run can be reviewed.  `ThreeHeadConfig` compares the identities
  of its roles; the manifest of a bundle also compares their models and checks the
  correction context, and a critic decision checks how its critic is spelled.
-/

import Mathlib.Data.Finset.Card
import LlmHarness.Review.Setup

namespace LlmHarness

open Python Guards Durable Durable.Program

variable {runtime : Runtime} {w : ReviewWorld}

/-! ## Attempts -/

/-- A task that runs, or whose result waits for a review, was claimed. -/
def AttemptedTasks (tasks : List QueueTask) : Prop :=
  ∀ task ∈ tasks, task.status = .running ∨ task.status = .reviewPending → 1 ≤ task.attempts

theorem attempted_edge {kind : EdgeKind} {old new : QueueTask} (hedge : Edge kind old new)
    (hold : old.status = .running ∨ old.status = .reviewPending → 1 ≤ old.attempts)
    (hnew : new.status = .running ∨ new.status = .reviewPending) : 1 ≤ new.attempts := by
  cases hedge with
  | started => exact Nat.le_add_left 1 _
  | recorded hstatus => exact hold (Or.inl hstatus)
  | bundleAttached hstatus => exact hold (Or.inr hstatus)
  | reviewFailed hstatus => exact hold (Or.inr hstatus)
  | reviewResolved _ _ hended =>
      rcases hended with rfl | rfl | rfl <;> simp at hnew
  | escalationResolved _ hended =>
      rcases hended with rfl | rfl <;> simp at hnew
  | retried | recovered | failureRecorded | setupFailed | reworkLimit | reworkConfirmed
  | attemptLimit | rolledBack => simp at hnew

theorem attemptedTasks_step {R : EdgeKind → String → Prop} {tasks tasks' : List QueueTask}
    (h : AttemptedTasks tasks) (hstep : TaskStep R tasks tasks') : AttemptedTasks tasks' := by
  cases hstep with
  | enqueued =>
      intro task htask hstatus
      rcases List.mem_append.mp htask with htask | htask
      · exact h task htask hstatus
      · obtain ⟨item, -, rfl⟩ := mem_queuedTasks htask
        simp [queuedTask] at hstatus
  | @rewritten kind pre post old new _ hedge htasks =>
      subst htasks
      intro task htask hstatus
      rcases List.mem_append.mp htask with htask | htask
      · exact h task (List.mem_append_left _ htask) hstatus
      · rcases List.mem_cons.mp htask with rfl | htask
        · exact attempted_edge hedge (h old (by simp)) hstatus
        · exact h task (by simp [htask]) hstatus

theorem ReachableWorld.attempted (h : ReachableWorld runtime w) : AttemptedTasks w.store.tasks := by
  induction h with
  | start => exact fun _ h => absurd h List.not_mem_nil
  | event _ event ih => exact reviewStep_induction attemptedTasks_step ih event
  | journal _ _ ih => exact ih
  | documents _ _ ih => exact ih

/-! ## The manifest of a config -/

/-- The three roles run on three models. -/
def DistinctModels (config : ThreeHeadConfig) : Prop :=
  ([config.logic, config.worker, config.critic].map RoleIdentity.modelFingerprint).Nodup

instance (config : ThreeHeadConfig) : Decidable (DistinctModels config) :=
  inferInstanceAs (Decidable (List.Nodup _))

/-- A correction that a manifest can carry. -/
structure CorrectionContext (workItem : WorkItem) : Prop where
  decisionId : ∀ id, workItem.correctionDecisionId = some id → isSafeId id
  instructions : ∀ text ∈ workItem.correctionInstructions, NonBlank text

/-- A role, as a manifest reads it. -/
def RoleIdentity.manifestRole (role : RoleIdentity) : ManifestRole :=
  ⟨role.identity, role.provider, role.model⟩

theorem isNamed_iff (role : RoleIdentity) :
    role.isNamed ↔ NonBlank role.identity ∧ NonBlank role.provider ∧ NonBlank role.model := by
  simp [RoleIdentity.isNamed, NonBlank, and_assoc]

/-- A manifest reads the role it was given. -/
theorem readsRole_rolePayload {roles : List (String × Json)} {name : String} {role : RoleIdentity}
    (hrole : field roles name = rolePayload role) (hnamed : role.isNamed) {read : ManifestRole} :
    ReadsRole roles name read ↔ read = role.manifestRole := by
  obtain ⟨hidentity, hprovider, hmodel⟩ := (isNamed_iff role).mp hnamed
  rw [ReadsRole, hrole, rolePayload]
  constructor
  · rintro ⟨members, hmembers, -, ⟨hid, -⟩, ⟨hprov, -⟩, hmod, -⟩
    obtain rfl := Json.obj.inj hmembers
    obtain ⟨identity, provider, model⟩ := read
    obtain rfl := Json.str.inj hid
    obtain rfl := Json.str.inj hprov
    obtain rfl := Json.str.inj hmod
    rfl
  · rintro rfl
    exact ⟨_, rfl, by simp [HasKeys], ⟨rfl, hidentity⟩, ⟨rfl, hprovider⟩, rfl, hmodel⟩

theorem isTextList_textList (texts : List String) :
    isTextList (textList texts) ↔ ∀ text ∈ texts, NonBlank text := by
  simp [isTextList, textList, NonBlank, List.all_map]

theorem optionalSafeId_iff (id : Option String) :
    (optionalText id = .null ∨ ∃ text, optionalText id = .str text ∧ isSafeId text) ↔
      ∀ text, id = some text → isSafeId text := by
  cases id <;> simp [optionalText]

/-- The role manifest of a required config is valid exactly when the models are distinct and the
    correction context can be carried. -/
theorem validManifest_threeHead {config : ThreeHeadConfig} (hrequired : config.mode = .required)
    {task : QueueTask} (hattempts : 1 ≤ task.attempts) :
    (∃ logic worker critic, ValidManifest (threeHeadPayload config task) logic worker critic) ↔
      DistinctModels config ∧ CorrectionContext task.workItem := by
  have hnamed := config.rolesNamed
  simp only [List.forall_mem_cons, List.not_mem_nil, false_implies, implies_true, and_true] at hnamed
  obtain ⟨hlogic, hworker, hcritic⟩ := hnamed
  -- a role of the manifest is read back as the role that was written
  have hreads : ∀ {name : String} {role : RoleIdentity} {read : ManifestRole},
      field [("logic", rolePayload config.logic), ("worker", rolePayload config.worker),
        ("critic", rolePayload config.critic)] name = rolePayload role → role.isNamed →
      (ReadsRole [("logic", rolePayload config.logic), ("worker", rolePayload config.worker),
        ("critic", rolePayload config.critic)] name read ↔ read = role.manifestRole) :=
    fun hfield hrole => readsRole_rolePayload hfield hrole
  -- the identities are distinct in any required configuration, so the models decide
  have hdistinct : rolesDistinct [config.logic.manifestRole, config.worker.manifestRole,
      config.critic.manifestRole] ↔ DistinctModels config := by
    have hidentities := config.distinctIdentities hrequired
    rw [rolesDistinct, Bool.and_eq_true, decide_eq_true_eq, decide_eq_true_eq]
    exact ⟨fun h => h.2, fun h => ⟨hidentities, h⟩⟩
  constructor
  · rintro ⟨logic, worker, critic, h⟩
    obtain ⟨roles, hroles, -, hl, hw, hc⟩ := h.roles
    obtain rfl := Json.obj.inj hroles
    obtain rfl := (hreads rfl hlogic).mp hl
    obtain rfl := (hreads rfl hworker).mp hw
    obtain rfl := (hreads rfl hcritic).mp hc
    obtain ⟨correction, hcorrection, -, hid, htexts⟩ := h.correction
    obtain rfl := Json.obj.inj hcorrection
    exact ⟨hdistinct.mp h.distinct, (optionalSafeId_iff _).mp hid, (isTextList_textList _).mp htexts⟩
  · rintro ⟨hmodels, hcorrection⟩
    refine ⟨config.logic.manifestRole, config.worker.manifestRole, config.critic.manifestRole, {
      keys := by simp [HasKeys, threeHeadPayload]
      mode := rfl
      attempt := ?_
      maxAttempts := ?_
      roles := ⟨_, rfl, by simp [HasKeys], (hreads rfl hlogic).mpr rfl, (hreads rfl hworker).mpr rfl,
        (hreads rfl hcritic).mpr rfl⟩
      distinct := hdistinct.mpr hmodels
      correction := ⟨_, rfl, by simp [HasKeys], (optionalSafeId_iff _).mpr hcorrection.decisionId,
        (isTextList_textList _).mpr hcorrection.instructions⟩
      closure := ⟨_, rfl, by simp [HasKeys, closureKeys], by simp [isTrue]⟩ }⟩
    · show isPositiveInt (.int task.attempts)
      simpa [isPositiveInt] using hattempts
    · show isPositiveInt (.int config.maxAttempts)
      simpa [isPositiveInt] using config.positiveAttempts

/-! ## Ids of decisions -/

/-- An id with a number. -/
def numberedId (n : Nat) : String := String.ofList ('d' :: Nat.toDigits 10 n)

theorem numberedId_injective : Function.Injective numberedId := by
  intro m n h
  have hdigits : Nat.toDigits 10 m = Nat.toDigits 10 n :=
    (List.cons.inj (String.ofList_injective h)).2
  rw [← decimalNumber_toDigits m, hdigits, decimalNumber_toDigits]

theorem isSafeId_numberedId {n : Nat} (h : n < 10 ^ 100) : isSafeId (numberedId n) := by
  have hlength : (Nat.toDigits 10 n).length ≤ 100 :=
    (Nat.length_toDigits_le_iff (by decide) (by decide)).mpr h
  have hdigits : (Nat.toDigits 10 n).all isIdChar := List.all_eq_true.mpr fun c hc => by
    have hdigit := Nat.isDigit_of_mem_toDigits (by decide) (by decide) hc
    simp only [Char.isDigit, Bool.and_eq_true, decide_eq_true_eq] at hdigit
    have hrange : '0' ≤ c ∧ c ≤ '9' := hdigit
    simp [isIdChar, isIdStart, hrange]
  rw [isSafeId, numberedId, String.toList_ofList]
  simp only [hdigits, Bool.and_true, Bool.and_eq_true, decide_eq_true_eq]
  exact ⟨by decide, by omega⟩

/-- Fewer decisions than there are numbers of a hundred digits leave an id for one more. -/
theorem exists_freeDecisionId {decisions : List ReviewDecisionRecord}
    (h : decisions.length < 10 ^ 100) :
    ∃ id, isSafeId id ∧ ∀ d ∈ decisions, d.decisionId ≠ id := by
  let taken := (decisions.map ReviewDecisionRecord.decisionId).toFinset
  let numbered := (Finset.range (10 ^ 100)).image numberedId
  have hcard : taken.card < numbered.card := by
    rw [Finset.card_image_of_injective _ numberedId_injective, Finset.card_range]
    exact ((List.toFinset_card_le _).trans_eq (List.length_map _)).trans_lt h
  obtain ⟨id, hid, hfree⟩ := Finset.exists_mem_notMem_of_card_lt_card hcard
  obtain ⟨n, hn, rfl⟩ := Finset.mem_image.mp hid
  refine ⟨numberedId n, isSafeId_numberedId (Finset.mem_range.mp hn), fun d hd heq => hfree ?_⟩
  rw [List.mem_toFinset, ← heq]
  exact List.mem_map_of_mem hd

/-! ## The bundle of a run -/

/-- An accepted run under a required config: recorded, committed, waiting for its review, and not
    exported yet. -/
structure AcceptedRun (runtime : Runtime) (call : SetupCall) (runId : String) (w : ReviewWorld)
    (run : RunRecord) (task : QueueTask) (evidence : CommitEvidence) : Prop where
  reachable : ReachableWorld runtime w
  required : call.threeHead.mode = .required
  source : ExportSource call.git w runId run task evidence.commit
  pending : task.status = .reviewPending
  unindexed : w.store.reviewBundles.find?
    (fun item => item.bundleId = bundleIdOf true run.runId) = none
  read : GitEvidence call.git evidence.commit evidence
  /-- The ids of runs, the digests and the clock are the harness's own. -/
  bundleId : isSafeId (bundleIdOf true run.runId)
  sha256 : ∀ text, isLowerHexOf 64 (runtime.sha256 text)
  createdAt : runtime.fromisoformat (offsetSpelled call.exportedAt) = some true
  /-- A full commit resolves to itself. -/
  commit : NonBlank evidence.commit
  resolved : call.git.resolveCommit evidence.commit = .ok evidence.commit
  /-- Some id is left for a decision (`exists_freeDecisionId`). -/
  decisionId : ∃ id, isSafeId id ∧ ∀ d ∈ w.store.reviewDecisions, d.decisionId ≠ id

variable {call : SetupCall} {runId : String} {run : RunRecord} {task : QueueTask}
  {evidence : CommitEvidence}

/-- The content of the bundle of an accepted run. -/
def acceptedContent (runtime : Runtime) (call : SetupCall) (evidence : CommitEvidence)
    (task : QueueTask) (run : RunRecord) : List (String × Json) :=
  bundlePayload runtime (some call.threeHead) (bundleIdOf true run.runId) call.exportedAt evidence
    task run

theorem requiredConfig_of_required {config : ThreeHeadConfig} (h : config.mode = .required) :
    requiredConfig (some config) = some config := by
  simp [requiredConfig, h]

theorem exportContent_accepted (h : AcceptedRun runtime call runId w run task evidence) :
    exportContent runtime (some call.threeHead) call.exportedAt evidence task run =
      acceptedContent runtime call evidence task run := by
  rw [exportContent, requiredConfig_of_required h.required]
  rfl

/-- The bundle of an accepted run is valid exactly when its manifest is. -/
theorem validBundle_accepted (h : AcceptedRun runtime call runId w run task evidence) :
    ValidBundle runtime (sealedBundle runtime (acceptedContent runtime call evidence task run)) ↔
      DistinctModels call.threeHead ∧ CorrectionContext task.workItem := by
  -- a task under review has been claimed at least once
  have hattempts : 1 ≤ task.attempts := by
    obtain ⟨hmem, -⟩ := KeyedLog.mem_of_last? h.source.task
    exact h.reachable.attempted task hmem (Or.inr h.pending)
  rw [← validManifest_threeHead h.required hattempts]
  constructor
  · intro hvalid
    obtain ⟨manifest, logic, worker, critic, hmanifest, hroles⟩ := hvalid.manifest rfl
    obtain rfl := Json.obj.inj hmanifest
    exact ⟨logic, worker, critic, hroles⟩
  · rintro ⟨logic, worker, critic, hroles⟩
    exact {
      keys := by
        rw [show isStrict (sealedBundle runtime (acceptedContent runtime call evidence task run)) =
          true from rfl]
        simp [HasKeys, bundleKeys, sealedBundle, acceptedContent, bundlePayload]
      protocol := rfl
      version := rfl
      messageType := rfl
      manifest := fun _ => ⟨_, logic, worker, critic, rfl, hroles⟩
      bundleId := ⟨_, rfl, h.bundleId⟩
      createdAtUtc := ⟨_, rfl, h.createdAt⟩
      integrity := ⟨_, rfl, by simp [HasKeys], rfl, rfl⟩
      digest := h.sha256 _
      artifact := ⟨_, evidence.patchText, rfl, rfl, rfl, h.sha256 _⟩
      authority := ⟨_, rfl, by simp [deniedAuthority, field, dictGet?]⟩ }

/-! ## The bundle a task waits for -/

/-- A bundle that is stored, indexed and attached to the latest entry of its work item. -/
structure AttachedBundle (runtime : Runtime) (w : ReviewWorld) (exported : ReviewBundleExport)
    (workItemId : String) : Prop where
  indexed : w.store.reviewBundles.find?
    (fun item => item.bundleId = exported.record.bundleId) = some exported.record
  stored : StoredBundle runtime w exported.record exported.payload
  latest : ∃ task, latestTask? w.store.tasks workItemId = some task ∧
    task.awaits exported.record.bundleId

/-- The digest a sealed bundle states is that of its content. -/
theorem contentSha256_sealed (runtime : Runtime) (threeHead : Option ThreeHeadConfig)
    (createdAt : String) (evidence : CommitEvidence) (task : QueueTask) (run : RunRecord) :
    contentSha256 runtime
        (sealedBundle runtime (exportContent runtime threeHead createdAt evidence task run)) =
      runtime.sha256 (canonicalJson (exportContent runtime threeHead createdAt evidence task run)) := by
  rw [exportContent]
  cases requiredConfig threeHead <;> rfl

/-- What an export leaves of the bundle it returns. -/
theorem exportReviewBundle_stored {git : GitReader} {threeHead : Option ThreeHeadConfig}
    {runId createdAt : String} {exported : ReviewBundleExport}
    (h : (exportReviewBundle runtime git threeHead runId createdAt w).value = .ok exported) :
    ((exportReviewBundle runtime git threeHead runId createdAt).final w).store.reviewBundles.find?
        (fun item => item.bundleId = exported.record.bundleId) = some exported.record ∧
      StoredBundle runtime ((exportReviewBundle runtime git threeHead runId createdAt).final w)
        exported.record exported.payload := by
  have hrun := exportRun runtime git threeHead runId createdAt w
  rw [final]
  generalize exportReviewBundle runtime git threeHead runId createdAt w = outcome at hrun h ⊢
  cases hrun with
  | refused e => cases h
  -- an export of before is read again, a new one is written with its document
  | @reloaded run task existing payload source indexed stored =>
      obtain rfl := Except.ok.inj h
      have hid : existing.bundleId = bundleIdOf (requiredConfig threeHead).isSome run.runId := by
        simpa using List.find?_some indexed
      exact ⟨hid ▸ indexed, stored⟩
  | @written run task evidence event source unindexed read valid =>
      obtain rfl := Except.ok.inj h
      constructor
      · show (w.store.reviewBundles ++ [exportRecord runtime threeHead createdAt evidence task
          run]).find? _ = _
        rw [List.find?_append, show w.store.reviewBundles.find? (fun item => item.bundleId =
          (exportRecord runtime threeHead createdAt evidence task run).bundleId) = none from unindexed]
        simp
      · exact {
          document := ⟨exportDocument runtime threeHead createdAt evidence task run, if_pos rfl, rfl⟩
          valid := valid
          digest := contentSha256_sealed runtime threeHead createdAt evidence task run }

/-- **What `attachExport` leaves**: the bundle it returns is stored, indexed and waited for. -/
theorem attachedBundle_of_ok {workItemId runId : String} {exported : ReviewBundleExport}
    (hlive : LiveQueue w.store.tasks)
    (h : (attachExport runtime call workItemId runId w).value = .ok exported) :
    AttachedBundle runtime ((attachExport runtime call workItemId runId).final w) exported
      workItemId := by
  obtain ⟨hexport, old, hlatest, hstatus⟩ := attachExport_eq_ok.mp h
  obtain ⟨pre, new, post, event, hsplit, hid, hawaits, -, hfinal⟩ :=
    attachExport_run hexport hlatest hstatus
  obtain ⟨hindexed, hstored⟩ := exportReviewBundle_stored hexport
  have hactive : old.status.isActive := by
    rw [hstatus]
    rfl
  have hlast := KeyedLog.LiveLast.isLast hlive hsplit hactive
  rw [hfinal]
  refine ⟨hindexed, { hstored with }, new, ?_, hawaits⟩
  show latestTask? (pre ++ new :: post) workItemId = some new
  rw [latestTask?_rewritten hlast hid, if_pos (latestTask?_id hlatest).symm]

/-! ## A decision of each verdict -/

/-- A finding of a decision, as a member of its document. -/
def findingDocument (finding : ReviewFinding) : Json := .obj [
  ("code", .str finding.code), ("severity", .str finding.severity),
  ("message", .str finding.message), ("path", optionalText finding.path)]

/-- The `correction_brief` of a decision. -/
def correctionDocument : Option CorrectionBrief → Json
  | none => .null
  | some brief => .obj [("rationale", .str brief.rationale),
    ("instructions", textList brief.instructions),
    ("validation_focus", textList brief.validationFocus)]

/-- The `escalation` of a decision. -/
def escalationDocument : Option EscalationRequest → Json
  | none => .null
  | some request => .obj [("reason", .str request.reason), ("question", .str request.question),
    ("options", textList request.options)]

/-- The critic decision document that spells a decision. -/
def criticDocument (d : ValidatedDecision) : List (String × Json) := [
  ("protocol", .str protocolNamespace), ("protocol_version", .str threeHeadProtocolVersion),
  ("message_type", .str "critic.decision"), ("decision_id", .str d.decisionId),
  ("bundle_id", .str d.bundleId), ("bundle_sha256", .str d.bundleSha256),
  ("critic", .obj [("identity", .str d.actorId), ("kind", .str d.actorKind)]),
  ("decision", .str d.decision.text), ("summary", .str d.summary),
  ("findings", .arr (d.findings.map findingDocument)),
  ("correction_brief", correctionDocument d.correctionBrief),
  ("escalation", escalationDocument d.escalation), ("created_at_utc", .str d.createdAtUtc),
  ("attestation", .obj [("reviewed_commit", .str d.reviewedCommit),
    ("reviewed_patch_sha256", .str d.reviewedPatchSha256)])]

theorem distinctKeys_criticDocument (d : ValidatedDecision) :
    (Json.obj (criticDocument d)).DistinctKeys := by
  have hfindings : Json.DistinctItems (d.findings.map findingDocument) :=
    (distinctItems_iff _).mpr fun item hitem => by
      obtain ⟨finding, -, rfl⟩ := List.mem_map.mp hitem
      simp [findingDocument, Json.DistinctKeys, Json.DistinctMembers, distinctKeys_optionalText]
  have hcorrection : (correctionDocument d.correctionBrief).DistinctKeys := by
    cases d.correctionBrief <;>
      simp [correctionDocument, Json.DistinctKeys, Json.DistinctMembers, distinctKeys_textList]
  have hescalation : (escalationDocument d.escalation).DistinctKeys := by
    cases d.escalation <;>
      simp [escalationDocument, Json.DistinctKeys, Json.DistinctMembers, distinctKeys_textList]
  simp [criticDocument, Json.DistinctKeys, Json.DistinctMembers, hfindings, hcorrection, hescalation]

/-- The findings a verdict comes with here. -/
def verdictFindings : ReviewDecision → List ReviewFinding
  | .approve => []
  | .reject | .escalate => [⟨"REVIEW", "error", "The change needs work.", none⟩]

/-- The correction a rejection comes with here. -/
def verdictCorrection : ReviewDecision → Option CorrectionBrief
  | .reject => some ⟨"The change needs work.", ["Rework the change."], []⟩
  | .approve | .escalate => none

/-- The escalation an escalated review comes with here. -/
def verdictEscalation : ReviewDecision → Option EscalationRequest
  | .escalate => some ⟨"The change needs a decision.", "How shall it go on?", escalationOptions⟩
  | .approve | .reject => none

/-- A decision of a verdict on an exported bundle. -/
def verdictOn (exported : ReviewBundleExport) (patchSha256 critic decisionId createdAt : String)
    (verdict : ReviewDecision) : ValidatedDecision where
  protocolVersion := threeHeadProtocolVersion
  decisionId := decisionId
  bundleId := exported.record.bundleId
  bundleSha256 := exported.record.bundleSha256
  actorId := critic
  actorKind := "agent"
  decision := verdict
  summary := "Reviewed."
  findings := verdictFindings verdict
  createdAtUtc := createdAt
  reviewedCommit := exported.record.commit
  reviewedPatchSha256 := patchSha256
  correctionBrief := verdictCorrection verdict
  escalation := verdictEscalation verdict

/-- Its document validates, for a critic with a safe id. -/
theorem validate_verdictOn {fromisoformat : String → Option Bool} {exported : ReviewBundleExport}
    {patchSha256 critic decisionId createdAt : String} (verdict : ReviewDecision)
    (hdecisionId : isSafeId decisionId) (hbundleId : isSafeId exported.record.bundleId)
    (hdigest : isLowerHexOf 64 exported.record.bundleSha256) (hcritic : isSafeId critic)
    (hcommit : NonBlank exported.record.commit) (hpatch : isLowerHexOf 64 patchSha256)
    (hcreated : fromisoformat (offsetSpelled createdAt) = some true) :
    validateCriticDecision fromisoformat
      (criticDocument (verdictOn exported patchSha256 critic decisionId createdAt verdict)) =
      .ok (verdictOn exported patchSha256 critic decisionId createdAt verdict) := by
  -- the document is the one the verdict is read from, field by field
  refine validateCriticDecision_eq_ok.mpr ⟨?_, ?_, hcreated⟩
  · exact {
      keys := by simp [HasKeys, criticFormat, criticDecisionKeys, criticDocument]
      protocol := rfl
      version := rfl
      messageType := rfl
      protocolVersion := rfl
      decisionId := rfl
      decisionIdSafe := hdecisionId
      bundleId := rfl
      bundleIdSafe := hbundleId
      bundleSha256 := rfl
      bundleDigest := hdigest
      actor := ⟨_, rfl, by simp [HasKeys, criticFormat], rfl, rfl⟩
      actorKind := by simp [verdictOn, reviewerKinds]
      decision := rfl
      verdict := by cases verdict <;> simp [verdictOn, criticFormat]
      summary := rfl
      -- an approval has no findings, the other two have the one that explains them
      findings := by
        cases verdict with
        | approve => exact ⟨_, rfl, .nil⟩
        | reject | escalate =>
            exact ⟨_, rfl, .cons ⟨_, rfl, by simp, by simp, rfl, rfl, by simp [severities], rfl, rfl⟩ .nil⟩
      createdAtUtc := rfl
      attestation := ⟨_, rfl, by simp [HasKeys], rfl, rfl⟩
      patchDigest := hpatch
      outcome := by
        cases verdict with
        | approve => exact ⟨rfl, rfl, rfl, rfl⟩
        | reject => exact ⟨rfl, rfl, _, rfl, _, rfl, by simp [HasKeys], rfl, rfl, rfl⟩
        | escalate => exact ⟨rfl, rfl, _, rfl, _, rfl, by simp [HasKeys], rfl, rfl, rfl⟩ }
  · exact {
      actorId := hcritic
      summary := by
        show NonBlank "Reviewed."
        decide
      reviewedCommit := hcommit
      findings := by
        cases verdict with
        | approve => exact ⟨fun _ h => absurd h List.not_mem_nil, fun h => absurd rfl h⟩
        | reject | escalate =>
            refine ⟨fun finding hfinding => ?_, fun _ => List.cons_ne_nil _ _⟩
            obtain rfl := List.mem_singleton.mp hfinding
            exact ⟨by decide, by decide, by simp, by simp [verdictOn]⟩
      correctionBrief := by
        intro brief hbrief
        cases verdict with
        | reject =>
            obtain rfl := Option.some.inj hbrief
            exact ⟨by decide, by simp, by decide, by decide⟩
        | approve | escalate => cases hbrief
      escalation := by
        intro request hrequest
        cases verdict with
        | escalate =>
            obtain rfl := Option.some.inj hrequest
            exact ⟨by decide, by decide, by decide, by decide⟩
        | approve | reject => cases hrequest }

/-! ## Reviewable runs -/

/-- The import of some decision of the verdict, by the configured critic on the attached bundle,
    succeeds. -/
def AdmitsVerdict (runtime : Runtime) (call : SetupCall) (exported : ReviewBundleExport)
    (w : ReviewWorld) (verdict : ReviewDecision) : Prop :=
  ∃ (found : ImportCall) (record : ReviewDecisionRecord),
    found.bundleFile = w.jsonFile "Review bundle" ∧
    found.resolveCommit = call.git.resolveCommit ∧
    (importVerifierDecision runtime found w.store).value = .ok record ∧
    record.bundleId = exported.record.bundleId ∧ record.decision = verdict ∧
    record.reviewerId = call.threeHead.critic.identity

/-- The bundle of a run is exported and attached, and then admits every verdict. -/
def Reviewable (runtime : Runtime) (call : SetupCall) (workItemId runId : String) (w : ReviewWorld) :
    Prop :=
  ∃ exported, (attachExport runtime call workItemId runId w).value = .ok exported ∧
    ∀ verdict, AdmitsVerdict runtime call exported
      ((attachExport runtime call workItemId runId).final w) verdict

/-- The reviewer of an imported decision has a safe id. -/
theorem isSafeId_reviewer {found : ImportCall} {s : Store} {record : ReviewDecisionRecord}
    (h : (importVerifierDecision runtime found s).value = .ok record) : isSafeId record.reviewerId := by
  obtain ⟨document, validated, bundleRecord, bundle, hchecked, -, hmatches⟩ := (imported_of_ok h).checked
  simp only [decisionMatches, Bool.and_eq_true, decide_eq_true_eq] at hmatches
  obtain ⟨⟨⟨⟨⟨⟨⟨⟨⟨-, hreviewer⟩, -⟩, -⟩, -⟩, -⟩, -⟩, -⟩, -⟩, -⟩ := hmatches
  rw [hreviewer]
  have hvalid := hchecked.documentValid
  rw [validateDecision] at hvalid
  split at hvalid
  · exact (validateCriticDecision_eq_ok.mp hvalid).2.1.actorId
  · exact (validateVerifierDecision_eq_ok.mp hvalid).2.1.actorId

/-- The export of an accepted run succeeds exactly when its bundle is valid. -/
theorem exportReviewBundle_accepted (h : AcceptedRun runtime call runId w run task evidence) :
    (∃ exported, (exportReviewBundle runtime call.git (some call.threeHead) runId call.exportedAt
        w).value = .ok exported) ↔
      ValidBundle runtime (sealedBundle runtime (acceptedContent runtime call evidence task run)) := by
  have hconfig := requiredConfig_of_required h.required
  have hunindexed : w.store.reviewBundles.find? (fun item =>
      item.bundleId = bundleIdOf (requiredConfig (some call.threeHead)).isSome run.runId) = none := by
    rw [hconfig]
    exact h.unindexed
  rw [exportReviewBundle_source h.source, hunindexed, ← exportContent_accepted h]
  dsimp only
  constructor
  · rintro ⟨exported, hexported⟩
    by_contra hinvalid
    obtain ⟨e, hrun⟩ := writeBundle_invalid (w := w) h.read hinvalid
    rw [hrun] at hexported
    cases hexported
  · intro hvalid
    obtain ⟨event, hrun⟩ := writeBundle_valid h.read hunindexed hvalid
    rw [hrun]
    exact ⟨_, rfl⟩

/-- ... and then it returns that bundle. -/
theorem exported_accepted (h : AcceptedRun runtime call runId w run task evidence)
    {exported : ReviewBundleExport}
    (hexported : (exportReviewBundle runtime call.git (some call.threeHead) runId call.exportedAt
      w).value = .ok exported) :
    exported = ⟨exportRecord runtime (some call.threeHead) call.exportedAt evidence task run,
      sealedBundle runtime (acceptedContent runtime call evidence task run)⟩ := by
  have hvalid := (exportReviewBundle_accepted h).mp ⟨exported, hexported⟩
  have hunindexed : w.store.reviewBundles.find? (fun item =>
      item.bundleId = bundleIdOf (requiredConfig (some call.threeHead)).isSome run.runId) = none := by
    rw [requiredConfig_of_required h.required]
    exact h.unindexed
  rw [← exportContent_accepted h] at hvalid ⊢
  obtain ⟨event, hrun⟩ := writeBundle_valid h.read hunindexed hvalid
  rw [exportReviewBundle_source h.source, hunindexed] at hexported
  dsimp only at hexported
  rw [hrun] at hexported
  exact (Except.ok.inj hexported).symm

/-- Neither the export nor the attachment records a decision. -/
theorem attachExport_decisions {workItemId runId : String} {exported : ReviewBundleExport}
    (h : (attachExport runtime call workItemId runId w).value = .ok exported) :
    ((attachExport runtime call workItemId runId).final w).store.reviewDecisions =
      w.store.reviewDecisions := by
  obtain ⟨hexport, old, hlatest, hstatus⟩ := attachExport_eq_ok.mp h
  obtain ⟨pre, new, post, event, -, -, -, -, hfinal⟩ := attachExport_run hexport hlatest hstatus
  rw [hfinal]
  show ((exportReviewBundle runtime call.git (some call.threeHead) runId
    call.exportedAt).final w).store.reviewDecisions = w.store.reviewDecisions
  have hrun := exportRun runtime call.git (some call.threeHead) runId call.exportedAt w
  rw [final]
  generalize exportReviewBundle runtime call.git (some call.threeHead) runId call.exportedAt w =
    outcome at hrun ⊢
  cases hrun <;> rfl

/-- The evidence of an accepted run is the one its decisions attest. -/
theorem requireEvidence_accepted (h : AcceptedRun runtime call runId w run task evidence)
    {found : ImportCall} (hresolve : found.resolveCommit = call.git.resolveCommit)
    (critic decisionId : String) (verdict : ReviewDecision) :
    let record := exportRecord runtime (some call.threeHead) call.exportedAt evidence task run
    let bundle := sealedBundle runtime (acceptedContent runtime call evidence task run)
    requireEvidence found bundle record (verdictOn ⟨record, bundle⟩
      (runtime.sha256 evidence.patchText.toList) critic decisionId call.exportedAt verdict) = .ok () := by
  intro record bundle
  have hdigest : record.bundleSha256 =
      runtime.sha256 (canonicalJson (acceptedContent runtime call evidence task run)) := by
    rw [← exportContent_accepted h]
    rfl
  -- each text is compared with itself: digest, patch and commit
  have hself : ∀ text : String, isText (.str text) text = true := fun text => (isText_iff _ _).mpr rfl
  refine bind_eq_ok.mpr ⟨_, rfl, bind_eq_ok.mpr ⟨_, rfl, unit_bind_eq_ok.mpr ⟨?_, ?_⟩⟩⟩
  · refine require_eq_ok.mpr ?_
    show (isText (.str _) record.bundleSha256 && isText (.str _) record.bundleSha256) = true
    rw [hdigest, hself]
    rfl
  · refine bind_eq_ok.mpr ⟨_, rfl, bind_eq_ok.mpr ⟨_, rfl, unit_bind_eq_ok.mpr
      ⟨require_eq_ok.mpr (hself _), bind_eq_ok.mpr ⟨_, rfl, unit_bind_eq_ok.mpr
        ⟨require_eq_ok.mpr (hself _), bind_eq_ok.mpr ⟨evidence.commit, ?_, ?_⟩⟩⟩⟩⟩⟩
    · rw [hresolve]
      exact h.resolved
    · exact require_eq_ok.mpr (decide_eq_true rfl)

/-- The attached bundle of an accepted run admits every verdict of a critic with a safe id. -/
theorem admitsVerdict_accepted (h : AcceptedRun runtime call runId w run task evidence)
    {exported : ReviewBundleExport} (hcritic : isSafeId call.threeHead.critic.identity)
    (hattach : (attachExport runtime call run.workItemId runId w).value = .ok exported)
    (verdict : ReviewDecision) :
    AdmitsVerdict runtime call exported ((attachExport runtime call run.workItemId runId).final w)
      verdict := by
  obtain ⟨decisionId, hsafe, hfree⟩ := h.decisionId
  have hattached := attachedBundle_of_ok h.reachable.liveQueue hattach
  have hdecisions := attachExport_decisions hattach
  obtain rfl := exported_accepted h (attachExport_eq_ok.mp hattach).1
  generalize (attachExport runtime call run.workItemId runId).final w = w' at hattached hdecisions ⊢
  obtain ⟨document, hfile, hval⟩ := hattached.stored.document
  obtain ⟨latest, hlatest, hawaits⟩ := hattached.latest
  have hbundleId : (exportRecord runtime (some call.threeHead) call.exportedAt evidence task
      run).bundleId = bundleIdOf true run.runId := by
    rw [exportRecord, requiredConfig_of_required h.required]
    rfl
  -- the call of the import, with the critic's document in the answer file
  -- the critic answers with this decision
  let record := exportRecord runtime (some call.threeHead) call.exportedAt evidence task run
  let bundle := sealedBundle runtime (acceptedContent runtime call evidence task run)
  let decision := verdictOn ⟨record, bundle⟩ (runtime.sha256 evidence.patchText.toList)
    call.threeHead.critic.identity decisionId call.exportedAt verdict
  let found : ImportCall := {
    decisionFile := .ok ⟨.obj (criticDocument decision), distinctKeys_criticDocument decision⟩
    bundleFile := w'.jsonFile "Review bundle"
    resolveCommit := call.git.resolveCommit
    importedAt := call.importedAt
    appliedAt := call.appliedAt }
  have hchecked : ImportChecked runtime found w'.store (criticDocument decision) decision record
      bundle := {
    documentRead := rfl
    documentValid := validate_verdictOn verdict hsafe (hbundleId ▸ h.bundleId) (h.sha256 _) hcritic
      h.commit (h.sha256 _) h.createdAt
    -- the attached bundle is on file, and the check reads it back
    recorded := hattached.indexed
    bundleRead := by
      show loadJsonObject (w'.jsonFile "Review bundle" record.bundlePath) "Review bundle" = _
      rw [ReviewWorld.jsonFile, hfile, loadJsonObject]
      refine bind_eq_ok.mpr ⟨document, rfl, ?_⟩
      rw [hval]
      rfl
    valid := hattached.stored.valid
    strict := rfl
    critic := fun _ => rfl
    digest := hattached.stored.digest
    recordDigest := rfl
    evidence := requireEvidence_accepted h rfl _ _ _ }
  -- no decision names this bundle, as it was not indexed before
  have hbundles : ∀ d ∈ w'.store.reviewDecisions, d.bundleId ≠ record.bundleId := by
    intro d hd hsame
    obtain ⟨b, hb, -⟩ := h.reachable.integrity.bound d (hdecisions ▸ hd)
    rw [hsame, hbundleId, h.unindexed] at hb
    cases hb
  have himport := importVerifierDecision_new hchecked (hdecisions ▸ hfree) hbundles
  obtain ⟨_, _, _, _, -, -, happlied⟩ := appliedImport_awaits
    [.reviewDecision (decisionRecord decision record found.importedAt),
      .journal (decisionEvent (decisionRecord decision record found.importedAt)),
      .journal (decisionPayloadEvent (decisionRecord decision record found.importedAt)
        (.obj (criticDocument decision)))]
    found.appliedAt (by simp [KeepsQueue])
    (show (decisionRecord decision record found.importedAt).isStrict from rfl) hlatest hawaits
  refine ⟨found, decisionRecord decision record found.importedAt, rfl, rfl, ?_, rfl, rfl, rfl⟩
  rw [himport, happlied]

/-- `RoleSelection`: the agent of a role, and its model if one is named. -/
structure RoleSelection where
  agent : String
  model : Option String := none

/-- `CloudModelEndpoint`, as far as an identity reads it. -/
structure ModelEndpoint where
  provider : String
  model : String

/-- `safe_project` of `_identity`; `isalnum` is `str.isalnum`. -/
def safeProject (isalnum : Char → Bool) (projectId : String) : String :=
  let kept := projectId.toList.map fun c => if isalnum c || c ∈ "._-".toList then c else '-'
  let stripped := ((kept.dropWhile (· = '-')).reverse.dropWhile (· = '-')).reverse
  if stripped = [] then "project" else String.ofList stripped

/-- `_identity`. -/
def roleIdentity (isalnum : Char → Bool) (projectId role : String) (selection : RoleSelection)
    (endpoint : Option ModelEndpoint) : RoleIdentity where
  identity := safeProject isalnum projectId ++ "-" ++ role
  provider := (endpoint.map ModelEndpoint.provider).getD selection.agent
  model := selection.model.getD ((endpoint.map ModelEndpoint.model).getD "agent-default")

/-- `ProjectRoleProfile`; the endpoints are those of the direct supervisor and critic agents. -/
structure RoleProfile where
  supervisor : RoleSelection
  worker : RoleSelection
  critic : Option RoleSelection
  maxAttempts : Int
  supervisorEndpoint : Option ModelEndpoint := none
  criticEndpoint : Option ModelEndpoint := none

/-- The `three_head` of `apply_role_profile`. -/
def applyRoleProfile (isalnum : Char → Bool) (projectId : String) (profile : RoleProfile) :
    Except String ThreeHeadConfig :=
  threeHeadConfig? (if profile.critic.isSome then .required else .disabled) profile.maxAttempts
    (roleIdentity isalnum projectId "supervisor" profile.supervisor profile.supervisorEndpoint)
    (roleIdentity isalnum projectId "worker" profile.worker none)
    (roleIdentity isalnum projectId "critic" (profile.critic.getD ⟨"disabled", some "disabled"⟩)
      profile.criticEndpoint)

/-- The roles of a config that the constructor returns are the given ones. -/
theorem threeHeadConfig?_eq_ok {mode : ThreeHeadMode} {maxAttempts : Int}
    {logic worker critic : RoleIdentity} {config : ThreeHeadConfig}
    (h : threeHeadConfig? mode maxAttempts logic worker critic = .ok config) :
    config.mode = mode ∧ config.logic = logic ∧ config.worker = worker ∧ config.critic = critic := by
  rw [threeHeadConfig?] at h
  split at h
  · split at h
    · split at h
      · obtain rfl := Except.ok.inj h
        exact ⟨rfl, rfl, rfl, rfl⟩
      · cases h
    · cases h
  · cases h

/-- A profile that gives the worker and the critic one agent and one model, or none, derives a
    config under which no run can be reviewed. -/
theorem not_reviewable_sharedAgent (h : AcceptedRun runtime call runId w run task evidence)
    {isalnum : Char → Bool} {projectId : String} {profile : RoleProfile}
    (hprofile : applyRoleProfile isalnum projectId profile = .ok call.threeHead)
    (hshared : profile.critic = some profile.worker) (hdirect : profile.criticEndpoint = none) :
    ¬ Reviewable runtime call run.workItemId runId w := by
  rintro ⟨exported, hattach, -⟩
  have hmodels := ((exportReviewBundle_accepted h).trans (validBundle_accepted h)).mp
    ⟨exported, (attachExport_eq_ok.mp hattach).1⟩
  obtain ⟨-, -, hworker, hcritic⟩ := threeHeadConfig?_eq_ok hprofile
  have hsame : call.threeHead.worker.modelFingerprint = call.threeHead.critic.modelFingerprint := by
    rw [hworker, hcritic, hshared, hdirect]
    rfl
  have hdistinct := hmodels.1
  simp [DistinctModels, hsame] at hdistinct

/-! ## Small runs -/

/-- The sample run, under a setup of the sample repository. -/
theorem acceptedRun_sample {call : SetupCall} (hrequired : call.threeHead.mode = .required)
    (hgit : call.git = sampleGit) : ∃ run task evidence,
      AcceptedRun (sampleRuntime sampleContentSha256) call "r1" acceptedWorld run task evidence ∧
        run.workItemId = "a" ∧ CorrectionContext task.workItem := by
  obtain ⟨run, hrun⟩ := Option.isSome_iff_exists.mp
    (show (acceptedWorld.store.history.find? fun item => item.runId = "r1").isSome by decide +kernel)
  obtain ⟨task, htask⟩ := Option.isSome_iff_exists.mp
    (show (latestTask? acceptedWorld.store.tasks "a").isSome by decide +kernel)
  have hrunFields : (acceptedWorld.store.history.find? fun item => item.runId = "r1").map
      (fun run => (run.ok, run.commit, run.workItemId)) = some (true, some "3f5c1a9", "a") := by
    decide +kernel
  have htaskFields : (latestTask? acceptedWorld.store.tasks "a").map (fun task =>
      (task.status, task.workItem.correctionDecisionId, task.workItem.correctionInstructions)) =
      some (.reviewPending, none, []) := by decide +kernel
  -- the fields of the run and the task are read off the sample world
  rw [hrun, Option.map_some, Option.some.injEq, Prod.mk.injEq, Prod.mk.injEq] at hrunFields
  rw [htask, Option.map_some, Option.some.injEq, Prod.mk.injEq, Prod.mk.injEq] at htaskFields
  obtain ⟨hok, hcommit, hitem⟩ := hrunFields
  obtain ⟨hstatus, hdecision, hinstructions⟩ := htaskFields
  have hid : run.runId = "r1" := by simpa using List.find?_some hrun
  refine ⟨run, task, ⟨"/repo", sampleCommit, some "9e0f8d7c6b5a4f3e2d1c0b9a8f7e6d5c4b3a2f1e",
    samplePatch, ["src/app.py"]⟩, {
      reachable := reachableWorld_acceptedWorld
      required := hrequired
      source := ⟨hrun, hok, hitem ▸ htask, "3f5c1a9", hcommit, by rw [hgit]; rfl⟩
      pending := hstatus
      unindexed := by
        rw [hid]
        decide +kernel
      read := by
        rw [hgit]
        exact ⟨rfl, rfl, rfl, rfl, rfl⟩
      bundleId := by
        rw [hid]
        decide +kernel
      sha256 := fun text => by
        show isLowerHexOf 64
          (if text = samplePatch.toList then samplePatchSha256 else sampleContentSha256) = true
        split <;> decide +kernel
      createdAt := rfl
      commit := by decide +kernel
      resolved := by
        rw [hgit]
        rfl
      decisionId := exists_freeDecisionId (by decide +kernel) }, hitem, ?_⟩
  exact ⟨by simp [hdecision], by simp [hinstructions]⟩

/-- A profile that selects one agent for all three roles. -/
def sharedProfile : RoleProfile where
  supervisor := ⟨"codex", none⟩
  worker := ⟨"codex", none⟩
  critic := some ⟨"codex", none⟩
  maxAttempts := 3

/-- The config the profile gives the project `demo`. -/
def sharedConfig : ThreeHeadConfig where
  mode := .required
  maxAttempts := 3
  logic := ⟨"demo-supervisor", "codex", "agent-default"⟩
  worker := ⟨"demo-worker", "codex", "agent-default"⟩
  critic := ⟨"demo-critic", "codex", "agent-default"⟩
  positiveAttempts := sampleRoles.positiveAttempts
  rolesNamed := by decide
  distinctIdentities := by decide +kernel

theorem applyRoleProfile_shared :
    applyRoleProfile Char.isAlphanum "demo" sharedProfile = .ok sharedConfig := by
  rw [applyRoleProfile, threeHeadConfig?]
  rfl

end LlmHarness
