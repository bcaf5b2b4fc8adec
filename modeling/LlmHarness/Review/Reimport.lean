/-
  LlmHarness.Review.Reimport

  Importing a document again.  The checks pass as they did before and find the
  stored record; a three-head decision is then applied once more, unless the
  task still shows that it was applied.  On disk the checks also read the bundles
  and the decisions.
-/

import LlmHarness.Review.Export
import LlmHarness.Review.ImportOnDisk

namespace LlmHarness

open Python StoreM Guards

variable {runtime : Runtime} {s : Store}

/-! ## What the first import leaves -/

/-- A decision is recorded with the evidence its document was checked against. -/
structure Imported (runtime : Runtime) (call : ImportCall) (s : Store) (stored : ReviewDecisionRecord) :
    Prop where
  checked : ∃ document validated record bundle,
    ImportChecked runtime call s document validated record bundle ∧
      s.reviewDecisions.find? (fun item => item.decisionId = validated.decisionId) = some stored ∧
      decisionMatches stored validated record

/-- The records a check looks up stay where they are when more are appended. -/
theorem Imported.append {call : ImportCall} {stored : ReviewDecisionRecord}
    (h : Imported runtime call s stored) (ws : List Write) :
    Imported runtime call (s.applyAll ws) stored := by
  obtain ⟨document, validated, record, bundle, hchecked, hfind, hmatches⟩ := h
  refine ⟨document, validated, record, bundle, ?_, ?_, hmatches⟩
  · have hrecorded : (s.applyAll ws).reviewBundles.find?
        (fun item => item.bundleId = validated.bundleId) = some record := by
      rw [applyAll_reviewBundles]
      exact find?_append_some hchecked.recorded
    exact { hchecked with recorded := hrecorded }
  · rw [applyAll_reviewDecisions, List.find?_append, hfind]
    rfl

/-- A new record matches the document it was made from. -/
theorem decisionMatches_decisionRecord {call : ImportCall} {document : List (String × Json)}
    {validated : ValidatedDecision} {record : ReviewBundleRecord} {bundle : List (String × Json)}
    (h : ImportChecked runtime call s document validated record bundle) (importedAt : String) :
    decisionMatches (decisionRecord validated record importedAt) validated record := by
  simp [decisionMatches, decisionRecord, h.recordDigest]

theorem applyPart_value {record stored : ReviewDecisionRecord} {now : String}
    (h : (applyPart record now s).value = .ok stored) : record = stored := by
  rw [applyPart] at h
  split at h
  · rw [bind_run] at h
    split at h
    · cases h
    · exact Except.ok.inj h
  · exact Except.ok.inj h

/-- An import that succeeds returns the decision it applied. -/
theorem appliedImport_value {recorded : List Write} {record stored : ReviewDecisionRecord}
    {now : String} (h : (appliedImport recorded record now s).value = .ok stored) : record = stored := by
  rw [appliedImport] at h
  cases hvalue : (applyPart record now (s.applyAll recorded)).value with
  | error e => simp [hvalue] at h
  | ok applied =>
      rw [hvalue] at h
      obtain rfl := Except.ok.inj h
      exact applyPart_value hvalue

/-- ... and leaves it recorded. -/
theorem imported_of_ok {call : ImportCall} {stored : ReviewDecisionRecord}
    (h : (importVerifierDecision runtime call s).value = .ok stored) :
    Imported runtime call (s.applyAll (importVerifierDecision runtime call s).writes) stored := by
  have hrun := importRun runtime call s
  generalize importVerifierDecision runtime call s = outcome at hrun h ⊢
  -- the decision was refused, was there already, or is new
  cases hrun with
  | refused e => cases h
  | again checked found same =>
      obtain rfl := appliedImport_value h
      exact Imported.append ⟨_, _, _, _, checked, found, same⟩ _
  | @fresh document validated record bundle checked newId newBundle =>
      obtain rfl := appliedImport_value h
      rw [appliedImport, applyAll_append]
      refine Imported.append ?_ _
      -- the append made the record the first with its id
      refine ⟨document, validated, record, bundle, { checked with recorded := checked.recorded }, ?_,
        decisionMatches_decisionRecord checked _⟩
      have hnone : s.reviewDecisions.find? (fun item => item.decisionId = validated.decisionId) =
          none := List.find?_eq_none.mpr fun d hd => by simpa using newId d hd
      have hself : (decisionRecord validated record call.importedAt).decisionId =
          validated.decisionId := rfl
      simp only [Store.applyAll, List.foldl_cons, List.foldl_nil, Store.apply, List.find?_append,
        hnone, Option.none_or]
      simp [hself]

/-- ... and it stays so in every run on disk that follows. -/
theorem Imported.run {call : ImportCall} {stored : ReviewDecisionRecord}
    (h : Imported runtime call s stored) (events : List DiskReviewEvent) :
    Imported runtime call (events.foldl (diskReviewStep runtime) s) stored := by
  induction events generalizing s with
  | nil => exact h
  | cons event events ih =>
      obtain ⟨ws, hstep⟩ := diskReviewStep_applies runtime s event
      rw [List.foldl_cons, hstep]
      exact ih (h.append ws)

/-- A document imported on disk is recorded after every run that follows. -/
theorem imported_diskReviewRun {call : ImportCall} {stored : ReviewDecisionRecord}
    {earlier : List DiskReviewEvent}
    (hfirst : (importOnDisk runtime call (diskReviewRun runtime earlier)).value = .ok stored)
    (later : List DiskReviewEvent) :
    Imported runtime call
      (diskReviewRun runtime (earlier ++ .review (.importDecision call) :: later)) stored := by
  obtain ⟨hok, hwrites⟩ := importOnDisk_of_ok hfirst
  rw [diskReviewRun, List.foldl_append, List.foldl_cons]
  refine Imported.run ?_ later
  rw [diskReviewStep, ReviewEvent.diskWrites, ← diskReviewRun, hwrites]
  exact imported_of_ok hok

/-! ## Importing again -/

/-- Two calls that find the same documents and the same repository. -/
structure SameFiles (call again : ImportCall) : Prop where
  decisionFile : again.decisionFile = call.decisionFile
  bundleFile : again.bundleFile = call.bundleFile
  resolveCommit : again.resolveCommit = call.resolveCommit

/-- The checks pass again, and find the stored record. -/
theorem planImport_again {call again : ImportCall} {stored : ReviewDecisionRecord}
    (h : Imported runtime call s stored) (hsame : SameFiles call again) :
    planImport runtime again s = .ok (.recorded stored) := by
  obtain ⟨document, validated, record, bundle, hchecked, hfind, hmatches⟩ := h
  refine planImport_eq_ok.mpr ⟨document, validated, record, bundle, ?_,
    Or.inl ⟨stored, hfind, hmatches, rfl⟩⟩
  exact {
    documentRead := by rw [hsame.decisionFile]; exact hchecked.documentRead
    documentValid := hchecked.documentValid
    recorded := hchecked.recorded
    bundleRead := by rw [hsame.bundleFile]; exact hchecked.bundleRead
    valid := hchecked.valid
    strict := hchecked.strict
    critic := hchecked.critic
    digest := hchecked.digest
    recordDigest := hchecked.recordDigest
    evidence := by
      have hevidence := hchecked.evidence
      rw [requireEvidence] at hevidence ⊢
      rwa [hsame.resolveCommit] }

/-- The latest entry of the work item shows that a decision was applied to it last. -/
def ShowsDecision (s : Store) (record : ReviewDecisionRecord) : Prop :=
  ∃ task, latestTask? s.tasks record.workItemId = some task ∧
    task.status = record.decision.status ∧ task.lastReviewDecisionId = some record.decisionId

instance (s : Store) (record : ReviewDecisionRecord) : Decidable (ShowsDecision s record) :=
  decidable_of_iff (∃ task ∈ latestTask? s.tasks record.workItemId,
    task.status = record.decision.status ∧ task.lastReviewDecisionId = some record.decisionId)
    Iff.rfl

theorem decisionEffect_text (decision : ReviewDecision) (summary : String) :
    ∃ error, decisionEffect decision.text summary = some (decision.status, error) := by
  cases decision
  · exact ⟨none, rfl⟩
  · exact ⟨some summary, rfl⟩
  · exact ⟨some summary, rfl⟩

theorem ReviewDecision.status_ne_reviewPending (decision : ReviewDecision) :
    decision.status ≠ .reviewPending := by
  cases decision <;> simp [ReviewDecision.status]

/-- The entry a critic decision leaves. -/
structure Resolved (old new : QueueTask) (decision : ReviewDecision) (decisionId : String) : Prop where
  id : new.id = old.id
  status : new.status = decision.status
  decisionId : new.lastReviewDecisionId = some decisionId
  released : new.pendingReviewBundleId = none

/-- `resolve_review` refuses without a write, or rewrites the entry that waits for the bundle. -/
theorem resolveReview_cases (id bundleId decisionId summary now : String) (decision : ReviewDecision)
    (s : Store) :
    (∃ e, resolveReview id bundleId decisionId decision.text summary now s = ⟨[], .error e⟩ ∧
        ∀ task, latestTask? s.tasks id = some task → task.awaits bundleId = false) ∨
      ∃ old pre post new event, latestTask? s.tasks id = some old ∧ old.awaits bundleId ∧
        s.tasks = pre ++ old :: post ∧ Resolved old new decision decisionId ∧
        resolveReview id bundleId decisionId decision.text summary now s =
          ⟨[.queue (pre ++ new :: post), .journal event], .ok new⟩ := by
  -- without an entry, or with one that waits for no bundle, the call is refused
  cases hlatest : latestTask? s.tasks id with
  | none =>
      rw [resolveReview, getTask_bind_none _ hlatest]
      exact Or.inl ⟨_, rfl, nofun⟩
  | some old =>
      rw [resolveReview, getTask_bind_some _ hlatest]
      by_cases hstatus : old.status = .reviewPending
      -- the entry waits for this bundle or for another one
      · by_cases hbundle : old.pendingReviewBundleId = some bundleId
        · right
          rw [if_neg (not_not.mpr hstatus), if_neg (not_not.mpr hbundle)]
          obtain ⟨error, heffect⟩ := decisionEffect_text decision summary
          simp only [heffect]
          obtain ⟨pre, post, htasks, hrun⟩ := replaceTask_run now
            (fun task => { task with
              status := decision.status
              pendingReviewBundleId := none
              lastReviewDecisionId := some decisionId
              lastError := error }) hlatest
          rw [bind_of_ok hrun, transitionEvent_bind, write_bind]
          refine ⟨old, pre, post, { old with
            status := decision.status
            updatedAtUtc := now
            pendingReviewBundleId := none
            lastReviewDecisionId := some decisionId
            lastError := error }, _, rfl, ?_, htasks, ⟨rfl, rfl, rfl, rfl⟩, rfl⟩
          simp [QueueTask.awaits, hstatus, hbundle]
        · rw [if_neg (not_not.mpr hstatus), if_pos hbundle]
          refine Or.inl ⟨_, rfl, ?_⟩
          rintro task ⟨⟩
          simp [QueueTask.awaits, hbundle]
      · rw [if_pos hstatus]
        refine Or.inl ⟨_, rfl, ?_⟩
        rintro task ⟨⟩
        simp [QueueTask.awaits, hstatus]

/-- Applying a decision succeeds without a change exactly when the task shows it. -/
theorem applyStrict_silent_iff (record : ReviewDecisionRecord) (now : String) :
    ((applyStrictDecisionIfPending record now s).value = .ok () ∧
      (s.applyAll (applyStrictDecisionIfPending record now s).writes).tasks = s.tasks) ↔
      ShowsDecision s record := by
  rw [applyStrictDecisionIfPending, read_bind, ShowsDecision]
  cases hlatest : latestTask? s.tasks record.workItemId with
  | none => simp
  | some task =>
      simp only [Option.some.injEq, exists_eq_left']
      -- the task shows the decision already, or the call rewrites its entry
      by_cases hshows : task.status = record.decision.status ∧
          task.lastReviewDecisionId = some record.decisionId
      · rw [if_pos hshows]
        exact iff_of_true ⟨rfl, rfl⟩ hshows
      · rw [if_neg hshows]
        refine iff_of_false ?_ hshows
        rintro ⟨hvalue, htasks⟩
        rcases resolveReview_cases record.workItemId record.bundleId record.decisionId
          record.summary now record.decision s with
          ⟨e, hrun, -⟩ | ⟨old, pre, post, updated, event, -, hawaits, hs, hresolved, hrun⟩
        · rw [bind_of_error hrun] at hvalue
          cases hvalue
        · -- a call that succeeds rewrites an entry that was review pending
          rw [bind_of_ok hrun] at htasks
          have heq : pre ++ updated :: post = pre ++ old :: post := htasks.trans hs
          obtain rfl := (List.cons.inj (List.append_cancel_left heq)).1
          have hpending : updated.status = .reviewPending := by
            simp only [QueueTask.awaits, Bool.and_eq_true, decide_eq_true_eq] at hawaits
            exact hawaits.1
          exact record.decision.status_ne_reviewPending (hresolved.status.symm.trans hpending)

/-- A decision of another protocol is not applied. -/
theorem applyPart_plain {record : ReviewDecisionRecord} (h : ¬ record.isStrict) (now : String)
    (s : Store) : applyPart record now s = ⟨[], .ok record⟩ := by
  rw [applyPart, if_neg h]
  rfl

/-- Nothing is left to do for a decision that the task shows. -/
theorem applyPart_of_shows {record : ReviewDecisionRecord}
    (h : record.isStrict → ShowsDecision s record) (now : String) :
    applyPart record now s = ⟨[], .ok record⟩ := by
  by_cases hstrict : record.isStrict
  · obtain ⟨task, htask, hshows⟩ := h hstrict
    have hsilent : applyStrictDecisionIfPending record now s = ⟨[], .ok ()⟩ := by
      rw [applyStrictDecisionIfPending, read_bind, htask]
      simp only [if_pos hshows]
      rfl
    rw [applyPart, if_pos hstrict, bind_of_ok hsilent]
    rfl
  · exact applyPart_plain hstrict now s

/-- An application that succeeds without a change found the decision shown. -/
theorem shows_of_applyPart {record : ReviewDecisionRecord} {now : String}
    (hvalue : (applyPart record now s).value = .ok record)
    (htasks : (s.applyAll (applyPart record now s).writes).tasks = s.tasks)
    (hstrict : record.isStrict) : ShowsDecision s record := by
  rw [applyPart, if_pos hstrict, bind_run] at hvalue htasks
  refine (applyStrict_silent_iff record now).mp ?_
  cases happlied : (applyStrictDecisionIfPending record now s).value with
  | error e => simp [happlied] at hvalue
  | ok _ =>
      rw [happlied] at htasks
      simpa using htasks

/-- Importing a document again succeeds, returns the stored record and changes neither the
    decisions nor the queue. -/
def ReimportIdempotent (runtime : Runtime) (again : ImportCall) (s : Store)
    (stored : ReviewDecisionRecord) : Prop :=
  let outcome := importOnDisk runtime again s
  outcome.value = .ok stored ∧ (s.applyAll outcome.writes).reviewDecisions = s.reviewDecisions ∧
    (s.applyAll outcome.writes).tasks = s.tasks

/-- Importing a recorded decision again. -/
theorem reimportIdempotent_of_imported {call again : ImportCall} {stored : ReviewDecisionRecord}
    (himported : Imported runtime call s stored) (hsame : SameFiles call again) :
    ReimportIdempotent runtime again s stored ↔ s.Readable .reviewBundles ∧
      s.Readable .reviewDecisions ∧ (stored.isStrict → ShowsDecision s stored) := by
  have hplan := planImport_again himported hsame
  rw [ReimportIdempotent]
  constructor
  -- It returned, so both logs were read, and the queue stayed, so the decision showed in it.
  · rintro ⟨hvalue, -, htasks⟩
    rcases importOnDisk_cases runtime again s with ⟨e, hrun, -⟩ | ⟨_, -, hbundles, hdecisions⟩
    · rw [hrun] at hvalue
      cases hvalue
    · obtain ⟨hwrites, hreturns⟩ := importOnDisk_run hplan hbundles hdecisions
      rw [executeImport_recorded] at hwrites hreturns
      have hok := (hreturns stored).mp hvalue
      have hcomplete := onDisk_of_complete (complete_of_onDisk hok)
      rw [hcomplete] at hok hwrites
      rw [hwrites] at htasks
      exact ⟨hbundles, hdecisions, shows_of_applyPart hok htasks⟩
  · rintro ⟨hbundles, hdecisions, hshows⟩
    obtain ⟨hwrites, hreturns⟩ := importOnDisk_run hplan hbundles hdecisions
    rw [executeImport_recorded] at hwrites hreturns
    -- A decision that shows is applied by writing nothing.
    have happlied := applyPart_of_shows hshows again.appliedAt
    have hdisk : onDisk (applyPart stored again.appliedAt) s = ⟨[], .ok stored⟩ := by
      rw [onDisk_of_complete, happlied]
      rw [happlied]
      rfl
    rw [hdisk] at hwrites hreturns
    rw [hwrites]
    exact ⟨(hreturns stored).mpr rfl, rfl, rfl⟩

/-- **Importing again.**  In every run on disk, a decision document that was imported imports again
    without a change exactly when the bundles and the decisions can be read and the document is a
    v1 document, or the latest entry of its work item still has the status the decision gave it and
    names the decision as its last one. -/
theorem reimportIdempotent_iff (runtime : Runtime) (earlier later : List DiskReviewEvent)
    (call again : ImportCall) (stored : ReviewDecisionRecord)
    (hfirst : (importOnDisk runtime call (diskReviewRun runtime earlier)).value = .ok stored)
    (hsame : SameFiles call again) :
    let s := diskReviewRun runtime (earlier ++ .review (.importDecision call) :: later)
    ReimportIdempotent runtime again s stored ↔ s.Readable .reviewBundles ∧
      s.Readable .reviewDecisions ∧ (stored.isStrict → ShowsDecision s stored) :=
  reimportIdempotent_of_imported (imported_diskReviewRun hfirst later) hsame

/-! ## Small runs -/

/-- The index record of the sample bundle. -/
def sampleBundleRecord : ReviewBundleRecord :=
  { bundleId := "three-head-r1"
    createdAtUtc := "2026-01-01T00:00:00+00:00"
    runId := "r1"
    workItemId := "a"
    commit := sampleCommit
    bundleSha256 := sampleContentSha256
    bundlePath := "review-bundles/three-head-r1.json" }

/-- The accepted run with its bundle recorded and attached. -/
def attachedRun : List ReviewEvent :=
  [.other (.enqueueMany [(sampleItem "a", "cli")] "t") rfl,
    .other (.claimNext none "t") rfl,
    .other (recordAccepted "a" "3f5c1a9" "r1" true) rfl,
    .other (.recordReviewBundle sampleBundleRecord) rfl,
    .other (.attachReviewBundle "a" "three-head-r1" "t") rfl]

/-- The supervisor confirms the rework of the task. -/
def confirmedRework : ReviewEvent :=
  .other (.confirmRework "a" "critic-decision-1" ["Add a test."] 3 "t") rfl

/-- The import of a decision on that bundle. -/
def sampleImport (decision : Payload) : ImportCall where
  decisionFile := .ok decision
  bundleFile path :=
    match (sampleExport.final acceptedWorld).files path with
    | some document => .ok document
    | none => refuseReview "Review bundle cannot be read."
  resolveCommit _ := .ok sampleCommit
  importedAt := "t"
  appliedAt := "t"

/-- The record of the sample approval. -/
def sampleApprovalRecord : ReviewDecisionRecord :=
  { decisionId := "critic-decision-1"
    bundleId := "three-head-r1"
    bundleSha256 := sampleContentSha256
    runId := "r1"
    workItemId := "a"
    commit := sampleCommit
    reviewerId := "critic"
    reviewerKind := "agent"
    decision := .approve
    summary := "Reviewed."
    findings := []
    createdAtUtc := "2026-01-01T00:05:00Z"
    importedAtUtc := "t"
    protocolVersion := "2.0" }

/-- The accepted run and the import of a decision on its bundle. -/
def decidedRun (decision : Payload) : List ReviewEvent :=
  attachedRun ++ [.importDecision (sampleImport decision)]

theorem isComplete_decidedRun (decision : Payload) :
    ∀ event ∈ decidedRun decision, event.isComplete := by
  rw [decidedRun, List.forall_mem_append, List.forall_mem_singleton]
  exact ⟨by decide, rfl⟩

theorem isComplete_attachedRun : ∀ event ∈ attachedRun, event.isComplete := by decide

/-- An approval imports again. -/
theorem reimportIdempotent_approved :
    (importOnDisk (sampleRuntime sampleContentSha256) (sampleImport sampleApproval)
        (diskReviewRun (sampleRuntime sampleContentSha256) (attachedRun.map .review))).value =
        .ok sampleApprovalRecord ∧
      ReimportIdempotent (sampleRuntime sampleContentSha256) (sampleImport sampleApproval)
        (diskReviewRun (sampleRuntime sampleContentSha256) (attachedRun.map .review ++
          .review (.importDecision (sampleImport sampleApproval)) :: [])) sampleApprovalRecord := by
  have hmodel : (∀ event ∈ (reviewRun (sampleRuntime sampleContentSha256)
        (decidedRun sampleApproval)).journal, event.Plain) ∧
      (∀ log ∈ Log.all.dropLast, (reviewRun (sampleRuntime sampleContentSha256)
        (decidedRun sampleApproval)).Readable log) ∧
      ShowsDecision (reviewRun (sampleRuntime sampleContentSha256) (decidedRun sampleApproval))
        sampleApprovalRecord ∧
      (importVerifierDecision (sampleRuntime sampleContentSha256) (sampleImport sampleApproval)
        (reviewRun (sampleRuntime sampleContentSha256) attachedRun)).value =
          .ok sampleApprovalRecord := by decide +kernel
  obtain ⟨hjournal, hrest, hshows, hok⟩ := hmodel
  have hread := readable_of_plain hjournal hrest
  have hfirst := (congrArg ImportOutcome.value
    (importOnDisk_diskReviewRun isComplete_attachedRun hread)).trans hok
  refine ⟨hfirst, (reimportIdempotent_iff _ _ [] _ _ _ hfirst ⟨rfl, rfl, rfl⟩).mpr ?_⟩
  have hrun := diskReviewRun_of_readable (isComplete_decidedRun sampleApproval) hread
  rw [decidedRun, List.map_append, List.map_cons, List.map_nil] at hrun
  rw [hrun]
  exact ⟨hread _, hread _, fun _ => hshows⟩

/-- A rejection whose rework the supervisor confirmed does not import again: the checks find the
    stored record, and `resolve_review` then finds a task that waits for no review. -/
theorem not_reimportIdempotent_confirmedRework :
    ¬ ∀ (runtime : Runtime) (earlier later : List DiskReviewEvent) (call again : ImportCall)
        (stored : ReviewDecisionRecord),
        (importOnDisk runtime call (diskReviewRun runtime earlier)).value = .ok stored →
        SameFiles call again → ReimportIdempotent runtime again
          (diskReviewRun runtime (earlier ++ .review (.importDecision call) :: later)) stored := by
  intro h
  have hmodel : (∀ event ∈ (reviewRun (sampleRuntime sampleContentSha256)
        (decidedRun sampleRejection ++ [confirmedRework])).journal, event.Plain) ∧
      (∀ log ∈ Log.all.dropLast, (reviewRun (sampleRuntime sampleContentSha256)
        (decidedRun sampleRejection ++ [confirmedRework])).Readable log) ∧
      passes (importVerifierDecision (sampleRuntime sampleContentSha256)
        (sampleImport sampleRejection)
        (reviewRun (sampleRuntime sampleContentSha256) attachedRun)).value ∧
      ¬ passes (importVerifierDecision (sampleRuntime sampleContentSha256)
        (sampleImport sampleRejection) (reviewRun (sampleRuntime sampleContentSha256)
          (decidedRun sampleRejection ++ [confirmedRework]))).value := by decide +kernel
  obtain ⟨hjournal, hrest, hok, hrefused⟩ := hmodel
  have hread := readable_of_plain hjournal hrest
  obtain ⟨stored, hstored⟩ := (passes_iff _).mp hok
  have hearlier : ∀ log, (reviewRun (sampleRuntime sampleContentSha256)
      (decidedRun sampleRejection)).Readable log := by
    intro log
    have hlast := hread log
    rw [reviewRun_append_singleton] at hlast
    exact hlast.of_later
  have hfirst := (congrArg ImportOutcome.value
    (importOnDisk_diskReviewRun isComplete_attachedRun hearlier)).trans hstored
  have hcomplete : ∀ event ∈ decidedRun sampleRejection ++ [confirmedRework], event.isComplete := by
    rw [List.forall_mem_append, List.forall_mem_singleton]
    exact ⟨isComplete_decidedRun sampleRejection, rfl⟩
  have hrun := diskReviewRun_of_readable hcomplete hread
  have hagain := (h _ _ [.review confirmedRework] _ _ stored hfirst ⟨rfl, rfl, rfl⟩).1
  rw [decidedRun, List.append_assoc, List.map_append, List.singleton_append, List.map_cons,
    List.map_cons, List.map_nil] at hrun
  rw [hrun] at hagain
  exact hrefused ((passes_iff _).mpr ⟨stored, (importOnDisk_of_ok hagain).1⟩)

end LlmHarness
