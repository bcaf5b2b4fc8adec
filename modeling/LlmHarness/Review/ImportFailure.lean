/-
  LlmHarness.Review.ImportFailure

  What an import that raises leaves behind.  The document is checked, the
  decision is appended, and only then the decision is applied to its task; when
  the application is refused the append has already happened.
-/

import LlmHarness.Review.Reachable

namespace LlmHarness

open Python StoreM

/-- The import would append this decision of the three-head protocol: the document passed every
    check, and neither its id nor its bundle has a decision. -/
def AppendsStrict (runtime : Runtime) (call : ImportCall) (s : Store) (record : ReviewDecisionRecord) :
    Prop :=
  ∃ document validated bundleRecord bundle,
    ImportChecked runtime call s document validated bundleRecord bundle ∧
      record = decisionRecord validated bundleRecord call.importedAt ∧ isStrict document ∧
      (∀ d ∈ s.reviewDecisions, d.decisionId ≠ validated.decisionId) ∧
      ∀ d ∈ s.reviewDecisions, d.bundleId ≠ bundleRecord.bundleId

variable {runtime : Runtime} {call : ImportCall} {s : Store}

/-- The store an import leaves. -/
def importedStore (runtime : Runtime) (call : ImportCall) (s : Store) : Store :=
  s.applyAll (importOnDisk runtime call s).writes

/-- The journal takes what the import of a document records: it can be read, and the two events of
    a new decision print on one line each. -/
structure TakesDecision (runtime : Runtime) (call : ImportCall) (s : Store) : Prop where
  journal : s.Readable .journal
  events : ∀ record document, planImport runtime call s = .ok (.fresh record document) →
    (decisionEvent record).line.LineSafe ∧ (decisionPayloadEvent record document).line.LineSafe

theorem strict_of_decisionRecord {document : List (String × Json)} {validated : ValidatedDecision}
    (h : validateDecision runtime document = .ok validated) (bundleRecord : ReviewBundleRecord)
    (importedAt : String) :
    (decisionRecord validated bundleRecord importedAt).isStrict ↔ isStrict document := by
  rw [← protocolVersion_of_validateDecision h]
  exact decide_eq_true_iff

/-- The latest entry of the task does not wait for the bundle of a decision that is refused. -/
theorem not_awaits_of_applyPart_error {record : ReviewDecisionRecord} {now : String}
    {e : StateStoreError} (h : (applyPart record now s).value = .error e) :
    ∀ task, latestTask? s.tasks record.workItemId = some task →
      task.awaits record.bundleId = false := by
  intro task htask
  rw [applyPart] at h
  by_cases hstrict : record.isStrict
  · rw [if_pos hstrict, applyStrictDecisionIfPending, bind_run, read_bind, htask] at h
    by_cases hshows : task.status = record.decision.status ∧
        task.lastReviewDecisionId = some record.decisionId
    · simp only [if_pos hshows] at h
      cases h
    · simp only [if_neg hshows] at h
      rcases resolveReview_cases record.workItemId record.bundleId record.decisionId record.summary
        now record.decision s with ⟨e', -, hno⟩ | ⟨_, _, _, _, _, -, -, -, -, hrun⟩
      · exact hno task htask
      · rw [bind_of_ok hrun] at h
        cases h
  · rw [if_neg hstrict] at h
    cases h

/-! ## On disk -/

/-- The application of a decision is taken by a journal that can be read. -/
theorem refusedLog?_applyPart (hread : s.Readable .journal) (record : ReviewDecisionRecord)
    (now : String) : s.refusedLog? (applyPart record now s).writes = none := by
  rcases applyPart_writes record now s with hwrites | hwrites
  · rw [hwrites]
    rfl
  · rw [hwrites, opWrites]
    rcases resolveReview_cases record.workItemId record.bundleId record.decisionId record.summary
      now record.decision s with ⟨e, hrun, -⟩ | ⟨old, pre, post, new, event, -, -, -, -, hrun⟩
    · rw [hrun]
      rfl
    · rw [hrun, refusedLog?_eq_none_iff]
      intro log
      -- the transition is the one line that is appended
      cases log with
      | journal =>
          refine Or.inr ?_
          show ∀ line ∈ s.lines .journal ++ [event.line].dropLast, line.LineSafe
          rw [List.dropLast_singleton, List.append_nil]
          exact hread
      | _ => exact Or.inl rfl

/-- No append of an import is refused by a journal that takes the decision. -/
theorem refusedLog?_executeImport {plan : ImportPlan} (htakes : TakesDecision runtime call s)
    (hplan : planImport runtime call s = .ok plan) (hread : s.Readable .reviewDecisions) :
    s.refusedLog? (executeImport plan call.appliedAt s).writes = none := by
  cases plan with
  | recorded existing => exact refusedLog?_applyPart htakes.journal existing call.appliedAt
  | fresh record document =>
      cases hfind : findReviewDecision record s.reviewDecisions with
      | error e =>
          rw [executeImport_error hfind]
          rfl
      | ok found =>
          -- The decision is new: the plan found no record of its id.
          have hnew : ∀ d ∈ s.reviewDecisions, d.decisionId ≠ record.decisionId := by
            obtain ⟨_, validated, bundleRecord, _, -, hcase⟩ := planImport_eq_ok.mp hplan
            rcases hcase with ⟨_, -, -, h⟩ | ⟨hnone, h⟩
            · cases h
            · obtain rfl := (ImportPlan.fresh.inj h).1
              exact fun d hd hid => List.find?_eq_none.mp hnone d hd (decide_eq_true hid)
          cases found with
          | some existing => exact absurd hfind (findReviewDecision_ne_some hnew)
          | none =>
              obtain ⟨hdecision, hdocument⟩ := htakes.events record document hplan
              rw [executeImport_new document call.appliedAt hfind, refusedLog?_append,
                Option.or_eq_none_iff]
              constructor
              -- The decision goes to its log, and one event of it to the journal.
              · rw [refusedLog?_eq_none_iff]
                intro log
                cases log with
                | reviewDecisions =>
                    refine Or.inr fun line hline => hread line ?_
                    simpa [appendedLines, Write.line?] using hline
                | journal =>
                    refine Or.inr (List.forall_mem_append.mpr ⟨htakes.journal, ?_⟩)
                    simpa [appendedLines, Write.line?] using hdecision
                | _ => exact Or.inl rfl
              -- The lifecycle part appends to the journal that has taken the event.
              · refine refusedLog?_applyPart ?_ record call.appliedAt
                rw [Store.Readable, lines_applyAll]
                refine List.forall_mem_append.mpr ⟨htakes.journal, ?_⟩
                simpa [appendedLines, Write.line?] using ⟨hdecision, hdocument⟩

/-- **An import that the journal takes** and that raises `ReviewProtocolError` is the import of the
    model. -/
theorem importOnDisk_of_taken {message : String} (htakes : TakesDecision runtime call s)
    (h : (importOnDisk runtime call s).value = .error (.protocol message)) :
    importOnDisk runtime call s = importVerifierDecision runtime call s := by
  rcases importOnDisk_cases runtime call s with
    ⟨e, hrun, hreading⟩ | ⟨plan, hplan, hbundles, hdecisions⟩
  · rw [hrun] at h ⊢
    obtain rfl := Except.error.inj h
    -- a log that cannot be read raises `StateStoreError`
    rcases planImportReading_error hreading with hlog | hlog | hplan
    · exact absurd hlog readLog_ne_protocol
    · exact absurd hlog readLog_ne_protocol
    · rw [importVerifierDecision, hplan]
  · exact importOnDisk_of_complete hplan hbundles hdecisions
      (refusedLog?_executeImport htakes hplan hdecisions)

/-! ## What a failed import leaves -/

/-- A failed import of a new three-head decision appended that decision. -/
theorem importFailure_appended {record : ReviewDecisionRecord} {e : ReviewError}
    (hrecord : AppendsStrict runtime call s record)
    (h : (importVerifierDecision runtime call s).value = .error e) :
    (s.applyAll (importVerifierDecision runtime call s).writes).reviewDecisions =
        s.reviewDecisions ++ [record] ∧
      ∀ task, latestTask? s.tasks record.workItemId = some task →
        task.awaits record.bundleId = false := by
  obtain ⟨document, validated, bundleRecord, bundle, hchecked, rfl, -, hids, hbundles⟩ := hrecord
  rw [importVerifierDecision_new hchecked hids hbundles] at h ⊢
  rw [appliedImport_error h]
  refine ⟨rfl, ?_⟩
  rw [appliedImport] at h
  cases hpart : (applyPart (decisionRecord validated bundleRecord call.importedAt) call.appliedAt
      (s.applyAll [.reviewDecision (decisionRecord validated bundleRecord call.importedAt),
        .journal (decisionEvent (decisionRecord validated bundleRecord call.importedAt)),
        .journal (decisionPayloadEvent (decisionRecord validated bundleRecord call.importedAt)
          (.obj document))])).value with
  | ok stored => simp [hpart] at h
  | error e' =>
      intro task htask
      exact not_awaits_of_applyPart_error hpart task htask

/-- Any other failed import appended nothing. -/
theorem importFailure_kept {e : ReviewError} (hno : ¬ ∃ record, AppendsStrict runtime call s record)
    (h : (importVerifierDecision runtime call s).value = .error e) :
    (s.applyAll (importVerifierDecision runtime call s).writes).reviewDecisions =
      s.reviewDecisions := by
  have hrun := importRun runtime call s
  generalize importVerifierDecision runtime call s = outcome at hrun h ⊢
  cases hrun with
  | refused => rfl
  | again =>
      rw [appliedImport_error h]
      rfl
  | @fresh document validated bundleRecord bundle checked newId newBundle =>
      by_cases hstrict : isStrict document
      · exact absurd ⟨_, document, validated, bundleRecord, bundle, checked, rfl, hstrict, newId,
          newBundle⟩ hno
      · have hplain := mt (strict_of_decisionRecord checked.documentValid bundleRecord
          call.importedAt).mp hstrict
        rw [appliedImport, applyPart_plain hplain] at h
        cases h

/-- **A failed import.**  Where the journal takes the decision, the queue is as before.  The
    decisions are as before, unless the document was a new three-head decision that passed every
    check: then exactly that decision was appended, and its task does not wait for its bundle. -/
theorem importFailure_trace (runtime : Runtime) (call : ImportCall) (s : Store) (message : String)
    (htakes : TakesDecision runtime call s)
    (h : (importOnDisk runtime call s).value = .error (.protocol message)) :
    (importedStore runtime call s).tasks = s.tasks ∧
      ((¬ ∃ record, AppendsStrict runtime call s record) →
        (importedStore runtime call s).reviewDecisions = s.reviewDecisions) ∧
      ∀ record, AppendsStrict runtime call s record →
        (importedStore runtime call s).reviewDecisions = s.reviewDecisions ++ [record] ∧
        ∀ task, latestTask? s.tasks record.workItemId = some task →
          task.awaits record.bundleId = false := by
  have hmodel := importOnDisk_of_taken htakes h
  rw [hmodel] at h
  rw [importedStore, hmodel]
  exact ⟨import_error_tasks h, fun hno => importFailure_kept hno h,
    fun _ hrecord => importFailure_appended hrecord h⟩

/-- The accepted run after its review setup was given up: the task failed. -/
def setupFailedRun : List ReviewEvent :=
  attachedRun ++ [.other (.failReviewSetup "a" "No critic." "t") rfl]

/-- The message of an import that raises `ReviewProtocolError`. -/
def ImportOutcome.protocolError? (outcome : ImportOutcome) : Option String :=
  match outcome.value with
  | .error (.protocol message) => some message
  | _ => none

theorem ImportOutcome.value_of_protocolError? {outcome : ImportOutcome} {message : String}
    (h : outcome.protocolError? = some message) : outcome.value = .error (.protocol message) := by
  rw [protocolError?] at h
  split at h
  · rename_i hvalue
    rw [hvalue, Option.some.inj h]
  · cases h

/-- A store whose logs can be read after an import takes its decision, if it had none before. -/
theorem takesDecision_of_readable (hnone : s.reviewDecisions = [])
    (h : ∀ log, (s.applyAll (importVerifierDecision runtime call s).writes).Readable log) :
    TakesDecision runtime call s where
  journal := (h .journal).of_later
  events := by
    intro record document hplan
    have hfind : findReviewDecision record s.reviewDecisions = .ok none := by
      rw [hnone]
      rfl
    have hlines := h .journal
    rw [Store.Readable, (importVerifierDecision_run hplan).1,
      executeImport_new document call.appliedAt hfind, applyAll_append] at hlines
    have hrecorded : ∀ line ∈ (s.applyAll [.reviewDecision record, .journal (decisionEvent record),
        .journal (decisionPayloadEvent record document)]).lines .journal, line.LineSafe :=
      Store.Readable.of_later hlines
    rw [lines_applyAll] at hrecorded
    simpa [appendedLines, Write.line?] using (List.forall_mem_append.mp hrecorded).2

/-- The import of the approval of a task that failed meanwhile raises; every log can be read. -/
theorem importFailure_sample :
    (∀ log, (reviewRun (sampleRuntime sampleContentSha256)
      (setupFailedRun ++ [.importDecision (sampleImport sampleApproval)])).Readable log) ∧
    (importVerifierDecision (sampleRuntime sampleContentSha256) (sampleImport sampleApproval)
      (reviewRun (sampleRuntime sampleContentSha256) setupFailedRun)).protocolError? =
      some "Task is not waiting for critic review: a" := by
  have hmodel : (∀ event ∈ (reviewRun (sampleRuntime sampleContentSha256)
        (setupFailedRun ++ [.importDecision (sampleImport sampleApproval)])).journal, event.Plain) ∧
      (∀ log ∈ Log.all.dropLast, (reviewRun (sampleRuntime sampleContentSha256)
        (setupFailedRun ++ [.importDecision (sampleImport sampleApproval)])).Readable log) ∧
      (importVerifierDecision (sampleRuntime sampleContentSha256) (sampleImport sampleApproval)
        (reviewRun (sampleRuntime sampleContentSha256) setupFailedRun)).protocolError? =
        some "Task is not waiting for critic review: a" := by decide +kernel
  exact ⟨readable_of_plain hmodel.1 hmodel.2.1, hmodel.2.2⟩

theorem isComplete_setupFailedRun : ∀ event ∈ setupFailedRun, event.isComplete := by decide

/-- ... and so it does on disk. -/
theorem importFailure_sampleOnDisk :
    (importOnDisk (sampleRuntime sampleContentSha256) (sampleImport sampleApproval)
      (diskReviewRun (sampleRuntime sampleContentSha256) (setupFailedRun.map .review))).value =
      .error (.protocol "Task is not waiting for critic review: a") := by
  obtain ⟨hread, hmodel⟩ := importFailure_sample
  rw [importOnDisk_diskReviewRun isComplete_setupFailedRun hread]
  exact ImportOutcome.value_of_protocolError? hmodel

/-- The approval of a task that failed meanwhile raises, and the queue stays as it was. -/
theorem importFailure_trace_sample :
    (importedStore (sampleRuntime sampleContentSha256) (sampleImport sampleApproval)
      (diskReviewRun (sampleRuntime sampleContentSha256) (setupFailedRun.map .review))).tasks =
      (diskReviewRun (sampleRuntime sampleContentSha256) (setupFailedRun.map .review)).tasks := by
  refine (importFailure_trace _ _ _ _ ?_ importFailure_sampleOnDisk).1
  have hread := importFailure_sample.1
  rw [reviewRun_append_singleton] at hread
  rw [diskReviewRun_of_readable isComplete_setupFailedRun fun log => (hread log).of_later]
  exact takesDecision_of_readable rfl hread

theorem importFailure_leaves_decision :
    ¬ ∀ (runtime : Runtime) (call : ImportCall) (s : Store) (message : String),
      (importOnDisk runtime call s).value = .error (.protocol message) →
      (importedStore runtime call s).reviewDecisions = s.reviewDecisions ∧
        (importedStore runtime call s).tasks = s.tasks := by
  intro h
  have hkept := (h _ _ _ _ importFailure_sampleOnDisk).1
  have hread := importFailure_sample.1
  have hlonger : (reviewRun (sampleRuntime sampleContentSha256)
      (setupFailedRun ++ [.importDecision (sampleImport sampleApproval)])).reviewDecisions.length ≠
      (reviewRun (sampleRuntime sampleContentSha256) setupFailedRun).reviewDecisions.length := by
    decide +kernel
  rw [importedStore, importOnDisk_diskReviewRun isComplete_setupFailedRun hread] at hkept
  rw [reviewRun_append_singleton] at hread hlonger
  rw [diskReviewRun_of_readable isComplete_setupFailedRun fun log => (hread log).of_later] at hkept
  exact hlonger (congrArg List.length hkept)

end LlmHarness
