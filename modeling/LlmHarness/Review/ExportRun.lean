/-
  LlmHarness.Review.ExportRun

  What `export_review_bundle` can do: refuse without a write, read a bundle back
  that is indexed already, or write a new one.
-/

import LlmHarness.Review.Export
import LlmHarness.State.Transitions

namespace LlmHarness

open Python Guards Durable Durable.Program

variable {runtime : Runtime} {git : GitReader} {threeHead : Option ThreeHeadConfig} {w : ReviewWorld}

/-! ## Programs that only read -/

theorem silent_findRun (runId : String) : Silent (findRun runId) := by
  refine (silent_read _).bind fun history => ?_
  split
  · exact silent_pure _
  · exact silent_raise _

theorem silent_findTask (workItemId : String) : Silent (findTask workItemId) := by
  refine (silent_read _).bind fun tasks => ?_
  split
  · exact silent_pure _
  · exact silent_raise _

theorem silent_readObject (path label : String) : Silent (readObject path label) := fun _ => rfl

theorem silent_reloadBundle (runtime : Runtime) (existing : ReviewBundleRecord) (commit : String) :
    Silent (reloadBundle runtime existing commit) := by
  refine (silent_readObject _ _).bind fun payload => (silent_lift _).bind fun _ => ?_
  refine (silent_lift _).bind fun digest => ?_
  split
  · exact silent_pure _
  · exact silent_raise _

/-- The object of a document below the state root. -/
theorem readObject_eq_ok {path label : String} {members : List (String × Json)} :
    (readObject path label w).value = .ok members ↔
      ∃ document, w.files path = some document ∧ document.val = .obj members := by
  rw [readObject]
  cases hfile : w.files path with
  | none => simp [refuseReview]
  | some document =>
      simp only [Option.some.injEq, exists_eq_left']
      cases hval : document.val with
      | obj found => simp [loadJsonObject, hval, bind_eq_ok, pure_eq_ok]
      | _ => simp [loadJsonObject, hval, bind_eq_ok, refuseReview]

/-! ## The cases of an export -/

/-- What an export reads before it looks for the bundle. -/
structure ExportSource (git : GitReader) (w : ReviewWorld) (runId : String) (run : RunRecord)
    (task : QueueTask) (commit : String) : Prop where
  found : w.store.history.find? (fun item => item.runId = runId) = some run
  accepted : run.ok
  task : latestTask? w.store.tasks run.workItemId = some task
  resolved : ∃ runCommit, run.commit = some runCommit ∧ git.resolveCommit runCommit = .ok commit

/-- What git says about the commit of a new bundle. -/
structure GitEvidence (git : GitReader) (commit : String) (evidence : CommitEvidence) : Prop where
  root : evidence.root = git.root
  commit : evidence.commit = commit
  patchText : git.patchText evidence.commit = .ok evidence.patchText
  changedFiles : git.changedFiles evidence.commit = .ok evidence.changedFiles
  parentCommit : git.parentCommit evidence.commit = .ok evidence.parentCommit

/-- A bundle that is indexed, with a document that agrees with its index. -/
structure StoredBundle (runtime : Runtime) (w : ReviewWorld) (existing : ReviewBundleRecord)
    (payload : List (String × Json)) : Prop where
  document : ∃ document, w.files existing.bundlePath = some document ∧ document.val = .obj payload
  valid : ValidBundle runtime payload
  digest : contentSha256 runtime payload = existing.bundleSha256

theorem reloadBundle_eq_ok {existing : ReviewBundleRecord} {commit : String}
    {exported : ReviewBundleExport} :
    (reloadBundle runtime existing commit w).value = .ok exported ↔
      exported.record = existing ∧ existing.commit = commit ∧
        StoredBundle runtime w existing exported.payload := by
  rw [reloadBundle, (silent_readObject _ _).bind_run]
  cases hread : (readObject existing.bundlePath "Review bundle" w).value with
  -- the file cannot be read, so nothing is stored there
  | error e =>
      refine iff_of_false (by simp) ?_
      rintro ⟨-, -, hstored⟩
      rw [readObject_eq_ok.mpr hstored.document] at hread
      cases hread
  | ok payload =>
      have hdocument := readObject_eq_ok.mp hread
      -- the file is read as one document only
      have hunique : ∀ {other : List (String × Json)}, StoredBundle runtime w existing other →
          other = payload := by
        intro other hother
        exact Except.ok.inj ((readObject_eq_ok.mpr hother.document).symm.trans hread)
      dsimp only
      rw [(silent_lift _).bind_run]
      by_cases hvalid : ValidBundle runtime payload
      -- a valid bundle carries the digest that is compared
      · obtain ⟨integrity, hfield, -, -, hdigest⟩ := hvalid.integrity
        have hitem : item (field payload "integrity") "payload_sha256" =
            .ok (.str (contentSha256 runtime payload)) := by
          rw [hfield]
          exact item_of_field hdigest (by simp)
        have hlift : (lift (validateReviewBundle runtime payload) : ReviewM Unit) w = ⟨[], .ok ()⟩ := by
          rw [validateReviewBundle_eq_ok.mpr hvalid]
          rfl
        rw [hlift, hitem]
        dsimp only
        rw [Durable.lift_bind_ok _ rfl]
        have htest : isText (.str (contentSha256 runtime payload)) existing.bundleSha256 = true ↔
            contentSha256 runtime payload = existing.bundleSha256 := by
          simp [isText]
        -- the digest and the commit are those of the record
        by_cases hsame : contentSha256 runtime payload = existing.bundleSha256 ∧ existing.commit = commit
        · rw [if_pos (by rwa [htest]), Durable.pure_run, Except.ok.injEq]
          constructor
          · rintro rfl
            exact ⟨rfl, hsame.2, hdocument, hvalid, hsame.1⟩
          · obtain ⟨exportedRecord, exportedPayload⟩ := exported
            rintro ⟨rfl, -, hstored⟩
            obtain rfl := hunique hstored
            rfl
        · rw [if_neg (by rwa [htest])]
          refine iff_of_false (by simp) ?_
          rintro ⟨-, hcommit, hstored⟩
          obtain rfl := hunique hstored
          exact hsame ⟨hstored.digest, hcommit⟩
      -- a document that is no valid bundle is refused before the comparison
      · cases hcheck : validateReviewBundle runtime payload with
        | ok u => exact absurd (validateReviewBundle_eq_ok.mp hcheck) hvalid
        | error e =>
            refine iff_of_false (by simp [lift]) ?_
            rintro ⟨-, -, hstored⟩
            obtain rfl := hunique hstored
            exact hvalid hstored.valid

/-- The content an export gives the bundle of a run. -/
def exportContent (runtime : Runtime) (threeHead : Option ThreeHeadConfig) (createdAt : String)
    (evidence : CommitEvidence) (task : QueueTask) (run : RunRecord) : List (String × Json) :=
  bundlePayload runtime (requiredConfig threeHead)
    (bundleIdOf (requiredConfig threeHead).isSome run.runId) createdAt evidence task run

/-- The document of a new bundle. -/
def exportDocument (runtime : Runtime) (threeHead : Option ThreeHeadConfig) (createdAt : String)
    (evidence : CommitEvidence) (task : QueueTask) (run : RunRecord) : Payload :=
  ⟨.obj (sealedBundle runtime (exportContent runtime threeHead createdAt evidence task run)),
    distinctKeys_sealedBundle runtime _ _ createdAt evidence task run⟩

/-- The index record of a new bundle. -/
def exportRecord (runtime : Runtime) (threeHead : Option ThreeHeadConfig) (createdAt : String)
    (evidence : CommitEvidence) (task : QueueTask) (run : RunRecord) : ReviewBundleRecord :=
  bundleRecord runtime (bundleIdOf (requiredConfig threeHead).isSome run.runId) createdAt run
    evidence.commit (exportContent runtime threeHead createdAt evidence task run)

/-- The writes of a new bundle: file, index, and two journal entries. -/
def exportWrites (runtime : Runtime) (threeHead : Option ThreeHeadConfig) (createdAt : String)
    (evidence : CommitEvidence) (task : QueueTask) (run : RunRecord) (event : JournalEvent) :
    List ReviewWrite :=
  let record := exportRecord runtime threeHead createdAt evidence task run
  let payload := sealedBundle runtime (exportContent runtime threeHead createdAt evidence task run)
  [.file (canonicalPath record.bundleId)
      (exportDocument runtime threeHead createdAt evidence task run),
    .store (.reviewBundle record), .store (.journal event),
    .store (.journal (bundlePayloadEvent run record.bundleId payload))]

/-- What an export can do. -/
inductive ExportRun (runtime : Runtime) (git : GitReader) (threeHead : Option ThreeHeadConfig)
    (runId createdAt : String) (w : ReviewWorld) :
    Durable.Outcome ReviewWrite ReviewError ReviewBundleExport → Prop where
  | refused (e : ReviewError) : ExportRun runtime git threeHead runId createdAt w ⟨[], .error e⟩
  /-- The bundle is indexed already. -/
  | reloaded {run : RunRecord} {task : QueueTask} {existing : ReviewBundleRecord}
      {payload : List (String × Json)} (source : ExportSource git w runId run task existing.commit)
      (indexed : w.store.reviewBundles.find? (fun item =>
        item.bundleId = bundleIdOf (requiredConfig threeHead).isSome run.runId) = some existing)
      (stored : StoredBundle runtime w existing payload) :
    ExportRun runtime git threeHead runId createdAt w ⟨[], .ok ⟨existing, payload⟩⟩
  | written {run : RunRecord} {task : QueueTask} {evidence : CommitEvidence} {event : JournalEvent}
      (source : ExportSource git w runId run task evidence.commit)
      (unindexed : w.store.reviewBundles.find? (fun item =>
        item.bundleId = bundleIdOf (requiredConfig threeHead).isSome run.runId) = none)
      (read : GitEvidence git evidence.commit evidence)
      (valid : ValidBundle runtime
        (sealedBundle runtime (exportContent runtime threeHead createdAt evidence task run))) :
    ExportRun runtime git threeHead runId createdAt w
      ⟨exportWrites runtime threeHead createdAt evidence task run event,
        .ok ⟨exportRecord runtime threeHead createdAt evidence task run,
          sealedBundle runtime (exportContent runtime threeHead createdAt evidence task run)⟩⟩

theorem recordReviewBundle_new {record : ReviewBundleRecord} {s : Store}
    (h : s.reviewBundles.find? (fun item => item.bundleId = record.bundleId) = none) :
    ∃ event, recordReviewBundle record s = ⟨[.reviewBundle record, .journal event], .ok record⟩ := by
  rw [recordReviewBundle, read_bind, h]
  exact ⟨_, rfl⟩

/-- A new bundle is written exactly when it is valid. -/
theorem writeBundle_valid {createdAt : String} {task : QueueTask} {run : RunRecord}
    {evidence : CommitEvidence} (hread : GitEvidence git evidence.commit evidence)
    (hunindexed : w.store.reviewBundles.find? (fun item =>
      item.bundleId = bundleIdOf (requiredConfig threeHead).isSome run.runId) = none)
    (hvalid : ValidBundle runtime
      (sealedBundle runtime (exportContent runtime threeHead createdAt evidence task run))) :
    ∃ event, writeBundle runtime git (requiredConfig threeHead)
      (bundleIdOf (requiredConfig threeHead).isSome run.runId) evidence.commit createdAt task run w =
        ⟨exportWrites runtime threeHead createdAt evidence task run event,
          .ok ⟨exportRecord runtime threeHead createdAt evidence task run,
            sealedBundle runtime (exportContent runtime threeHead createdAt evidence task run)⟩⟩ := by
  obtain ⟨root, commit, parentCommit, patchText, changedFiles⟩ := evidence
  -- the patch, the changed files and the parent are read from the repository
  obtain ⟨rfl, -, hpatch, hchanged, hparent⟩ := hread
  obtain ⟨event, hrecord⟩ : ∃ event, recordReviewBundle (exportRecord runtime threeHead createdAt
      ⟨git.root, commit, parentCommit, patchText, changedFiles⟩ task run) w.store =
        ⟨[.reviewBundle _, .journal event], .ok _⟩ := recordReviewBundle_new hunindexed
  refine ⟨event, ?_⟩
  -- the sealed bundle passes its own validation, so its file is written
  rw [exportContent] at hvalid
  rw [writeBundle, Durable.lift_bind_ok _ hpatch, Durable.lift_bind_ok _ hchanged,
    Durable.lift_bind_ok _ hparent]
  dsimp only
  rw [Durable.lift_bind_ok _ (validateReviewBundle_eq_ok.mpr hvalid), Durable.write_bind]
  -- the record and its event follow in the store
  have hstore : ∀ (path : String) (document : Payload), onStore (recordReviewBundle (exportRecord
      runtime threeHead createdAt ⟨git.root, commit, parentCommit, patchText, changedFiles⟩ task run))
      (World.apply w (ReviewWrite.file path document)) = ⟨[.store (.reviewBundle (exportRecord runtime
        threeHead createdAt ⟨git.root, commit, parentCommit, patchText, changedFiles⟩ task run)),
        .store (.journal event)], .ok (exportRecord runtime threeHead createdAt
          ⟨git.root, commit, parentCommit, patchText, changedFiles⟩ task run)⟩ := by
    intro path document
    have hsame : (World.apply w (ReviewWrite.file path document)).store = w.store := rfl
    rw [onStore, hsame, hrecord]
    rfl
  erw [Durable.bind_of_ok (hstore _ _), Durable.write_bind]
  rfl

/-- A new bundle that is not valid is refused before anything is written. -/
theorem writeBundle_invalid {createdAt : String} {task : QueueTask} {run : RunRecord}
    {evidence : CommitEvidence} (hread : GitEvidence git evidence.commit evidence)
    (hinvalid : ¬ ValidBundle runtime
      (sealedBundle runtime (exportContent runtime threeHead createdAt evidence task run))) :
    ∃ e, writeBundle runtime git (requiredConfig threeHead)
      (bundleIdOf (requiredConfig threeHead).isSome run.runId) evidence.commit createdAt task run w =
        ⟨[], .error e⟩ := by
  obtain ⟨root, commit, parentCommit, patchText, changedFiles⟩ := evidence
  obtain ⟨rfl, -, hpatch, hchanged, hparent⟩ := hread
  rw [exportContent] at hinvalid
  rw [writeBundle, Durable.lift_bind_ok _ hpatch, Durable.lift_bind_ok _ hchanged,
    Durable.lift_bind_ok _ hparent]
  dsimp only
  cases hcheck : validateReviewBundle runtime (sealedBundle runtime (bundlePayload runtime
      (requiredConfig threeHead) (bundleIdOf (requiredConfig threeHead).isSome run.runId) createdAt
      ⟨git.root, commit, parentCommit, patchText, changedFiles⟩ task run)) with
  | ok u => exact absurd (validateReviewBundle_eq_ok.mp hcheck) hinvalid
  | error e =>
      rw [Durable.lift_bind_error _ rfl]
      exact ⟨e, rfl⟩

/-- Git answers about a commit, or the export is refused before anything is written. -/
theorem writeBundle_unread (runtime : Runtime) (git : GitReader) (config : Option ThreeHeadConfig)
    (bundleId commit createdAt : String) (task : QueueTask) (run : RunRecord) (w : ReviewWorld) :
    (∃ evidence, evidence.commit = commit ∧ GitEvidence git commit evidence) ∨
      ∃ e, writeBundle runtime git config bundleId commit createdAt task run w = ⟨[], .error e⟩ := by
  cases hpatch : git.patchText commit with
  | error e =>
      rw [writeBundle, Durable.lift_bind_error _ hpatch]
      exact Or.inr ⟨e, rfl⟩
  | ok patchText =>
      cases hchanged : git.changedFiles commit with
      | error e =>
          rw [writeBundle, Durable.lift_bind_ok _ hpatch, Durable.lift_bind_error _ hchanged]
          exact Or.inr ⟨e, rfl⟩
      | ok changedFiles =>
          cases hparent : git.parentCommit commit with
          | error e =>
              rw [writeBundle, Durable.lift_bind_ok _ hpatch, Durable.lift_bind_ok _ hchanged,
                Durable.lift_bind_error _ hparent]
              exact Or.inr ⟨e, rfl⟩
          | ok parentCommit =>
              exact Or.inl ⟨⟨git.root, commit, parentCommit, patchText, changedFiles⟩, rfl,
                ⟨rfl, rfl, hpatch, hchanged, hparent⟩⟩

theorem findRun_eq_ok {runId : String} {run : RunRecord} :
    (findRun runId w).value = .ok run ↔
      w.store.history.find? (fun item => item.runId = runId) = some run := by
  rw [findRun, Durable.read_bind]
  cases w.store.history.find? fun item => item.runId = runId <;> simp

theorem findTask_eq_ok {workItemId : String} {task : QueueTask} :
    (findTask workItemId w).value = .ok task ↔ latestTask? w.store.tasks workItemId = some task := by
  rw [findTask, Durable.read_bind]
  cases latestTask? w.store.tasks workItemId <;> simp

theorem reviewedCommit_eq_ok {run : RunRecord} {commit : String} :
    reviewedCommit run = .ok commit ↔ run.ok ∧ run.commit = some commit := by
  rw [reviewedCommit]
  cases run.commit with
  | none => simp [refuseReview]
  | some found =>
      by_cases hok : run.ok
      · simp [hok]
      · simp [hok, refuseReview]

/-- The export of a run that can be reviewed: its bundle read back, or written. -/
theorem exportReviewBundle_source {runId createdAt commit : String} {run : RunRecord}
    {task : QueueTask} (hsource : ExportSource git w runId run task commit) :
    exportReviewBundle runtime git threeHead runId createdAt w =
      match w.store.reviewBundles.find? fun item =>
        item.bundleId = bundleIdOf (requiredConfig threeHead).isSome run.runId with
      | some existing => reloadBundle runtime existing commit w
      | none => writeBundle runtime git (requiredConfig threeHead)
          (bundleIdOf (requiredConfig threeHead).isSome run.runId) commit createdAt task run w := by
  obtain ⟨runCommit, hcommit, hresolved⟩ := hsource.resolved
  rw [exportReviewBundle, (silent_findRun _).bind_run, findRun_eq_ok.mpr hsource.found]
  dsimp only
  rw [Durable.lift_bind_ok _ (reviewedCommit_eq_ok.mpr ⟨hsource.accepted, hcommit⟩),
    (silent_findTask _).bind_run, findTask_eq_ok.mpr hsource.task]
  dsimp only
  rw [Durable.lift_bind_ok _ hresolved, Durable.read_bind]
  cases w.store.reviewBundles.find? fun item =>
    item.bundleId = bundleIdOf (requiredConfig threeHead).isSome run.runId <;> rfl

/-- Any other run is refused. -/
theorem exportReviewBundle_unsourced (runtime : Runtime) (threeHead : Option ThreeHeadConfig)
    (createdAt : String) {runId : String}
    (h : ∀ run task commit, ¬ ExportSource git w runId run task commit) :
    ∃ e, exportReviewBundle runtime git threeHead runId createdAt w = ⟨[], .error e⟩ := by
  -- the run, its commit, its task and the resolved commit are read in turn
  rw [exportReviewBundle, (silent_findRun _).bind_run]
  cases hrun : (findRun runId w).value with
  | error e => exact ⟨e, rfl⟩
  | ok run =>
      dsimp only
      cases hreviewed : reviewedCommit run with
      | error e =>
          rw [Durable.lift_bind_error _ rfl]
          exact ⟨e, rfl⟩
      | ok runCommit =>
          rw [Durable.lift_bind_ok _ rfl, (silent_findTask _).bind_run]
          cases htask : (findTask run.workItemId w).value with
          | error e => exact ⟨e, rfl⟩
          | ok task =>
              dsimp only
              cases hresolved : git.resolveCommit runCommit with
              | error e =>
                  rw [Durable.lift_bind_error _ rfl]
                  exact ⟨e, rfl⟩
              | ok commit =>
                  -- all four were read, which is what a source is
                  obtain ⟨hok, hcommit⟩ := reviewedCommit_eq_ok.mp hreviewed
                  exact absurd ⟨findRun_eq_ok.mp hrun, hok, findTask_eq_ok.mp htask, runCommit,
                    hcommit, hresolved⟩ (h run task commit)

/-- **Every export is one of these.** -/
theorem exportRun (runtime : Runtime) (git : GitReader) (threeHead : Option ThreeHeadConfig)
    (runId createdAt : String) (w : ReviewWorld) :
    ExportRun runtime git threeHead runId createdAt w
      (exportReviewBundle runtime git threeHead runId createdAt w) := by
  by_cases hsourced : ∃ run task commit, ExportSource git w runId run task commit
  · obtain ⟨run, task, commit, hsource⟩ := hsourced
    rw [exportReviewBundle_source hsource]
    -- an indexed bundle is reloaded; it writes nothing whether it answers or raises
    cases hindex : w.store.reviewBundles.find? fun item =>
        item.bundleId = bundleIdOf (requiredConfig threeHead).isSome run.runId with
    | some existing =>
        dsimp only
        have hsilent := silent_reloadBundle runtime existing commit w
        cases hvalue : (reloadBundle runtime existing commit w).value with
        | error e =>
            have hrun : reloadBundle runtime existing commit w = ⟨[], .error e⟩ := by
              rw [← hvalue, ← hsilent]
            rw [hrun]
            exact .refused e
        | ok exported =>
            have hrun : reloadBundle runtime existing commit w = ⟨[], .ok exported⟩ := by
              rw [← hvalue, ← hsilent]
            obtain ⟨rfl, rfl, hstored⟩ := reloadBundle_eq_ok.mp hvalue
            rw [hrun]
            exact .reloaded hsource hindex hstored
    | none =>
        -- no bundle is indexed: it is built from the evidence and validated before it is written
        dsimp only
        rcases writeBundle_unread runtime git (requiredConfig threeHead)
          (bundleIdOf (requiredConfig threeHead).isSome run.runId) commit createdAt task run w with
          ⟨evidence, rfl, hread⟩ | ⟨e, hrun⟩
        · by_cases hvalid : ValidBundle runtime
            (sealedBundle runtime (exportContent runtime threeHead createdAt evidence task run))
          · obtain ⟨event, hrun⟩ := writeBundle_valid hread hindex hvalid
            rw [hrun]
            exact .written hsource hindex hread hvalid
          · obtain ⟨e, hrun⟩ := writeBundle_invalid (w := w) hread hvalid
            rw [hrun]
            exact .refused e
        · rw [hrun]
          exact .refused e
  · obtain ⟨e, hrun⟩ := exportReviewBundle_unsourced runtime threeHead createdAt
      fun run task commit hsource => hsourced ⟨run, task, commit, hsource⟩
    rw [hrun]
    exact .refused e

end LlmHarness
