/-
  LlmHarness.Operations.CrashRestore

  A task whose process dies between the durable phase `patch_applied` and its
  commit, and the operator's `restore-patch` after it.  The restoration gives
  the repository back exactly as it was when every changed path has a plain
  name and no file the patch created is staged or alone in a new directory.
-/

import LlmHarness.Operations.Resolution

namespace LlmHarness

open Python Durable Durable.Program Guards

/-! ## The run of a task up to its staged paths -/

/-- What `run` works with from `begin_task` on. -/
structure TaskRun where
  context : OperationContext
  taskId : String
  patch : Text
  /-- What `git apply` writes. -/
  effect : PatchEffect
  changedFiles : List String
  /-- `result_to_json` of the provisional result. -/
  result : Json
  createdAt : String
  intentAt : String
  appliedAt : String
  verifiedAt : String

/-- The operation id. -/
def TaskRun.id (task : TaskRun) : String := task.context.operationId.val

/-- The changed paths. -/
def TaskRun.paths (task : TaskRun) : List Text := task.changedFiles.map String.toList

/-- What `begin_task` reads. -/
def TaskRun.beginView (task : TaskRun) (repository : Repository) : BeginView :=
  ⟨gitAnswer (currentHead repository), repository.fileTree, task.createdAt, task.intentAt⟩

/-- `run` from `begin_task` to `stage_paths`, when the verification changes no file. -/
def runTask (runtime : LedgerRuntime) (task : TaskRun) : CheckoutM Unit := do
  let repository ← Program.read Checkout.repository
  let _ ← onLedger (beginTask runtime (task.beginView repository) task.context task.taskId
    task.patch task.changedFiles)
  Program.write (.git (applyPatch repository task.effect))
  let _ ← onLedger (recordPhase runtime task.id "patch_applied" task.appliedAt [])
  let _ ← onLedger (recordPhase runtime task.id "verified" task.verifiedAt [("result", task.result)])
  Program.write (.git (stagePaths (applyPatch repository task.effect) task.paths))

/-! ## Paths of a worktree -/

/-- No file of the tree lies below the path. -/
def NoneBelow (tree : Tree) (path : Text) : Prop :=
  ∀ other, path ++ ['/'] <+: other → tree.get? other = none

theorem any_below_iff (tree : Tree) (path : Text) :
    (tree.any fun entry => (path ++ ['/']).isPrefixOf entry.1) = true ↔ ¬ NoneBelow tree path := by
  rw [List.any_eq_true, NoneBelow, not_forall]
  constructor
  · rintro ⟨entry, hentry, hbelow⟩
    refine ⟨entry.1, fun hnone => ?_⟩
    have hmissing := (dictGet?_eq_none_iff tree entry.1).mp (hnone (List.isPrefixOf_iff_prefix.mp hbelow))
    exact hmissing (List.mem_map_of_mem hentry)
  · rintro ⟨other, hother⟩
    rw [Classical.not_imp] at hother
    obtain ⟨blob, hblob⟩ := Option.ne_none_iff_exists'.mp hother.2
    obtain ⟨entry, hentry, rfl⟩ := List.mem_map.mp (Tree.mem_keys_of_get? hblob)
    exact ⟨entry, hentry, List.isPrefixOf_iff_prefix.mpr hother.1⟩

theorem noneBelow_of_pathState {repository : Repository} {path : Text}
    (h : repository.pathState path ≠ .other) : path ≠ ['.'] ∧ NoneBelow repository.work path := by
  rw [Repository.pathState] at h
  by_cases hother : path = ['.'] ∨
      (repository.work.any fun entry => (path ++ ['/']).isPrefixOf entry.1) = true
  · exact absurd (if_pos hother) h
  · rw [not_or, any_below_iff, not_not] at hother
    exact hother

theorem pathState_of_noneBelow {repository : Repository} {path : Text} (hdot : path ≠ ['.'])
    (h : NoneBelow repository.work path) :
    repository.pathState path = match repository.work.get? path with
      | some blob => if blob.symlink then .symlink blob.content else .file blob.content
      | none => .absent := by
  have hfile : ¬ (path = ['.'] ∨
      (repository.work.any fun entry => (path ++ ['/']).isPrefixOf entry.1) = true) := by
    rw [not_or, any_below_iff, not_not]
    exact ⟨hdot, h⟩
  exact if_neg hfile

theorem pathState_eq_absent_iff {repository : Repository} {path : Text}
    (h : repository.pathState path ≠ .other) :
    repository.pathState path = .absent ↔ repository.work.get? path = none := by
  obtain ⟨hdot, hbelow⟩ := noneBelow_of_pathState h
  rw [pathState_of_noneBelow hdot hbelow]
  cases repository.work.get? path with
  | none => exact iff_of_true rfl rfl
  | some blob =>
      refine iff_of_false ?_ (Option.some_ne_none blob)
      show ¬ (if blob.symlink then PathState.symlink blob.content else .file blob.content) = .absent
      cases blob.symlink <;> simp

theorem isNull_pathEvidence (runtime : LedgerRuntime) (state : PathState) :
    isNull (pathEvidence runtime state) = true ↔ state = .absent := by
  cases state with
  | absent => exact iff_of_true rfl rfl
  | file content => exact iff_of_false Bool.false_ne_true (by simp)
  | symlink target => exact iff_of_false Bool.false_ne_true (by simp)
  | other => exact iff_of_false Bool.false_ne_true (by simp)

/-! ## The record of an interrupted task -/

/-- The evidence a record keeps of a worktree. -/
def evidenceOf (runtime : LedgerRuntime) (repository : Repository) (paths : List String) :
    FileEvidence :=
  dictOfPairs (paths.map fun path => (path, pathEvidence runtime (repository.fileTree path)))

/-- The record of a task that has no commit and has not ended. -/
structure Started (runtime : LedgerRuntime) (before : Repository) (task : TaskRun)
    (record : OperationRecord) : Prop where
  body : ValidBody runtime task.id record
  isOpen : field record "terminal_outcome" = .null
  commit : field record "commit" = .null
  head : field record "baseline_head" = .str before.head
  scope : field record "expected_changed_files" = .arr (task.changedFiles.map Json.str)
  baseline : field record "baseline_files" = .obj (evidenceOf runtime before task.changedFiles)
  post : field record "expected_post_files" =
    .obj (evidenceOf runtime (applyPatch before task.effect) task.changedFiles)

/-- Its patch is applied, and the phase is durable. -/
structure Interrupted (runtime : LedgerRuntime) (before : Repository) (task : TaskRun)
    (record : OperationRecord) : Prop extends Started runtime before task record where
  phase : hasPatchPhase record
  valid : validateRecord runtime (.obj record) task.id = .ok record

/-- A task on a clean repository, whose patch Git applies in the worktree as in the directory
    the evidence is derived in.  Its paths are ordinary ones, and no ignore rule hides them: the
    worktree of a `Repository` is the files that `git status` looks at. -/
structure CleanStart (runtime : LedgerRuntime) (checkout : Checkout) (task : TaskRun) : Prop where
  born : checkout.repository.Born
  clean : MatchesHead checkout.repository
  /-- The operation id is new: no record and no commit carries it. -/
  newRecord : dictGet? checkout.ledger.files task.id = none
  newCommit : findCommitByTrailer checkout.repository "HoH-Operation" task.id = .ok none
  nonempty : task.changedFiles ≠ []
  /-- Relative and in normal form, and to Git neither a pattern nor magic. -/
  ordinary : ∀ path ∈ task.paths, isOrdinaryPath path
  /-- The patch changes exactly the paths of its scope. -/
  scope : ∀ path, path ∈ task.paths ↔
    (applyPatch checkout.repository task.effect).work.get? path ≠ checkout.repository.work.get? path
  derived : ∀ left, runtime.gitApply task.patch
      (candidateTree checkout.repository.fileTree task.changedFiles) = .ok left →
    ∀ path ∈ task.changedFiles, left path =
      (applyPatch checkout.repository task.effect).fileTree path

variable {runtime : LedgerRuntime} {task : TaskRun}

theorem field_evidenceOf (runtime : LedgerRuntime) (repository : Repository) {paths : List String} {path : String}
    (h : path ∈ paths) :
    field (evidenceOf runtime repository paths) path =
      pathEvidence runtime (repository.fileTree path) := by
  have hkey : path ∈ (evidenceOf runtime repository paths).map Prod.fst := mem_keys_evidence.mpr h
  obtain ⟨entry, hentry, rfl⟩ := List.mem_map.mp hkey
  have hnodup : ((evidenceOf runtime repository paths).map Prod.fst).Nodup :=
    nodup_keys_dictOfPairs _
  have hget := (mem_iff_dictGet? hnodup entry.1 entry.2).mp hentry
  rw [field, hget, Option.getD_some]
  exact (mem_evidence hentry).2

/-! ### The ledger calls -/

/-- A phase that was written. -/
theorem recordPhase_eq {operationId name now : String} {changes : List (String × Json)}
    {ledger : Ledger} {record : OperationRecord}
    (h : (recordPhase runtime operationId name now changes ledger).value = .ok record) :
    ∃ loaded phases, (loadRecord runtime operationId ledger).value = .ok loaded ∧
      field loaded "phases" = .obj phases ∧ isNull (field loaded "terminal_outcome") ∧
      record = sealRecord runtime (changes.foldl dictInsert
        (dictInsert loaded ("phases", .obj (setPhase phases name now)))) ∧
      recordPhase runtime operationId name now changes ledger =
        ⟨[(pyStr (field (changes.foldl dictInsert
          (dictInsert loaded ("phases", .obj (setPhase phases name now)))) "operation_id"), record)],
          .ok record⟩ := by
  rw [recordPhase] at h ⊢
  -- nothing is written before the record is loaded
  cases hload : (loadRecord runtime operationId ledger).value with
  | error e =>
      have hloaded : loadRecord runtime operationId ledger = ⟨[], .error e⟩ := by
        rw [← hload]
        rfl
      rw [bind_of_error hloaded] at h
      cases h
  | ok loaded =>
      have hloaded : loadRecord runtime operationId ledger = ⟨[], .ok loaded⟩ := by
        rw [← hload]
        rfl
      rw [bind_of_ok hloaded] at h ⊢
      rw [applyAll_nil] at h ⊢
      -- a record that has ended takes no further phase
      by_cases hopen : (!isNull (field loaded "terminal_outcome")) = true
      · rw [if_pos hopen] at h
        cases h
      · rw [if_neg hopen] at h ⊢
        rw [Bool.not_eq_true, Bool.not_eq_false'] at hopen
        cases hphases : field loaded "phases" with
        | obj phases =>
            rw [hphases] at h
            obtain rfl := Except.ok.inj h
            exact ⟨loaded, phases, rfl, hphases, hopen, rfl, rfl⟩
        | null => rw [hphases] at h; cases h
        | bool _ => rw [hphases] at h; cases h
        | int _ => rw [hphases] at h; cases h
        | float _ => rw [hphases] at h; cases h
        | str _ => rw [hphases] at h; cases h
        | arr _ => rw [hphases] at h; cases h

/-- The first record of a task that was written. -/
theorem beginTask_eq {view : BeginView} {context : OperationContext} {taskId : String} {patch : Text}
    {paths : List String} {ledger : Ledger} {record : OperationRecord}
    (hnew : dictGet? ledger.files context.operationId = none)
    (h : (beginTask runtime view context taskId patch paths ledger).value = .ok record) :
    ∃ head evidence, view.head = .ok head ∧
      patchFileEvidence runtime view.tree patch paths = .ok evidence ∧
      record = sealRecord runtime (taskRecord runtime context taskId patch paths head evidence
        view.createdAt view.intentAt) ∧
      beginTask runtime view context taskId patch paths ledger =
        ⟨[(context.operationId.val, record)], .ok record⟩ := by
  rw [beginTask] at h ⊢
  -- `git rev-parse HEAD` and the evidence come first; what either raises leaves no record
  cases hhead : view.head with
  | error e =>
      rw [hhead, lift_bind_error _ rfl] at h
      cases h
  | ok head =>
      rw [hhead, lift_bind_ok _ rfl] at h
      rw [lift_bind_ok _ rfl]
      cases hevidence : patchFileEvidence runtime view.tree patch paths with
      | error e =>
          rw [hevidence, lift_bind_error _ rfl] at h
          cases h
      | ok evidence =>
          rw [hevidence, lift_bind_ok _ rfl] at h
          rw [lift_bind_ok _ rfl]
          refine ⟨head, evidence, rfl, rfl, ?_⟩
          -- a new operation: `create` is a plain write under the id of the context
          have hname : pyStr (field (taskRecord runtime context taskId patch paths head evidence
              view.createdAt view.intentAt) "operation_id") = context.operationId.val := rfl
          have hcreate : createRecord runtime (taskRecord runtime context taskId patch paths head
              evidence view.createdAt view.intentAt) ledger =
              writeRecord runtime (taskRecord runtime context taskId patch paths head evidence
                view.createdAt view.intentAt) ledger := by
            rw [createRecord, hname, read_bind, hnew]
            rfl
          rw [hcreate] at h ⊢
          obtain rfl := Except.ok.inj h
          exact ⟨rfl, rfl⟩

/-! ### The records of the run -/

theorem field_foldl_dictInsert {changes : List (String × Json)} {name : String}
    (h : ∀ change ∈ changes, change.1 ≠ name) (record : OperationRecord) :
    field (changes.foldl dictInsert record) name = field record name := by
  induction changes generalizing record with
  | nil => rfl
  | cons change changes ih =>
      obtain ⟨hfirst, hrest⟩ := List.forall_mem_cons.mp h
      rw [List.foldl_cons, ih hrest, field_dictInsert, if_neg hfirst.symm]

/-- A phase keeps what the record says of the task. -/
theorem Started.phased {before : Repository} {loaded : OperationRecord}
    (h : Started runtime before task loaded) (phases : List (String × Json))
    {changes : List (String × Json)} (hchanges : ∀ change ∈ changes, change.1 = "result") :
    Started runtime before task (sealRecord runtime (changes.foldl dictInsert
        (dictInsert loaded ("phases", .obj phases)))) ∧
      field (sealRecord runtime (changes.foldl dictInsert
        (dictInsert loaded ("phases", .obj phases)))) "phases" = .obj phases ∧
      ValidBody runtime task.id (changes.foldl dictInsert
        (dictInsert loaded ("phases", .obj phases))) := by
  have hbody : ValidBody runtime task.id (changes.foldl dictInsert
      (dictInsert loaded ("phases", .obj phases))) := by
    refine (h.body.insert (by decide) fun _ => ⟨phases, rfl⟩).insertAll fun change hchange => ?_
    rw [hchanges change hchange]
    exact ⟨by decide, fun hname => absurd hname (by decide)⟩
  -- the digest, the result and the phases apart, no field changes
  have hkept : ∀ name, name ≠ "record_sha256" → name ≠ "result" → name ≠ "phases" →
      field (sealRecord runtime (changes.foldl dictInsert
        (dictInsert loaded ("phases", .obj phases)))) name = field loaded name := by
    intro name hdigest hresult hphases
    rw [sealRecord, field_dictInsert, if_neg hdigest,
      field_foldl_dictInsert fun change hchange => by rw [hchanges change hchange]; exact hresult.symm,
      field_dictInsert, if_neg hphases]
  refine ⟨⟨hbody.insert (by decide) fun hname => absurd hname (by decide), ?_, ?_, ?_, ?_, ?_, ?_⟩,
    ?_, hbody⟩
  · rw [hkept _ (by decide) (by decide) (by decide)]
    exact h.isOpen
  · rw [hkept _ (by decide) (by decide) (by decide)]
    exact h.commit
  · rw [hkept _ (by decide) (by decide) (by decide)]
    exact h.head
  · rw [hkept _ (by decide) (by decide) (by decide)]
    exact h.scope
  · rw [hkept _ (by decide) (by decide) (by decide)]
    exact h.baseline
  · rw [hkept _ (by decide) (by decide) (by decide)]
    exact h.post
  -- the phases are the last of the three writes to set
  · rw [sealRecord, field_dictInsert, if_neg (by decide),
      field_foldl_dictInsert fun change hchange => by rw [hchanges change hchange]; decide,
      field_dictInsert, if_pos rfl]

/-- The phase `patch_applied` is there once it is set, and stays. -/
theorem isSome_setPhase {phases : List (String × Json)} {name now : String}
    (h : name = "patch_applied" ∨ (dictGet? phases "patch_applied").isSome) :
    (dictGet? (setPhase phases name now) "patch_applied").isSome := by
  rw [setPhase]
  by_cases hset : (dictGet? phases name).isSome
  · rw [if_pos hset]
    rcases h with rfl | h
    · exact hset
    · exact h
  · rw [if_neg hset, dictGet?_dictInsert]
    by_cases hname : "patch_applied" = name
    · rw [if_pos hname]
      rfl
    · rw [if_neg hname]
      exact h.resolve_left fun heq => hname heq.symm

/-- A phase of a started task that was written. -/
theorem interrupted_recordPhase {before : Repository} {ledger : Ledger} {name now : String}
    {changes : List (String × Json)} {stored record : OperationRecord}
    (hstored : dictGet? ledger.files task.id = some stored)
    (hstarted : Started runtime before task stored)
    (hname : name = "patch_applied" ∨ hasPatchPhase stored)
    (hchanges : ∀ change ∈ changes, change.1 = "result")
    (h : (recordPhase runtime task.id name now changes ledger).value = .ok record) :
    Interrupted runtime before task record ∧
      recordPhase runtime task.id name now changes ledger = ⟨[(task.id, record)], .ok record⟩ := by
  obtain ⟨loaded, phases, hload, hphases, -, rfl, hrun⟩ := recordPhase_eq h
  -- the record on file is valid, so loading it returns it
  have hsame : loaded = stored := by
    obtain ⟨hid, -⟩ := loadRecord_eq_ok hload
    have hvalue : validateRecord runtime (((dictGet? ledger.files task.id).map Json.obj).getD .null)
        task.id = .ok loaded := (if_pos hid).symm.trans hload
    rw [hstored] at hvalue
    exact (validateRecord_eq_ok.mp hvalue).1
  subst hsame
  obtain ⟨hkept, hset, hbody⟩ := hstarted.phased (setPhase phases name now) hchanges
  refine ⟨⟨hkept, ?_, validateRecord_sealRecord hbody⟩, ?_⟩
  · rw [hasPatchPhase, hset]
    refine isSome_setPhase (hname.imp_right fun hphase => ?_)
    rwa [hasPatchPhase, hphases] at hphase
  · rw [hrun, pyStr_of_isText hbody.identity]

/-- The first record of the task. -/
theorem started_taskRecord {checkout : Checkout} (hstart : CleanStart runtime checkout task)
    {evidence : FileEvidence × FileEvidence}
    (hevidence : patchFileEvidence runtime checkout.repository.fileTree task.patch
      task.changedFiles = .ok evidence)
    (hbody : ValidBody runtime task.id (sealRecord runtime (taskRecord runtime task.context
      task.taskId task.patch task.changedFiles checkout.repository.head evidence task.createdAt
      task.intentAt))) :
    Started runtime checkout.repository task (sealRecord runtime (taskRecord runtime task.context
      task.taskId task.patch task.changedFiles checkout.repository.head evidence task.createdAt
      task.intentAt)) := by
  obtain ⟨baseline, post⟩ := evidence
  obtain ⟨-, rfl, left, hleft, rfl⟩ := patchFileEvidence_eq_ok hevidence
  -- the postcondition is the evidence of the patched tree, where git and the patch agree
  have hpost : (task.changedFiles.map fun path => (path, pathEvidence runtime (left path))) =
      task.changedFiles.map fun path => (path, pathEvidence runtime
        ((applyPatch checkout.repository task.effect).fileTree path)) :=
    List.map_congr_left fun path hpath => by rw [hstart.derived left hleft path hpath]
  refine ⟨hbody, ?_, ?_, ?_, ?_, ?_, ?_⟩
  · rw [sealRecord, field_dictInsert, if_neg (by decide)]
    rfl
  · rw [sealRecord, field_dictInsert, if_neg (by decide)]
    rfl
  · rw [sealRecord, field_dictInsert, if_neg (by decide)]
    rfl
  · rw [sealRecord, field_dictInsert, if_neg (by decide)]
    rfl
  · rw [sealRecord, field_dictInsert, if_neg (by decide)]
    rfl
  · rw [sealRecord, field_dictInsert, if_neg (by decide), hpost]
    rfl

theorem onLedger_run {α : Type} {m : LedgerM α} (checkout : Checkout)
    {files : List (String × OperationRecord)} {value : Except OperationError α}
    (h : m checkout.ledger = ⟨files, value⟩) :
    onLedger m checkout = ⟨files.map .record, value⟩ := by
  rw [onLedger, h]

/-- What a run that got as far as staging its paths has written. -/
structure Reached (runtime : LedgerRuntime) (checkout : Checkout) (task : TaskRun)
    (first applied verified : OperationRecord) : Prop where
  run : runTask runtime task checkout =
    ⟨[.record (task.id, first), .git (applyPatch checkout.repository task.effect),
      .record (task.id, applied), .record (task.id, verified),
      .git (stagePaths (applyPatch checkout.repository task.effect) task.paths)], .ok ()⟩
  baselineFiles : ∀ path ∈ task.changedFiles, checkout.repository.fileTree path ≠ .other
  postFiles : ∀ path ∈ task.changedFiles,
    (applyPatch checkout.repository task.effect).fileTree path ≠ .other
  appliedRecord : Interrupted runtime checkout.repository task applied
  verifiedRecord : Interrupted runtime checkout.repository task verified

/-- **A run writes its records around the patch**, and each says the same of the task. -/
theorem exists_reached {checkout : Checkout} (hstart : CleanStart runtime checkout task) {u : Unit}
    (h : (runTask runtime task checkout).value = .ok u) :
    ∃ first applied verified, Reached runtime checkout task first applied verified := by
  -- the run is read backwards, write by write
  have hread := h
  rw [runTask] at hread
  obtain ⟨repository, hrepository, hread, -⟩ := exists_of_bind_ok hread
  obtain rfl : checkout.repository = repository := Except.ok.inj hrepository
  obtain ⟨first, hfirst, hread, -⟩ := exists_of_bind_ok hread
  have hsilent : (Program.read Checkout.repository : CheckoutM Repository).final checkout = checkout :=
    rfl
  rw [hsilent] at hfirst hread
  obtain ⟨head, evidence, hhead, hevidence, hrecord, hbegin⟩ := beginTask_eq hstart.newRecord hfirst
  obtain rfl : checkout.repository.head = head := Except.ok.inj hhead
  -- the record is on file and the patch in the worktree
  rw [final_onLedger] at hread
  obtain ⟨begun, hbegun⟩ : ∃ begun : Ledger,
      begun = ⟨dictInsert checkout.ledger.files (task.id, first)⟩ := ⟨_, rfl⟩
  have hfiles : (beginTask runtime (task.beginView checkout.repository) task.context task.taskId
      task.patch task.changedFiles).final checkout.ledger = begun := by
    rw [Program.final, hbegin, hbegun]
    rfl
  rw [hfiles] at hread
  obtain ⟨_, -, hread, -⟩ := exists_of_bind_ok hread
  -- the phase `patch_applied` is noted on the record that `begin_task` left
  obtain ⟨applied, happlied, hread, -⟩ := exists_of_bind_ok hread
  have happliedValue : (recordPhase runtime task.id "patch_applied" task.appliedAt [] begun).value =
      .ok applied := happlied
  obtain ⟨loaded, phases, hload, -⟩ := recordPhase_eq happliedValue
  have hstored : dictGet? begun.files task.id = some first := by
    rw [hbegun, dictGet?_dictInsert, if_pos rfl]
  have hbody : ValidBody runtime task.id first := by
    obtain ⟨hid, hbody⟩ := loadRecord_eq_ok hload
    have hvalue : validateRecord runtime (((dictGet? begun.files task.id).map Json.obj).getD .null)
        task.id = .ok loaded := (if_pos hid).symm.trans hload
    rw [hstored] at hvalue
    rwa [(validateRecord_eq_ok.mp hvalue).1] at hbody
  have hstarted : Started runtime checkout.repository task first := by
    rw [hrecord] at hbody ⊢
    exact started_taskRecord hstart hevidence hbody
  obtain ⟨happliedRecord, happliedRun⟩ :=
    interrupted_recordPhase hstored hstarted (Or.inl rfl) (fun _ hmem => absurd hmem List.not_mem_nil)
      happliedValue
  rw [final_onLedger] at hread
  -- ... and `verified` on the record that the first phase left
  obtain ⟨verified, hverified, -, -⟩ := exists_of_bind_ok hread
  obtain ⟨noted, hnoted⟩ : ∃ noted : Ledger,
      noted = ⟨dictInsert begun.files (task.id, applied)⟩ := ⟨_, rfl⟩
  have hagain : (recordPhase runtime task.id "patch_applied" task.appliedAt []).final begun =
      noted := by
    rw [Program.final, happliedRun, hnoted]
    rfl
  have hverifiedValue : (recordPhase runtime task.id "verified" task.verifiedAt
      [("result", task.result)] noted).value = .ok verified := by
    rw [← hagain]
    exact hverified
  have hstoredAgain : dictGet? noted.files task.id = some applied := by
    rw [hnoted, dictGet?_dictInsert, if_pos rfl]
  obtain ⟨hverifiedRecord, hverifiedRun⟩ :=
    interrupted_recordPhase hstoredAgain happliedRecord.toStarted (Or.inr happliedRecord.phase)
      (fun change hmem => by rw [List.mem_singleton.mp hmem]) hverifiedValue
  subst hbegun hnoted
  refine ⟨first, applied, verified, ?_, ?_, ?_, happliedRecord, hverifiedRecord⟩
  · refine bind_eq_of_ok (read_run _ checkout) ?_
    refine bind_eq_of_ok (onLedger_run checkout hbegin) ?_
    refine bind_eq_of_ok (write_run _ _) ?_
    refine bind_eq_of_ok (onLedger_run ⟨applyPatch checkout.repository task.effect, _⟩ happliedRun) ?_
    exact bind_eq_of_ok
      (onLedger_run ⟨applyPatch checkout.repository task.effect, _⟩ hverifiedRun) (write_run _ _)
  -- the scope check of the first record says that no path holds a directory
  · exact (patchFileEvidence_eq_ok hevidence).1
  · intro path hpath
    have hscope := hbody.scope
    rw [hrecord] at hscope
    simp only [sealRecord, field_dictInsert] at hscope
    have hleaves := (validateScope_evidence _ _ hevidence).mp hscope
    obtain ⟨-, -, left, hleft, -⟩ := patchFileEvidence_eq_ok hevidence
    rw [← hstart.derived left hleft path hpath]
    exact hleaves.files left hleft path hpath

/-! ## The repository of an interrupted task -/

/-- The patch is in the worktree, and some of its paths may be staged. -/
structure InterruptedAt (before : Repository) (task : TaskRun) (repository : Repository) : Prop where
  head : repository.head = before.head
  commits : repository.commits = before.commits
  work : repository.work = (applyPatch before task.effect).work
  index : ∀ path, path ∉ task.paths → repository.index.get? path = before.headTree.get? path
  staged : ∀ path ∈ task.paths, repository.index.get? path = before.headTree.get? path ∨
    repository.index.get? path = (applyPatch before task.effect).work.get? path

theorem interruptedAt_applied {before : Repository} (hclean : MatchesHead before) :
    InterruptedAt before task (applyPatch before task.effect) where
  head := rfl
  commits := rfl
  work := rfl
  index path _ := hclean.index path
  staged path _ := Or.inl (hclean.index path)

theorem interruptedAt_staged {before : Repository} (hclean : MatchesHead before) :
    InterruptedAt before task (stagePaths (applyPatch before task.effect) task.paths) := by
  have hget := get?_copyPaths (applyPatch before task.effect).work before.index task.paths
  refine ⟨rfl, rfl, rfl, fun path hpath => ?_, fun path hpath => ?_⟩
  · have hindex := hget path
    rw [if_neg hpath] at hindex
    exact hindex.trans (hclean.index path)
  · have hindex := hget path
    rw [if_pos hpath] at hindex
    exact Or.inr hindex

section

variable {checkout : Checkout} {repository : Repository} {outside : StateView}

theorem InterruptedAt.headTree {before : Repository} (h : InterruptedAt before task repository) :
    repository.headTree = before.headTree := by
  rw [Repository.headTree, Repository.headTree, Repository.treeOf, Repository.treeOf,
    Repository.commit?, Repository.commit?, h.commits, h.head]

/-- The changed paths are those of the scope. -/
theorem InterruptedAt.dirty_iff (hstart : CleanStart runtime checkout task)
    (h : InterruptedAt checkout.repository task repository) (path : Text) :
    repository.Dirty path ↔ path ∈ task.paths := by
  rw [Repository.Dirty, h.headTree, h.work]
  constructor
  · intro hdirty
    by_contra hpath
    have hsame := not_not.mp (mt (hstart.scope path).mpr hpath)
    exact hdirty ⟨h.index path hpath, hsame.trans (hstart.clean.work path)⟩
  · intro hpath hsame
    exact (hstart.scope path).mp hpath (hsame.2.trans (hstart.clean.work path).symm)

theorem quote_not_mem_of_ordinary {path : Text} (h : isOrdinaryPath path) : '"' ∉ path := by
  simp only [isOrdinaryPath, Bool.and_eq_true] at h
  intro hquote
  have hspecial : path.any isSpecialPathChar = true := List.any_eq_true.mpr ⟨'"', hquote, by decide⟩
  rw [hspecial] at h
  exact Bool.false_ne_true h.2

/-- The names of the status are the paths of the scope exactly when each has a plain name and
    none is alone in a new directory. -/
theorem InterruptedAt.showsExactly_iff (hstart : CleanStart runtime checkout task)
    (h : InterruptedAt checkout.repository task repository) :
    repository.ShowsExactly task.paths ↔
      ∀ path ∈ task.paths, isPlainName path ∧ ¬ repository.Collapsed path := by
  refine LlmHarness.showsExactly_iff (h.dirty_iff hstart)
    (fun path hpath => quote_not_mem_of_ordinary (hstart.ordinary path hpath))
    (fun path hpath => getLast?_of_ordinary (hstart.ordinary path hpath))
    fun path hpath hnone hwork => ?_
  rcases h.staged path hpath with hindex | hindex
  · rw [h.headTree, ← hindex, hnone]
  · rw [h.work, ← hindex] at hwork
    exact absurd hnone hwork

theorem InterruptedAt.not_clean (hstart : CleanStart runtime checkout task)
    (h : InterruptedAt checkout.repository task repository) : repositoryIsClean repository = false := by
  rw [Bool.eq_false_iff, ne_eq, repositoryIsClean_iff]
  intro hclean
  obtain ⟨path, hpath⟩ := List.exists_mem_of_ne_nil _ hstart.nonempty
  have hmem : path.toList ∈ task.paths := List.mem_map_of_mem hpath
  exact (h.dirty_iff hstart _).mpr hmem ⟨hclean.index _, hclean.work _⟩

/-- The evidence of the worktree is the one of the record. -/
theorem InterruptedAt.matchesPatch {record : OperationRecord}
    (h : InterruptedAt checkout.repository task repository)
    (hrecord : Interrupted runtime checkout.repository task record) :
    (repositoryView outside repository).matchesPatch runtime record = true := by
  have htree : repository.fileTree = (applyPatch checkout.repository task.effect).fileTree := by
    funext relative
    rw [Repository.fileTree, Repository.fileTree, Repository.pathState, Repository.pathState, h.work]
  have hpost := hrecord.post
  have hscope := hrecord.scope
  rw [ReconcileView.matchesPatch]
  simp only [hpost, hscope, listTexts, List.map_map]
  rw [List.all_eq_true]
  intro path hpath
  obtain ⟨text, htext, rfl⟩ := List.mem_map.mp hpath
  have hview : (repositoryView outside repository).tree = repository.fileTree := rfl
  have hfield := field_evidenceOf runtime (applyPatch checkout.repository task.effect) htext
  show sameJson _ (field _ text) = true
  rw [hfield, hview, htree]
  exact decide_eq_true rfl

/-- What `_classify` says of an interrupted task. -/
theorem InterruptedAt.classification {record : OperationRecord}
    (hstart : CleanStart runtime checkout task)
    (h : InterruptedAt checkout.repository task repository)
    (hrecord : Interrupted runtime checkout.repository task record)
    (hstate : outside.stateComplete repository record = .ok false) :
    ∃ item, LlmHarness.classification runtime (repositoryView outside repository) (.valid record) =
        .ok (item, none) ∧
      (item.classification = "patch_applied" ↔ repository.ShowsExactly task.paths) := by
  -- no commit names the operation, and the state does not know the task as done
  have hname : pyStr (field record "operation_id") = task.id := pyStr_of_isText hrecord.body.identity
  have hcommit : findCommitByTrailer repository "HoH-Operation" task.id = .ok none := by
    have hnew := hstart.newCommit
    rwa [findCommitByTrailer, ← h.commits] at hnew
  have hevidence : (repositoryView outside repository).evidence record =
      .ok (false, none, repository.head, repositoryIsClean repository) := by
    have hfind : (repositoryView outside repository).findCommit task.id = .ok none := by
      show gitAnswer (findCommitByTrailer repository "HoH-Operation" task.id) = _
      rw [hcommit]
      rfl
    have hcomplete : (repositoryView outside repository).stateComplete record = .ok false := hstate
    rw [ReconcileView.evidence, hcomplete, hrecord.commit, hname, hfind]
    rfl
  have hscope : (listTexts (field record "expected_changed_files")).map String.toList = task.paths := by
    rw [hrecord.scope, listTexts, List.map_map, List.map_map]
    rfl
  have hhead : isText (field record "baseline_head") repository.head = true := by
    rw [hrecord.head, h.head]
    exact decide_eq_true rfl
  -- the record is open and the patch phase is set: only the set of changed paths decides
  rw [LlmHarness.classification, if_neg (by rw [hrecord.isOpen]; decide)]
  simp only [hevidence]
  rw [classifyWorktree_eq, hhead, h.not_clean hstart, Bool.and_false, if_neg Bool.false_ne_true,
    Bool.true_and, holdsPatch, hrecord.phase, h.matchesPatch hrecord, Bool.true_and, Bool.and_true]
  by_cases hnames : sameSet ((workingChangedFiles repository).map String.ofList)
      (listTexts (field record "expected_changed_files")) = true
  · rw [if_pos hnames]
    refine ⟨_, rfl, iff_of_true rfl ?_⟩
    rw [← hscope]
    exact showsExactly_of_sameSet hnames
  · rw [if_neg hnames]
    refine ⟨_, rfl, iff_of_false ?_ fun hshows => hnames (sameSet_of_showsExactly ?_)⟩
    · exact fun hitem => absurd (show "contradictory" = "patch_applied" from hitem) (by decide)
    · rwa [hscope]

/-! ## The restoration -/

/-- The path is one the operation created. -/
def isCreated (files : FileEvidence) (path : Text) : Bool :=
  files.any fun entry => isNull entry.2 && worktreePath entry.1 = path

theorem noneBelow_of_le {tree tree' : Tree} {path : Text} (h : NoneBelow tree path)
    (hle : ∀ other, tree.get? other = none → tree'.get? other = none) : NoneBelow tree' path :=
  fun other hbelow => hle other (h other hbelow)

/-- The removal of a path that is no directory. -/
theorem removeCreated_run {relative : String} {checkout : Checkout}
    (hdot : worktreePath relative ≠ ['.'])
    (hbelow : NoneBelow checkout.repository.work (worktreePath relative)) :
    ∃ writes work, removeCreated relative checkout = ⟨writes, .ok ()⟩ ∧
      applyAll checkout writes =
        { checkout with repository := { checkout.repository with work := work } } ∧
      ∀ path, work.get? path = if path = worktreePath relative then none
        else checkout.repository.work.get? path := by
  have hstate : checkout.repository.fileTree relative = _ := pathState_of_noneBelow hdot hbelow
  have hunlink := Tree.get?_set checkout.repository.work (worktreePath relative) none
  rw [removeCreated, read_bind]
  -- a path that does not exist is skipped, a file or a link is unlinked
  cases hget : checkout.repository.work.get? (worktreePath relative) with
  | none =>
      rw [hget] at hstate
      simp only [hstate]
      refine ⟨[], checkout.repository.work, rfl, rfl, fun path => ?_⟩
      by_cases hpath : path = worktreePath relative
      · rw [if_pos hpath, hpath, hget]
      · rw [if_neg hpath]
  | some blob =>
      rw [hget] at hstate
      cases hlink : blob.symlink with
      | true =>
          simp only [hlink, if_true] at hstate
          simp only [hstate]
          exact ⟨_, _, rfl, rfl, hunlink⟩
      | false =>
          simp only [hlink, Bool.false_eq_true, if_false] at hstate
          simp only [hstate]
          exact ⟨_, _, rfl, rfl, hunlink⟩

/-- The loop removes exactly the created paths. -/
theorem removeCreatedPaths_run {files : FileEvidence} (checkout : Checkout)
    (h : ∀ entry ∈ files, worktreePath entry.1 ≠ ['.'] ∧
      NoneBelow checkout.repository.work (worktreePath entry.1)) :
    ∃ writes work, removeCreatedPaths files checkout = ⟨writes, .ok ()⟩ ∧
      applyAll checkout writes =
        { checkout with repository := { checkout.repository with work := work } } ∧
      ∀ path, work.get? path = if isCreated files path then none
        else checkout.repository.work.get? path := by
  induction files generalizing checkout with
  | nil => exact ⟨[], checkout.repository.work, rfl, rfl, fun _ => rfl⟩
  | cons entry files ih =>
      obtain ⟨relative, evidence⟩ := entry
      obtain ⟨⟨hdot, hbelow⟩, hrest⟩ := List.forall_mem_cons.mp h
      -- a path is created when the entry says so or a later one does
      have hcreated : ∀ path, isCreated ((relative, evidence) :: files) path =
          (isNull evidence && worktreePath relative = path || isCreated files path) := fun _ => rfl
      by_cases hnull : isNull evidence = true
      · obtain ⟨writes, work, hrun, hleft, hwork⟩ := removeCreated_run hdot hbelow
        -- the rest of the loop starts from fewer files
        obtain ⟨writes', work', hrun', hleft', hwork'⟩ := ih
          { checkout with repository := { checkout.repository with work := work } }
          fun entry hentry => ⟨(hrest entry hentry).1,
            noneBelow_of_le (hrest entry hentry).2 fun other hnone => by
              show work.get? other = none
              rw [hwork, hnone, ite_self]⟩
        have hstep : removeCreatedPaths ((relative, evidence) :: files) checkout =
            ⟨writes ++ writes', .ok ()⟩ := by
          rw [removeCreatedPaths]
          simp only [hnull, if_true]
          exact bind_eq_of_ok hrun (by rw [hleft]; exact hrun')
        refine ⟨writes ++ writes', work', hstep, ?_, fun path => ?_⟩
        · rw [applyAll_append, hleft, hleft']
        · rw [hwork', hcreated, hnull, Bool.true_and]
          show (if isCreated files path then none else work.get? path) = _
          rw [hwork]
          by_cases hpath : path = worktreePath relative
          · rw [if_pos hpath, ite_self, if_pos (by simp [hpath])]
          · have hother : decide (worktreePath relative = path) = false :=
              decide_eq_false fun heq => hpath heq.symm
            rw [if_neg hpath, hother, Bool.false_or]
      · obtain ⟨writes, work, hrun, hleft, hwork⟩ := ih checkout hrest
        rw [Bool.not_eq_true] at hnull
        refine ⟨writes, work, ?_, hleft, fun path => ?_⟩
        · rw [removeCreatedPaths]
          simp only [hnull, Bool.false_eq_true, if_false]
          exact hrun
        · rw [hwork, hcreated, hnull, Bool.false_and, Bool.false_or]

/-! ### `git restore` -/

variable {first applied verified : OperationRecord} {pathspecs : Pathspecs}

/-- What each path of the scope held before. -/
theorem Reached.pathState_before (hstart : CleanStart runtime checkout task)
    (h : Reached runtime checkout task first applied verified) {path : Text}
    (hpath : path ∈ task.paths) : checkout.repository.pathState path ≠ .other := by
  obtain ⟨text, htext, rfl⟩ := List.mem_map.mp hpath
  have hfile := h.baselineFiles text htext
  have hname := worktreePath_of_ordinary (hstart.ordinary _ hpath)
  rw [String.ofList_toList] at hname
  rwa [Repository.fileTree, hname] at hfile

/-- What it holds once the patch is applied. -/
theorem Reached.pathState_after (hstart : CleanStart runtime checkout task)
    (h : Reached runtime checkout task first applied verified) {path : Text}
    (hpath : path ∈ task.paths) :
    (applyPatch checkout.repository task.effect).pathState path ≠ .other := by
  obtain ⟨text, htext, rfl⟩ := List.mem_map.mp hpath
  have hfile := h.postFiles text htext
  have hname := worktreePath_of_ordinary (hstart.ordinary _ hpath)
  rw [String.ofList_toList] at hname
  rwa [Repository.fileTree, hname] at hfile

theorem mem_trackedPaths (hstart : CleanStart runtime checkout task)
    (h : Reached runtime checkout task first applied verified) {path : Text} :
    path ∈ trackedPaths (evidenceOf runtime checkout.repository task.changedFiles) ↔
      path ∈ task.paths ∧ checkout.repository.work.get? path ≠ none := by
  -- the evidence of a path is null exactly when the path did not exist
  have hnull : ∀ text ∈ task.changedFiles,
      (isNull (pathEvidence runtime (checkout.repository.fileTree text)) = true ↔
        checkout.repository.work.get? text.toList = none) := by
    intro text htext
    have hpath : text.toList ∈ task.paths := List.mem_map_of_mem htext
    have hname := worktreePath_of_ordinary (hstart.ordinary _ hpath)
    rw [String.ofList_toList] at hname
    rw [isNull_pathEvidence, Repository.fileTree, hname]
    exact pathState_eq_absent_iff (h.pathState_before hstart hpath)
  rw [trackedPaths, List.mem_map]
  constructor
  · rintro ⟨entry, hentry, rfl⟩
    obtain ⟨hmem, hkept⟩ := List.mem_filter.mp hentry
    obtain ⟨htext, hvalue⟩ := mem_evidence hmem
    refine ⟨List.mem_map_of_mem htext, fun hnone => ?_⟩
    rw [hvalue, (hnull _ htext).mpr hnone] at hkept
    exact Bool.false_ne_true hkept
  · rintro ⟨hpath, hsome⟩
    obtain ⟨text, htext, rfl⟩ := List.mem_map.mp hpath
    have hkey : text ∈ (evidenceOf runtime checkout.repository task.changedFiles).map Prod.fst :=
      mem_keys_evidence.mpr htext
    obtain ⟨entry, hentry, rfl⟩ := List.mem_map.mp hkey
    refine ⟨entry, List.mem_filter.mpr ⟨hentry, ?_⟩, rfl⟩
    rw [(mem_evidence hentry).2, Bool.not_eq_true', Bool.eq_false_iff]
    exact fun hcreated => hsome ((hnull _ htext).mp hcreated)

theorem isCreated_iff (hstart : CleanStart runtime checkout task)
    (h : Reached runtime checkout task first applied verified) {path : Text} :
    isCreated (evidenceOf runtime checkout.repository task.changedFiles) path = true ↔
      path ∈ task.paths ∧ checkout.repository.work.get? path = none := by
  rw [isCreated, List.any_eq_true]
  -- an ordinary path is the place it names
  have hname : ∀ text ∈ task.changedFiles, worktreePath text = text.toList := by
    intro text htext
    have hplace := worktreePath_of_ordinary (hstart.ordinary _ (List.mem_map_of_mem htext))
    rwa [String.ofList_toList] at hplace
  constructor
  · rintro ⟨entry, hentry, hboth⟩
    rw [Bool.and_eq_true, decide_eq_true_eq] at hboth
    obtain ⟨hnull, rfl⟩ := hboth
    obtain ⟨htext, hvalue⟩ := mem_evidence hentry
    have hpath : entry.1.toList ∈ task.paths := List.mem_map_of_mem htext
    rw [hvalue, isNull_pathEvidence, Repository.fileTree, hname _ htext] at hnull
    rw [hname _ htext]
    exact ⟨hpath, (pathState_eq_absent_iff (h.pathState_before hstart hpath)).mp hnull⟩
  · rintro ⟨hpath, hnone⟩
    obtain ⟨text, htext, rfl⟩ := List.mem_map.mp hpath
    have hkey : text ∈ (evidenceOf runtime checkout.repository task.changedFiles).map Prod.fst :=
      mem_keys_evidence.mpr htext
    obtain ⟨entry, hentry, rfl⟩ := List.mem_map.mp hkey
    refine ⟨entry, hentry, ?_⟩
    rw [Bool.and_eq_true, decide_eq_true_eq, (mem_evidence hentry).2, isNull_pathEvidence,
      Repository.fileTree, hname _ htext]
    exact ⟨(pathState_eq_absent_iff (h.pathState_before hstart hpath)).mpr hnone, rfl⟩

/-- The pathspecs select the tracked paths and nothing else: below a path of the scope there
    is no file, neither in HEAD nor after the patch. -/
theorem selected_iff (hstart : CleanStart runtime checkout task)
    (h : Reached runtime checkout task first applied verified)
    (hat : InterruptedAt checkout.repository task repository) {path : Text} :
    path ∈ ((repository.known repository.head).filter fun path =>
        ((trackedPaths (evidenceOf runtime checkout.repository task.changedFiles)).map covers).any
          fun selects => selects path) ↔
      path ∈ trackedPaths (evidenceOf runtime checkout.repository task.changedFiles) := by
  -- git looks in the tree of HEAD and in the index
  have htree : repository.treeOf repository.head = checkout.repository.headTree := hat.headTree
  have hknown : ∀ other, other ∈ repository.known repository.head ↔
      checkout.repository.headTree.get? other ≠ none ∨ repository.index.get? other ≠ none := by
    intro other
    rw [Repository.known, List.mem_dedup, List.map_append, List.mem_append, htree, ne_eq, ne_eq,
      Tree.get?, Tree.get?, dictGet?_eq_none_iff, dictGet?_eq_none_iff, not_not, not_not]
  rw [List.mem_filter, List.any_map, List.any_eq_true]
  constructor
  · rintro ⟨hmem, spec, hspec, hcovers⟩
    rcases (covers_iff spec path).mp hcovers with rfl | hbelow
    · exact hspec
    · -- a file below a tracked path
      obtain ⟨hscope, -⟩ := (mem_trackedPaths hstart h).mp hspec
      have hbefore := (noneBelow_of_pathState (h.pathState_before hstart hscope)).2 path hbelow
      have hafter := (noneBelow_of_pathState (h.pathState_after hstart hscope)).2 path hbelow
      have hhead : checkout.repository.headTree.get? path = none := by
        rw [← hstart.clean.work]
        exact hbefore
      rcases (hknown path).mp hmem with hsome | hsome
      · exact absurd hhead hsome
      · by_cases hpath : path ∈ task.paths
        · rcases hat.staged path hpath with hindex | hindex
          · exact absurd (hindex.trans hhead) hsome
          · exact absurd (hindex.trans hafter) hsome
        · exact absurd ((hat.index path hpath).trans hhead) hsome
  · intro hspec
    refine ⟨(hknown path).mpr (Or.inl ?_), path, hspec, covers_refl path⟩
    rw [← hstart.clean.work]
    exact ((mem_trackedPaths hstart h).mp hspec).2

theorem zip_map_self {α β : Type} (f : α → β) (xs : List α) :
    xs.zip (xs.map f) = xs.map fun x => (x, f x) := by
  induction xs with
  | nil => rfl
  | cons x xs ih => rw [List.map_cons, List.map_cons, List.zip_cons_cons, ih]

variable (pathspecs) in
/-- `git restore` of the tracked paths. -/
theorem gitRestore_run (hstart : CleanStart runtime checkout task)
    (h : Reached runtime checkout task first applied verified)
    (hat : InterruptedAt checkout.repository task repository) :
    ∃ left, gitRestore pathspecs checkout.repository.head
        (trackedPaths (evidenceOf runtime checkout.repository task.changedFiles)) repository =
          .ok left ∧ left.head = repository.head ∧ left.commits = repository.commits ∧
      (∀ path, left.index.get? path =
        if path ∈ trackedPaths (evidenceOf runtime checkout.repository task.changedFiles)
        then checkout.repository.headTree.get? path else repository.index.get? path) ∧
      ∀ path, left.work.get? path =
        if path ∈ trackedPaths (evidenceOf runtime checkout.repository task.changedFiles)
        then checkout.repository.headTree.get? path else repository.work.get? path := by
  -- HEAD is where the operation began, so git resolves the recorded baseline
  have htree : repository.treeOf repository.head = checkout.repository.headTree := hat.headTree
  have hborn : repository.Born := by
    rw [Repository.Born, Repository.commit?, hat.head, hat.commits]
    exact hstart.born
  have hcommit : resolveCommit repository checkout.repository.head = .ok repository.head := by
    rw [← hat.head]
    exact resolveCommit_head hborn
  have hselected : ∀ path, _ ↔ path ∈ _ := fun path => selected_iff hstart h hat
  have hordinary : ∀ spec ∈ trackedPaths (evidenceOf runtime checkout.repository task.changedFiles),
      pathspecs.select spec = .ok (covers spec) := fun spec hspec =>
    pathspecs.ordinary spec (hstart.ordinary spec ((mem_trackedPaths hstart h).mp hspec).1)
  -- git answers for every tracked path, and each selects at least itself
  generalize trackedPaths (evidenceOf runtime checkout.repository task.changedFiles) = specs at *
  have hselections : specs.mapM pathspecs.select = .ok (specs.map covers) := by
    rw [mapM_eq_ok, List.forall₂_map_right_iff, List.forall₂_same]
    exact hordinary
  have hfind : (specs.zip (specs.map covers)).find?
      (fun spec => !(repository.known repository.head).any spec.2) = none := by
    rw [List.find?_eq_none]
    intro spec hspec
    rw [zip_map_self, List.mem_map] at hspec
    obtain ⟨name, hname, rfl⟩ := hspec
    rw [Bool.not_eq_true, Bool.not_eq_false', List.any_eq_true]
    exact ⟨name, (List.mem_filter.mp ((hselected name).mpr hname)).1, covers_refl name⟩
  have hrestore : gitRestore pathspecs checkout.repository.head specs repository =
      .ok (restorePaths repository repository.head ((repository.known repository.head).filter
        fun path => (specs.map covers).any fun selects => selects path)) := by
    rw [gitRestore, hcommit]
    show (do
      let selections ← specs.mapM pathspecs.select
      _ : Except GitError Repository) = _
    rw [hselections]
    dsimp only [Bind.bind, Except.bind]
    rw [hfind]
  -- the index and the worktree take the selected paths, which are the tracked ones
  refine ⟨_, hrestore, rfl, rfl, fun path => ?_, fun path => ?_⟩
  · have hget := get?_copyPaths (repository.treeOf repository.head) repository.index
      ((repository.known repository.head).filter
        fun path => (specs.map covers).any fun selects => selects path) path
    simp only [hselected] at hget
    rw [← htree]
    exact hget
  · have hget := get?_copyPaths (repository.treeOf repository.head) repository.work
      ((repository.known repository.head).filter
        fun path => (specs.map covers).any fun selects => selects path) path
    simp only [hselected] at hget
    rw [← htree]
    exact hget

/-- After the restoration the worktree is the one of HEAD; so is the index where HEAD had a
    file. -/
structure RestoredFrom (before : Repository) (task : TaskRun) (repository left : Repository) :
    Prop where
  head : left.head = before.head
  commits : left.commits = before.commits
  work : ∀ path, left.work.get? path = before.headTree.get? path
  index : ∀ path, (path ∈ task.paths → before.headTree.get? path = none) →
    left.index.get? path = repository.index.get? path
  tracked : ∀ path ∈ task.paths, before.headTree.get? path ≠ none →
    left.index.get? path = before.headTree.get? path

/-- The removal loop, once the tracked paths are restored. -/
theorem removeCreatedPaths_restored (hstart : CleanStart runtime checkout task)
    (h : Reached runtime checkout task first applied verified)
    (hat : InterruptedAt checkout.repository task repository) {left : Repository} (ledger : Ledger)
    (hhead : left.head = repository.head) (hcommits : left.commits = repository.commits)
    (hindex : ∀ path, left.index.get? path =
      if path ∈ trackedPaths (evidenceOf runtime checkout.repository task.changedFiles)
      then checkout.repository.headTree.get? path else repository.index.get? path)
    (hwork : ∀ path, left.work.get? path =
      if path ∈ trackedPaths (evidenceOf runtime checkout.repository task.changedFiles)
      then checkout.repository.headTree.get? path else repository.work.get? path) :
    ∃ writes last, removeCreatedPaths
        (evidenceOf runtime checkout.repository task.changedFiles) ⟨left, ledger⟩ =
          ⟨writes, .ok ()⟩ ∧
      applyAll (⟨left, ledger⟩ : Checkout) writes = ⟨last, ledger⟩ ∧
      RestoredFrom checkout.repository task repository last := by
  -- before and after the patch nothing lies below a path, so nothing does after the restore
  have hplaces : ∀ entry ∈ evidenceOf runtime checkout.repository task.changedFiles,
      worktreePath entry.1 ≠ ['.'] ∧ NoneBelow left.work (worktreePath entry.1) := by
    intro entry hentry
    have hpath : entry.1.toList ∈ task.paths := List.mem_map_of_mem (mem_evidence hentry).1
    have hname := worktreePath_of_ordinary (hstart.ordinary _ hpath)
    rw [String.ofList_toList] at hname
    rw [hname]
    obtain ⟨hdot, hbefore⟩ := noneBelow_of_pathState (h.pathState_before hstart hpath)
    obtain ⟨-, hafter⟩ := noneBelow_of_pathState (h.pathState_after hstart hpath)
    refine ⟨hdot, fun other hbelow => ?_⟩
    rw [hwork other]
    split
    · rw [← hstart.clean.work]
      exact hbefore other hbelow
    · rw [hat.work]
      exact hafter other hbelow
  obtain ⟨writes, work, hrun, hleft, hlast⟩ :=
    removeCreatedPaths_run ⟨left, ledger⟩ hplaces
  refine ⟨writes, { left with work := work }, hrun, hleft, hhead.trans hat.head,
    hcommits.trans hat.commits, fun path => ?_, fun path hpath => ?_, fun path hpath hsome => ?_⟩
  -- a path was created, is tracked, or is none of the patch's
  · show work.get? path = _
    rw [hlast]
    show (if isCreated _ path then none else left.work.get? path) = _
    by_cases hcreated : isCreated (evidenceOf runtime checkout.repository task.changedFiles) path
    · rw [if_pos hcreated, ← hstart.clean.work]
      exact ((isCreated_iff hstart h).mp hcreated).2.symm
    · rw [if_neg hcreated, hwork]
      by_cases htracked : path ∈ trackedPaths (evidenceOf runtime checkout.repository task.changedFiles)
      · rw [if_pos htracked]
      · -- neither created nor tracked: the patch does not touch the path
        rw [if_neg htracked, hat.work, ← hstart.clean.work]
        by_contra hchanged
        have hscope : path ∈ task.paths := (hstart.scope path).mpr hchanged
        by_cases hnone : checkout.repository.work.get? path = none
        · exact hcreated ((isCreated_iff hstart h).mpr ⟨hscope, hnone⟩)
        · exact htracked ((mem_trackedPaths hstart h).mpr ⟨hscope, hnone⟩)
  -- the index takes back the tracked paths and keeps the created ones
  · show left.index.get? path = _
    rw [hindex, if_neg]
    intro htracked
    obtain ⟨hscope, hsome⟩ := (mem_trackedPaths hstart h).mp htracked
    rw [hstart.clean.work] at hsome
    exact hsome (hpath hscope)
  · show left.index.get? path = _
    rw [hindex, if_pos]
    rw [← hstart.clean.work] at hsome
    exact (mem_trackedPaths hstart h).mpr ⟨hpath, hsome⟩

/-- `_restore_recorded_baseline` of an interrupted task. -/
theorem restoreRecordedBaseline_run (pathspecs : Pathspecs) {record : OperationRecord}
    (hstart : CleanStart runtime checkout task)
    (h : Reached runtime checkout task first applied verified)
    (hat : InterruptedAt checkout.repository task repository)
    (hrecord : Interrupted runtime checkout.repository task record) (ledger : Ledger) :
    ∃ writes last, restoreRecordedBaseline pathspecs record ⟨repository, ledger⟩ =
        ⟨writes, .ok ()⟩ ∧
      applyAll (⟨repository, ledger⟩ : Checkout) writes = ⟨last, ledger⟩ ∧
      RestoredFrom checkout.repository task repository last := by
  have hsource : pyStr (field record "baseline_head") = checkout.repository.head := by
    rw [hrecord.head]
    rfl
  rw [restoreRecordedBaseline, hrecord.baseline]
  -- `git restore` runs only over tracked paths
  by_cases htracked : trackedPaths (evidenceOf runtime checkout.repository task.changedFiles) ≠ []
  · obtain ⟨left, hrestore, hhead, hcommits, hindex, hwork⟩ :=
      gitRestore_run pathspecs hstart h hat
    obtain ⟨writes, last, hrun, hlast, hrestored⟩ :=
      removeCreatedPaths_restored hstart h hat ledger hhead hcommits hindex hwork
    refine ⟨.git left :: writes, last, ?_, hlast, hrestored⟩
    simp only [htracked, ne_eq, not_false_eq_true, if_true]
    rw [read_bind, hsource, lift_bind_ok _ (by rw [hrestore]; rfl), write_bind]
    have hstate : World.apply (⟨repository, ledger⟩ : Checkout) (.git left) = ⟨left, ledger⟩ := rfl
    rw [hstate, hrun]
  · -- nothing to restore: the loop alone
    have hnone := not_not.mp htracked
    have hno : ∀ path, path ∉ trackedPaths (evidenceOf runtime checkout.repository
        task.changedFiles) := by
      rw [hnone]
      exact fun _ => List.not_mem_nil
    obtain ⟨writes, last, hrun, hlast, hrestored⟩ :=
      removeCreatedPaths_restored hstart h hat ledger rfl rfl (fun path => (if_neg (hno path)).symm)
        fun path => (if_neg (hno path)).symm
    refine ⟨writes, last, ?_, hlast, hrestored⟩
    simp only [htracked, if_false]
    exact hrun

/-! ## The operator's resolution -/

/-- The repository is as it was before the task, and the operation has ended as reverted. -/
structure Recovered (before : Repository) (operationId : String) (after : Checkout) : Prop where
  head : after.repository.head = before.head
  commits : after.repository.commits = before.commits
  index : ∀ path, after.repository.index.get? path = before.index.get? path
  work : ∀ path, after.repository.work.get? path = before.work.get? path
  ended : ∃ record, dictGet? after.ledger.files operationId = some record ∧
    isText (field record "terminal_outcome") "reverted"

/-- A classification that writes nothing back. -/
theorem classifyStored_run (outside : StateView) {operationId : String} {item : ReconciliationItem}
    {loaded : OperationRecord} (start : Checkout)
    (hload : (loadRecord runtime operationId start.ledger).value = .ok loaded)
    (hclass : LlmHarness.classification runtime (repositoryView outside start.repository)
      (.valid loaded) = .ok (item, none)) :
    classifyStored runtime outside operationId start = ⟨[], .ok (item, loaded)⟩ := by
  have hloaded : loadRecord runtime operationId start.ledger = ⟨[], .ok loaded⟩ := by
    rw [← hload]
    rfl
  have hclassify : classify runtime (repositoryView outside start.repository) (.valid loaded)
      start.ledger = ⟨[], .ok (item, .valid loaded)⟩ := by
    rw [classify, lift_bind_ok _ hclass]
    rfl
  refine bind_eq_of_ok (onLedger_run start hloaded) ?_
  refine bind_eq_of_ok (read_run _ start) ?_
  exact bind_eq_of_ok (onLedger_run start hclassify) rfl

/-- The end of an operation that is open. -/
theorem recordTerminal_run {operationId outcome now : String} {detail : Option String}
    {ledger : Ledger} {loaded : OperationRecord} (houtcome : terminalOutcomes.contains outcome)
    (hload : (loadRecord runtime operationId ledger).value = .ok loaded)
    (hopen : field loaded "terminal_outcome" = .null) :
    recordTerminal runtime operationId outcome detail now ledger =
      ⟨[(operationId, sealRecord runtime (endedRecord runtime loaded outcome detail now))],
        .ok (sealRecord runtime (endedRecord runtime loaded outcome detail now))⟩ := by
  have hloaded : loadRecord runtime operationId ledger = ⟨[], .ok loaded⟩ := by
    rw [← hload]
    rfl
  have hname : pyStr (field (endedRecord runtime loaded outcome detail now) "operation_id") =
      operationId := by
    rw [(isText_endedRecord runtime loaded outcome detail now).2]
    exact pyStr_of_isText (loadRecord_eq_ok hload).2.identity
  rw [recordTerminal, if_neg (by rw [houtcome]; decide)]
  refine (bind_of_ok hloaded).trans ?_
  rw [applyAll_nil]
  simp only [hopen]
  rw [writeRecord, write_bind, hname]
  rfl

theorem RestoredFrom.headTree {before last : Repository}
    (h : RestoredFrom before task repository last) : last.headTree = before.headTree := by
  rw [Repository.headTree, Repository.headTree, Repository.treeOf, Repository.treeOf,
    Repository.commit?, Repository.commit?, h.commits, h.head]

/-- When the restored repository is clean. -/
theorem RestoredFrom.clean_iff (hstart : CleanStart runtime checkout task) {last : Repository}
    (hat : InterruptedAt checkout.repository task repository)
    (h : RestoredFrom checkout.repository task repository last) :
    MatchesHead last ↔ ∀ path ∈ task.paths, checkout.repository.work.get? path = none →
      repository.index.get? path = none := by
  have htree := h.headTree
  constructor
  · intro hclean path hpath hnone
    rw [hstart.clean.work] at hnone
    rw [← h.index path fun _ => hnone, hclean.index, htree]
    exact hnone
  · intro hcreated
    refine ⟨fun path => ?_, fun path => by rw [h.work, htree]⟩
    rw [htree]
    by_cases hpath : path ∈ task.paths
    · by_cases hnone : checkout.repository.headTree.get? path = none
      · rw [h.index path fun _ => hnone, hnone]
        exact hcreated path hpath ((hstart.clean.work path).trans hnone)
      · exact h.tracked path hpath hnone
    · rw [h.index path fun hmem => absurd hmem hpath]
      exact hat.index path hpath

theorem load_of_interrupted {record : OperationRecord} {ledger : Ledger}
    (hrecord : Interrupted runtime checkout.repository task record)
    (hstored : dictGet? ledger.files task.id = some record) :
    (loadRecord runtime task.id ledger).value = .ok record := by
  have hload : (loadRecord runtime task.id ledger).value = validateRecord runtime
      (((dictGet? ledger.files task.id).map Json.obj).getD .null) task.id :=
    if_pos task.context.operationId.property
  rw [hload, hstored]
  exact hrecord.valid

/-- A refused restoration leaves an operation that has not ended. -/
theorem not_recovered_of_open {record : OperationRecord} {after : Checkout}
    (hrecord : Interrupted runtime checkout.repository task record)
    (hstored : dictGet? after.ledger.files task.id = some record) :
    ¬ Recovered checkout.repository task.id after := by
  rintro ⟨-, -, -, -, ended, hended, houtcome⟩
  rw [Option.some.inj (hended.symm.trans hstored), hrecord.isOpen] at houtcome
  cases houtcome

/-- What `restore-patch` does to a task whose names are those of the status. -/
theorem restorePatch_run (outside : StateView) (pathspecs : Pathspecs) {record : OperationRecord} {ledger : Ledger}
    (hstart : CleanStart runtime checkout task)
    (h : Reached runtime checkout task first applied verified)
    (hat : InterruptedAt checkout.repository task repository)
    (hrecord : Interrupted runtime checkout.repository task record)
    (hstored : dictGet? ledger.files task.id = some record) :
    ∃ writes last, RestoredFrom checkout.repository task repository last ∧
      ((MatchesHead last ∧
        restorePatch runtime pathspecs outside task.id record ⟨repository, ledger⟩ = ⟨writes, .ok ()⟩ ∧
        ∃ ended, applyAll (⟨repository, ledger⟩ : Checkout) writes =
            ⟨last, ⟨dictInsert ledger.files (task.id, ended)⟩⟩ ∧
          validateRecord runtime (.obj ended) task.id = .ok ended ∧
          isText (field ended "terminal_outcome") "reverted") ∨
      (¬ MatchesHead last ∧ (∃ e, restorePatch runtime pathspecs outside task.id record
          ⟨repository, ledger⟩ = ⟨writes, .error e⟩) ∧
        applyAll (⟨repository, ledger⟩ : Checkout) writes = ⟨last, ledger⟩)) := by
  obtain ⟨writes, last, hrun, hlast, hrestored⟩ :=
    restoreRecordedBaseline_run pathspecs hstart h hat hrecord ledger
  -- HEAD does not move
  have hhead : isText (field record "baseline_head") last.head = true := by
    rw [hrecord.head, hrestored.head]
    exact decide_eq_true rfl
  have hcurrent : gitAnswer (currentHead last) = .ok last.head := rfl
  by_cases hclean : MatchesHead last
  -- the tree is clean: the operation ends as reverted
  · have hstatus := (repositoryIsClean_iff last).mpr hclean
    have hload := load_of_interrupted hrecord hstored
    obtain ⟨ended, hended⟩ : ∃ ended, ended = sealRecord runtime (endedRecord runtime record
        "reverted" (some "Operator restored exact expected paths to baseline.") outside.now) :=
      ⟨_, rfl⟩
    have hend : recordTerminal runtime task.id "reverted"
        (some "Operator restored exact expected paths to baseline.") outside.now ledger =
        ⟨[(task.id, ended)], .ok ended⟩ := by
      rw [hended]
      exact recordTerminal_run (by decide) hload hrecord.isOpen
    have hendOperation : endOperation runtime outside task.id "reverted"
        "Operator restored exact expected paths to baseline." ⟨last, ledger⟩ =
        ⟨[.record (task.id, ended)], .ok ()⟩ := bind_eq_of_ok (onLedger_run ⟨last, ledger⟩ hend) rfl
    refine ⟨writes ++ [.record (task.id, ended)], last, hrestored,
      Or.inl ⟨hclean, ?_, ended, ?_, ?_, ?_⟩⟩
    · refine bind_eq_of_ok hrun ?_
      rw [hlast, read_bind, lift_bind_ok _ hcurrent]
      show (if (!repositoryIsClean last || !isText (field record "baseline_head") last.head) = true
        then _ else endOperation runtime outside task.id "reverted"
          "Operator restored exact expected paths to baseline." : CheckoutM Unit) ⟨last, ledger⟩ = _
      rw [hhead, hstatus]
      exact hendOperation
    · rw [applyAll_append, hlast]
      rfl
    · rw [hended]
      -- the closing fields are none of those that validation reads
      refine validateRecord_sealRecord (hrecord.body.insertAll fun change hchange => ?_)
      have hkeys : ∀ key ∈ ["terminal_outcome", "terminal_detail", "finished_at_utc"],
          key ∉ checkedFields ∧ key ≠ "phases" := by decide
      have hkey : change.1 ∈ ["terminal_outcome", "terminal_detail", "finished_at_utc"] :=
        List.mem_map_of_mem (f := Prod.fst) hchange
      exact ⟨(hkeys _ hkey).1, fun hname => absurd hname (hkeys _ hkey).2⟩
    · rw [hended]
      exact (isText_endedRecord runtime record _ _ _).1
  -- something is left over: the restore reports it and ends nothing
  · have hstatus : repositoryIsClean last = false := by
      rw [Bool.eq_false_iff]
      exact fun hstatus => hclean ((repositoryIsClean_iff last).mp hstatus)
    refine ⟨writes ++ [], last, hrestored, Or.inr ⟨hclean, ⟨.blocked
      "Guarded patch restore did not return to the exact baseline.", bind_eq_of_ok hrun ?_⟩, ?_⟩⟩
    · rw [hlast, read_bind, lift_bind_ok _ hcurrent]
      show (if (!repositoryIsClean last || !isText (field record "baseline_head") last.head) = true
        then (do
          raise (.blocked "Guarded patch restore did not return to the exact baseline.")
          _)
        else _ : CheckoutM Unit) ⟨last, ledger⟩ = _
      rw [hstatus]
      rfl
    · rw [List.append_nil, hlast]

/-- **When `restore-patch` recovers an interrupted task**: the status shows exactly its paths,
    and no file it created is staged. -/
theorem recovered_iff_at (pathspecs : Pathspecs) {record : OperationRecord} {ledger : Ledger}
    (hstart : CleanStart runtime checkout task)
    (h : Reached runtime checkout task first applied verified)
    (hat : InterruptedAt checkout.repository task repository)
    (hrecord : Interrupted runtime checkout.repository task record)
    (hstored : dictGet? ledger.files task.id = some record)
    (hstate : outside.stateComplete repository record = .ok false) :
    Recovered checkout.repository task.id
        ((guardedResolve runtime pathspecs outside task.id "restore-patch").final
          ⟨repository, ledger⟩) ↔
      repository.ShowsExactly task.paths ∧ ∀ path ∈ task.paths,
        checkout.repository.work.get? path = none → repository.index.get? path = none := by
  -- the classification decides whether the action is allowed
  obtain ⟨item, hclass, hitem⟩ := hat.classification hstart hrecord hstate
  have hload := load_of_interrupted hrecord hstored
  have hclassified : classifyStored runtime outside task.id ⟨repository, ledger⟩ =
      ⟨[], .ok (item, record)⟩ := classifyStored_run outside ⟨repository, ledger⟩ hload hclass
  have hresolve : guardedResolve runtime pathspecs outside task.id "restore-patch"
      ⟨repository, ledger⟩ = (do
        resolveAction runtime pathspecs outside task.id "restore-patch" item record
        let last ← classifyStored runtime outside task.id
        return last.1 : CheckoutM ReconciliationItem) ⟨repository, ledger⟩ :=
    bind_of_ok hclassified
  rw [Program.final, hresolve]
  by_cases hshows : item.classification = "patch_applied"
  · rw [resolveAction_restore hshows, and_iff_right (hitem.mp hshows)]
    -- the action ran: it ended the operation or reported what is left over
    obtain ⟨writes, last, hrestored, ⟨hclean, hrun, ended, hleft, hvalid, houtcome⟩ |
      ⟨hclean, ⟨e, hrun⟩, hleft⟩⟩ := restorePatch_run outside pathspecs hstart h hat
        hrecord hstored
    · -- restored: the last classification reads the ended record and writes nothing
      obtain ⟨left, hleftEq⟩ : ∃ left : Checkout,
          left = ⟨last, ⟨dictInsert ledger.files (task.id, ended)⟩⟩ := ⟨_, rfl⟩
      rw [← hleftEq] at hleft
      have hstoredEnded : dictGet? left.ledger.files task.id = some ended := by
        rw [hleftEq, dictGet?_dictInsert, if_pos rfl]
      have hloadEnded : (loadRecord runtime task.id left.ledger).value = .ok ended := by
        have hreload : (loadRecord runtime task.id left.ledger).value = validateRecord runtime
            (((dictGet? left.ledger.files task.id).map Json.obj).getD .null) task.id :=
          if_pos task.context.operationId.property
        rw [hreload, hstoredEnded]
        exact hvalid
      have hclosed : isNull (field ended "terminal_outcome") = false := isNull_of_isText houtcome
      have hagain := classifyStored_run outside left hloadEnded
        (classification_ended hclosed)
      have hrest : (do
          let last ← classifyStored runtime outside task.id
          return last.1 : CheckoutM ReconciliationItem) left = ⟨[], .ok _⟩ :=
        bind_eq_of_ok hagain rfl
      rw [bind_of_ok hrun, hleft, hrest, List.append_nil, hleft]
      refine iff_of_true ⟨?_, ?_, fun path => ?_, fun path => ?_, ended, hstoredEnded, houtcome⟩
        ((hrestored.clean_iff hstart hat).mp hclean)
      · rw [hleftEq]
        exact hrestored.head
      · rw [hleftEq]
        exact hrestored.commits
      · rw [hleftEq, hstart.clean.index, ← hrestored.headTree]
        exact hclean.index path
      · rw [hleftEq, hstart.clean.work]
        exact hrestored.work path
    · rw [bind_of_error hrun, hleft]
      refine iff_of_false (not_recovered_of_open hrecord hstored) fun hcreated => hclean ?_
      exact (hrestored.clean_iff hstart hat).mpr hcreated
  · -- another classification: the action is refused and nothing is written
    have hrefused : ∃ e, resolveAction runtime pathspecs outside task.id "restore-patch" item record
        ⟨repository, ledger⟩ = ⟨[], .error e⟩ := by
      refine ⟨.blocked ("Action " ++ "restore-patch" ++ " is unsafe for " ++ task.id ++ " in state " ++
        item.classification ++ "."), ?_⟩
      rw [resolveAction, if_neg (fun hboth => absurd hboth.1 (by decide)),
        if_neg (fun hboth => absurd hboth.1 (by decide)),
        if_neg (fun hboth => absurd hboth.1 (by decide)), if_neg fun hboth => hshows hboth.2]
      rfl
    obtain ⟨e, hrun⟩ := hrefused
    rw [bind_of_error hrun]
    exact iff_of_false (not_recovered_of_open hrecord hstored)
      fun hboth => hshows (hitem.mpr hboth.1)

/-! ## Every crash point -/

/-- What a crash leaves once `patch_applied` is durable. -/
theorem Reached.crashed (hstart : CleanStart runtime checkout task)
    (h : Reached runtime checkout task first applied verified) {written : Nat} (hwritten : 3 ≤ written) :
    ∃ repository ledger record,
      (runTask runtime task).crashed checkout written = ⟨repository, ledger⟩ ∧
      InterruptedAt checkout.repository task repository ∧
      Interrupted runtime checkout.repository task record ∧
      dictGet? ledger.files task.id = some record ∧
      repository = if written < 5 then applyPatch checkout.repository task.effect
        else stagePaths (applyPatch checkout.repository task.effect) task.paths := by
  have hlast : ∀ (files : List (String × OperationRecord)) (record : OperationRecord),
      dictGet? (dictInsert files (task.id, record)) task.id = some record := by
    intro files record
    rw [dictGet?_dictInsert, if_pos rfl]
  -- the third write is the first after the patch, the fifth stages it
  rw [Program.crashed, h.run]
  by_cases hthree : written = 3
  · subst hthree
    exact ⟨_, _, applied, rfl, interruptedAt_applied hstart.clean, h.appliedRecord, hlast _ _, rfl⟩
  · by_cases hfour : written = 4
    · subst hfour
      exact ⟨_, _, verified, rfl, interruptedAt_applied hstart.clean, h.verifiedRecord, hlast _ _, rfl⟩
    · -- all five writes were made
      have hall : 5 ≤ written := by omega
      rw [List.take_of_length_le hall, if_neg (by omega)]
      exact ⟨_, _, verified, rfl, interruptedAt_staged hstart.clean, h.verifiedRecord, hlast _ _, rfl⟩

/-- A created file that is not staged is shown under its own name when its directories hold a
    tracked file. -/
theorem not_collapsed_applied_iff (hstart : CleanStart runtime checkout task) (path : Text) :
    ¬ (applyPatch checkout.repository task.effect).Collapsed path ↔
      (checkout.repository.work.get? path = none →
        ∀ directory ∈ parentDirectories path,
          isUntrackedDirectory checkout.repository directory = false) := by
  have hhead : (applyPatch checkout.repository task.effect).headTree.get? path =
      checkout.repository.work.get? path := (hstart.clean.work path).symm
  have hindex : (applyPatch checkout.repository task.effect).index.get? path =
      checkout.repository.work.get? path :=
    (hstart.clean.index path).trans (hstart.clean.work path).symm
  rw [Repository.Collapsed, hhead, hindex, not_and, not_and, not_exists]
  constructor
  · intro h hnone directory hdirectory
    have hother := h hnone hnone directory
    rw [not_and] at hother
    exact (Bool.eq_false_iff).mpr (hother hdirectory)
  · intro h hnone _ directory hboth
    exact (Bool.eq_false_iff).mp (h hnone directory hboth.1) hboth.2

end

/-! ## One modified file -/

/-- A task that changes the line of `f`. -/
def modifyTask : TaskRun where
  context := firstOperation
  taskId := "task-1"
  patch := modifyPatch
  effect := [("f".toList, some { content := "new\n" })]
  changedFiles := ["f"]
  result := .obj []
  createdAt := "t0"
  intentAt := "t1"
  appliedAt := "t2"
  verifiedAt := "t3"

theorem cleanStart_modifyTask : CleanStart oneFileRuntime ⟨oneFileRepository, {}⟩ modifyTask where
  born := rfl
  clean := ⟨fun _ => rfl, fun _ => rfl⟩
  newRecord := rfl
  newCommit := by decide
  nonempty := by decide
  ordinary := by decide
  scope path := by
    have hpatched : (applyPatch oneFileRepository modifyTask.effect).work.get? path =
        (dictGet? modifyTask.effect path).getD (oneFileRepository.work.get? path) :=
      get?_applyEffect oneFileRepository.work modifyTask.effect path
    have hpaths : path ∈ modifyTask.paths ↔ path = "f".toList := List.mem_singleton
    rw [hpaths, hpatched]
    by_cases hpath : path = "f".toList
    · subst hpath
      decide
    · have hnone : dictGet? modifyTask.effect path = none := by
        rw [dictGet?_eq_none_iff]
        exact fun hmem => hpath (List.mem_singleton.mp hmem)
      rw [hnone, Option.getD_none]
      exact iff_of_false hpath (not_not.mpr rfl)
  derived left hleft path hpath := by
    obtain rfl := List.mem_singleton.mp hpath
    have hold : candidateTree oneFileRepository.fileTree ["f"] "f" = .file "old\n" := by
      decide +kernel
    have hother : modifyPatch ≠ fileToDirectoryPatch := by decide +kernel
    have happly : oneFileRuntime.gitApply modifyPatch
        (candidateTree oneFileRepository.fileTree ["f"]) =
        .ok fun path => if path = "f" then .file "new\n"
          else candidateTree oneFileRepository.fileTree ["f"] path := by
      simp only [oneFileRuntime, hold, hother, ne_eq, not_true_eq_false, if_false, if_true]
    rw [← Except.ok.inj (happly.symm.trans hleft)]
    decide +kernel

theorem run_modifyTask :
    (runTask oneFileRuntime modifyTask ⟨oneFileRepository, {}⟩).value = .ok () := by
  decide +kernel

end LlmHarness
