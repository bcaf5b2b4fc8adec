/-
  LlmHarness.Rollback.Canonical

  The part of `_apply_rollback_locked` that works on the canonical repository:
  from `begin_rollback` to the last ledger call.  The two flags and the command
  results are part of the state, since the `except GitError` clause reads them
  after any step.  What Git, the commands, the ledger and the store answer is an
  argument; a Git step that fails changes nothing, except that `commit_staged`
  can fail after its commit is made.
-/

import LlmHarness.Git.Repository
import LlmHarness.Operations.Evidence
import LlmHarness.Rollback.Apply

namespace LlmHarness

open Python

/-! ## Programs -/

/-- What the canonical part raises. -/
inductive CanonicalRaise where
  /-- `GitError`, the only one that is caught. -/
  | git (e : GitError)
  /-- `RollbackError`. -/
  | rollback (message : String)
  /-- `OperationLedgerError`. -/
  | ledger (e : OperationError)
  /-- `StateStoreError`. -/
  | state (message : String)

/-- A `phase` call: its name and its keyword arguments. -/
structure PhaseCall where
  name : String
  commit : Option String := none
  rollbackRecord : Option RollbackRecord := none

/-- The repository, the ledger record and the local variables. -/
structure CanonicalRun where
  repository : Repository
  canonicalApplied : Bool := false
  committed : Bool := false
  commandResults : List CommandResult
  phases : List PhaseCall := []
  terminalOutcome : Option String := none
  terminalDetail : Option String := none
  /-- The records `record_rollback` stored. -/
  recorded : List RollbackRecord := []

/-- A program that may raise; what it did before stays. -/
def CanonicalM (α : Type) : Type := CanonicalRun → Except CanonicalRaise α × CanonicalRun

namespace CanonicalM

variable {α β : Type}

/-- Runs `next` unless `m` raised. -/
def bind (m : CanonicalM α) (next : α → CanonicalM β) : CanonicalM β := fun run =>
  match m run with
  | (.ok a, run) => next a run
  | (.error e, run) => (.error e, run)

instance : Monad CanonicalM where
  pure a := fun run => (.ok a, run)
  bind := bind

/-- Raises. -/
def raise (e : CanonicalRaise) : CanonicalM α := fun run => (.error e, run)

/-- Reads the state. -/
def read (f : CanonicalRun → α) : CanonicalM α := fun run => (.ok (f run), run)

/-- Changes the state. -/
def change (f : CanonicalRun → CanonicalRun) : CanonicalM Unit := fun run => (.ok (), f run)

/-- The value of an answer, or its error under the given class. -/
def answer {ε : Type} (kind : ε → CanonicalRaise) (result : Except ε α) : CanonicalM α := fun run =>
  match result with
  | .ok a => (.ok a, run)
  | .error e => (.error (kind e), run)

/-- `try: m except GitError: handler`. -/
def exceptGit (m : CanonicalM α) (handler : GitError → CanonicalM α) : CanonicalM α := fun run =>
  match m run with
  | (.error (.git e), run) => handler e run
  | result => result

theorem bind_of_ok {m : CanonicalM α} {next : α → CanonicalM β} {run run' : CanonicalRun} {a : α}
    (h : m run = (.ok a, run')) : (m >>= next) run = next a run' := by
  show bind m next run = _
  rw [bind, h]

theorem bind_of_error {m : CanonicalM α} {next : α → CanonicalM β} {run run' : CanonicalRun}
    {e : CanonicalRaise} (h : m run = (.error e, run')) : (m >>= next) run = (.error e, run') := by
  show bind m next run = _
  rw [bind, h]

theorem exceptGit_of_git {m : CanonicalM α} {handler : GitError → CanonicalM α} {e : GitError}
    {run run' : CanonicalRun} (h : m run = (.error (.git e), run')) :
    exceptGit m handler run = handler e run' := by
  rw [exceptGit, h]

theorem exceptGit_of_ok {m : CanonicalM α} {handler : GitError → CanonicalM α} {a : α}
    {run run' : CanonicalRun} (h : m run = (.ok a, run')) :
    exceptGit m handler run = (.ok a, run') := by
  rw [exceptGit, h]

theorem exceptGit_of_other {m : CanonicalM α} {handler : GitError → CanonicalM α}
    {raised : CanonicalRaise} {run run' : CanonicalRun} (h : m run = (.error raised, run'))
    (hother : ∀ e, raised ≠ .git e) : exceptGit m handler run = (.error raised, run') := by
  rw [exceptGit, h]
  cases raised with
  | git e => exact absurd rfl (hother e)
  | rollback message => rfl
  | ledger e => rfl
  | state message => rfl

@[simp]
theorem read_bind (f : CanonicalRun → α) (next : α → CanonicalM β) (run : CanonicalRun) :
    (read f >>= next) run = next (f run) run := rfl

@[simp]
theorem change_bind (f : CanonicalRun → CanonicalRun) (next : Unit → CanonicalM β)
    (run : CanonicalRun) : (change f >>= next) run = next () (f run) := rfl

@[simp]
theorem answer_ok_bind {ε : Type} (kind : ε → CanonicalRaise) (a : α) (next : α → CanonicalM β)
    (run : CanonicalRun) : (answer kind (.ok a) >>= next) run = next a run := rfl

@[simp]
theorem answer_error_bind {ε : Type} (kind : ε → CanonicalRaise) (e : ε) (next : α → CanonicalM β)
    (run : CanonicalRun) :
    (answer kind (.error e) >>= next) run = (.error (kind e), run) := rfl

@[simp]
theorem raise_run (e : CanonicalRaise) (run : CanonicalRun) :
    (raise e : CanonicalM α) run = (.error e, run) := rfl

@[simp]
theorem pure_run (a : α) (run : CanonicalRun) : (pure a : CanonicalM α) run = (.ok a, run) := rfl

end CanonicalM

open CanonicalM

/-! ## The steps -/

/-- What the canonical part is answered. -/
structure CanonicalView where
  /-- `begin_rollback`. -/
  begin : Except OperationError Unit
  /-- `git apply --check` and `git apply`: the error, or what the patch writes. -/
  apply : Except GitError PatchEffect
  /-- What the commands leave, and their results. -/
  verify : Repository → Repository × List CommandResult
  /-- Why the restore after a failed verification fails, when its paths are known. -/
  restore : Option GitError
  stage : Option GitError
  /-- `git diff --cached --quiet` fails, which is read as a difference. -/
  diffFails : Bool
  /-- `git commit`: the error, or the hash of the new commit. -/
  commit : Except GitError String
  /-- `git rev-parse --short HEAD`. -/
  shortCommit : Except GitError String
  /-- `resolve_commit` of the short hash. -/
  resolveCommit : String → Except GitError String
  /-- Why the restore of the `except` clause fails, when its paths are known. -/
  lastRestore : Option GitError
  phase : String → Except OperationError Unit
  terminal : Except OperationError Unit
  recordRollback : Except String Unit
  completeRollback : RollbackRecord → Except String RollbackRecord
  /-- The id of a record of a failure. -/
  rollbackId : String
  now : String

/-- HEAD or the index knows the path. -/
def Repository.knows (repository : Repository) (path : Text) : Bool :=
  (repository.headTree.get? path).isSome || (repository.index.get? path).isSome

/-- `restore_paths_to_head`.  Git refuses the call when a path is unknown. -/
def restorePathsToHead (fault : Option GitError) (paths : List Text) (repository : Repository) :
    Except GitError Repository :=
  if paths = [] then .ok repository
  else
    match fault, paths.find? fun path => !repository.knows path with
    | some e, _ => .error e
    | none, some path =>
      .error ⟨"error: pathspec '" ++ String.ofList path ++ "' did not match any file(s) known to git"⟩
    | none, none => .ok (restorePaths repository repository.head paths)

/-- `stage_paths`. -/
def stagePathsStep (fault : Option GitError) (paths : List Text) (repository : Repository) :
    Except GitError Repository :=
  if paths = [] then .ok repository
  else match fault with
    | some e => .error e
    | none => .ok (stagePaths repository paths)

/-- The index differs from HEAD. -/
def Repository.hasStagedChange (repository : Repository) : Bool :=
  repository.paths.any fun path => stagedCode repository path ≠ ' '

/-- A Git step that leaves this repository. -/
def gitChange (step : Repository → Except GitError Repository) : CanonicalM Unit := do
  let repository ← read CanonicalRun.repository
  let repository ← answer .git (step repository)
  change fun run => { run with repository := repository }

/-- `commit_staged`: the short hash, unless nothing is staged. -/
def commitStagedStep (view : CanonicalView) (message : Text) : CanonicalM (Option String) := do
  let repository ← read CanonicalRun.repository
  if repository.hasStagedChange || view.diffFails then
    let sha ← answer .git view.commit
    change fun run => { run with repository := commitStaged repository sha message }
    let short ← answer .git view.shortCommit
    return some short
  else return none

/-- `OperationLedger.phase`. -/
def ledgerPhase (view : CanonicalView) (call : PhaseCall) : CanonicalM Unit := do
  answer .ledger (view.phase call.name)
  change fun run => { run with phases := run.phases ++ [call] }

/-- `OperationLedger.terminal`. -/
def ledgerTerminal (view : CanonicalView) (outcome detail : String) : CanonicalM Unit := do
  answer .ledger view.terminal
  change fun run => { run with terminalOutcome := some outcome, terminalDetail := some detail }

/-- `record_rollback` of a failure. -/
def recordFailedRollback (view : CanonicalView) (plan : EligiblePlan) (reason error : String) :
    CanonicalM Unit := do
  let results ← read CanonicalRun.commandResults
  answer .state view.recordRollback
  change fun run => { run with recorded := run.recorded ++
    [rollbackRecord plan reason false results none (some error) view.rollbackId view.now] }

/-! ## The canonical part -/

/-- The paths of the plan. -/
def EligiblePlan.paths (plan : EligiblePlan) : List Text := plan.changedFiles.map String.toList

/-- The error of a failed verification. -/
def verificationError : String := "Rollback verification failed after canonical patch application."

/-- The message of the rollback commit. -/
def rollbackMessage (plan : EligiblePlan) (reason operationId : String) : Text :=
  ("rollback(" ++ plan.workItemId ++ "): revert ").toList ++
    (plan.targetCommit.get plan.targetCommit_isSome).toList.take 12 ++
    (" - " ++ reason ++ "\n\nHoH-Operation: " ++ operationId).toList

/-- What the verification leaves. -/
def runVerification (view : CanonicalView) : CanonicalM (List CommandResult) := do
  let left ← read fun run => view.verify run.repository
  change fun run => { run with repository := left.1, commandResults := left.2 }
  return left.2

/-- The end of a reverting run: the failure is recorded, the outcome written and the error
    raised. -/
def finishReverted (view : CanonicalView) (plan : EligiblePlan) (reason message : String) :
    CanonicalM RollbackRecord := do
  recordFailedRollback view plan reason message
  ledgerTerminal view "reverted" message
  raise (.rollback message)

/-- The failed verification. -/
def undoVerification (view : CanonicalView) (plan : EligiblePlan) (reason : String) :
    CanonicalM RollbackRecord := do
  gitChange (restorePathsToHead view.restore plan.paths)
  change fun run => { run with canonicalApplied := false }
  finishReverted view plan reason verificationError

/-- What follows the commit: the record of the rollback. -/
def finishCommit (view : CanonicalView) (plan : EligiblePlan) (reason operationId : String)
    (results : List CommandResult) (shortCommit : String) : CanonicalM RollbackRecord := do
  change fun run => { run with committed := true }
  let rollbackCommit ← answer .git (view.resolveCommit shortCommit)
  let record :=
    rollbackRecord plan reason true results (some rollbackCommit) none operationId view.now
  ledgerPhase view
    { name := "commit_created", commit := some rollbackCommit, rollbackRecord := some record }
  return record

/-- The `verified` phase keeps a provisional record. -/
def verifiedPhase (view : CanonicalView) (plan : EligiblePlan) (reason operationId : String)
    (results : List CommandResult) : PhaseCall where
  name := "verified"
  rollbackRecord := some (rollbackRecord plan reason true results none none operationId view.now)

/-- What follows a passed verification. -/
def commitRollback (view : CanonicalView) (plan : EligiblePlan) (reason operationId : String) :
    CanonicalM RollbackRecord := do
  let results ← read CanonicalRun.commandResults
  ledgerPhase view (verifiedPhase view plan reason operationId results)
  gitChange (stagePathsStep view.stage plan.paths)
  match ← commitStagedStep view (rollbackMessage plan reason operationId) with
  | none => raise (.rollback "Rollback produced no commit.")
  | some shortCommit => finishCommit view plan reason operationId results shortCommit

/-- The `try` block. -/
def canonicalBody (view : CanonicalView) (plan : EligiblePlan) (reason operationId : String) :
    CanonicalM RollbackRecord := do
  let effect ← answer .git view.apply
  change fun run =>
    { run with repository := applyPatch run.repository effect, canonicalApplied := true }
  ledgerPhase view { name := "patch_applied" }
  let results ← runVerification view
  if results.all CommandResult.ok then commitRollback view plan reason operationId
  else undoVerification view plan reason

/-- The restore of the `except` clause, and the message it leaves. -/
def restoreAfter (view : CanonicalView) (plan : EligiblePlan) (e : GitError) :
    CanonicalM String := do
  let repository ← read CanonicalRun.repository
  match restorePathsToHead view.lastRestore plan.paths repository with
  | .ok repository =>
    change fun run => { run with repository := repository }
    return e.message
  | .error restoreError =>
    return e.message ++ "; canonical restore also failed: " ++ restoreError.message

/-- The `except GitError` clause. -/
def canonicalHandler (view : CanonicalView) (plan : EligiblePlan) (reason : String) (e : GitError) :
    CanonicalM RollbackRecord := do
  if ← read fun run => run.canonicalApplied && !run.committed then
    let message ← restoreAfter view plan e
    finishReverted view plan reason message
  else
    recordFailedRollback view plan reason e.message
    raise (.rollback e.message)

/-- The canonical part of `_apply_rollback_locked`. -/
def canonicalPart (view : CanonicalView) (plan : EligiblePlan) (reason operationId : String) :
    CanonicalM RollbackRecord := do
  answer .ledger view.begin
  let record ← exceptGit (canonicalBody view plan reason operationId)
    (canonicalHandler view plan reason)
  let stored ← answer .state (view.completeRollback record)
  ledgerPhase view { name := "state_recorded" }
  ledgerTerminal view "complete" "Rollback commit and StateStore evidence are durable."
  return stored

/-! ## The last restore -/

/-- The restore goes through: the step works and every path is known. -/
def canRestore (fault : Option GitError) (paths : List Text) (repository : Repository) : Bool :=
  paths.isEmpty || (fault.isNone && paths.all repository.knows)

/-- What a restore leaves, whether it goes through or not. -/
def afterRestore (restored : Bool) (paths : List Text) (repository : Repository) : Repository :=
  if restored then restorePaths repository repository.head paths else repository

theorem restorePathsToHead_of_canRestore {fault : Option GitError} {paths : List Text}
    {repository : Repository} (h : canRestore fault paths repository = true) :
    restorePathsToHead fault paths repository = .ok (restorePaths repository repository.head paths) := by
  rw [restorePathsToHead.eq_def]
  by_cases hpaths : paths = []
  · subst hpaths
    rfl
  · rw [canRestore, List.isEmpty_eq_false_iff.mpr hpaths, Bool.false_or, Bool.and_eq_true,
      Option.isNone_iff_eq_none, List.all_eq_true] at h
    obtain ⟨hfault, hknown⟩ := h
    have hfind : (paths.find? fun path => !repository.knows path) = none := by
      rw [List.find?_eq_none]
      intro path hpath
      simp [hknown path hpath]
    rw [if_neg hpaths, hfault, hfind]

theorem restorePathsToHead_of_not_canRestore {fault : Option GitError} {paths : List Text}
    {repository : Repository} (h : canRestore fault paths repository = false) :
    ∃ e, restorePathsToHead fault paths repository = .error e := by
  rw [canRestore, Bool.or_eq_false_iff, List.isEmpty_eq_false_iff] at h
  obtain ⟨hpaths, hrefused⟩ := h
  rw [restorePathsToHead.eq_def, if_neg hpaths]
  cases fault with
  | some e => exact ⟨e, rfl⟩
  | none =>
      cases hfind : paths.find? fun path => !repository.knows path with
      | some path => exact ⟨_, rfl⟩
      | none =>
          rw [List.find?_eq_none] at hfind
          have hall : paths.all repository.knows = true := by
            rw [List.all_eq_true]
            intro path hpath
            simpa using hfind path hpath
          simp [hall] at hrefused

/-- The patch is applied, and the commands leave this repository and these results. -/
def Checked (view : CanonicalView) (start checked : Repository) (results : List CommandResult) :
    Prop :=
  ∃ effect, view.apply = .ok effect ∧ view.phase "patch_applied" = .ok () ∧
    view.verify (applyPatch start effect) = (checked, results)

/-- The verification passed, and the changed paths are staged. -/
def Staged (view : CanonicalView) (plan : EligiblePlan) (start staged : Repository) : Prop :=
  ∃ checked results, Checked view start checked results ∧ results.all CommandResult.ok = true ∧
    view.phase "verified" = .ok () ∧ stagePathsStep view.stage plan.paths checked = .ok staged

/-- The ways to the last restore of a run: the repository it meets, and whether it
    goes through. -/
inductive LastRestore (view : CanonicalView) (plan : EligiblePlan) (message : Text)
    (start : Repository) : Repository → Bool → Prop where
  /-- A command failed.  Where the first restore fails, the `except` clause tries again. -/
  | verification {checked : Repository} {results : List CommandResult}
      (hchecked : Checked view start checked results)
      (hfailed : results.all CommandResult.ok = false) :
      LastRestore view plan message start checked
        (canRestore view.restore plan.paths checked || canRestore view.lastRestore plan.paths checked)
  | stage {checked : Repository} {results : List CommandResult} {e : GitError}
      (hchecked : Checked view start checked results)
      (hpassed : results.all CommandResult.ok = true) (hphase : view.phase "verified" = .ok ())
      (hstage : stagePathsStep view.stage plan.paths checked = .error e) :
      LastRestore view plan message start checked (canRestore view.lastRestore plan.paths checked)
  | commit {staged : Repository} {e : GitError} (hstaged : Staged view plan start staged)
      (hchange : (staged.hasStagedChange || view.diffFails) = true)
      (hcommit : view.commit = .error e) :
      LastRestore view plan message start staged (canRestore view.lastRestore plan.paths staged)
  /-- The commit is made; its short hash is not read. -/
  | shortCommit {staged : Repository} {sha : String} {e : GitError}
      (hstaged : Staged view plan start staged)
      (hchange : (staged.hasStagedChange || view.diffFails) = true)
      (hcommit : view.commit = .ok sha) (hshort : view.shortCommit = .error e) :
      LastRestore view plan message start (commitStaged staged sha message)
        (canRestore view.lastRestore plan.paths (commitStaged staged sha message))

/-! ## Running the steps -/

section

variable {view : CanonicalView} {plan : EligiblePlan} {reason operationId : String}
variable {run : CanonicalRun}

theorem gitChange_of_ok {step : Repository → Except GitError Repository} {repository : Repository}
    (h : step run.repository = .ok repository) :
    gitChange step run = (.ok (), { run with repository := repository }) := by
  rw [gitChange, read_bind, h, answer_ok_bind]
  rfl

theorem gitChange_of_error {step : Repository → Except GitError Repository} {e : GitError}
    (h : step run.repository = .error e) : gitChange step run = (.error (.git e), run) := by
  rw [gitChange, read_bind, h, answer_error_bind]

theorem ledgerPhase_of_ok {call : PhaseCall} (h : view.phase call.name = .ok ()) :
    ledgerPhase view call run = (.ok (), { run with phases := run.phases ++ [call] }) := by
  rw [ledgerPhase, h, answer_ok_bind]
  rfl

theorem ledgerPhase_of_error {call : PhaseCall} {e : OperationError}
    (h : view.phase call.name = .error e) :
    ledgerPhase view call run = (.error (.ledger e), run) := by
  rw [ledgerPhase, h, answer_error_bind]

theorem ledgerTerminal_of_ok {outcome detail : String} (h : view.terminal = .ok ()) :
    ledgerTerminal view outcome detail run =
      (.ok (), { run with terminalOutcome := some outcome, terminalDetail := some detail }) := by
  rw [ledgerTerminal, h, answer_ok_bind]
  rfl

theorem ledgerTerminal_of_error {outcome detail : String} {e : OperationError}
    (h : view.terminal = .error e) :
    ledgerTerminal view outcome detail run = (.error (.ledger e), run) := by
  rw [ledgerTerminal, h, answer_error_bind]

theorem recordFailedRollback_of_ok {error : String} (h : view.recordRollback = .ok ()) :
    recordFailedRollback view plan reason error run = (.ok (), { run with recorded := run.recorded ++
      [rollbackRecord plan reason false run.commandResults none (some error) view.rollbackId
        view.now] }) := by
  rw [recordFailedRollback, read_bind, h, answer_ok_bind]
  rfl

theorem recordFailedRollback_of_error {error message : String}
    (h : view.recordRollback = .error message) :
    recordFailedRollback view plan reason error run = (.error (.state message), run) := by
  rw [recordFailedRollback, read_bind, h, answer_error_bind]

/-- The store and the ledger answer at the end of a reverting run. -/
def Answers (view : CanonicalView) : Prop := view.recordRollback = .ok () ∧ view.terminal = .ok ()

/-- What a reverting run ends as. -/
theorem finishReverted_cases (view : CanonicalView) (plan : EligiblePlan)
    (reason message : String) (run : CanonicalRun) :
    ∃ raised final, finishReverted view plan reason message run = (.error raised, final) ∧
      (∀ e, raised ≠ .git e) ∧ final.repository = run.repository ∧
      (Answers view ∧ final.terminalOutcome = some "reverted" ∨
        ¬ Answers view ∧ final.terminalOutcome = run.terminalOutcome) := by
  rw [finishReverted]
  cases hrecord : view.recordRollback with
  | error e =>
      rw [bind_of_error (recordFailedRollback_of_error hrecord)]
      refine ⟨_, _, rfl, fun _ h => (nomatch h), rfl, Or.inr ⟨fun h => ?_, rfl⟩⟩
      cases hrecord.symm.trans h.1
  | ok recorded =>
      rw [bind_of_ok (recordFailedRollback_of_ok hrecord)]
      cases hterminal : view.terminal with
      | error e =>
          rw [bind_of_error (ledgerTerminal_of_error hterminal)]
          refine ⟨_, _, rfl, fun _ h => (nomatch h), rfl, Or.inr ⟨fun h => ?_, rfl⟩⟩
          cases hterminal.symm.trans h.2
      | ok ended =>
          rw [bind_of_ok (ledgerTerminal_of_ok hterminal)]
          exact ⟨_, _, rfl, fun _ h => (nomatch h), rfl, Or.inl ⟨⟨hrecord, hterminal⟩, rfl⟩⟩

/-- The restore of the `except` clause leaves the repository restored or as it was. -/
theorem restoreAfter_run (view : CanonicalView) (plan : EligiblePlan) (run : CanonicalRun)
    (e : GitError) :
    ∃ message, restoreAfter view plan e run = (.ok message, { run with
      repository := afterRestore (canRestore view.lastRestore plan.paths run.repository) plan.paths
        run.repository }) := by
  rw [restoreAfter, read_bind]
  cases hcan : canRestore view.lastRestore plan.paths run.repository with
  | true =>
      rw [restorePathsToHead_of_canRestore hcan]
      exact ⟨_, rfl⟩
  | false =>
      obtain ⟨restoreError, hrestore⟩ := restorePathsToHead_of_not_canRestore hcan
      rw [hrestore]
      exact ⟨_, rfl⟩

theorem canonicalHandler_reverting (view : CanonicalView) (plan : EligiblePlan) (reason : String)
    {run : CanonicalRun} (e : GitError)
    (h : (run.canonicalApplied && !run.committed) = true) :
    ∃ message, canonicalHandler view plan reason e run =
      finishReverted view plan reason message { run with
        repository := afterRestore (canRestore view.lastRestore plan.paths run.repository) plan.paths
          run.repository } := by
  obtain ⟨message, hrestore⟩ := restoreAfter_run view plan run e
  refine ⟨message, ?_⟩
  rw [canonicalHandler, read_bind, if_pos h, bind_of_ok hrestore]

theorem canonicalHandler_keeping (view : CanonicalView) (plan : EligiblePlan) (reason : String)
    {run : CanonicalRun} (e : GitError)
    (h : (run.canonicalApplied && !run.committed) = false) :
    ∃ raised final, canonicalHandler view plan reason e run = (.error raised, final) ∧
      final.terminalOutcome = run.terminalOutcome := by
  have hnot : ¬ (run.canonicalApplied && !run.committed) = true := by
    rw [h]
    exact Bool.false_ne_true
  rw [canonicalHandler, read_bind, if_neg hnot]
  cases hrecord : view.recordRollback with
  | error message =>
      rw [bind_of_error (recordFailedRollback_of_error hrecord)]
      exact ⟨_, _, rfl, rfl⟩
  | ok recorded =>
      rw [bind_of_ok (recordFailedRollback_of_ok hrecord)]
      exact ⟨_, _, rfl, rfl⟩

/-! ## The `try` block -/

/-- The state after the verification. -/
def verifiedRun (run : CanonicalRun) (checked : Repository) (results : List CommandResult) :
    CanonicalRun :=
  { run with
    repository := checked
    canonicalApplied := true
    commandResults := results
    phases := run.phases ++ [{ name := "patch_applied" }] }

theorem runVerification_run {checked : Repository} {results : List CommandResult}
    (h : view.verify run.repository = (checked, results)) :
    runVerification view run =
      (.ok results, { run with repository := checked, commandResults := results }) := by
  rw [runVerification, read_bind, h]
  rfl

/-- The `try` block up to the results of the commands. -/
theorem canonicalBody_of_checked {checked : Repository} {results : List CommandResult}
    (h : Checked view run.repository checked results) :
    canonicalBody view plan reason operationId run =
      (if results.all CommandResult.ok then commitRollback view plan reason operationId
        else undoVerification view plan reason) (verifiedRun run checked results) := by
  obtain ⟨effect, happly, hphase, hverify⟩ := h
  rw [canonicalBody, happly, answer_ok_bind, change_bind, bind_of_ok (ledgerPhase_of_ok hphase),
    bind_of_ok (runVerification_run hverify)]
  rfl

/-- A Git error with which the `except` clause restores this repository. -/
def RaisesRestored (run : CanonicalRun)
    (result : Except CanonicalRaise RollbackRecord × CanonicalRun) (repository : Repository) :
    Prop :=
  ∃ e raised, result = (.error (.git e), raised) ∧ raised.repository = repository ∧
    (raised.canonicalApplied && !raised.committed) = true ∧
    raised.terminalOutcome = run.terminalOutcome

theorem commitStagedStep_of_commit_error {message : Text} {e : GitError}
    (hchange : (run.repository.hasStagedChange || view.diffFails) = true)
    (hcommit : view.commit = .error e) :
    commitStagedStep view message run = (.error (.git e), run) := by
  rw [commitStagedStep, read_bind, if_pos hchange, hcommit, answer_error_bind]

theorem commitStagedStep_of_short_error {message : Text} {sha : String} {e : GitError}
    (hchange : (run.repository.hasStagedChange || view.diffFails) = true)
    (hcommit : view.commit = .ok sha) (hshort : view.shortCommit = .error e) :
    commitStagedStep view message run =
      (.error (.git e), { run with repository := commitStaged run.repository sha message }) := by
  rw [commitStagedStep, read_bind, if_pos hchange, hcommit, answer_ok_bind, change_bind, hshort,
    answer_error_bind]

theorem commitStagedStep_of_committed {message : Text} {sha short : String}
    (hchange : (run.repository.hasStagedChange || view.diffFails) = true)
    (hcommit : view.commit = .ok sha) (hshort : view.shortCommit = .ok short) :
    commitStagedStep view message run =
      (.ok (some short), { run with repository := commitStaged run.repository sha message }) := by
  rw [commitStagedStep, read_bind, if_pos hchange, hcommit, answer_ok_bind, change_bind, hshort,
    answer_ok_bind, pure_run]

theorem commitStagedStep_of_unchanged {message : Text}
    (hchange : (run.repository.hasStagedChange || view.diffFails) = false) :
    commitStagedStep view message run = (.ok none, run) := by
  rw [commitStagedStep, read_bind, hchange]
  rfl

/-- The state after the `verified` phase. -/
def provisionalRun (view : CanonicalView) (plan : EligiblePlan) (reason operationId : String)
    (run : CanonicalRun) : CanonicalRun :=
  { run with
    phases := run.phases ++ [verifiedPhase view plan reason operationId run.commandResults] }

theorem ledgerPhase_verified (hphase : view.phase "verified" = .ok ()) :
    ledgerPhase view (verifiedPhase view plan reason operationId run.commandResults) run =
      (.ok (), provisionalRun view plan reason operationId run) := by
  have hcall : view.phase (verifiedPhase view plan reason operationId run.commandResults).name =
      .ok () := hphase
  exact ledgerPhase_of_ok hcall

theorem commitRollback_of_stage_error {e : GitError} (hphase : view.phase "verified" = .ok ())
    (hstage : stagePathsStep view.stage plan.paths run.repository = .error e) :
    commitRollback view plan reason operationId run =
      (.error (.git e), provisionalRun view plan reason operationId run) := by
  have hchange : gitChange (stagePathsStep view.stage plan.paths)
      (provisionalRun view plan reason operationId run) =
        (.error (.git e), provisionalRun view plan reason operationId run) :=
    gitChange_of_error hstage
  rw [commitRollback, read_bind, bind_of_ok (ledgerPhase_verified hphase), bind_of_error hchange]

/-- The state after `stage_paths`. -/
def stagedRun (view : CanonicalView) (plan : EligiblePlan) (reason operationId : String)
    (run : CanonicalRun) (staged : Repository) : CanonicalRun :=
  { provisionalRun view plan reason operationId run with repository := staged }

/-- What follows the staging. -/
theorem commitRollback_of_staged {staged : Repository} (hphase : view.phase "verified" = .ok ())
    (hstage : stagePathsStep view.stage plan.paths run.repository = .ok staged) :
    commitRollback view plan reason operationId run =
      (commitStagedStep view (rollbackMessage plan reason operationId) >>= fun short =>
        match short with
        | none => raise (.rollback "Rollback produced no commit.")
        | some shortCommit =>
          finishCommit view plan reason operationId run.commandResults shortCommit)
        (stagedRun view plan reason operationId run staged) := by
  have hchange : gitChange (stagePathsStep view.stage plan.paths)
      (provisionalRun view plan reason operationId run) =
        (.ok (), stagedRun view plan reason operationId run staged) :=
    gitChange_of_ok hstage
  rw [commitRollback, read_bind, bind_of_ok (ledgerPhase_verified hphase), bind_of_ok hchange]

/-- The `try` block on the way to a last restore. -/
theorem canonicalBody_of_lastRestore {met : Repository} {restored : Bool}
    (h : LastRestore view plan (rollbackMessage plan reason operationId) run.repository met restored)
    (hcommitted : run.committed = false) :
    (RaisesRestored run (canonicalBody view plan reason operationId run) met ∧
        restored = canRestore view.lastRestore plan.paths met) ∨
      (∃ undone, canonicalBody view plan reason operationId run =
          finishReverted view plan reason verificationError undone ∧
        undone.repository = restorePaths met met.head plan.paths ∧
        undone.terminalOutcome = run.terminalOutcome ∧ restored = true) := by
  -- one case for each place where the last restore may stand
  cases h with
  | verification hchecked hfailed =>
      rename_i results
      rw [canonicalBody_of_checked hchecked, if_neg (by rw [hfailed]; exact Bool.false_ne_true),
        undoVerification]
      -- the verification failed: what was applied is taken back, where git can
      cases hcan : canRestore view.restore plan.paths met with
      | true =>
          have hrestore : gitChange (restorePathsToHead view.restore plan.paths)
              (verifiedRun run met results) = (.ok (), { verifiedRun run met results with
                repository := restorePaths met met.head plan.paths }) :=
            gitChange_of_ok (restorePathsToHead_of_canRestore hcan)
          rw [bind_of_ok hrestore, change_bind]
          exact Or.inr ⟨_, rfl, rfl, rfl, Bool.true_or _⟩
      | false =>
          obtain ⟨e, hrefused⟩ := restorePathsToHead_of_not_canRestore hcan
          have hrestore : gitChange (restorePathsToHead view.restore plan.paths)
              (verifiedRun run met results) = (.error (.git e), verifiedRun run met results) :=
            gitChange_of_error hrefused
          rw [bind_of_error hrestore]
          refine Or.inl ⟨⟨e, _, rfl, rfl, ?_, rfl⟩, Bool.false_or _⟩
          simp [verifiedRun, hcommitted]
  | stage hchecked hpassed hphase hstage =>
      rename_i results e
      -- the staging raised before anything was committed
      have hstage' : stagePathsStep view.stage plan.paths (verifiedRun run met results).repository =
          .error e := hstage
      rw [canonicalBody_of_checked hchecked, if_pos hpassed,
        commitRollback_of_stage_error hphase hstage']
      refine Or.inl ⟨⟨e, _, rfl, rfl, ?_, rfl⟩, rfl⟩
      simp [provisionalRun, verifiedRun, hcommitted]
  | commit hstaged hchange hcommit =>
      rename_i e
      obtain ⟨checked, results, hchecked, hpassed, hphase, hstage⟩ := hstaged
      have hstage' : stagePathsStep view.stage plan.paths
          (verifiedRun run checked results).repository = .ok met := hstage
      -- the commit raised, and the staged change is met
      have hstep : commitStagedStep view (rollbackMessage plan reason operationId)
          (stagedRun view plan reason operationId (verifiedRun run checked results) met) =
            (.error (.git e), stagedRun view plan reason operationId (verifiedRun run checked results)
              met) :=
        commitStagedStep_of_commit_error hchange hcommit
      rw [canonicalBody_of_checked hchecked, if_pos hpassed, commitRollback_of_staged hphase hstage',
        bind_of_error hstep]
      refine Or.inl ⟨⟨e, _, rfl, rfl, ?_, rfl⟩, rfl⟩
      simp [stagedRun, provisionalRun, verifiedRun, hcommitted]
  | shortCommit hstaged hchange hcommit hshort =>
      rename_i staged sha e
      obtain ⟨checked, results, hchecked, hpassed, hphase, hstage⟩ := hstaged
      have hstage' : stagePathsStep view.stage plan.paths
          (verifiedRun run checked results).repository = .ok staged := hstage
      -- the commit stands and only its short name is missing
      have hstep : commitStagedStep view (rollbackMessage plan reason operationId)
          (stagedRun view plan reason operationId (verifiedRun run checked results) staged) =
            (.error (.git e), stagedRun view plan reason operationId (verifiedRun run checked results)
              (commitStaged staged sha (rollbackMessage plan reason operationId))) :=
        commitStagedStep_of_short_error hchange hcommit hshort
      rw [canonicalBody_of_checked hchecked, if_pos hpassed, commitRollback_of_staged hphase hstage',
        bind_of_error hstep]
      refine Or.inl ⟨⟨e, _, rfl, rfl, ?_, rfl⟩, rfl⟩
      simp [stagedRun, provisionalRun, verifiedRun, hcommitted]

/-- Ends with nothing to restore and no new outcome. -/
def EndsQuietly (run : CanonicalRun)
    (result : Except CanonicalRaise RollbackRecord × CanonicalRun) : Prop :=
  result.2.terminalOutcome = run.terminalOutcome ∧ ∀ e, result.1 = .error (.git e) →
    (result.2.canonicalApplied && !result.2.committed) = false

theorem finishCommit_endsQuietly (results : List CommandResult) (shortCommit : String) :
    EndsQuietly run (finishCommit view plan reason operationId results shortCommit run) := by
  rw [finishCommit, change_bind]
  cases hresolve : view.resolveCommit shortCommit with
  | error e =>
      rw [answer_error_bind]
      exact ⟨rfl, fun _ _ => by simp⟩
  | ok rollbackCommit =>
      rw [answer_ok_bind]
      cases hphase : view.phase "commit_created" with
      | error e =>
          rw [bind_of_error (ledgerPhase_of_error hphase)]
          exact ⟨rfl, fun _ h => (nomatch h)⟩
      | ok called =>
          rw [bind_of_ok (ledgerPhase_of_ok hphase)]
          exact ⟨rfl, fun _ h => (nomatch h)⟩

/-- A passed verification that leads to no last restore ends quietly. -/
theorem commitRollback_endsQuietly {start : Repository} {results : List CommandResult}
    (hchecked : Checked view start run.repository results)
    (hpassed : results.all CommandResult.ok = true)
    (h : ∀ met restored,
      ¬ LastRestore view plan (rollbackMessage plan reason operationId) start met restored) :
    EndsQuietly run (commitRollback view plan reason operationId run) := by
  -- up to the commit, each answer that is an error is one of the last restores
  cases hphase : view.phase "verified" with
  | error e =>
      have hcall : view.phase (verifiedPhase view plan reason operationId run.commandResults).name =
          .error e := hphase
      rw [commitRollback, read_bind, bind_of_error (ledgerPhase_of_error hcall)]
      exact ⟨rfl, fun _ h => (nomatch h)⟩
  | ok called =>
      cases hstage : stagePathsStep view.stage plan.paths run.repository with
      | error e => exact absurd (LastRestore.stage hchecked hpassed hphase hstage) (h _ _)
      | ok staged =>
          have hstaged : Staged view plan start staged :=
            ⟨_, _, hchecked, hpassed, hphase, hstage⟩
          rw [commitRollback_of_staged hphase hstage]
          -- nothing staged, or the commit and its name went through
          cases hchange : staged.hasStagedChange || view.diffFails with
          | false =>
              have hstep : commitStagedStep view (rollbackMessage plan reason operationId)
                  (stagedRun view plan reason operationId run staged) =
                    (.ok none, stagedRun view plan reason operationId run staged) :=
                commitStagedStep_of_unchanged hchange
              rw [bind_of_ok hstep]
              exact ⟨rfl, fun _ h => (nomatch h)⟩
          | true =>
              cases hcommit : view.commit with
              | error e => exact absurd (LastRestore.commit hstaged hchange hcommit) (h _ _)
              | ok sha =>
                  cases hshort : view.shortCommit with
                  | error e =>
                      exact absurd (LastRestore.shortCommit hstaged hchange hcommit hshort) (h _ _)
                  | ok short =>
                      have hstep : commitStagedStep view (rollbackMessage plan reason operationId)
                          (stagedRun view plan reason operationId run staged) =
                            (.ok (some short),
                              { stagedRun view plan reason operationId run staged with
                                repository := commitStaged staged sha
                                  (rollbackMessage plan reason operationId) }) :=
                        commitStagedStep_of_committed hchange hcommit hshort
                      rw [bind_of_ok hstep]
                      exact finishCommit_endsQuietly _ _

/-- The `try` block on any other way ends quietly. -/
theorem canonicalBody_endsQuietly (happlied : run.canonicalApplied = false)
    (h : ∀ met restored,
      ¬ LastRestore view plan (rollbackMessage plan reason operationId) run.repository met restored) :
    EndsQuietly run (canonicalBody view plan reason operationId run) := by
  -- an answer that raises before the patch is applied meets no restore
  cases happly : view.apply with
  | error e =>
      rw [canonicalBody, happly, answer_error_bind]
      exact ⟨rfl, fun _ _ => by rw [happlied, Bool.false_and]⟩
  | ok effect =>
      cases hphase : view.phase "patch_applied" with
      | error e =>
          rw [canonicalBody, happly, answer_ok_bind, change_bind,
            bind_of_error (ledgerPhase_of_error hphase)]
          exact ⟨rfl, fun _ h => (nomatch h)⟩
      | ok called =>
          let checked := (view.verify (applyPatch run.repository effect)).1
          let results := (view.verify (applyPatch run.repository effect)).2
          have hchecked : Checked view run.repository checked results :=
            ⟨effect, happly, hphase, rfl⟩
          rw [canonicalBody_of_checked hchecked]
          cases hresults : results.all CommandResult.ok with
          | false => exact absurd (LastRestore.verification hchecked hresults) (h _ _)
          | true =>
              have hquiet : EndsQuietly (verifiedRun run checked results)
                  (commitRollback view plan reason operationId (verifiedRun run checked results)) :=
                commitRollback_endsQuietly hchecked hresults h
              exact hquiet

/-! ## The whole part -/

/-- The state a run starts in. -/
def startRun (start : Repository) (isolatedResults : List CommandResult) : CanonicalRun :=
  { repository := start, commandResults := isolatedResults }

/-- A run of the canonical part. -/
def canonicalRun (view : CanonicalView) (plan : EligiblePlan) (reason operationId : String)
    (isolatedResults : List CommandResult) (start : Repository) : CanonicalRun :=
  (canonicalPart view plan reason operationId (startRun start isolatedResults)).2

/-- The index and the worktree hold this tree. -/
def HoldsTree (tree : Tree) (repository : Repository) : Prop :=
  ∀ path, repository.index.get? path = tree.get? path ∧ repository.work.get? path = tree.get? path

/-- A run whose record ends as `reverted` leaves the index and the worktree as HEAD was. -/
def RevertsHonestly (start : Repository) (final : CanonicalRun) : Prop :=
  final.terminalOutcome = some "reverted" → HoldsTree start.headTree final.repository

/-- The last restore leaves the tree of the start: it goes through, HEAD holds that tree at
    the changed paths, and the index and the worktree hold it elsewhere; or it fails where
    nothing is to be restored. -/
def LeavesTree (tree : Tree) (paths : List Text) (met : Repository) (restored : Bool) : Prop :=
  if restored then
    ∀ path, if path ∈ paths then met.headTree.get? path = tree.get? path
      else met.index.get? path = tree.get? path ∧ met.work.get? path = tree.get? path
  else HoldsTree tree met

theorem holdsTree_afterRestore (tree : Tree) (paths : List Text) (met : Repository)
    (restored : Bool) :
    HoldsTree tree (afterRestore restored paths met) ↔ LeavesTree tree paths met restored := by
  cases restored with
  | false => exact Iff.rfl
  | true =>
      rw [afterRestore, LeavesTree, if_pos rfl, if_pos rfl]
      refine forall_congr' fun path => ?_
      have hindex := get?_copyPaths (met.treeOf met.head) met.index paths path
      have hwork := get?_copyPaths (met.treeOf met.head) met.work paths path
      simp only [restorePaths, hindex, hwork]
      by_cases hpath : path ∈ paths
      · rw [if_pos hpath, if_pos hpath, if_pos hpath]
        exact and_self_iff
      · rw [if_neg hpath, if_neg hpath, if_neg hpath]

theorem canonicalPart_of_body_error {raised : CanonicalRaise} {final : CanonicalRun}
    (hbegin : view.begin = .ok ())
    (h : exceptGit (canonicalBody view plan reason operationId)
      (canonicalHandler view plan reason) run = (.error raised, final)) :
    canonicalPart view plan reason operationId run = (.error raised, final) := by
  rw [canonicalPart, hbegin, answer_ok_bind, bind_of_error h]

/-- What a run ends with that comes to a last restore. -/
theorem canonicalRun_of_lastRestore (isolatedResults : List CommandResult) {start met : Repository}
    {restored : Bool} (hbegin : view.begin = .ok ())
    (h : LastRestore view plan (rollbackMessage plan reason operationId) start met restored) :
    (canonicalRun view plan reason operationId isolatedResults start).repository =
        afterRestore restored plan.paths met ∧
      ((canonicalRun view plan reason operationId isolatedResults start).terminalOutcome =
        some "reverted" ↔ Answers view) := by
  -- either way the run is the end of a reverting run, from a state with no outcome
  suffices hfinish : ∃ message undone, undone.terminalOutcome = none ∧
      undone.repository = afterRestore restored plan.paths met ∧
      exceptGit (canonicalBody view plan reason operationId) (canonicalHandler view plan reason)
        (startRun start isolatedResults) = finishReverted view plan reason message undone by
    obtain ⟨message, undone, hnone, hrepository, hrun⟩ := hfinish
    obtain ⟨raised, final, hfinal, -, hsame, houtcome⟩ :=
      finishReverted_cases view plan reason message undone
    have hpart : canonicalRun view plan reason operationId isolatedResults start = final := by
      rw [canonicalRun, canonicalPart_of_body_error hbegin (hrun.trans hfinal)]
    rw [hpart]
    refine ⟨hsame.trans hrepository, ?_⟩
    -- the handler answered and reverted, or the run kept its outcome, which is none
    rcases houtcome with ⟨hanswers, hreverted⟩ | ⟨hanswers, hkept⟩
    · exact iff_of_true hreverted hanswers
    · rw [hkept, hnone]
      exact iff_of_false (fun h => (nomatch h)) hanswers
  have hstart : LastRestore view plan (rollbackMessage plan reason operationId)
      (startRun start isolatedResults).repository met restored := h
  -- the body raised into the handler, or took back its own patch
  rcases canonicalBody_of_lastRestore hstart rfl with ⟨⟨e, raised, hbody, hmet, hflags, hnone⟩, rfl⟩ | ⟨undone, hbody, hmet, hnone, rfl⟩
  · obtain ⟨message, hhandler⟩ :=
      canonicalHandler_reverting view plan reason e hflags
    refine ⟨message, _, ?_, ?_, (exceptGit_of_git hbody).trans hhandler⟩
    · exact hnone
    · show afterRestore _ plan.paths raised.repository = _
      rw [hmet]
  · obtain ⟨raised, final, hfinal, hnogit, -, -⟩ :=
      finishReverted_cases view plan reason verificationError undone
    refine ⟨verificationError, undone, hnone, hmet, ?_⟩
    rw [exceptGit_of_other (hbody.trans hfinal) hnogit, hfinal]

/-- After the commit the outcome is `complete`, or none is written. -/
theorem canonicalPart_of_body_ok {record : RollbackRecord} {final : CanonicalRun}
    (hbegin : view.begin = .ok ()) (hnone : final.terminalOutcome = none)
    (h : canonicalBody view plan reason operationId run = (.ok record, final)) :
    (canonicalPart view plan reason operationId run).2.terminalOutcome ≠ some "reverted" := by
  rw [canonicalPart, hbegin, answer_ok_bind, bind_of_ok (exceptGit_of_ok h)]
  -- the record, the phase and the outcome: what raises leaves no outcome `reverted`
  cases hstore : view.completeRollback record with
  | error e =>
      rw [answer_error_bind, hnone]
      exact fun h => (nomatch h)
  | ok stored =>
      rw [answer_ok_bind]
      cases hphase : view.phase "state_recorded" with
      | error e =>
          rw [bind_of_error (ledgerPhase_of_error hphase), hnone]
          exact fun h => (nomatch h)
      | ok called =>
          rw [bind_of_ok (ledgerPhase_of_ok hphase)]
          cases hterminal : view.terminal with
          | error e =>
              rw [bind_of_error (ledgerTerminal_of_error hterminal), hnone]
              exact fun h => (nomatch h)
          | ok ended =>
              rw [bind_of_ok (ledgerTerminal_of_ok hterminal)]
              exact fun h => absurd (Option.some.inj h) (by decide)

/-- A run that comes to no last restore does not end as `reverted`. -/
theorem canonicalRun_of_no_lastRestore {isolatedResults : List CommandResult} {start : Repository}
    (h : view.begin = .ok () → ∀ met restored,
      ¬ LastRestore view plan (rollbackMessage plan reason operationId) start met restored) :
    (canonicalRun view plan reason operationId isolatedResults start).terminalOutcome ≠
      some "reverted" := by
  have hnone : (none : Option String) ≠ some "reverted" := fun h => (nomatch h)
  rw [canonicalRun]
  cases hbegin : view.begin with
  | error e =>
      rw [canonicalPart, hbegin, answer_error_bind]
      exact hnone
  | ok begun =>
      have hquiet : EndsQuietly (startRun start isolatedResults)
          (canonicalBody view plan reason operationId (startRun start isolatedResults)) :=
        canonicalBody_endsQuietly rfl (h hbegin)
      obtain ⟨hkept, hflags⟩ := hquiet
      cases hbody : canonicalBody view plan reason operationId (startRun start isolatedResults) with
      | mk result final =>
      rw [hbody] at hkept hflags
      have hend : final.terminalOutcome = none := hkept
      cases result with
      | ok record => exact canonicalPart_of_body_ok hbegin hend hbody
      -- only an error of git meets the handler, which keeps what is there
      | error raised =>
          cases raised with
          | git e =>
              obtain ⟨raised, ended, hhandler, hsame⟩ :=
                canonicalHandler_keeping view plan reason e (hflags e rfl)
              rw [canonicalPart_of_body_error hbegin ((exceptGit_of_git hbody).trans hhandler), hsame,
                hend]
              exact hnone
          | rollback message =>
              rw [canonicalPart_of_body_error hbegin (exceptGit_of_other hbody fun _ h => (nomatch h)),
                hend]
              exact hnone
          | ledger e =>
              rw [canonicalPart_of_body_error hbegin (exceptGit_of_other hbody fun _ h => (nomatch h)),
                hend]
              exact hnone
          | state message =>
              rw [canonicalPart_of_body_error hbegin (exceptGit_of_other hbody fun _ h => (nomatch h)),
                hend]
              exact hnone

end

/-- The record ends as `reverted` over a restored repository exactly when the last restore
    leaves the tree of the start, in every run in which the ledger and the store answer. -/
theorem revertsHonestly_iff (view : CanonicalView) (plan : EligiblePlan)
    (reason operationId : String) (isolatedResults : List CommandResult) (start : Repository) :
    RevertsHonestly start (canonicalRun view plan reason operationId isolatedResults start) ↔
      (view.begin = .ok () → Answers view → ∀ met restored,
        LastRestore view plan (rollbackMessage plan reason operationId) start met restored →
          LeavesTree start.headTree plan.paths met restored) := by
  constructor
  · intro hhonest hbegin hanswers met restored hlast
    obtain ⟨hrepository, houtcome⟩ := canonicalRun_of_lastRestore isolatedResults hbegin hlast
    rw [← holdsTree_afterRestore, ← hrepository]
    exact hhonest (houtcome.mpr hanswers)
  · intro hleaves hreverted
    by_cases hlast : view.begin = .ok () ∧ ∃ met restored,
        LastRestore view plan (rollbackMessage plan reason operationId) start met restored
    · obtain ⟨hbegin, met, restored, hlast⟩ := hlast
      obtain ⟨hrepository, houtcome⟩ := canonicalRun_of_lastRestore isolatedResults hbegin hlast
      rw [hrepository, holdsTree_afterRestore]
      exact hleaves hbegin (houtcome.mp hreverted) met restored hlast
    · refine absurd hreverted (canonicalRun_of_no_lastRestore fun hbegin met restored hmet => ?_)
      exact hlast ⟨hbegin, met, restored, hmet⟩

/-! ## A target that deleted a file -/

/-- The target `c1` deleted `f`. -/
def deletedFileStart : Repository where
  commits := [⟨"c1", ["c0"], "task".toList, []⟩, ⟨"c0", [], "base".toList, [("f".toList, ⟨"old\n", false, false⟩)]⟩]
  head := "c1"
  index := []
  work := []

/-- The plan to roll `c1` back. -/
def deletedFilePlan : EligiblePlan where
  workItemId := "task-1"
  runId := some "run-1"
  targetCommit := some "c1"
  changedFiles := ["f"]
  downstreamTaskIds := []
  blockers := []
  isEligible := rfl

/-- The patch brings `f` back and the command fails; everything else answers. -/
def failedCommandView : CanonicalView where
  begin := .ok ()
  apply := .ok [("f".toList, some ⟨"old\n", false, false⟩)]
  verify repository := (repository, [⟨"make test", 1, "", ""⟩])
  restore := none
  stage := none
  diffFails := false
  commit := .ok "c2"
  shortCommit := .ok "c2"
  resolveCommit := .ok
  lastRestore := none
  phase _ := .ok ()
  terminal := .ok ()
  recordRollback := .ok ()
  completeRollback := .ok
  rollbackId := "rollback-1"
  now := "t0"

/-- The record says `reverted`, and `f` is still there. -/
theorem not_revertsHonestly_deletedFile :
    ¬ RevertsHonestly deletedFileStart
      (canonicalRun failedCommandView deletedFilePlan "reason" "op-1" [] deletedFileStart) := by
  intro h
  have houtcome : (canonicalRun failedCommandView deletedFilePlan "reason" "op-1" []
      deletedFileStart).terminalOutcome = some "reverted" := by decide
  have hleft := (h houtcome "f".toList).2
  exact absurd hleft (by decide)

end LlmHarness
