/-
  LlmHarness.Operations.Recovery

  `guarded_resolve`: what an operator may do with an interrupted operation.  It
  works on the canonical repository and the record files together; each Git
  command, each removed file and each record file is one durable write.

  How Git reads a pathspec is a parameter: only a name without magic and
  pattern characters stands for itself and what lies below it.  The store is
  the part of a reconciliation that stays outside.
-/

import LlmHarness.Git.Repository
import LlmHarness.Operations.SelfValid

namespace LlmHarness

open Python Durable Durable.Program

/-! ## The repository and its ledger -/

/-- The canonical repository with the record files of its operations. -/
structure Checkout where
  repository : Repository
  ledger : Ledger

/-- A durable write. -/
inductive CheckoutWrite where
  /-- A record file. -/
  | record (file : String × OperationRecord)
  /-- What a Git command or an `unlink` leaves. -/
  | git (left : Repository)

instance : World Checkout CheckoutWrite where
  apply checkout
    | .record file => { checkout with ledger := World.apply checkout.ledger file }
    | .git left => { checkout with repository := left }

/-- A program on the repository and its ledger. -/
abbrev CheckoutM (α : Type) : Type := Program Checkout CheckoutWrite OperationError α

/-- A call of the ledger. -/
def onLedger {α : Type} (m : LedgerM α) : CheckoutM α := fun checkout =>
  ⟨(m checkout.ledger).writes.map .record, (m checkout.ledger).value⟩

/-! ## The worktree as a file tree -/

/-- `repository / relative`, as the worktree names it. -/
def worktreePath (relative : String) : Text := (PosixPath.parse relative.toList).toText

/-- A path of the worktree.  A directory is one some file lies below. -/
def Repository.pathState (repository : Repository) (path : Text) : PathState :=
  if path = ['.'] ∨ repository.work.any fun entry => (path ++ ['/']).isPrefixOf entry.1 then .other
  else match repository.work.get? path with
    | some blob => if blob.symlink then .symlink blob.content else .file blob.content
    | none => .absent

/-- The worktree. -/
def Repository.fileTree (repository : Repository) : FileTree := fun relative =>
  repository.pathState (worktreePath relative)

/-! ## What a reconciliation reads -/

/-- What the store answers, and the clock. -/
structure StateView where
  /-- `_state_complete`, which also resolves commits of the repository. -/
  stateComplete : Repository → OperationRecord → Except OperationError Bool
  /-- The part of `_complete_state` that writes into the store. -/
  completeStore : OperationRecord → Except OperationError Unit
  now : String

/-- A `GitError` is let through. -/
def gitAnswer {α : Type} : Except GitError α → Except OperationError α
  | .ok a => .ok a
  | .error e => .error (.git e.message)

/-- What `_classify` reads of the repository. -/
def repositoryView (outside : StateView) (repository : Repository) : ReconcileView where
  stateComplete := outside.stateComplete repository
  findCommit operationId := gitAnswer (findCommitByTrailer repository "HoH-Operation" operationId)
  head := gitAnswer (currentHead repository)
  clean := .ok (repositoryIsClean repository)
  resolveCommit revision := gitAnswer (resolveCommit repository revision)
  commitParents sha := gitAnswer (commitParents repository sha)
  commitChangedFiles sha :=
    (gitAnswer (commitChangedFiles repository sha)).map fun names => names.map String.ofList
  workingChangedFiles := .ok ((workingChangedFiles repository).map String.ofList)
  tree := repository.fileTree
  completeStore := outside.completeStore
  now := outside.now

/-! ## `git restore` -/

/-- The characters of a pattern, and the quote. -/
def isSpecialPathChar (c : Char) : Bool := c = '*' || c = '?' || c = '[' || c = '\\' || c = '"'

/-- A relative name in normal form that is no pattern and has no magic. -/
def isOrdinaryPath (path : Text) : Bool :=
  path ≠ ['.'] && (PosixPath.parse path).toText = path && path.getLast? ≠ some '/' &&
    !isUnsafeScopePath (String.ofList path) && path.head? ≠ some ':' &&
    !path.any isSpecialPathChar

/-- How Git reads a pathspec: why it is refused, or the paths it selects. -/
structure Pathspecs where
  select : Text → Except GitError (Text → Bool)
  ordinary : ∀ spec, isOrdinaryPath spec → select spec = .ok (covers spec)

/-- The paths Git knows when it restores from a commit. -/
def Repository.known (repository : Repository) (source : String) : List Text :=
  ((repository.treeOf source ++ repository.index).map Prod.fst).dedup

/-- `git restore --source --staged --worktree`: each pathspec has to match something. -/
def gitRestore (pathspecs : Pathspecs) (source : String) (specs : List Text)
    (repository : Repository) : Except GitError Repository := do
  let commit ← resolveCommit repository source
  let selections ← specs.mapM pathspecs.select
  match (specs.zip selections).find? fun spec => !(repository.known commit).any spec.2 with
  | some spec =>
    .error ⟨"error: pathspec '" ++ String.ofList spec.1 ++ "' did not match any file(s) known to git"⟩
  | none =>
    .ok (restorePaths repository commit
      ((repository.known commit).filter fun path => selections.any fun selects => selects path))

/-! ## `_restore_recorded_baseline` -/

/-- The removal of one path that did not exist before. -/
def removeCreated (relative : String) : CheckoutM Unit := do
  let repository ← Program.read Checkout.repository
  match repository.fileTree relative with
  | .file _ | .symlink _ => Program.write (.git (unlink repository (worktreePath relative)))
  | .other => raise (.git ("Expected a file path while restoring baseline: " ++ relative))
  | .absent => pure ()

/-- The last loop of `_restore_recorded_baseline`. -/
def removeCreatedPaths : FileEvidence → CheckoutM Unit
  | [] => pure ()
  | (relative, evidence) :: files => do
    if isNull evidence then removeCreated relative
    removeCreatedPaths files

/-- The paths that existed before. -/
def trackedPaths (files : FileEvidence) : List Text :=
  (files.filter fun entry => !isNull entry.2).map fun entry => entry.1.toList

/-- `_restore_recorded_baseline`. -/
def restoreRecordedBaseline (pathspecs : Pathspecs) (record : OperationRecord) : CheckoutM Unit := do
  match field record "baseline_files" with
  | .obj files =>
    if trackedPaths files ≠ [] then
      let repository ← Program.read Checkout.repository
      let left ← lift (gitAnswer (gitRestore pathspecs (pyStr (field record "baseline_head"))
        (trackedPaths files) repository))
      Program.write (.git left)
    removeCreatedPaths files
  | _ => raise .shape

/-! ## `guarded_resolve` -/

/-- `self.terminal(...)`. -/
def endOperation (runtime : LedgerRuntime) (outside : StateView) (operationId outcome detail : String) :
    CheckoutM Unit := do
  let _ ← onLedger (recordTerminal runtime operationId outcome (some detail) outside.now)

/-- `restore-patch`. -/
def restorePatch (runtime : LedgerRuntime) (pathspecs : Pathspecs) (outside : StateView)
    (operationId : String) (record : OperationRecord) : CheckoutM Unit := do
  restoreRecordedBaseline pathspecs record
  let repository ← Program.read Checkout.repository
  let head ← lift (gitAnswer (currentHead repository))
  if !repositoryIsClean repository || !isText (field record "baseline_head") head then
    raise (.blocked "Guarded patch restore did not return to the exact baseline.")
  endOperation runtime outside operationId "reverted"
    "Operator restored exact expected paths to baseline."

/-- What the operator asked for, when the classification allows it. -/
def resolveAction (runtime : LedgerRuntime) (pathspecs : Pathspecs) (outside : StateView)
    (operationId action : String) (item : ReconciliationItem) (record : OperationRecord) :
    CheckoutM Unit := do
  if action = "complete-state" ∧ item.safeAction = some "complete_state" then
    let view ← Program.read fun checkout : Checkout => repositoryView outside checkout.repository
    onLedger (completeState runtime view record)
  else if action = "finish-ledger" ∧ item.safeAction = some "finish_ledger" then
    endOperation runtime outside operationId "complete" "State evidence already complete."
  else if action = "cancel-intent" ∧ item.classification = "not_started" then
    endOperation runtime outside operationId "cancelled"
      "Operator cancelled clean, unapplied intent."
  else if action = "restore-patch" ∧ item.classification = "patch_applied" then
    restorePatch runtime pathspecs outside operationId record
  else
    raise (.blocked ("Action " ++ action ++ " is unsafe for " ++ operationId ++ " in state " ++
      item.classification ++ "."))

/-- `load` and `_classify`: the item and the record as the classification leaves it. -/
def classifyStored (runtime : LedgerRuntime) (outside : StateView) (operationId : String) :
    CheckoutM (ReconciliationItem × OperationRecord) := do
  let record ← onLedger (loadRecord runtime operationId)
  let view ← Program.read fun checkout : Checkout => repositoryView outside checkout.repository
  let (item, entry) ← onLedger (classify runtime view (.valid record))
  match entry with
  | .valid record => return (item, record)
  | .corrupted _ _ => raise .shape

/-- `guarded_resolve`. -/
def guardedResolve (runtime : LedgerRuntime) (pathspecs : Pathspecs) (outside : StateView)
    (operationId action : String) : CheckoutM ReconciliationItem := do
  let (item, record) ← classifyStored runtime outside operationId
  resolveAction runtime pathspecs outside operationId action item record
  let (item, _) ← classifyStored runtime outside operationId
  return item

end LlmHarness
