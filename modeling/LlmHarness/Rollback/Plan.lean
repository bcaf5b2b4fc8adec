/-
  LlmHarness.Rollback.Plan

  `plan_rollback`: the blockers of a rollback, from the store and from what Git
  reports.  The Git queries are the fields of `GitView`; a query that raises
  `GitError` is an error with its message.
-/

import LlmHarness.State.Store

namespace LlmHarness

/-- `RollbackBlocker`. -/
structure RollbackBlocker where
  code : String
  message : String
  taskId : Option String := none
deriving DecidableEq, Repr

/-- `RollbackPlan`. -/
structure RollbackPlan where
  workItemId : String
  runId : Option String
  targetCommit : Option String
  changedFiles : List String
  downstreamTaskIds : List String
  blockers : List RollbackBlocker
deriving DecidableEq, Repr

/-- `RollbackPlan.eligible`. -/
def RollbackPlan.eligible (plan : RollbackPlan) : Bool :=
  plan.blockers.isEmpty && plan.runId.isSome && plan.targetCommit.isSome

/-- The queries of `git_ops` that `plan_rollback` makes. -/
structure GitView where
  resolveCommit : String → Except String String
  commitIsAncestor : String → Except String Bool
  commitParents : String → Except String (List String)
  commitChangedFiles : String → Except String (List String)
  repositoryIsClean : Bool

/-- `_latest_successful_run`. -/
def latestSuccessfulRun (history : List RunRecord) (workItemId : String) : Option RunRecord :=
  history.reverse.find? fun run => run.workItemId = workItemId && run.ok && run.commit.isSome

/-- One check of the `try` block: the blockers it adds, or the error it raises. -/
abbrev GitCheck := Except String (List RollbackBlocker)

/-- A blocker of the task when a condition fails. -/
def blockUnless (ok : Bool) (code message : String) (workItemId : String) : List RollbackBlocker :=
  if ok then [] else [⟨code, message, some workItemId⟩]

/-- The checks of the `try` block on a resolved target, in order. -/
def gitChecks (git : GitView) (task : QueueTask) (workItemId target : String)
    (expectedCommit : Option String) : List GitCheck :=
  [ do
      let same ← match task.lastCommit with
        | none => .ok false
        | some commit => (git.resolveCommit commit).map fun full => full = target
      .ok (blockUnless same "LATEST_COMMIT_MISMATCH"
        "Latest task state does not point to the latest successful run commit." workItemId),
    do
      let same ← match expectedCommit with
        | none => .ok true
        | some commit => (git.resolveCommit commit).map fun full => full = target
      .ok (blockUnless same "EXPECTED_COMMIT_MISMATCH"
        "Expected commit does not match the recorded task commit." workItemId),
    do
      let ancestor ← git.commitIsAncestor target
      .ok (blockUnless ancestor "TARGET_NOT_ANCESTOR"
        "Recorded task commit is not an ancestor of HEAD." workItemId),
    do
      let parents ← git.commitParents target
      .ok (blockUnless (parents.length = 1) "UNSUPPORTED_COMMIT_SHAPE"
        "Rollback supports only non-root, non-merge commits with exactly one parent." workItemId),
    do
      let changed ← git.commitChangedFiles target
      .ok (blockUnless (changed ≠ []) "TARGET_HAS_NO_CHANGES"
        "Recorded commit has no changed files to revert." workItemId) ]

/-- The blockers of the checks up to the first one that raises. -/
def runGitChecks (workItemId : String) : List GitCheck → List RollbackBlocker
  | [] => []
  | .error message :: _ => [⟨"GIT_EVIDENCE_INVALID", message, some workItemId⟩]
  | .ok blockers :: rest => blockers ++ runGitChecks workItemId rest

/-- No check raises. -/
def allChecksRan (checks : List GitCheck) : Bool :=
  checks.all fun check => match check with
    | .ok _ => true
    | .error _ => false

/-- The statuses that make a task active for `plan_rollback`. -/
def blocksRollback : TaskStatus → Bool
  | .running | .reviewPending | .reworkRequired | .escalated => true
  | .queued | .done | .failed | .rolledBack => false

/-- `TASK_NOT_DONE`. -/
def notDoneBlockers (task : QueueTask) (workItemId : String) : List RollbackBlocker :=
  blockUnless (task.status = .done) "TASK_NOT_DONE"
    ("Task must be done before rollback; current status is " ++ task.status.text ++ ".") workItemId

/-- `ACTIVE_TASK`. -/
def activeBlockers (tasks : List QueueTask) : List RollbackBlocker :=
  (tasks.filter fun item => blocksRollback item.status).map fun item =>
    ⟨"ACTIVE_TASK", "Active or unresolved task blocks rollback: " ++ item.id ++ "="
      ++ item.status.text ++ ".", some item.id⟩

/-- `DOWNSTREAM_TASK_BLOCKS_ROLLBACK`. -/
def downstreamBlockers (downstream : List QueueTask) : List RollbackBlocker :=
  (downstream.filter fun item => item.status = .done || blocksRollback item.status).map fun item =>
    ⟨"DOWNSTREAM_TASK_BLOCKS_ROLLBACK", "Downstream task must be remediated first: " ++ item.id
      ++ "=" ++ item.status.text ++ ".", some item.id⟩

/-- `ALREADY_ROLLED_BACK`. -/
def alreadyRolledBackBlockers (records : List RollbackRecord) (target : Option String)
    (workItemId : String) : List RollbackBlocker :=
  match target with
  | none => []
  | some target =>
    match records.find? fun item => item.ok && item.targetCommit = target with
    | none => []
    | some prior =>
      [⟨"ALREADY_ROLLED_BACK", "Commit was already rolled back by "
        ++ prior.rollbackCommit.getD "None" ++ ".", some workItemId⟩]

/-- The blockers, the target and the changed files the Git queries give. -/
def gitEvidence (git : GitView) (task : QueueTask) (run : Option RunRecord) (workItemId : String)
    (expectedCommit : Option String) : List RollbackBlocker × Option String × List String :=
  match run.bind RunRecord.commit with
  | none =>
    ([⟨"SUCCESSFUL_RUN_NOT_FOUND", "No successful HoH run with a commit was found for the task.",
      some workItemId⟩], none, [])
  | some commit =>
    match git.resolveCommit commit with
    | .error message => ([⟨"GIT_EVIDENCE_INVALID", message, some workItemId⟩], none, [])
    | .ok target =>
      let checks := gitChecks git task workItemId target expectedCommit
      let changedFiles :=
        if allChecksRan checks then (git.commitChangedFiles target).toOption.getD [] else []
      (runGitChecks workItemId checks, some target, changedFiles)

/-- `plan_rollback`. -/
def planRollback (git : GitView) (s : Store) (workItemId : String) (expectedCommit : Option String) :
    RollbackPlan :=
  match latestTask? s.tasks workItemId with
  | none =>
    { workItemId := workItemId
      runId := none
      targetCommit := none
      changedFiles := []
      downstreamTaskIds := []
      blockers := [⟨"TASK_NOT_FOUND", s!"Unknown queued task: {workItemId}", some workItemId⟩] }
  | some task =>
    let run := latestSuccessfulRun s.history workItemId
    let (gitBlockers, target, changedFiles) := gitEvidence git task run workItemId expectedCommit
    let downstream := downstreamTasks s.tasks workItemId
    { workItemId := workItemId
      runId := run.map RunRecord.runId
      targetCommit := target
      changedFiles := changedFiles
      downstreamTaskIds := downstream.map QueueTask.id
      blockers := notDoneBlockers task workItemId ++ gitBlockers ++
        (if git.repositoryIsClean then [] else
          [⟨"CANONICAL_REPOSITORY_DIRTY", "Canonical repository must be clean before rollback.",
            none⟩]) ++
        activeBlockers s.tasks ++ downstreamBlockers downstream ++
        alreadyRolledBackBlockers s.rollbackRecords target workItemId }

/-- What an eligible plan says about the store. -/
theorem planRollback_eligible {git : GitView} {s : Store} {workItemId : String}
    {expectedCommit : Option String} (h : (planRollback git s workItemId expectedCommit).eligible) :
    (∃ task, latestTask? s.tasks workItemId = some task ∧ task.status = .done) ∧
      (∀ item ∈ s.tasks, blocksRollback item.status = false) ∧
      ∀ item ∈ downstreamTasks s.tasks workItemId,
        item.status ≠ .done ∧ blocksRollback item.status = false := by
  rw [RollbackPlan.eligible, Bool.and_eq_true, Bool.and_eq_true, List.isEmpty_iff] at h
  obtain ⟨⟨hblockers, -⟩, -⟩ := h
  rw [planRollback] at hblockers
  cases htask : latestTask? s.tasks workItemId with
  | none => simp [htask] at hblockers
  | some task =>
      simp only [htask, List.append_eq_nil_iff] at hblockers
      obtain ⟨⟨⟨⟨⟨hdone, -⟩, -⟩, hactive⟩, hdownstream⟩, -⟩ := hblockers
      refine ⟨⟨task, rfl, ?_⟩, ?_, ?_⟩
      · by_contra hne
        simp [notDoneBlockers, blockUnless, hne] at hdone
      · intro item hitem
        have hnot := List.filter_eq_nil_iff.mp (List.map_eq_nil_iff.mp hactive) item hitem
        simpa using hnot
      · intro item hitem
        have hnot := List.filter_eq_nil_iff.mp (List.map_eq_nil_iff.mp hdownstream) item hitem
        simpa using hnot

/-- A Git view in which every commit is an ordinary ancestor of a clean HEAD. -/
def plainGitView : GitView where
  resolveCommit commit := .ok commit
  commitIsAncestor _ := .ok true
  commitParents _ := .ok ["p"]
  commitChangedFiles _ := .ok ["src/f"]
  repositoryIsClean := true

end LlmHarness
