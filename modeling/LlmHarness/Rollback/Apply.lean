/-
  LlmHarness.Rollback.Apply

  `_apply_rollback_locked`, cut at the points where other processes can run: the
  first plan, the check in an isolated worktree, the second plan, the commit and
  `complete_rollback`.  The execution lease keeps rollbacks apart; the claims of
  other processes take the state lease only.  What Git and the verification
  commands answer is an argument of each move.
-/

import LlmHarness.Rollback.Plan

namespace LlmHarness

open Python

/-- `re.sub(r"\s+", " ", value)`. -/
def collapseSpace : Text → Text
  | [] => []
  | c :: cs =>
    if isSpace c then
      match collapseSpace cs with
      | ' ' :: rest => ' ' :: rest
      | rest => ' ' :: rest
    else c :: collapseSpace cs

/-- `_normalize_reason`. -/
def normalizeReason (value : String) : Except String String :=
  let normalized := strip (collapseSpace value.toList)
  if normalized = [] then .error "Rollback reason must be non-empty."
  else if 200 < normalized.length then .error "Rollback reason must be at most 200 characters."
  else .ok (String.ofList normalized)

/-- The arguments of `apply_rollback`. -/
structure RollbackRequest where
  workItemId : String
  expectedCommit : String
  reason : String
  verificationCommands : List String
  timeoutSeconds : Rat := 120

/-- A plan that may be carried out: it has no blockers, a run and a target. -/
structure EligiblePlan extends RollbackPlan where
  isEligible : toRollbackPlan.eligible

theorem EligiblePlan.runId_isSome (plan : EligiblePlan) : plan.runId.isSome := by
  have h := plan.isEligible
  rw [RollbackPlan.eligible, Bool.and_eq_true, Bool.and_eq_true] at h
  exact h.1.2

theorem EligiblePlan.targetCommit_isSome (plan : EligiblePlan) : plan.targetCommit.isSome := by
  have h := plan.isEligible
  rw [RollbackPlan.eligible, Bool.and_eq_true] at h
  exact h.2

/-- `_rollback_record`.  An eligible plan has the run and commit evidence whose
    absence the source refuses. -/
def rollbackRecord (plan : EligiblePlan) (reason : String) (ok : Bool)
    (commandResults : List CommandResult) (rollbackCommit error : Option String)
    (rollbackId now : String) : RollbackRecord where
  rollbackId := rollbackId
  createdAtUtc := now
  workItemId := plan.workItemId
  runId := plan.runId.get plan.runId_isSome
  targetCommit := plan.targetCommit.get plan.targetCommit_isSome
  rollbackCommit := rollbackCommit
  reason := reason
  ok := ok
  changedFiles := plan.changedFiles
  commandResults := commandResults
  error := error

/-- Where a rollback stands between two of its moves. -/
inductive RollbackPhase where
  | idle
  /-- The first plan is eligible; the isolated check is next. -/
  | planned (reason : String) (plan : EligiblePlan)
  /-- The isolated check passed; the second plan is next. -/
  | checked (reason : String) (plan : EligiblePlan) (commandResults : List CommandResult)
  /-- The second plan is eligible; the commit is next. -/
  | revalidated (reason : String) (plan : EligiblePlan)
  /-- The commit is made; `complete_rollback` is next. -/
  | committed (reason : String) (plan : EligiblePlan) (commandResults : List CommandResult)
      (rollbackCommit operationId : String)

/-- `plan_rollback`, with the proof that the plan may be carried out. -/
def eligiblePlan? (git : GitView) (s : Store) (workItemId : String)
    (expectedCommit : Option String) : Option EligiblePlan :=
  let plan := planRollback git s workItemId expectedCommit
  if h : plan.eligible then some { plan with isEligible := h } else none

/-- The errors of a refused plan. -/
def blockerDetails (plan : RollbackPlan) : String :=
  "; ".intercalate (plan.blockers.map fun item => item.code ++ ": " ++ item.message)

/-- The part of `_apply_rollback_locked` up to the first plan: an earlier record
    of the same rollback, or the planned phase. -/
def beginRollback (git : GitView) (s : Store) (request : RollbackRequest) :
    Except String (RollbackRecord ⊕ RollbackPhase) := do
  let normalizedReason ← normalizeReason request.reason
  if request.timeoutSeconds ≤ 0 then .error "Rollback timeout must be greater than zero."
  else if request.verificationCommands = [] ∨
      request.verificationCommands.any (fun command => isBlank command.toList) then
    .error "At least one non-empty post-rollback verification command is required."
  else
    let expectedFull ← git.resolveCommit request.expectedCommit
    let prior := s.rollbackRecords.find? fun item =>
      item.ok && item.workItemId = request.workItemId && item.targetCommit = expectedFull
    match prior with
    | some prior => .ok (.inl prior)
    | none =>
      match eligiblePlan? git s request.workItemId (some expectedFull) with
      | some plan => .ok (.inr (.planned normalizedReason plan))
      | none =>
        let details :=
          blockerDetails (planRollback git s request.workItemId (some expectedFull))
        .error (if details = "" then "Rollback plan is not eligible." else details)

/-- What the canonical commit ended with. -/
inductive CommitOutcome where
  | committed (commandResults : List CommandResult) (rollbackCommit : String)
  | failed (commandResults : List CommandResult) (error : String)
  | noCommit

/-- One move of the rollback, with the answers of its environment. -/
inductive RollbackMove where
  | plan (git : GitView) (request : RollbackRequest)
  | check (commandResults : List CommandResult) (error : Option String) (rollbackId now : String)
  | replan (git : GitView) (rollbackId now : String)
  | commit (outcome : CommitOutcome) (operationId now : String)
  | complete (now : String)

/-- Records a failed attempt and gives up. -/
def abandon (reason : String) (plan : EligiblePlan) (commandResults : List CommandResult)
    (error rollbackId now : String) : RollbackPhase × Option Op :=
  (.idle, some (.recordRollback
    (rollbackRecord plan reason false commandResults none (some error) rollbackId now)))

/-- The record `complete_rollback` gets. -/
def completedRecord (reason : String) (plan : EligiblePlan) (commandResults : List CommandResult)
    (rollbackCommit operationId now : String) : RollbackRecord :=
  rollbackRecord plan reason true commandResults (some rollbackCommit) none operationId now

/-- The phase after a move and the store call it makes.  A move that does not
    fit the phase does nothing: the execution lease is held, or is not. -/
def rollbackMove (move : RollbackMove) (phase : RollbackPhase) (s : Store) :
    RollbackPhase × Option Op :=
  match move, phase with
  | .plan git request, .idle =>
    match beginRollback git s request with
    | .ok (.inr phase) => (phase, none)
    | .ok (.inl _) => (.idle, none)
    | .error _ => (.idle, none)
  | .check commandResults none _ _, .planned reason plan =>
    (.checked reason plan commandResults, none)
  | .check commandResults (some error) rollbackId now, .planned reason plan =>
    abandon reason plan commandResults error rollbackId now
  | .replan git rollbackId now, .checked reason plan commandResults =>
    match eligiblePlan? git s plan.workItemId plan.targetCommit with
    | some _ => (.revalidated reason plan, none)
    | none =>
      let details := blockerDetails (planRollback git s plan.workItemId plan.targetCommit)
      abandon reason plan commandResults
        ("Rollback preconditions changed after isolated verification: " ++ details) rollbackId now
  | .commit (.committed commandResults rollbackCommit) operationId _, .revalidated reason plan =>
    (.committed reason plan commandResults rollbackCommit operationId, none)
  | .commit (.failed commandResults error) operationId now, .revalidated reason plan =>
    abandon reason plan commandResults error operationId now
  | .commit .noCommit _ _, .revalidated _ _ => (.idle, none)
  | .complete now, .committed reason plan commandResults rollbackCommit operationId =>
    (.idle, some (.completeRollback
      (completedRecord reason plan commandResults rollbackCommit operationId now) now))
  | _, phase => (phase, none)

/-- The task a rollback is about to change, once its second plan is made. -/
def RollbackPhase.target? : RollbackPhase → Option String
  | .revalidated _ plan => some plan.workItemId
  | .committed _ plan _ _ _ => some plan.workItemId
  | _ => none

theorem eligiblePlan?_eq_some {git : GitView} {s : Store} {workItemId : String}
    {expectedCommit : Option String} {plan : EligiblePlan}
    (h : eligiblePlan? git s workItemId expectedCommit = some plan) :
    (planRollback git s workItemId expectedCommit).eligible := by
  rw [eligiblePlan?] at h
  split at h
  · assumption
  · cases h

end LlmHarness
