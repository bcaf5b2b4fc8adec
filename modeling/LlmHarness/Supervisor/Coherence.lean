/-
  LlmHarness.Supervisor.Coherence

  Run-outcome coherence: when the handlers have finished, a queued or failed task
  has no commit that carries its operation id, and a done or review-pending one
  has.  The handlers go by the class of the exception; after the commit this is
  right only where the reconciliation blocks.
-/

import LlmHarness.State.Recording
import LlmHarness.Supervisor.Execution

namespace LlmHarness

open Python Raising PolicyVerifier

/-- What a status says of the commit of the operation. -/
def CoherentStatus : TaskStatus → Option String → Prop
  | .queued, committed | .failed, committed => committed = none
  | .done, committed | .reviewPending, committed => committed ≠ none
  | _, _ => True

/-- The task agrees with its commit. -/
def Coherent (taskId : String) (w : ExecutionWorld) : Prop :=
  ∀ status, latestStatus w.store.tasks taskId = some status → CoherentStatus status w.committed

namespace TaskExecution

/-! ## Conditions -/

/-- The policy accepts the patch, with this report. -/
def PolicyAccepts (task : TaskExecution) (preApply : VerificationReport) : Prop :=
  ∃ workerPatch, task.patch = some workerPatch ∧
    task.verifier.verifyPatchBeforeApply task.workItem workerPatch = .ok preApply ∧ preApply.ok

/-- The semantic verifier, if there is one, is reached and accepts. -/
def SemanticsAccepted (task : TaskExecution) : Prop :=
  ∀ verdict, task.semantic = some verdict → (semanticReport verdict).ok ∧
    ∀ step ∈ [ExecutionStep.semanticVerify, .semanticChecked], task.fault step = none

/-- No step from the intent to the verdict raises, and every gate accepts the worktree. -/
structure WorktreeAccepted (task : TaskExecution) : Prop where
  applied : ∀ step ∈ task.applySteps, task.fault step = none
  accepted : task.postApply.ok
  semantic : task.SemanticsAccepted

/-- No step up to the verdict raises, and every gate accepts. -/
structure Verified (task : TaskExecution) : Prop where
  started : ∀ step ∈ [ExecutionStep.lease, .assertNoBlocking], task.fault step = none
  patchReturned : task.fault .patchReturned = none
  policy : ∃ preApply, task.PolicyAccepts preApply
  policyChecked : task.fault .policyChecked = none
  worktree : task.WorktreeAccepted

/-- `git commit` is reached and makes a commit. -/
structure GitCommits (task : TaskExecution) : Prop where
  diffCached : task.fault .diffCached = none
  staged : task.staged
  gitCommit : task.fault .gitCommit = none

/-- The execution makes its commit. -/
structure ReachesCommit (task : TaskExecution) : Prop where
  worker : task.fault .worker = none
  verified : task.Verified
  verifiedPhase : task.fault .verified = none
  stagePaths : task.fault .stagePaths = none
  commits : task.GitCommits

/-- The steps of an execution after its commit. -/
def stepsAfterCommit : List ExecutionStep := [.revParse, .resolveCommit, .commitCreated, .commitRecorded]

/-- The provisional result. -/
def verifiedResult (task : TaskExecution) (preApply : VerificationReport) : HarnessRunResult :=
  task.uncommitted preApply task.postApply task.commandResults (task.semantic.map semanticReport)

/-- The result with its commit. -/
def acceptedResult (task : TaskExecution) (preApply : VerificationReport) : HarnessRunResult :=
  { task.verifiedResult preApply with commit := some task.shortCommit }

/-- The world the review setup of a result meets. -/
def recordedWorld (task : TaskExecution) (result : HarnessRunResult) (w : ExecutionWorld) :
    ReviewWorld :=
  ⟨w.store.applyAll (recordResult (task.report result) w.store).writes, w.files⟩

/-- The guarded part of that setup. -/
def guardedSetup (task : TaskExecution) : ReviewM SetupOutcome :=
  attemptWithFault task.runtime task.setup task.workItem.id task.runId task.setupFault

/-- The review setup raises while the task waits without a bundle: the handler fails it. -/
structure SetupFails (task : TaskExecution) (result : HarnessRunResult) (w : ExecutionWorld) :
    Prop where
  recorded : task.recordCut = none
  ended : ∀ step ∈ [ExecutionStep.stateRecorded, .ledgerTerminal], task.fault step = none
  required : task.reviewRequired
  raises : ∃ e, (task.guardedSetup (task.recordedWorld result w)).value = .error e
  waits : WaitsUnattached (task.guardedSetup.final (task.recordedWorld result w)).store.tasks
    task.workItem.id

/-- After a commit: an exception that is not contention and a reconciliation that does not let the
    handler go on; or no exception and a review setup that does not fail. -/
def Honoured (task : TaskExecution) (w : ExecutionWorld) : Prop :=
  match stepsAfterCommit.findSome? task.fault with
  | some (.lockContended _) => False
  | some _ => task.blocks ≠ .ok false
  | none => ∀ preApply, task.PolicyAccepts preApply →
    ¬ task.SetupFails (task.acceptedResult preApply) w

/-! ## Steps -/

variable {task : TaskExecution} {w : ExecutionWorld}

theorem reach_of_none {step : ExecutionStep} (h : task.fault step = none) :
    task.reach step w = (.ok (), w) := by
  rw [reach, h]
  rfl

theorem reach_of_some {step : ExecutionStep} {e : HarnessError} (h : task.fault step = some e) :
    task.reach step w = (.error e, w) := by
  rw [reach, h]
  rfl

/-- A sequence of steps raises at its first fault. -/
theorem reachAll_run (task : TaskExecution) (steps : List ExecutionStep) (w : ExecutionWorld) :
    task.reachAll steps w = match steps.findSome? task.fault with
      | some e => (.error e, w)
      | none => (.ok (), w) := by
  induction steps with
  | nil => rfl
  | cons step steps ih =>
      rw [reachAll, List.findSome?_cons]
      cases hfault : task.fault step with
      | some e => rw [Raising.bind_of_error (reach_of_some hfault)]
      | none =>
          rw [Raising.bind_of_ok (reach_of_none hfault)]
          exact ih

/-- A sequence of steps passes, or raises. -/
theorem reachAll_cases (task : TaskExecution) (steps : List ExecutionStep) (w : ExecutionWorld) :
    ((∀ step ∈ steps, task.fault step = none) ∧ task.reachAll steps w = (.ok (), w)) ∨
      ((¬ ∀ step ∈ steps, task.fault step = none) ∧ ∃ e, task.reachAll steps w = (.error e, w)) := by
  rw [reachAll_run, ← List.findSome?_eq_none_iff]
  cases steps.findSome? task.fault with
  | none => exact Or.inl ⟨rfl, rfl⟩
  | some e => exact Or.inr ⟨Option.some_ne_none e, e, rfl⟩

/-- One step passes, or raises. -/
theorem reach_cases (task : TaskExecution) (step : ExecutionStep) (w : ExecutionWorld) :
    (task.fault step = none ∧ task.reach step w = (.ok (), w)) ∨
      (task.fault step ≠ none ∧ ∃ e, task.reach step w = (.error e, w)) := by
  cases hfault : task.fault step with
  | none => exact Or.inl ⟨rfl, reach_of_none hfault⟩
  | some e => exact Or.inr ⟨Option.some_ne_none e, e, reach_of_some hfault⟩

/-! ## The execution -/

/-- What ends before the commit: an exception, or a result without a commit. -/
def EndsUncommitted (call : Except HarnessError HarnessRunResult) : Prop :=
  ∀ result, call = .ok result → result.commit = none

/-- A provisional result that a commit completes. -/
def Acceptable (provisional : HarnessRunResult) : Prop :=
  ∀ commit, HarnessRunResult.ok { provisional with commit := some commit }

/-- What the part up to the verdict ends with when a gate rejects or a step raises. -/
def Rejects (call : Except HarnessError (HarnessRunResult ⊕ HarnessRunResult)) : Prop :=
  (∃ e, call = .error e) ∨ ∃ result : HarnessRunResult, result.commit = none ∧ call = .ok (.inl result)

theorem rejects_error (e : HarnessError) : Rejects (.error e) := Or.inl ⟨e, rfl⟩

theorem rejects_inl {result : HarnessRunResult} (hcommit : result.commit = none) :
    Rejects (.ok (.inl result)) := Or.inr ⟨result, hcommit, rfl⟩

/-- A result without a commit behind steps that may raise. -/
theorem rejects_after {steps : ExecM Unit} {result : HarnessRunResult}
    (hsteps : steps w = (.ok (), w) ∨ ∃ e, steps w = (.error e, w)) (hcommit : result.commit = none) :
    ∃ call, Rejects call ∧
      (do steps; return .inl result : ExecM (HarnessRunResult ⊕ HarnessRunResult)) w = (call, w) := by
  rcases hsteps with hrun | ⟨e, hrun⟩
  · exact ⟨_, rejects_inl hcommit, Raising.bind_of_ok hrun⟩
  · exact ⟨_, rejects_error e, Raising.bind_of_error hrun⟩

/-- A rejection reverts the patch and ends without a commit. -/
theorem revert_rejects (task : TaskExecution) {result : HarnessRunResult}
    (hcommit : result.commit = none) (w : ExecutionWorld) :
    ∃ call, Rejects call ∧ task.revert result w = (call, w) := by
  refine rejects_after ?_ hcommit
  rcases task.reachAll_cases [.revertPatch, .reverted, .notify] w with ⟨-, hrun⟩ | ⟨-, hrun⟩
  · exact Or.inl hrun
  · exact Or.inr hrun

theorem notify_rejects (task : TaskExecution) {result : HarnessRunResult}
    (hcommit : result.commit = none) (w : ExecutionWorld) :
    ∃ call, Rejects call ∧
      (do task.reach .notify; return .inl result : ExecM (HarnessRunResult ⊕ HarnessRunResult)) w =
        (call, w) := by
  refine rejects_after ?_ hcommit
  rcases task.reach_cases .notify w with ⟨-, hrun⟩ | ⟨-, hrun⟩
  · exact Or.inl hrun
  · exact Or.inr hrun

/-- The semantic verdict ends with the provisional result exactly when it accepts. -/
theorem verifySemantics_cases (task : TaskExecution) (preApply : VerificationReport)
    (w : ExecutionWorld) :
    (task.SemanticsAccepted ∧
        task.verifySemantics preApply w = (.ok (.inr (task.verifiedResult preApply)), w)) ∨
      (¬ task.SemanticsAccepted ∧
        ∃ call, Rejects call ∧ task.verifySemantics preApply w = (call, w)) := by
  rw [verifySemantics, verifiedResult]
  -- without a semantic verifier there is nothing to accept
  cases hsemantic : task.semantic with
  | none =>
      refine Or.inl ⟨fun verdict h => ?_, rfl⟩
      rw [hsemantic] at h
      cases h
  | some verdict =>
  dsimp only [Option.map_some]
  rcases task.reachAll_cases [.semanticVerify, .semanticChecked] w with
    ⟨hsteps, hrun⟩ | ⟨hsteps, e, hrun⟩
  rotate_left
  · exact Or.inr ⟨fun h => hsteps (h verdict hsemantic).2, _, rejects_error e,
      Raising.bind_of_error hrun⟩
  rw [Raising.bind_of_ok hrun]
  -- a verdict is rejected, or the report is the policy's
  cases hverdict : (semanticReport verdict).ok with
  | false =>
      refine Or.inr ⟨fun h => ?_, task.revert_rejects rfl w⟩
      have haccepted := (h verdict hsemantic).1
      rw [hverdict] at haccepted
      cases haccepted
  | true =>
      refine Or.inl ⟨fun other h => ?_, rfl⟩
      rw [hsemantic] at h
      cases h
      exact ⟨hverdict, hsteps⟩

/-- From the intent on: the provisional result exactly when the worktree is accepted. -/
theorem applyAndVerify_cases (task : TaskExecution) (preApply : VerificationReport)
    (w : ExecutionWorld) :
    (task.WorktreeAccepted ∧
        task.applyAndVerify preApply w = (.ok (.inr (task.verifiedResult preApply)), w)) ∨
      (¬ task.WorktreeAccepted ∧
        ∃ call, Rejects call ∧ task.applyAndVerify preApply w = (call, w)) := by
  rw [applyAndVerify]
  -- the steps that apply the patch, then the verifier of the worktree, then the semantic one
  rcases task.reachAll_cases task.applySteps w with ⟨happlied, hrun⟩ | ⟨happlied, e, hrun⟩
  rotate_left
  · exact Or.inr ⟨fun h => happlied h.applied, _, rejects_error e, Raising.bind_of_error hrun⟩
  rw [Raising.bind_of_ok hrun]
  cases hpost : task.postApply.ok with
  | false =>
      refine Or.inr ⟨fun h => ?_, task.revert_rejects rfl w⟩
      have haccepted := h.accepted
      rw [hpost] at haccepted
      cases haccepted
  | true =>
      rw [Bool.not_true, if_neg Bool.false_ne_true]
      rcases task.verifySemantics_cases preApply w with ⟨hsemantic, hrun⟩ | ⟨hsemantic, hrun⟩
      · exact Or.inl ⟨⟨happlied, hpost, hsemantic⟩, hrun⟩
      · exact Or.inr ⟨fun h => hsemantic h.semantic, hrun⟩

/-- The part up to the verdict changes nothing in the store, and ends with the provisional result
    exactly when the completion is verified. -/
theorem verifyCompletion_cases (task : TaskExecution) (w : ExecutionWorld) :
    (task.Verified ∧ ∃ preApply, task.PolicyAccepts preApply ∧
        task.verifyCompletion w = (.ok (.inr (task.verifiedResult preApply)), w)) ∨
      (¬ task.Verified ∧ ∃ call, Rejects call ∧ task.verifyCompletion w = (call, w)) := by
  rw [verifyCompletion]
  -- the lease and the blocking check come before the worker's answer is looked at
  rcases task.reachAll_cases [.lease, .assertNoBlocking] w with
    ⟨hstarted, hrun⟩ | ⟨hstarted, e, hrun⟩
  rotate_left
  · exact Or.inr ⟨fun h => hstarted h.started, _, rejects_error e, Raising.bind_of_error hrun⟩
  rw [Raising.bind_of_ok hrun]
  cases hpatch : task.patch with
  | none =>
      refine Or.inr ⟨fun h => ?_, task.notify_rejects rfl w⟩
      obtain ⟨_, _, hsome, -⟩ := h.policy
      rw [hpatch] at hsome
      cases hsome
  | some workerPatch =>
  dsimp only
  rcases task.reach_cases .patchReturned w with ⟨hreturned, hrun⟩ | ⟨hreturned, e, hrun⟩
  rotate_left
  · exact Or.inr ⟨fun h => hreturned h.patchReturned, _, rejects_error e,
      Raising.bind_of_error hrun⟩
  rw [Raising.bind_of_ok hrun]
  -- the policy is asked about the patch the worker returned, so its report is that report
  have hpolicy : task.Verified → ∃ preApply,
      task.verifier.verifyPatchBeforeApply task.workItem workerPatch = .ok preApply ∧ preApply.ok := by
    intro h
    obtain ⟨preApply, _, hsome, hreport⟩ := h.policy
    rw [hpatch] at hsome
    cases hsome
    exact ⟨preApply, hreport⟩
  -- a policy that raises ends the execution
  cases hreport : task.verifier.verifyPatchBeforeApply task.workItem workerPatch with
  | error e =>
      refine Or.inr ⟨fun h => ?_, _, rejects_error _, answer_error_bind ..⟩
      obtain ⟨_, hok, -⟩ := hpolicy h
      rw [hreport] at hok
      cases hok
  | ok preApply =>
  rw [answer_ok_bind]
  rcases task.reach_cases .policyChecked w with ⟨hchecked, hrun⟩ | ⟨hchecked, e, hrun⟩
  rotate_left
  · exact Or.inr ⟨fun h => hchecked h.policyChecked, _, rejects_error e,
      Raising.bind_of_error hrun⟩
  rw [Raising.bind_of_ok hrun]
  cases hpre : preApply.ok with
  | false =>
      refine Or.inr ⟨fun h => ?_, task.notify_rejects rfl w⟩
      obtain ⟨_, hok, haccepted⟩ := hpolicy h
      rw [hreport] at hok
      cases hok
      rw [hpre] at haccepted
      cases haccepted
  -- the patch may be applied
  | true =>
      rw [Bool.not_true, if_neg Bool.false_ne_true]
      have haccepts : task.PolicyAccepts preApply := ⟨workerPatch, hpatch, hreport, hpre⟩
      rcases task.applyAndVerify_cases preApply w with ⟨hworktree, hrun⟩ | ⟨hworktree, hrun⟩
      · exact Or.inl ⟨⟨hstarted, hreturned, ⟨preApply, haccepts⟩, hchecked, hworktree⟩,
          preApply, haccepts, hrun⟩
      · exact Or.inr ⟨fun h => hworktree h.worktree, hrun⟩

/-- The provisional result of a verified completion is one that a commit completes. -/
theorem acceptable_verifiedResult {preApply : VerificationReport} (h : task.Verified)
    (haccepts : task.PolicyAccepts preApply) : Acceptable (task.verifiedResult preApply) := by
  intro commit
  obtain ⟨_, -, -, hpre⟩ := haccepts
  have hpost := h.worktree.accepted
  -- the commands passed, or the worktree would have been rejected
  have hcommands : task.commandResults.all CommandResult.ok = true := commandsOk_of_verifyAfterApply hpost
  cases hverdict : task.semantic with
  | none =>
      simp [HarnessRunResult.ok, verifiedResult, uncommitted, hpre, hpost, hverdict]
      exact List.all_eq_true.mp hcommands
  | some verdict =>
      have hsemantic := (h.worktree.semantic verdict hverdict).1
      simp [HarnessRunResult.ok, verifiedResult, uncommitted, hpre, hpost, hverdict, hsemantic]
      exact List.all_eq_true.mp hcommands

/-- `commit_staged` without a commit, or with one. -/
theorem commitStaged_cases (task : TaskExecution) (w : ExecutionWorld) :
    (¬ task.GitCommits ∧ ((∃ e, task.commitStaged w = (.error e, w)) ∨
        task.commitStaged w = (.ok none, w))) ∨
      (task.GitCommits ∧ task.commitStaged w =
        (match task.fault .revParse with
          | some e => .error e
          | none => .ok (some task.shortCommit), { w with committed := some task.fullCommit })) := by
  rw [commitStaged]
  -- `git diff --cached --quiet` decides whether there is anything to commit
  rcases task.reach_cases .diffCached w with ⟨hdiff, hrun⟩ | ⟨hdiff, e, hrun⟩
  rotate_left
  · exact Or.inl ⟨fun h => hdiff h.diffCached, Or.inl ⟨e, Raising.bind_of_error hrun⟩⟩
  rw [Raising.bind_of_ok hrun]
  cases hstaged : task.staged with
  | false =>
      refine Or.inl ⟨fun h => ?_, Or.inr rfl⟩
      have htrue := h.staged
      rw [hstaged] at htrue
      cases htrue
  -- the commit stands as soon as `git commit` returns; only its name can still be missing
  | true =>
      rw [if_pos rfl]
      rcases task.reach_cases .gitCommit w with ⟨hcommit, hrun⟩ | ⟨hcommit, e, hrun⟩
      · rw [Raising.bind_of_ok hrun, change_bind]
        refine Or.inr ⟨⟨hdiff, hstaged, hcommit⟩, ?_⟩
        cases hparse : task.fault .revParse with
        | some e => exact Raising.bind_of_error (reach_of_some hparse)
        | none => exact Raising.bind_of_ok (reach_of_none hparse)
      · exact Or.inl ⟨fun h => hcommit h.gitCommit, Or.inl ⟨e, Raising.bind_of_error hrun⟩⟩

/-- What an execution past its commit ends with: the first exception, or the result. -/
def answerAfterCommit (task : TaskExecution) (provisional : HarnessRunResult) :
    Except HarnessError HarnessRunResult :=
  match stepsAfterCommit.findSome? task.fault with
  | some e => .error e
  | none => .ok { provisional with commit := some task.shortCommit }

/-- The part from the `verified` phase on: without a commit, or past one. -/
theorem commitVerified_cases (task : TaskExecution) (provisional : HarnessRunResult)
    (w : ExecutionWorld) :
    (¬ (task.fault .verified = none ∧ task.fault .stagePaths = none ∧ task.GitCommits) ∧
        ∃ result payload, EndsUncommitted result ∧
          task.commitVerified provisional w = (result, { w with payload := payload })) ∨
      ((task.fault .verified = none ∧ task.fault .stagePaths = none ∧ task.GitCommits) ∧
        task.commitVerified provisional w = (task.answerAfterCommit provisional, { w with
          payload := resultToJson task.redact provisional, committed := some task.fullCommit })) := by
  rw [commitVerified]
  have hraised : ∀ e : HarnessError, EndsUncommitted (.error e) := fun e _ h => (nomatch h)
  -- the phase is noted and the payload kept before anything is staged
  rcases task.reach_cases .verified w with ⟨hverified, hrun⟩ | ⟨hverified, e, hrun⟩
  rotate_left
  · exact Or.inl ⟨fun h => hverified h.1, _, w.payload, hraised e, Raising.bind_of_error hrun⟩
  rw [Raising.bind_of_ok hrun, change_bind]
  obtain ⟨w', hw'⟩ : ∃ w' : ExecutionWorld, w' =
    { w with payload := resultToJson task.redact provisional } := ⟨_, rfl⟩
  rw [← hw']
  rcases task.reach_cases .stagePaths w' with ⟨hstage, hrun⟩ | ⟨hstage, e, hrun⟩
  rotate_left
  · refine Or.inl ⟨fun h => hstage h.2.1, _, resultToJson task.redact provisional, hraised e, ?_⟩
    rw [Raising.bind_of_error hrun, hw']
  rw [Raising.bind_of_ok hrun]
  rcases task.commitStaged_cases w' with ⟨hnot, hends⟩ | ⟨hcommits, hrun⟩
  · -- no commit: the remaining steps end the execution with a result that has none
    refine Or.inl ⟨fun h => hnot h.2.2, ?_⟩
    rcases hends with ⟨e, hrun⟩ | hrun
    · refine ⟨_, resultToJson task.redact provisional, hraised e, ?_⟩
      rw [Raising.bind_of_error hrun, hw']
    · rw [Raising.bind_of_ok hrun, Option.isSome_none, if_neg Bool.false_ne_true]
      rcases task.reachAll_cases [.commitCreated, .commitRecorded] w' with
        ⟨-, hrun⟩ | ⟨-, e, hrun⟩
      · refine ⟨.ok { provisional with commit := none }, resultToJson task.redact provisional, ?_, ?_⟩
        · intro result hresult
          cases hresult
          rfl
        · rw [Raising.bind_of_ok hrun, hw']
          rfl
      · refine ⟨_, resultToJson task.redact provisional, hraised e, ?_⟩
        rw [Raising.bind_of_error hrun, hw']
  -- the commit stands: what follows can raise, and the answer is then that fault
  · refine Or.inr ⟨⟨hverified, hstage, hcommits⟩, ?_⟩
    have hsame : { w' with committed := some task.fullCommit } = { w with
        payload := resultToJson task.redact provisional, committed := some task.fullCommit } := by
      rw [hw']
    rw [hsame] at hrun
    rw [answerAfterCommit, stepsAfterCommit]
    cases hparse : task.fault .revParse with
    | some e =>
        rw [hparse] at hrun
        rw [Raising.bind_of_error hrun, List.findSome?_cons, hparse]
    | none =>
        rw [hparse] at hrun
        rw [Raising.bind_of_ok hrun, Option.isSome_some, if_pos rfl, List.findSome?_cons, hparse]
        cases hresolve : task.fault .resolveCommit with
        | some e =>
            rw [Raising.bind_of_error (reach_of_some hresolve), List.findSome?_cons, hresolve]
        | none =>
            rw [Raising.bind_of_ok (reach_of_none hresolve), List.findSome?_cons, hresolve]
            have hlast := task.reachAll_run [.commitCreated, .commitRecorded] { w with
              payload := resultToJson task.redact provisional
              committed := some task.fullCommit }
            dsimp only
            cases hfault : [ExecutionStep.commitCreated, .commitRecorded].findSome? task.fault with
            | some e =>
                rw [hfault] at hlast
                exact Raising.bind_of_error hlast
            | none =>
                rw [hfault] at hlast
                exact Raising.bind_of_ok hlast

/-- The execution of a claimed task. -/
theorem executeWorkerCompletion_cases (hworker : task.fault .worker = none) (w : ExecutionWorld) :
    (¬ task.ReachesCommit ∧ ∃ result payload, EndsUncommitted result ∧
        task.executeWorkerCompletion w = (result, { w with payload := payload })) ∨
      (task.ReachesCommit ∧ ∃ preApply, task.PolicyAccepts preApply ∧
        task.executeWorkerCompletion w = (task.answerAfterCommit (task.verifiedResult preApply),
          { w with
            payload := resultToJson task.redact (task.verifiedResult preApply)
            committed := some task.fullCommit })) := by
  rw [executeWorkerCompletion]
  rcases task.verifyCompletion_cases w with
    ⟨hverified, preApply, haccepts, hrun⟩ | ⟨hverified, call, hrejects, hrun⟩
  -- verified: the payload is that of the verified result, whatever the commit does
  · rw [Raising.bind_of_ok hrun]
    rcases task.commitVerified_cases (task.verifiedResult preApply) w with
      ⟨hnot, result, payload, hends, hcommit⟩ | ⟨⟨hphase, hstage, hcommits⟩, hcommit⟩
    · exact Or.inl ⟨fun h => hnot ⟨h.verifiedPhase, h.stagePaths, h.commits⟩,
        result, payload, hends, hcommit⟩
    · exact Or.inr ⟨⟨hworker, hverified, hphase, hstage, hcommits⟩, preApply, haccepts, hcommit⟩
  -- rejected: nothing was noted and nothing committed
  · refine Or.inl ⟨fun h => hverified h.verified, ?_⟩
    rcases hrejects with ⟨e, rfl⟩ | ⟨result, hnone, rfl⟩
    · exact ⟨.error e, w.payload, fun _ h => (nomatch h), Raising.bind_of_error hrun⟩
    · refine ⟨.ok result, w.payload, ?_, Raising.bind_of_ok hrun⟩
      intro other hother
      cases hother
      exact hnone

/-! ## The store in a run -/

/-- The state a run starts from: a running task, a fresh run id and no commit of the operation. -/
structure Claimed (task : TaskExecution) (w : ExecutionWorld) (claimed : QueueTask) : Prop where
  live : LiveQueue w.store.tasks
  latest : latestTask? w.store.tasks task.workItem.id = some claimed
  running : claimed.status = .running
  fresh : ∀ item ∈ w.store.history, item.runId ≠ task.runId
  named : task.runId ≠ ""

/-- The world after a call of the store. -/
def afterCall {α : Type} (m : StoreM α) (w : ExecutionWorld) : ExecutionWorld :=
  { w with store := w.store.applyAll (m w.store).writes }

theorem callStore_of_rewrites {α : Type} {m : StoreM α} {old new : QueueTask} {a : α}
    (h : RewritesLast w.store old new (m w.store) a) :
    callStore m w = (.ok a, afterCall m w) := by
  rw [callStore, h.value_eq]
  rfl

/-- A task in a status that agrees with the commit. -/
theorem coherent_of_latest {taskId : String} {current : QueueTask}
    (hlatest : latestTask? w.store.tasks taskId = some current)
    (hstatus : CoherentStatus current.status w.committed) : Coherent taskId w := by
  intro status h
  rw [latestStatus, hlatest] at h
  cases h
  exact hstatus

theorem not_coherent_of_latest {taskId : String} {current : QueueTask}
    (hlatest : latestTask? w.store.tasks taskId = some current)
    (hstatus : ¬ CoherentStatus current.status w.committed) : ¬ Coherent taskId w :=
  fun h => hstatus (h _ (by rw [latestStatus, hlatest]; rfl))

variable {claimed : QueueTask}

theorem Claimed.id_eq (h : Claimed task w claimed) : claimed.id = task.workItem.id :=
  latestTask?_id h.latest

/-- A run that changed no entry is coherent: the task runs. -/
theorem Claimed.coherent (h : Claimed task w claimed) {committed : Option String} {payload : Json} :
    Coherent task.workItem.id { w with payload := payload, committed := committed } := by
  refine coherent_of_latest (show latestTask? w.store.tasks task.workItem.id = some claimed from
    h.latest) ?_
  rw [h.running]
  trivial

/-- The run id a result of the claimed task is recorded under. -/
theorem Claimed.selectedRunId (h : Claimed task w claimed) (result : HarnessRunResult) :
    (task.report result).selectedRunId = task.runId := by
  rw [ResultReport.selectedRunId]
  show (orElseEmpty (some task.runId) (some task.freshRunId)).getD task.freshRunId = task.runId
  rw [orElseEmpty, if_neg (by simp [h.named])]
  rfl

/-- Recording a result of the claimed task. -/
theorem Claimed.recordResult (h : Claimed task w claimed) (result : HarnessRunResult) :
    RewritesLast w.store claimed (recordedTask (task.report result) claimed)
      (LlmHarness.recordResult (task.report result) w.store)
      (recordedRun (task.report result) claimed) := by
  refine rewritesLast_recordResult (fun item hitem => ?_) h.latest h.running
  rw [h.selectedRunId]
  exact h.fresh item hitem

/-- The status of an accepted result agrees with its commit. -/
theorem coherentStatus_accepted (task : TaskExecution) {result : HarnessRunResult} (hok : result.ok)
    {committed : Option String} (hcommitted : committed ≠ none) :
    CoherentStatus (task.report result).status committed := by
  have hstatus : (task.report result).status =
      if task.reviewRequired then .reviewPending else .done := by
    show resultStatus result task.reviewRequired = _
    rw [resultStatus, hok, Bool.true_and, if_pos rfl]
  rw [hstatus]
  cases task.reviewRequired with
  | true => exact hcommitted
  | false => exact hcommitted

/-- A result without a commit fails its task. -/
theorem status_of_uncommitted (task : TaskExecution) {result : HarnessRunResult} (hcommit : result.commit = none) :
    (task.report result).status = .failed ∧ result.ok = false := by
  have hok : result.ok = false := by
    rw [HarnessRunResult.ok, hcommit]
    rfl
  refine ⟨?_, hok⟩
  show resultStatus result task.reviewRequired = .failed
  rw [resultStatus, hok]
  rfl

/-! ## The handlers -/

/-- Failing the claimed task. -/
theorem failRun_latest {taskId : String} {current : QueueTask} (message : String)
    (hid : task.workItem.id = taskId)
    (hlatest : latestTask? w.store.tasks taskId = some current) :
    ∃ failed : QueueTask, failed.status = .failed ∧
      latestTask? (task.failRun message w).2.store.tasks taskId = some failed ∧
      (task.failRun message w).2.committed = w.committed := by
  subst hid
  obtain ⟨record, hrewrites⟩ := rewritesLast_recordFailure task.startedAtUtc message task.updatedAt
    task.finishedAt task.freshRunId hlatest
  have hcurrent : current.id = task.workItem.id := latestTask?_id hlatest
  have hafter := hrewrites.latest rfl
  rw [hcurrent] at hafter
  rw [failRun, Raising.bind_of_ok (callStore_of_rewrites hrewrites)]
  exact ⟨_, rfl, hafter, rfl⟩

/-- Without a commit both handlers leave a coherent task. -/
theorem handleFault_uncommitted (h : Claimed task w claimed) (hnone : w.committed = none)
    (e : HarnessError) : Coherent task.workItem.id (task.handleFault e w).2 := by
  -- both kinds of fault that are no contention are handled alike
  have hother : ∀ e, Coherent task.workItem.id ((do
      if ← task.reconcileOperation then pure () else task.failRun (errorText e) : ExecM Unit) w).2 := by
    intro e
    -- without a commit the reconciliation only asks for blocking records
    have hreconcile : task.reconcileOperation w = (task.blocks, w) := by
      rw [reconcileOperation, Raising.read_bind, hnone]
      show (answer id task.blocks : ExecM Bool) w = _
      cases hblocks : task.blocks with
      | ok blocking => rfl
      | error e => rfl
    cases hblocks : task.blocks with
    | error e' =>
        rw [hblocks] at hreconcile
        rw [Raising.bind_of_error hreconcile]
        exact h.coherent
    | ok blocking =>
        rw [hblocks] at hreconcile
        rw [Raising.bind_of_ok hreconcile]
        cases blocking with
        | true => exact h.coherent
        | false =>
            obtain ⟨failed, hfailed, hlatest, hcommitted⟩ :=
              failRun_latest (errorText e) rfl h.latest
            refine coherent_of_latest hlatest ?_
            rw [hfailed]
            exact hcommitted.trans hnone
  -- contention hands the task back to the queue
  cases e with
  | stateStore message => exact hother _
  | other message => exact hother _
  | lockContended message =>
      have hrewrites := rewritesLast_recoverRunning
        ("Repository execution lease contention; task was safely requeued: " ++ message)
        task.updatedAt h.latest h.running
      rw [handleFault, Raising.bind_of_ok (callStore_of_rewrites hrewrites)]
      have hafter := hrewrites.latest rfl
      rw [h.id_eq] at hafter
      exact coherent_of_latest hafter hnone

/-- The task a committed operation is left with by the reconciliation. -/
theorem reconcileOperation_committed (h : Claimed task w claimed) {commit : String}
    (hcommitted : w.committed = some commit) {provisional : HarnessRunResult}
    (hpayload : w.payload = resultToJson task.redact provisional) (haccept : Acceptable provisional) :
    ∃ w' current, task.reconcileOperation w = (task.blocks, w') ∧ w'.committed = some commit ∧
      latestTask? w'.store.tasks task.workItem.id = some current ∧
      CoherentStatus current.status (some commit) := by
  have hanswer : ∀ w', (answer id task.blocks : ExecM Bool) w' = (task.blocks, w') := by
    intro w'
    cases hblocks : task.blocks with
    | ok blocking => rfl
    | error e => rfl
  rw [reconcileOperation, Raising.read_bind, hcommitted]
  dsimp only
  -- a state that cannot be completed leaves the task running
  cases hcompletes : task.completes with
  | false =>
      refine ⟨w, claimed, hanswer w, hcommitted, h.latest, ?_⟩
      rw [h.running]
      trivial
  | true =>
      rw [if_pos rfl]
      -- the payload is read back as the accepted result of the commit
      obtain ⟨result, hresult⟩ : ∃ result, result =
        restoredResult task.redact task.repository commit provisional := ⟨_, rfl⟩
      have hok : result.ok := by
        rw [hresult, restoredResult_ok]
        exact haccept commit
      have hrewrites := h.recordResult result
      have hcomplete : task.completeStore commit w =
          (.ok (), afterCall (LlmHarness.recordResult (task.report result)) w) := by
        rw [completeStore, Raising.read_bind, hpayload, result_read, answer_ok_bind, ← hresult,
          Raising.bind_of_ok (callStore_of_rewrites hrewrites)]
        rfl
      have hafter := hrewrites.latest rfl
      rw [h.id_eq] at hafter
      refine ⟨afterCall (LlmHarness.recordResult (task.report result)) w, _, ?_, hcommitted, hafter,
        task.coherentStatus_accepted hok (Option.some_ne_none commit)⟩
      rw [Raising.bind_of_ok hcomplete, hanswer]

/-- After the commit the handlers leave a coherent task exactly when the exception is no contention
    and the reconciliation does not let them go on. -/
theorem handleFault_committed (h : Claimed task w claimed) {commit : String}
    (hcommitted : w.committed = some commit) {provisional : HarnessRunResult}
    (hpayload : w.payload = resultToJson task.redact provisional) (haccept : Acceptable provisional)
    (e : HarnessError) :
    Coherent task.workItem.id (task.handleFault e w).2 ↔
      match e with
      | .lockContended _ => False
      | _ => task.blocks ≠ .ok false := by
  -- both kinds of fault that are no contention are handled alike
  have hother : ∀ e, (Coherent task.workItem.id ((do
      if ← task.reconcileOperation then pure () else task.failRun (errorText e) : ExecM Unit) w).2 ↔
        task.blocks ≠ .ok false) := by
    intro e
    obtain ⟨w', current, hreconcile, hcommitted', hlatest, hstatus⟩ :=
      reconcileOperation_committed h hcommitted hpayload haccept
    have hcoherent : Coherent task.workItem.id w' :=
      coherent_of_latest hlatest (hcommitted' ▸ hstatus)
    cases hblocks : task.blocks with
    | error e' =>
        rw [hblocks] at hreconcile
        rw [Raising.bind_of_error hreconcile]
        exact iff_of_true hcoherent (fun h => (nomatch h))
    | ok blocking =>
        rw [hblocks] at hreconcile
        rw [Raising.bind_of_ok hreconcile]
        cases blocking with
        | true => exact iff_of_true hcoherent (fun h => (nomatch h))
        | false =>
            -- the task fails, and its commit stays
            obtain ⟨failed, hfailed, hlatest', hsame⟩ := failRun_latest (errorText e) rfl hlatest
            refine iff_of_false (not_coherent_of_latest hlatest' ?_) (fun h => h rfl)
            have hsome : (task.failRun (errorText e) w').2.committed = some commit :=
              hsame.trans hcommitted'
            intro hfail
            rw [hfailed] at hfail
            exact Option.some_ne_none commit (hsome.symm.trans hfail)
  -- contention requeues the task although its commit stands
  cases e with
  | stateStore message => exact hother _
  | other message => exact hother _
  | lockContended message =>
      have hrewrites := rewritesLast_recoverRunning
        ("Repository execution lease contention; task was safely requeued: " ++ message)
        task.updatedAt h.latest h.running
      have hafter := hrewrites.latest rfl
      rw [h.id_eq] at hafter
      rw [handleFault, Raising.bind_of_ok (callStore_of_rewrites hrewrites)]
      refine iff_of_false (not_coherent_of_latest hafter ?_) id
      intro hqueued
      exact Option.some_ne_none commit (hcommitted.symm.trans hqueued)

/-! ## The record of a result -/

/-- A cut call of the store leaves the claimed entry, or the rewritten one. -/
theorem callStoreCut_latest {α : Type} {m : StoreM α} {old new : QueueTask} {a : α} (written : Nat)
    (e : HarnessError) (h : RewritesLast w.store old new (m w.store) a) (hid : new.id = old.id)
    (hlatest : latestTask? w.store.tasks old.id = some old) :
    ∃ w', callStoreCut (some (written, e)) m w = (.error e, w') ∧ w'.committed = w.committed ∧
      (latestTask? w'.store.tasks old.id = some old ∨ latestTask? w'.store.tasks old.id = some new) := by
  refine ⟨_, rfl, rfl, ?_⟩
  rcases h.tasks_take written with htasks | htasks
  · left
    show latestTask? (w.store.applyAll ((m w.store).writes.take written)).tasks old.id = _
    rw [htasks, hlatest]
  · right
    show latestTask? (w.store.applyAll ((m w.store).writes.take written)).tasks old.id = _
    rw [htasks, h.latest hid]

/-- A call of the review code at the end of a run. -/
theorem callReview_world {α : Type} (m : ReviewM α) {next : α → ExecM Unit}
    (hnext : ∀ a, next a = pure ()) (w : ExecutionWorld) :
    ((callReview m >>= next) w).2 = { w with
      store := (m.final ⟨w.store, w.files⟩).store, files := (m.final ⟨w.store, w.files⟩).files } := by
  have hrun : callReview m w = ((m ⟨w.store, w.files⟩).value.mapError fun e => .other e.message,
      { w with store := (m.final ⟨w.store, w.files⟩).store
               files := (m.final ⟨w.store, w.files⟩).files }) := rfl
  cases hvalue : (m ⟨w.store, w.files⟩).value with
  | ok a =>
      rw [hvalue] at hrun
      rw [Raising.bind_of_ok hrun, hnext]
      rfl
  | error e =>
      rw [hvalue] at hrun
      rw [Raising.bind_of_error hrun]

/-- The world the review setup of a result leaves. -/
def setUpWorld (task : TaskExecution) (result : HarnessRunResult) (w : ExecutionWorld) : ReviewWorld :=
  (setUpReview task.runtime task.setup task.workItem.id task.runId result.ok task.setupFault).final
    (task.recordedWorld result w)

/-- A record that raises after its first writes leaves the claimed entry, or the rewritten one. -/
theorem recordRun_cut (h : Claimed task w claimed) {result : HarnessRunResult} {written : Nat}
    {e : HarnessError} (hcut : task.recordCut = some (written, e))
    (hstatus : CoherentStatus (task.report result).status w.committed) :
    Coherent task.workItem.id (task.recordRun result w).2 := by
  obtain ⟨w', hrun, hsame, hlatest⟩ :=
    callStoreCut_latest written e (h.recordResult result) rfl (h.id_eq ▸ h.latest)
  rw [recordRun, hcut, Raising.bind_of_error hrun]
  rw [h.id_eq] at hlatest
  rcases hlatest with hlatest | hlatest
  · refine coherent_of_latest hlatest ?_
    rw [h.running]
    trivial
  · refine coherent_of_latest hlatest ?_
    show CoherentStatus (task.report result).status w'.committed
    rw [hsame]
    exact hstatus

/-- A record that does not raise is followed by the review setup, or by an exception that leaves the
    store. -/
theorem recordRun_recorded (h : Claimed task w claimed) (result : HarnessRunResult)
    (hcut : task.recordCut = none) :
    (task.recordRun result w).2.committed = w.committed ∧
      (((∀ step ∈ [ExecutionStep.stateRecorded, .ledgerTerminal], task.fault step = none) ∧
          (task.recordRun result w).2.store = (task.setUpWorld result w).store) ∨
        ((¬ ∀ step ∈ [ExecutionStep.stateRecorded, .ledgerTerminal], task.fault step = none) ∧
          (task.recordRun result w).2.store = (task.recordedWorld result w).store)) := by
  have hrun : callStoreCut none (LlmHarness.recordResult (task.report result)) w =
      (.ok (recordedRun (task.report result) claimed),
        afterCall (LlmHarness.recordResult (task.report result)) w) :=
    callStore_of_rewrites (h.recordResult result)
  have hrunId : (recordedRun (task.report result) claimed).runId = task.runId :=
    h.selectedRunId result
  -- the result is recorded, so only the steps behind it can still raise
  rw [recordRun, hcut, Raising.bind_of_ok hrun, hrunId]
  rcases task.reachAll_cases [.stateRecorded, .ledgerTerminal]
    (afterCall (LlmHarness.recordResult (task.report result)) w) with
    ⟨hsteps, hpass⟩ | ⟨hsteps, e, hraise⟩
  · rw [Raising.bind_of_ok hpass, callReview_world _ fun _ => rfl]
    exact ⟨rfl, Or.inl ⟨hsteps, rfl⟩⟩
  · rw [Raising.bind_of_error hraise]
    exact ⟨rfl, Or.inr ⟨hsteps, rfl⟩⟩

/-- The queue behind a record. -/
theorem Claimed.recordedWorld_latest (h : Claimed task w claimed) (result : HarnessRunResult) :
    latestTask? (task.recordedWorld result w).store.tasks task.workItem.id =
      some (recordedTask (task.report result) claimed) := by
  have hafter := (h.recordResult result).latest rfl
  rwa [h.id_eq] at hafter

/-- Where no review is required the setup leaves the queue. -/
theorem setUpWorld_of_unrequired {result : HarnessRunResult}
    (hnot : ¬ (task.reviewRequired ∧ result.ok)) :
    task.setUpWorld result w = task.recordedWorld result w := by
  have hmode : ¬ (task.setup.threeHead.mode = .required ∧ result.ok = true) := by
    intro h
    exact hnot ⟨decide_eq_true h.1, h.2⟩
  rw [setUpWorld, Durable.Program.final, setUpReview, if_neg hmode]
  rfl

/-- A result without a commit leaves a coherent task. -/
theorem recordRun_uncommitted (h : Claimed task w claimed) (hnone : w.committed = none)
    {result : HarnessRunResult} (hcommit : result.commit = none) :
    Coherent task.workItem.id (task.recordRun result w).2 := by
  -- a result without a commit is no accepted one
  obtain ⟨hstatus, hok⟩ := task.status_of_uncommitted hcommit
  have hagrees : CoherentStatus (task.report result).status w.committed := by
    rw [hstatus]
    exact hnone
  cases hcut : task.recordCut with
  | some cut => exact recordRun_cut h hcut hagrees
  | none =>
      -- ... and asks for no review
      have hunrequired : ¬ (task.reviewRequired ∧ result.ok) := fun hboth => by
        rw [hok] at hboth
        cases hboth.2
      obtain ⟨hsame, hends⟩ := recordRun_recorded h result hcut
      rw [setUpWorld_of_unrequired hunrequired] at hends
      have hstore : (task.recordRun result w).2.store = (task.recordedWorld result w).store := by
        rcases hends with ⟨-, h⟩ | ⟨-, h⟩
        all_goals exact h
      refine coherent_of_latest (hstore ▸ h.recordedWorld_latest result) ?_
      rw [hsame]
      exact hagrees

/-- An accepted task agrees with a commit. -/
theorem coherent_of_accepted {taskId : String} (h : AcceptedTask w.store.tasks taskId)
    (hcommitted : w.committed ≠ none) : Coherent taskId w := by
  obtain ⟨current, hlatest, haccepted⟩ := h.accepted
  refine coherent_of_latest hlatest ?_
  rcases haccepted with hstatus | hstatus | hstatus | hstatus
  · rw [hstatus]
    exact hcommitted
  · rw [hstatus]
    exact hcommitted
  · rw [hstatus]
    trivial
  · rw [hstatus]
    trivial

/-- A recorded result that was accepted. -/
theorem Claimed.acceptedTask (h : Claimed task w claimed) {result : HarnessRunResult}
    (hok : result.ok) :
    AcceptedTask (task.recordedWorld result w).store.tasks task.workItem.id := by
  refine ⟨(h.recordResult result).liveQueue rfl h.live, _, h.recordedWorld_latest result, ?_⟩
  show (resultStatus result task.reviewRequired).Accepted
  rw [resultStatus, hok]
  cases task.reviewRequired with
  | true => exact Or.inl rfl
  | false => exact Or.inr (Or.inl rfl)

/-- The review setup of an accepted result leaves an accepted task, unless its handler fails it. -/
theorem setUpWorld_cases (h : Claimed task w claimed) {result : HarnessRunResult} (hok : result.ok)
    (hrequired : task.reviewRequired) :
    (AcceptedTask (task.setUpWorld result w).store.tasks task.workItem.id ∧
        ¬ ((∃ e, (task.guardedSetup (task.recordedWorld result w)).value = .error e) ∧
          WaitsUnattached (task.guardedSetup.final (task.recordedWorld result w)).store.tasks
            task.workItem.id)) ∨
      (latestStatus (task.setUpWorld result w).store.tasks task.workItem.id = some .failed ∧
        (∃ e, (task.guardedSetup (task.recordedWorld result w)).value = .error e) ∧
        WaitsUnattached (task.guardedSetup.final (task.recordedWorld result w)).store.tasks
          task.workItem.id) := by
  -- the guarded part takes the task along review edges only
  have hguarded : AcceptedTask (task.guardedSetup.final (task.recordedWorld result w)).store.tasks
      task.workItem.id :=
    (h.acceptedTask hok).steps ((movesAlong_attemptWithFault ..).final _)
  have hrequiredMode : task.setup.threeHead.mode = .required ∧ result.ok = true :=
    ⟨of_decide_eq_true hrequired, hok⟩
  rw [setUpWorld, setUpReview, if_pos hrequiredMode]
  rw [guardedSetup] at hguarded ⊢
  -- the export and the attachment either went through or raised into `_fail_review_setup`
  cases hvalue : (attemptWithFault task.runtime task.setup task.workItem.id task.runId
      task.setupFault (task.recordedWorld result w)).value with
  | ok outcome =>
      rw [Durable.final_tryExcept_of_ok hvalue]
      refine Or.inl ⟨hguarded, ?_⟩
      rintro ⟨⟨e, he⟩, -⟩
      cases he
  | error e =>
      rw [Durable.final_tryExcept_of_error hvalue]
      rcases setupFailed_tasks task.setup e hguarded with
        ⟨hwaits, hfailed⟩ | ⟨hnot, hkept⟩
      · exact Or.inr ⟨hfailed, ⟨e, rfl⟩, hwaits⟩
      -- the task is not at the review of this run, so the handler changes nothing
      · refine Or.inl ⟨?_, fun hfails => hnot hfails.2⟩
        rw [hkept]
        exact hguarded

/-- An accepted result leaves a coherent task exactly when the review setup does not fail. -/
theorem recordRun_accepted (result : HarnessRunResult) (h : Claimed task w claimed)
    (hcommitted : w.committed ≠ none) (hok : result.ok) :
    Coherent task.workItem.id (task.recordRun result w).2 ↔ ¬ task.SetupFails result w := by
  -- cut before the recording: the task is still running
  cases hcut : task.recordCut with
  | some cut =>
      refine iff_of_true (recordRun_cut h hcut (task.coherentStatus_accepted hok hcommitted)) ?_
      intro hfails
      have hnone := hfails.recorded
      rw [hcut] at hnone
      cases hnone
  | none =>
  obtain ⟨hsame, hends⟩ := recordRun_recorded h result hcut
  have hkept : (task.recordRun result w).2.committed ≠ none := hsame ▸ hcommitted
  rcases hends with ⟨hsteps, hstore⟩ | ⟨hsteps, hstore⟩
  rotate_left
  · exact iff_of_true (coherent_of_accepted (hstore ▸ h.acceptedTask hok) hkept)
      fun hfails => hsteps hfails.ended
  -- a required review is exported and attached, or fails the task
  by_cases hrequired : task.reviewRequired
  · rcases setUpWorld_cases h hok hrequired with ⟨haccepted, hnot⟩ | ⟨hfailed, hfails⟩
    · refine iff_of_true (coherent_of_accepted (hstore ▸ haccepted) hkept) ?_
      exact fun hfails => hnot ⟨hfails.raises, hfails.waits⟩
    · refine iff_of_false (fun hcoherent => ?_) (not_not_intro
        ⟨hcut, hsteps, hrequired, hfails.1, hfails.2⟩)
      rw [← hstore] at hfailed
      exact hkept (hcoherent _ hfailed)
  · rw [setUpWorld_of_unrequired fun hboth => hrequired hboth.1] at hstore
    exact iff_of_true (coherent_of_accepted (hstore ▸ h.acceptedTask hok) hkept)
      fun hfails => hrequired hfails.required

/-! ## The run -/

/-- What a run does to Git and the ledger leaves the claim as it is. -/
theorem Claimed.moved (h : Claimed task w claimed) (payload : Json) (committed : Option String) :
    Claimed task { w with payload := payload, committed := committed } claimed :=
  ⟨h.live, h.latest, h.running, h.fresh, h.named⟩

/-- An export that raises fails the setup, unless the first entry of the id holds a bundle. -/
theorem setupFails_of_export (h : Claimed task w claimed) {result : HarnessRunResult} {e : ReviewError}
    (hok : result.ok) (hcut : task.recordCut = none)
    (hsteps : ∀ step ∈ [ExecutionStep.stateRecorded, .ledgerTerminal], task.fault step = none)
    (hrequired : task.reviewRequired) (hfault : task.setupFault = none)
    (hexport : (exportReviewBundle task.runtime task.setup.git (some task.setup.threeHead) task.runId
      task.setup.exportedAt (task.recordedWorld result w)).value = .error e)
    (hfirst : ¬ FirstHoldsBundle (task.recordedWorld result w).store.tasks task.workItem.id) :
    task.SetupFails result w := by
  -- the export wrote no task, so the task still waits without its bundle
  have htasks := exportReviewBundle_tasks task.runtime task.setup.git (some task.setup.threeHead)
    task.runId task.setup.exportedAt (task.recordedWorld result w)
  have hrun : task.guardedSetup (task.recordedWorld result w) =
      ⟨(exportReviewBundle task.runtime task.setup.git (some task.setup.threeHead) task.runId
        task.setup.exportedAt (task.recordedWorld result w)).writes, .error e⟩ := by
    rw [guardedSetup, hfault, attemptWithFault_none, attemptSetup, Durable.bind_run, attachExport,
      Durable.bind_run, hexport]
  have hsame : (task.guardedSetup.final (task.recordedWorld result w)).store.tasks =
      (task.recordedWorld result w).store.tasks := by
    rw [Durable.Program.final, hrun]
    exact htasks
  refine ⟨hcut, hsteps, hrequired, ⟨e, by rw [hrun]⟩, ?_, ?_⟩
  · rw [hsame, latestStatus, h.recordedWorld_latest]
    show some (resultStatus result task.reviewRequired) = some .reviewPending
    rw [resultStatus, hok, hrequired]
    rfl
  · rwa [hsame]

/-- What a setup meets does not depend on Git and the ledger. -/
theorem SetupFails.moved {result : HarnessRunResult} {payload : Json} {committed : Option String} :
    task.SetupFails result { w with payload := payload, committed := committed } ↔
      task.SetupFails result w :=
  ⟨fun h => ⟨h.recorded, h.ended, h.required, h.raises, h.waits⟩,
    fun h => ⟨h.recorded, h.ended, h.required, h.raises, h.waits⟩⟩

/-- The policy has one report. -/
theorem PolicyAccepts.unique {preApply preApply' : VerificationReport}
    (h : task.PolicyAccepts preApply) (h' : task.PolicyAccepts preApply') : preApply = preApply' := by
  obtain ⟨_, hpatch, hreport, -⟩ := h
  obtain ⟨_, hpatch', hreport', -⟩ := h'
  obtain rfl := Option.some.inj (hpatch.symm.trans hpatch')
  exact Except.ok.inj (hreport.symm.trans hreport')

/-- A run that reaches its commit. -/
theorem runClaimedTask_committed (h : Claimed task w claimed) (batched : Bool)
    (hreaches : task.ReachesCommit) :
    Coherent task.workItem.id (task.runClaimedTask batched w).2 ↔ task.Honoured w := by
  rw [runClaimedTask, hreaches.worker]
  dsimp only
  rw [executeAndRecord, Honoured]
  rcases executeWorkerCompletion_cases hreaches.worker w with
    ⟨hnot, -⟩ | ⟨-, preApply, haccepts, hrun⟩
  · exact absurd hreaches hnot
  -- the verified result is accepted whatever its commit is called
  have haccept := acceptable_verifiedResult hreaches.verified haccepts
  have hmoved := h.moved (resultToJson task.redact (task.verifiedResult preApply))
    (some task.fullCommit)
  -- what raises behind the commit goes to the handler, with the commit standing
  rw [answerAfterCommit] at hrun
  cases hfault : stepsAfterCommit.findSome? task.fault with
  | none =>
      rw [hfault] at hrun
      rw [hrun]
      have hrecord := recordRun_accepted (task.acceptedResult preApply) hmoved
        (Option.some_ne_none _) (haccept task.shortCommit)
      refine (hrecord.trans (not_congr SetupFails.moved)).trans ?_
      constructor
      · intro hnot other hother
        rwa [hother.unique haccepts]
      · exact fun hall => hall preApply haccepts
  | some e =>
      rw [hfault] at hrun
      rw [hrun]
      have hhandled := handleFault_committed hmoved rfl rfl haccept e
      cases e with
      | lockContended message => exact hhandled
      | stateStore message => exact hhandled
      | other message => exact hhandled

/-- A run that does not. -/
theorem runClaimedTask_uncommitted (h : Claimed task w claimed) (hnone : w.committed = none)
    (batched : Bool) (hreaches : ¬ task.ReachesCommit) :
    Coherent task.workItem.id (task.runClaimedTask batched w).2 := by
  rw [runClaimedTask]
  -- a worker that raises is recorded by the batch, else by the handler
  cases hworker : task.fault .worker with
  | some e =>
      cases batched with
      | false => exact handleFault_uncommitted h hnone e
      | true =>
          -- the batch records what its worker raised
          obtain ⟨failed, hfailed, hlatest, hsame⟩ := failRun_latest (errorText e) rfl h.latest
          refine coherent_of_latest hlatest ?_
          rw [hfailed]
          exact hsame.trans hnone
  | none =>
      dsimp only
      rw [executeAndRecord]
      rcases executeWorkerCompletion_cases hworker w with
        ⟨-, result, payload, hends, hrun⟩ | ⟨hcommits, -⟩
      rotate_left
      · exact absurd hcommits hreaches
      have hmoved := h.moved payload w.committed
      rw [hrun]
      cases result with
      -- whatever came back, nothing was committed
      | ok result => exact recordRun_uncommitted hmoved hnone (hends result rfl)
      | error e => exact handleFault_uncommitted hmoved hnone e

/-- **Run-outcome coherence.**  The handlers leave a coherent task exactly when the execution does
    not reach its commit, or an exception after the commit is no contention and the reconciliation
    stops the handler, or no exception is raised and the review setup does not fail. -/
theorem coherent_iff_honoured (task : TaskExecution) (w : ExecutionWorld) (claimed : QueueTask)
    (batched : Bool) (h : Claimed task w claimed) (hnone : w.committed = none) :
    Coherent task.workItem.id (task.runClaimedTask batched w).2 ↔
      (task.ReachesCommit → task.Honoured w) := by
  by_cases hreaches : task.ReachesCommit
  · rw [runClaimedTask_committed h batched hreaches]
    exact ⟨fun h _ => h, fun h => h hreaches⟩
  · exact iff_of_true (runClaimedTask_uncommitted h hnone batched hreaches)
      fun hcommits => absurd hcommits hreaches

/-! ### The reconciliation behind the answers -/

/-- A worktree without a commit never offers to complete the state. -/
theorem safeAction_classifyWorktree {runtime : LedgerRuntime} {view : ReconcileView}
    {record : OperationRecord} {item : String → Option String → String → ReconciliationItem}
    {head : String} {clean : Bool} {found : ReconciliationItem}
    (hitem : ∀ kind action detail, (item kind action detail).safeAction = action)
    (h : classifyWorktree runtime view record item head clean = .ok found) :
    found.safeAction ≠ some "complete_state" := by
  -- every classification but one names another action or none
  have hends : ∀ kind action detail, action ≠ some "complete_state" →
      (.ok (item kind action detail) : Except OperationError ReconciliationItem) = .ok found →
      found.safeAction ≠ some "complete_state" := by
    intro kind action detail haction hfound
    cases hfound
    rwa [hitem]
  have hnone : (none : Option String) ≠ some "complete_state" := (Option.some_ne_none _).symm
  rw [classifyWorktree] at h
  -- the worktree decides only while HEAD is where the operation began
  by_cases hhead : isText (field record "baseline_head") head = true
  · rw [if_pos hhead] at h
    cases clean with
    | true => exact hends _ _ _ (by decide) h
    | false =>
        rw [if_neg Bool.false_ne_true] at h
        split at h
        · split at h
          · obtain ⟨actual, -, h⟩ := Guards.bind_eq_ok.mp h
            split at h
            · exact hends _ _ _ (by decide) h
            · exact hends _ _ _ hnone h
          · exact hends _ _ _ hnone h
        · exact hends _ _ _ hnone h
  · rw [if_neg hhead] at h
    exact hends _ _ _ hnone h

/-- `_classify` offers to complete the state only where it has found a commit of the operation. -/
theorem commit_of_completeState {runtime : LedgerRuntime} {view : ReconcileView}
    {entry : LedgerEntry} {item : ReconciliationItem} {rewritten : Option OperationRecord}
    (h : classification runtime view entry = .ok (item, rewritten))
    (hsafe : item.safeAction = some "complete_state") :
    ∃ record commit head clean, entry = .valid record ∧
      view.evidence record = .ok (false, some commit, head, clean) := by
  cases entry with
  | corrupted operationId message =>
      cases h
      cases hsafe
  | valid record =>
      rw [classification] at h
      dsimp only at h
      split at h
      -- an operation that has ended
      · cases h
        cases hsafe
      · split at h
        · cases h
          cases hsafe
        · cases h
          exact absurd (Option.some.inj hsafe) (by decide)
        -- a commit that the state does not know
        · rename_i commit head clean hevidence
          exact ⟨record, commit, head, clean, rfl, hevidence⟩
        -- neither: the worktree decides, which never asks for the completion
        · obtain ⟨found, hfound, h⟩ := Guards.bind_eq_ok.mp h
          cases h
          exact absurd hsafe (safeAction_classifyWorktree (fun _ _ _ => rfl) hfound)

/-! ### A journal that cannot be written after the commit -/

/-- A patch of one line of `src/f`. -/
def oneLinePatch : WorkerPatch where
  workerName := "worker"
  workItemId := "a"
  patch := "diff --git a/src/f b/src/f\n--- a/src/f\n+++ b/src/f\n@@ -1 +1 @@\n-old\n+new\n"

/-- Roles without a required review. -/
def unreviewedRoles : ThreeHeadConfig :=
  { sampleRoles with mode := .disabled, distinctIdentities := fun h => nomatch h }

/-- A task whose execution raises nothing but this exception when the commit is journaled. -/
def journaledExecution (fault : Option HarnessError) : TaskExecution where
  repository := "/repo"
  workItem := sampleItem "a"
  runId := "run-1"
  startedAtUtc := "t1"
  verifier := { repr := String.ofList }
  redact := id
  fault step := if step = .commitRecorded then fault else none
  patch := some oneLinePatch
  commandResults := [⟨"pytest", 0, "", ""⟩]
  documentationUpdated := false
  semantic := none
  staged := true
  shortCommit := "c1"
  fullCommit := "c1c1"
  completes := true
  blocks := .ok false
  recordCut := none
  runtime := sampleRuntime sampleContentSha256
  setup := { sampleSetup with threeHead := unreviewedRoles }

/-- The task is claimed. -/
def claimedWorld : ExecutionWorld where
  store := execute [.enqueueMany [(sampleItem "a", "")] "t0", .markRunning "a" "t1"]

/-- The entry of the claimed task. -/
def claimedEntry : QueueTask :=
  { workItem := sampleItem "a", status := .running, source := "", addedAtUtc := "t0"
    updatedAtUtc := "t1", attempts := 1 }

theorem claimed_journaledExecution (fault : Option HarnessError) :
    (journaledExecution fault).Claimed claimedWorld claimedEntry where
  live := liveQueue_execute _
  latest := rfl
  running := rfl
  fresh := fun _ h => (nomatch h)
  named := show "run-1" ≠ "" by decide

theorem reachesCommit_journaledExecution (fault : Option HarnessError) :
    (journaledExecution fault).ReachesCommit := by
  have hscan : scanPatch oneLinePatch.patch.toList = .ok ⟨["src/f".toList], []⟩ := by decide +kernel
  -- only one step may raise, and it comes after the commit
  have hfault : ∀ step, step ≠ ExecutionStep.commitRecorded →
      (journaledExecution fault).fault step = none := fun step hstep => if_neg hstep
  have hfaults : ∀ steps : List ExecutionStep, .commitRecorded ∉ steps →
      ∀ step ∈ steps, (journaledExecution fault).fault step = none :=
    fun steps hsteps step hstep => hfault step fun h => hsteps (h ▸ hstep)
  have hpolicy : ∃ preApply, (journaledExecution fault).verifier.verifyPatchBeforeApply
      (sampleItem "a") oneLinePatch = .ok preApply ∧ preApply.ok := by
    rw [verifyPatchBeforeApply, hscan]
    exact ⟨_, rfl, rfl⟩
  have hverified : (journaledExecution fault).Verified :=
    { started := hfaults _ (by decide)
      patchReturned := hfault _ (by decide)
      policy := ⟨hpolicy.choose, oneLinePatch, rfl, hpolicy.choose_spec⟩
      policyChecked := hfault _ (by decide)
      worktree := {
        applied := hfaults [.beginTask, .applyPatch, .patchApplied, .applyRecorded, .commands,
          .commandRecorded 0] (by decide)
        accepted := rfl
        semantic := fun _ h => (nomatch h) } }
  exact ⟨hfault _ (by decide), hverified, hfault _ (by decide), hfault _ (by decide),
    ⟨hfault _ (by decide), rfl, hfault _ (by decide)⟩⟩

/-- The state lease is contended when the commit is journaled: the handler requeues a task that is
    committed. -/
theorem not_coherent_journaledExecution :
    ¬ Coherent "a" ((journaledExecution (some (.lockContended "state lease"))).runClaimedTask false
      claimedWorld).2 := by
  intro h
  have hcoherent := (runClaimedTask_committed (claimed_journaledExecution _) false
    (reachesCommit_journaledExecution _)).mp h
  exact hcoherent

/-- An execution that raises nothing. -/
theorem coherent_quietExecution :
    Coherent "a" ((journaledExecution none).runClaimedTask false claimedWorld).2 :=
  (coherent_iff_honoured _ _ claimedEntry false (claimed_journaledExecution none) rfl).mpr
    fun _ _ _ hfails => absurd hfails.required (by decide)

end TaskExecution

end LlmHarness
