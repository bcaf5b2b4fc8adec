/-
  LlmHarness.Verifier.Policy

  `PolicyVerifier`: the report on a patch before it is applied and the report on
  the worktree after it, and the trust policy the first one reads.
-/

import LlmHarness.Domain
import LlmHarness.Lib.Guards
import LlmHarness.Verifier.PatchScan
import LlmHarness.Verifier.Scope

namespace LlmHarness

open Python Guards

/-! ## `trust.py` -/

/-- `WorkerTrustLevel`. -/
inductive WorkerTrustLevel where
  | patchOnly
  | branchOnly
  | branchAndCommit
deriving DecidableEq, Repr

namespace WorkerTrustLevel

/-- `WorkerTrustLevel.value`. -/
def value : WorkerTrustLevel → String
  | .patchOnly => "patch_only"
  | .branchOnly => "branch_only"
  | .branchAndCommit => "branch_and_commit"

/-- `WorkerTrustPolicy.requires_patch_output`. -/
def requiresPatchOutput (level : WorkerTrustLevel) : Bool := level = .patchOnly || level = .branchOnly

/-- `WorkerTrustPolicy.can_create_branch`. -/
def canCreateBranch (level : WorkerTrustLevel) : Bool := level = .branchOnly || level = .branchAndCommit

/-- `WorkerTrustPolicy.can_commit`. -/
def canCommit (level : WorkerTrustLevel) : Bool := level = .branchAndCommit

end WorkerTrustLevel

/-! ## `PolicyVerifier` -/

/-- `PolicyVerifier`, with the `repr` of a string that its scan problems quote. -/
structure PolicyVerifier where
  forbiddenPaths : List String := [".git/"]
  requireTests : Bool := true
  trustLevel : WorkerTrustLevel := .patchOnly
  requireExplicitScope : Bool := true
  repr : Text → String

namespace PolicyVerifier

/-- A report without findings is the one that is ok. -/
def report (findings : List String) (metrics : List (String × MetricValue)) : VerificationReport where
  ok := findings.isEmpty
  findings := findings
  metrics := metrics

/-- `", ".join(paths)`. -/
def joinPaths (paths : List Text) : String := ", ".intercalate (paths.map String.ofList)

/-- The finding of a check, if it fails. -/
def finding (failed : Bool) (message : String) : List String := if failed then [message] else []

/-- The scanned paths outside the allowed ones. -/
def outsideScope (workItem : WorkItem) (changedFiles : List Text) : List Text :=
  changedFiles.filter fun path =>
    !matchesAnyAllowedPath path (workItem.allowedPaths.map String.toList)

/-- The last findings of `verify_patch_before_apply`: the declared scope, or its absence. -/
def scopeFindings (verifier : PolicyVerifier) (workItem : WorkItem) (changedFiles : List Text) :
    List String :=
  if workItem.allowedPaths ≠ [] then
    finding (!(outsideScope workItem changedFiles).isEmpty)
      ("Patch changes files outside allowed paths: " ++
        joinPaths (outsideScope workItem changedFiles))
  else
    finding (verifier.requireExplicitScope && !changedFiles.isEmpty)
      ("Work item declares no allowed paths, so patch scope cannot be verified. " ++
        "Declare the paths the task may touch, or '*' for the whole repository.")

/-- The findings on a scanned patch, in the order of the checks. -/
def patchFindings (verifier : PolicyVerifier) (workItem : WorkItem) (workerPatch : WorkerPatch)
    (scan : PatchScan) : List String :=
  let unsafePaths := scan.files.filter isUnsafeRepoPath
  let hits := forbiddenHits scan.files (verifier.forbiddenPaths.map String.toList)
  finding (verifier.trustLevel.requiresPatchOutput && isBlank workerPatch.patch.toList)
      "Patch is empty." ++
    finding (workerPatch.workItemId ≠ workItem.id) "Patch work item id does not match task." ++
    finding (verifier.requireTests && workItem.verificationCommands.isEmpty)
      "Work item has no verification commands." ++
    finding (!scan.problems.isEmpty) ("Patch could not be parsed for scope verification: " ++
      "; ".intercalate (scan.problems.map fun problem => problem.message verifier.repr)) ++
    finding (!unsafePaths.isEmpty) ("Patch contains unsafe repository paths: " ++
      joinPaths unsafePaths) ++
    finding (!hits.isEmpty) ("Patch touches forbidden paths: " ++ joinPaths hits) ++
    verifier.scopeFindings workItem scan.files

/-- `verify_patch_before_apply`; the scan may raise. -/
def verifyPatchBeforeApply (verifier : PolicyVerifier) (workItem : WorkItem)
    (workerPatch : WorkerPatch) : Except String VerificationReport := do
  let scan ← scanPatch workerPatch.patch.toList
  return report (verifier.patchFindings workItem workerPatch scan)
    [("changed_files_count", .int scan.files.length),
      ("forbidden_paths_touched_count",
        .int (forbiddenHits scan.files (verifier.forbiddenPaths.map String.toList)).length),
      ("acceptance_criteria_count", .int workItem.acceptanceCriteria.length),
      ("verification_commands_count", .int workItem.verificationCommands.length),
      ("worker_trust_level", .str verifier.trustLevel.value),
      ("worker_can_create_branch", .bool verifier.trustLevel.canCreateBranch),
      ("worker_can_commit", .bool verifier.trustLevel.canCommit),
      ("patch_parse_problems_count", .int scan.problems.length)]

/-- `verify_after_apply`. -/
def verifyAfterApply (workItem : WorkItem) (commandResultsOk documentationUpdated : Bool) :
    VerificationReport :=
  report
    (finding (!commandResultsOk) "One or more verification commands failed." ++
      finding workItem.acceptanceCriteria.isEmpty "Work item has no acceptance criteria.")
    [("acceptance_criteria_count", .int workItem.acceptanceCriteria.length),
      ("verification_commands_count", .int workItem.verificationCommands.length),
      ("documentation_updated", .bool documentationUpdated)]

/-! ### What an accepted report says -/

theorem report_ok_iff {findings : List String} {metrics : List (String × MetricValue)} :
    (report findings metrics).ok ↔ (report findings metrics).findings = [] :=
  List.isEmpty_iff

theorem finding_eq_nil_iff {failed : Bool} {message : String} :
    finding failed message = [] ↔ failed = false := by
  rw [finding]
  cases failed with
  | true => exact iff_of_false (List.cons_ne_nil _ _) Bool.noConfusion
  | false => exact iff_of_true rfl rfl

/-- The worktree is accepted only when every command passed. -/
theorem commandsOk_of_verifyAfterApply {workItem : WorkItem} {commandsOk documented : Bool}
    (h : (verifyAfterApply workItem commandsOk documented).ok) : commandsOk := by
  have hnone := (List.append_eq_nil_iff.mp (report_ok_iff.mp h)).1
  have hcommands := finding_eq_nil_iff.mp hnone
  rwa [Bool.not_eq_false'] at hcommands

end PolicyVerifier

end LlmHarness
