/-
  LlmHarness.State.ResourceScope

  The scheduler's own reading of allowed paths: `_normalize_resource_path` and
  `_resource_scopes_conflict`.
-/

import LlmHarness.Python.CaseFold
import LlmHarness.Python.PosixPath

namespace LlmHarness

open Python

/-- `_normalize_resource_path`. -/
def normalizeResourcePath (value : Text) : Text :=
  let normalized := stripChar '/' (replaceChar '\\' '/' (strip value))
  match casefold normalized with
  | [] => ['*']
  | folded => folded

/-- The inner comparison of `_resource_scopes_conflict`. -/
def resourcePathsConflict (first second : Text) : Bool :=
  first == ['*'] || second == ['*'] || covers second first || covers first second

/-- `_resource_scopes_conflict`. -/
def resourceScopesConflict (left right : List Text) : Bool :=
  left.isEmpty || right.isEmpty ||
    left.any fun first => right.any fun second =>
      resourcePathsConflict (normalizeResourcePath first) (normalizeResourcePath second)

theorem resourceScopesConflict_eq_false_iff (left right : List Text) :
    resourceScopesConflict left right = false ↔
      left ≠ [] ∧ right ≠ [] ∧ ∀ p ∈ left, ∀ q ∈ right,
        resourcePathsConflict (normalizeResourcePath p) (normalizeResourcePath q) = false := by
  simp [resourceScopesConflict, and_assoc]

theorem resourcePathsConflict_comm (p q : Text) :
    resourcePathsConflict p q = resourcePathsConflict q p := by
  simp only [resourcePathsConflict]
  ac_rfl

/-- The marker of the whole repository conflicts with every scope. -/
theorem resourcePathsConflict_star (q : Text) :
    resourcePathsConflict (normalizeResourcePath ['*']) q := by
  have h : normalizeResourcePath ['*'] = ['*'] := by decide +kernel
  simp [resourcePathsConflict, h]

end LlmHarness
