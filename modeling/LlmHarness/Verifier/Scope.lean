/-
  LlmHarness.Verifier.Scope

  The path checks of `verifier.py`: allowed paths, forbidden prefixes and unsafe
  repository paths, all under `_normalize_repo_path`.
-/

import LlmHarness.Python.PosixPath

namespace LlmHarness

open Python

/-- `WHOLE_REPOSITORY_SCOPE`. -/
def wholeRepositoryScope : Text := ['*']

/-- `_normalize_repo_path`. -/
def normalizeRepoPath (path : Text) : Text :=
  stripChar '/' (PosixPath.parse (replaceChar '\\' '/' path)).toText

/-- `_path_matches_prefix`. -/
def pathMatchesPrefix (path base : Text) : Bool :=
  covers (normalizeRepoPath base) (normalizeRepoPath path)

/-- `_matches_any_allowed_path`. -/
def matchesAnyAllowedPath (path : Text) (allowedPaths : List Text) : Bool :=
  if wholeRepositoryScope ∈ allowedPaths then true
  else allowedPaths.any fun allowedPath => pathMatchesPrefix path allowedPath

/-- `_forbidden_hits`. -/
def forbiddenHits (paths forbiddenPrefixes : List Text) : List Text :=
  paths.filter fun path => forbiddenPrefixes.any fun forbidden => pathMatchesPrefix path forbidden

/-- `_is_unsafe_repo_path`. -/
def isUnsafeRepoPath (path : Text) : Bool :=
  let parsed := PosixPath.parse (replaceChar '\\' '/' path)
  parsed.isAbsolute || parsed.parts.contains ['.', '.']

/-- Two scopes grant a common path exactly when, under the gate's own
    normalisation, one of them is equal to or below the other. -/
theorem exists_path_iff_covers (p q : Text) :
    (∃ path, pathMatchesPrefix path p ∧ pathMatchesPrefix path q) ↔
      covers (normalizeRepoPath p) (normalizeRepoPath q) ∨
        covers (normalizeRepoPath q) (normalizeRepoPath p) := by
  constructor
  · rintro ⟨path, hp, hq⟩
    exact covers_comparable hp hq
  · rintro (h | h)
    · exact ⟨q, h, covers_refl _⟩
    · exact ⟨p, covers_refl _, h⟩

theorem matchesAnyAllowedPath_iff (path : Text) (allowedPaths : List Text) :
    matchesAnyAllowedPath path allowedPaths ↔
      wholeRepositoryScope ∈ allowedPaths ∨ ∃ p ∈ allowedPaths, pathMatchesPrefix path p := by
  by_cases h : wholeRepositoryScope ∈ allowedPaths <;> simp [matchesAnyAllowedPath, h]

end LlmHarness
