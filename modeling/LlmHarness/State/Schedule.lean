/-
  LlmHarness.State.Schedule

  Batch isolation: the scheduler selects tasks whose scopes do not conflict
  under its own normalisation, the patch gate grants paths under another one.
  Two selected tasks share no grantable path exactly when the two readings of
  their scopes agree on what nests.
-/

import LlmHarness.State.Store
import LlmHarness.Verifier.Scope

namespace LlmHarness

open Python

/-- No path is accepted by the gate for both tasks. -/
def Isolated (a b : QueueTask) : Prop :=
  ¬ ∃ path, matchesAnyAllowedPath path a.allowedPaths ∧ matchesAnyAllowedPath path b.allowedPaths

/-- Scopes that nest for the gate also conflict for the scheduler. -/
def SpellingsAgree (a b : QueueTask) : Prop :=
  ∀ p ∈ a.allowedPaths, ∀ q ∈ b.allowedPaths,
    covers (normalizeRepoPath p) (normalizeRepoPath q) ∨
      covers (normalizeRepoPath q) (normalizeRepoPath p) →
    resourcePathsConflict (normalizeResourcePath p) (normalizeResourcePath q)

/-! ## What the scheduler guarantees -/

/-- The tasks selected so far stay pairwise free of conflicts. -/
theorem scheduleBatchLoop_pairwise (limit : Int) (ready : List TaskReadiness)
    (selected : List QueueTask)
    (h : selected.Pairwise fun a b => resourceScopesConflict b.allowedPaths a.allowedPaths = false) :
    (scheduleBatchLoop limit ready selected).Pairwise fun a b =>
      resourceScopesConflict b.allowedPaths a.allowedPaths = false := by
  induction ready generalizing selected with
  | nil => exact h
  | cons readiness rest ih =>
      rw [scheduleBatchLoop]
      by_cases hconflict : selected.any fun current =>
          resourceScopesConflict readiness.task.allowedPaths current.allowedPaths
      · rw [if_pos hconflict]
        exact ih selected h
      · have hfree : ∀ current ∈ selected,
            resourceScopesConflict readiness.task.allowedPaths current.allowedPaths = false := by
          simpa using hconflict
        have hnext : (selected ++ [readiness.task]).Pairwise fun a b =>
            resourceScopesConflict b.allowedPaths a.allowedPaths = false := by
          refine List.pairwise_append.mpr ⟨h, List.pairwise_singleton _ _, ?_⟩
          intro current hcurrent b hb
          obtain rfl := List.mem_singleton.mp hb
          exact hfree current hcurrent
        rw [if_neg hconflict]
        dsimp only
        split
        · exact hnext
        · exact ih _ hnext

theorem scheduleBatch_pairwise {tasks batch : List QueueTask} {limit : Int}
    (h : scheduleBatch tasks limit = .ok batch) :
    batch.Pairwise fun a b => resourceScopesConflict b.allowedPaths a.allowedPaths = false := by
  rw [scheduleBatch] at h
  split at h
  · cases h
  · obtain rfl := Except.ok.inj h
    exact scheduleBatchLoop_pairwise limit _ [] List.Pairwise.nil

/-! ## What the gate grants -/

/-- A task whose scope holds the marker of the whole repository conflicts with
    every task. -/
theorem not_mem_wholeRepositoryScope {left right : List Text}
    (h : resourceScopesConflict left right = false) :
    wholeRepositoryScope ∉ left ∧ wholeRepositoryScope ∉ right := by
  obtain ⟨hleft, hright, hpairs⟩ := (resourceScopesConflict_eq_false_iff left right).mp h
  obtain ⟨p, hp⟩ := List.exists_mem_of_ne_nil left hleft
  obtain ⟨q, hq⟩ := List.exists_mem_of_ne_nil right hright
  constructor
  · intro hmem
    have hconflict := hpairs _ hmem q hq
    rw [wholeRepositoryScope, resourcePathsConflict_star] at hconflict
    cases hconflict
  · intro hmem
    have hconflict := hpairs p hp _ hmem
    rw [resourcePathsConflict_comm, wholeRepositoryScope, resourcePathsConflict_star] at hconflict
    cases hconflict

/-- For tasks the scheduler holds apart, isolation is agreement of the two
    readings. -/
theorem isolated_iff_spellingsAgree {a b : QueueTask}
    (h : resourceScopesConflict b.allowedPaths a.allowedPaths = false) :
    Isolated a b ↔ SpellingsAgree a b := by
  obtain ⟨hwholeB, hwholeA⟩ := not_mem_wholeRepositoryScope h
  obtain ⟨-, -, hpairs⟩ := (resourceScopesConflict_eq_false_iff _ _).mp h
  constructor
  · intro hisolated p hp q hq hnest
    obtain ⟨path, hpathp, hpathq⟩ := (exists_path_iff_covers p q).mpr hnest
    exact absurd ⟨path, (matchesAnyAllowedPath_iff path _).mpr (Or.inr ⟨p, hp, hpathp⟩),
      (matchesAnyAllowedPath_iff path _).mpr (Or.inr ⟨q, hq, hpathq⟩)⟩ hisolated
  · rintro hagree ⟨path, hpatha, hpathb⟩
    rw [matchesAnyAllowedPath_iff] at hpatha hpathb
    obtain ⟨p, hp, hpathp⟩ := hpatha.resolve_left hwholeA
    obtain ⟨q, hq, hpathq⟩ := hpathb.resolve_left hwholeB
    have hnest := (exists_path_iff_covers p q).mp ⟨path, hpathp, hpathq⟩
    have hconflict := hagree p hp q hq hnest
    rw [resourcePathsConflict_comm, hpairs q hq p hp] at hconflict
    cases hconflict

/-! ## Plain spellings -/

/-- A scope without outer white space whose `.` and empty parts are at most its
    outer slashes. -/
structure PlainScope (p : Text) : Prop where
  stripped : strip p = p
  normal : normalizeRepoPath p = stripChar '/' (replaceChar '\\' '/' p)

theorem casefold_covers {a b : Text} (h : covers a b) : covers (casefold a) (casefold b) := by
  rw [covers_iff] at h ⊢
  rcases h with rfl | ⟨rest, rfl⟩
  · exact Or.inl rfl
  · right
    have hslash : casefold ['/'] = ['/'] := by decide +kernel
    rw [casefold_append, casefold_append, hslash]
    exact List.prefix_append _ _

/-- For plain spellings the scheduler's reading is the gate's, casefolded. -/
theorem resourcePathsConflict_of_plain {p q : Text} (hp : PlainScope p) (hq : PlainScope q)
    (h : covers (normalizeRepoPath p) (normalizeRepoPath q)) :
    resourcePathsConflict (normalizeResourcePath p) (normalizeResourcePath q) := by
  have hnormal : ∀ {r : Text}, PlainScope r →
      stripChar '/' (replaceChar '\\' '/' (strip r)) = normalizeRepoPath r := by
    intro r hr
    rw [hr.stripped, hr.normal]
  have hfold := casefold_covers h
  rw [normalizeResourcePath, normalizeResourcePath, hnormal hp, hnormal hq]
  cases hcp : casefold (normalizeRepoPath p) with
  | nil => simp [resourcePathsConflict]
  | cons c cs =>
      cases hcq : casefold (normalizeRepoPath q) with
      | nil => simp [resourcePathsConflict]
      | cons d ds =>
          rw [hcp, hcq] at hfold
          simp [resourcePathsConflict, hfold]

theorem spellingsAgree_of_plain {a b : QueueTask} (ha : ∀ p ∈ a.allowedPaths, PlainScope p)
    (hb : ∀ q ∈ b.allowedPaths, PlainScope q) : SpellingsAgree a b := by
  intro p hp q hq hnest
  rcases hnest with hnest | hnest
  · exact resourcePathsConflict_of_plain (ha p hp) (hb q hq) hnest
  · rw [resourcePathsConflict_comm]
    exact resourcePathsConflict_of_plain (hb q hq) (ha p hp) hnest

/-! ## Batches -/

/-- **Batch isolation.**  Of the tasks one `schedule_batch` call returns, two
    share no path the gate accepts exactly when every scope of the one and scope
    of the other that nest for the gate also conflict for the scheduler; in
    particular, where the scopes of both are plainly spelled. -/
theorem scheduleBatch_isolated_iff (tasks batch : List QueueTask) (limit : Int)
    (h : scheduleBatch tasks limit = .ok batch) :
    batch.Pairwise (fun a b => (Isolated a b ↔ SpellingsAgree a b)) ∧
      batch.Pairwise fun a b => (∀ p ∈ a.allowedPaths, PlainScope p) →
        (∀ q ∈ b.allowedPaths, PlainScope q) → Isolated a b := by
  have hiff := (scheduleBatch_pairwise h).imp isolated_iff_spellingsAgree
  exact ⟨hiff, hiff.imp fun hiff ha hb => hiff.mpr (spellingsAgree_of_plain ha hb)⟩

/-- Two items whose scopes the scheduler keeps apart. -/
def disjointQueue : List QueueTask :=
  [queuedTask "t0" ({ sampleItem "a" with allowedPaths := ["src/a"] }, ""),
    queuedTask "t0" ({ sampleItem "b" with allowedPaths := ["docs/"] }, "")]

theorem scheduleBatch_isolated_disjointQueue : disjointQueue.Pairwise Isolated := by
  have hbatch : scheduleBatch disjointQueue 2 = .ok disjointQueue := by decide +kernel
  have hpairs := (scheduleBatch_isolated_iff disjointQueue disjointQueue 2 hbatch).2
  have hplain : ∀ task ∈ disjointQueue, ∀ p ∈ task.allowedPaths, PlainScope p := by
    have hchecked : ∀ task ∈ disjointQueue, ∀ p ∈ task.allowedPaths,
        strip p = p ∧ normalizeRepoPath p = stripChar '/' (replaceChar '\\' '/' p) := by
      decide +kernel
    exact fun task htask p hp => ⟨(hchecked task htask p hp).1, (hchecked task htask p hp).2⟩
  exact hpairs.imp_of_mem fun ha hb hisolated => hisolated (hplain _ ha) (hplain _ hb)

/-! ## The defect -/

/-- "src" and "./src" name one directory. -/
def dottedQueue : List QueueTask :=
  [queuedTask "t0" ({ sampleItem "a" with allowedPaths := ["src"] }, ""),
    queuedTask "t0" ({ sampleItem "b" with allowedPaths := ["./src"] }, "")]

/-- Both tasks are returned by one call, and both may change "src/main.py". -/
theorem not_isolated_dottedQueue :
    scheduleBatch dottedQueue 2 = .ok dottedQueue ∧ ¬ dottedQueue.Pairwise Isolated := by
  refine ⟨by decide +kernel, ?_⟩
  rw [dottedQueue, List.pairwise_pair]
  intro h
  exact h ⟨"src/main.py".toList, by decide +kernel, by decide +kernel⟩

end LlmHarness
