/-
  LlmHarness.Review.Reachable

  The worlds the review code runs in: a store that any calls and imports have
  filled, completed or cut short, beside any documents.  The queue of such a
  store has one live entry for each id, and its decisions are integral.
-/

import LlmHarness.Review.Reimport
import LlmHarness.State.Invariants

namespace LlmHarness

open Python StoreM

variable {runtime : Runtime} {s : Store}

/-! ## The queue across an import -/

/-- Returning after a call adds no write. -/
theorem bind_pure_writes {α β : Type} (m : StoreM α) (b : β) (s : Store) :
    ((m >>= fun _ => pure b) s).writes = (m s).writes := by
  rw [bind_run]
  cases (m s).value with
  | error e => rfl
  | ok a => exact List.append_nil _

/-- The application of a decision writes nothing, or what `resolve_review` writes. -/
theorem applyPart_writes (record : ReviewDecisionRecord) (now : String) (s : Store) :
    (applyPart record now s).writes = [] ∨
      (applyPart record now s).writes = opWrites (.resolveReview record.workItemId record.bundleId
        record.decisionId record.decision.text record.summary now) s := by
  rw [applyPart]
  by_cases hstrict : record.isStrict
  · rw [if_pos hstrict, bind_pure_writes, applyStrictDecisionIfPending, read_bind]
    cases latestTask? s.tasks record.workItemId with
    | none => exact Or.inl rfl
    | some task =>
        by_cases hshows : task.status = record.decision.status ∧
            task.lastReviewDecisionId = some record.decisionId
        · simp only [if_pos hshows]
          exact Or.inl rfl
        · simp only [if_neg hshows]
          exact Or.inr (bind_pure_writes _ () s)
  · rw [if_neg hstrict]
    exact Or.inl rfl

/-- An application that is refused writes nothing. -/
theorem applyPart_error {record : ReviewDecisionRecord} {now : String} {e : StateStoreError}
    (h : (applyPart record now s).value = .error e) : (applyPart record now s).writes = [] := by
  rw [applyPart] at h ⊢
  by_cases hstrict : record.isStrict
  · rw [if_pos hstrict] at h ⊢
    rw [bind_pure_writes, applyStrictDecisionIfPending, read_bind]
    rw [applyStrictDecisionIfPending, bind_run, read_bind] at h
    cases hlatest : latestTask? s.tasks record.workItemId with
    | none => rfl
    | some task =>
        rw [hlatest] at h
        by_cases hshows : task.status = record.decision.status ∧
            task.lastReviewDecisionId = some record.decisionId
        · simp only [if_pos hshows]
          rfl
        · simp only [if_neg hshows] at h ⊢
          rcases resolveReview_cases record.workItemId record.bundleId record.decisionId
            record.summary now record.decision s with ⟨e', hrun, -⟩ | ⟨_, _, _, _, _, -, -, -, -, hrun⟩
          · rw [bind_of_error hrun]
          · rw [bind_of_ok hrun] at h
            cases h
  · rw [if_neg hstrict] at h
    cases h

/-- An application that raises leaves what the recording wrote. -/
theorem appliedImport_error {recorded : List Write} {stored : ReviewDecisionRecord} {now : String}
    {e : ReviewError} (h : (appliedImport recorded stored now s).value = .error e) :
    (appliedImport recorded stored now s).writes = recorded := by
  rw [appliedImport] at h ⊢
  cases hpart : (applyPart stored now (s.applyAll recorded)).value with
  | ok record => simp [hpart] at h
  | error e =>
      rw [applyPart_error hpart]
      exact List.append_nil _

/-- An import that raises leaves the queue alone. -/
theorem import_error_tasks {found : ImportCall} {s : Store} {e : ReviewError}
    (h : (importVerifierDecision runtime found s).value = .error e) :
    (s.applyAll (importVerifierDecision runtime found s).writes).tasks = s.tasks := by
  have hrun := importRun runtime found s
  generalize importVerifierDecision runtime found s = outcome at hrun h ⊢
  cases hrun with
  | refused => rfl
  | again =>
      rw [appliedImport_error h]
      rfl
  | fresh =>
      rw [appliedImport_error h]
      rfl

/-- The edge of a decision that is applied. -/
def AppliesDecision (kind : EdgeKind) (_ : String) : Prop := ∃ bundleId, kind = .reviewResolved bundleId

/-- The application of a decision, cut anywhere, moves the queue along that edge. -/
theorem applyPart_taskSteps (record : ReviewDecisionRecord) (now : String) (s : Store) (written : Nat) :
    TaskSteps AppliesDecision s.tasks
      (s.applyAll ((applyPart record now s).writes.take written)).tasks := by
  rcases applyPart_writes record now s with hwrites | hwrites
  · rw [hwrites, List.take_nil]
    exact .refl
  · rw [hwrites]
    exact (atomic_resolveReview _ _ _ _ _ _ ⟨_, rfl⟩).taskSteps_take written

theorem appliedImport_taskSteps {recorded : List Write} (hrecorded : KeepsQueue recorded)
    (stored : ReviewDecisionRecord) (now : String) (s : Store) (written : Nat) :
    TaskSteps AppliesDecision s.tasks
      (s.applyAll ((appliedImport recorded stored now s).writes.take written)).tasks := by
  rw [appliedImport]
  by_cases hwritten : written ≤ recorded.length
  · rw [List.take_append_of_le_length hwritten, (hrecorded.take written).tasks_eq]
  · obtain ⟨rest, rfl⟩ : ∃ rest, written = recorded.length + rest :=
      ⟨written - recorded.length, by omega⟩
    rw [List.take_length_add_append, applyAll_append]
    have hsteps := applyPart_taskSteps stored now (s.applyAll recorded) rest
    rwa [hrecorded.tasks_eq] at hsteps

/-- An import, also one that a crash cuts short, moves the queue along the edge of its decision. -/
theorem import_taskSteps (runtime : Runtime) (call : ImportCall) (s : Store) (written : Nat) :
    TaskSteps AppliesDecision s.tasks
      (s.applyAll ((importVerifierDecision runtime call s).writes.take written)).tasks := by
  have hrun := importRun runtime call s
  generalize importVerifierDecision runtime call s = outcome at hrun ⊢
  cases hrun with
  | refused e =>
      rw [List.take_nil]
      exact .refl
  | again => exact appliedImport_taskSteps (fun _ hw => absurd hw List.not_mem_nil) _ _ _ _
  | fresh => exact appliedImport_taskSteps (by simp [KeepsQueue]) _ _ _ _

/-- What every change of the queue keeps, an import keeps. -/
theorem import_induction (runtime : Runtime) {P : List QueueTask → Prop}
    (hstep : ∀ {R : EdgeKind → String → Prop} {tasks tasks' : List QueueTask},
      P tasks → TaskStep R tasks tasks' → P tasks')
    (h : P s.tasks) (call : ImportCall) (written : Nat) :
    P (s.applyAll ((importVerifierDecision runtime call s).writes.take written)).tasks := by
  have hsteps := import_taskSteps runtime call s written
  generalize (s.applyAll _).tasks = after at hsteps ⊢
  induction hsteps with
  | refl => exact h
  | tail _ hlast hbefore => exact hstep hbefore hlast

/-- ... and so does every step of a run. -/
theorem reviewStep_induction {P : List QueueTask → Prop}
    (hstep : ∀ {R : EdgeKind → String → Prop} {tasks tasks' : List QueueTask},
      P tasks → TaskStep R tasks tasks' → P tasks')
    (h : P s.tasks) (event : ReviewEvent) : P (reviewStep runtime s event).tasks := by
  cases event with
  | importDecision call =>
      have hall := import_induction runtime hstep h call
        (importVerifierDecision runtime call s).writes.length
      rwa [List.take_length] at hall
  | interruptedImport call written => exact import_induction runtime hstep h call written
  | other op keeps => exact step_induction hstep h op

/-! ## Worlds -/

/-- A world that calls of the store, imports, journal entries and changes of documents lead to. -/
inductive ReachableWorld (runtime : Runtime) : ReviewWorld → Prop where
  | start (files : String → Option Payload) : ReachableWorld runtime ⟨Store.empty, files⟩
  | event {w : ReviewWorld} (h : ReachableWorld runtime w) (event : ReviewEvent) :
    ReachableWorld runtime { w with store := reviewStep runtime w.store event }
  | journal {w : ReviewWorld} (h : ReachableWorld runtime w) (event : JournalEvent) :
    ReachableWorld runtime { w with store := w.store.apply (.journal event) }
  | documents {w : ReviewWorld} (h : ReachableWorld runtime w) (files : String → Option Payload) :
    ReachableWorld runtime { w with files := files }

theorem ReachableWorld.liveQueue {w : ReviewWorld} (h : ReachableWorld runtime w) :
    LiveQueue w.store.tasks := by
  induction h with
  | start => exact List.Pairwise.nil
  | event _ event ih => exact reviewStep_induction liveQueue_step ih event
  | journal _ _ ih => exact ih
  | documents _ _ ih => exact ih

theorem ReachableWorld.integrity {w : ReviewWorld} (h : ReachableWorld runtime w) :
    DecisionIntegrity runtime w.store := by
  induction h with
  | start => exact ⟨.nil, .nil, nofun, nofun⟩
  | event _ event ih => exact decisionIntegrity_step ih event
  | journal _ event ih =>
      have hnone : ∀ w ∈ [Write.journal event], NoDecision w := by simp [NoDecision, Write.reviewDecision?]
      exact ih.keep hnone
  | documents _ _ ih => exact ih

/-- The runs of the store are among them. -/
theorem reachableWorld_reviewRun (events : List ReviewEvent) (files : String → Option Payload) :
    ReachableWorld runtime ⟨reviewRun runtime events, files⟩ := by
  induction events using List.reverseRecOn with
  | nil => exact .start files
  | append_singleton events event ih =>
      rw [reviewRun, List.foldl_append]
      exact ih.event event

end LlmHarness
