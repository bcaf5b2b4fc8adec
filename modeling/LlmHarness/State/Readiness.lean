/-
  LlmHarness.State.Readiness

  What `schedule` calls ready, and what the claim calls do with it: `claim_next`
  and `claim_batch` move queued entries whose dependencies are done to running
  (or to escalated, at the attempt limit), and touch no other entry.
-/

import LlmHarness.State.Invariants

namespace LlmHarness

open Python

variable {tasks tasks' : List QueueTask}

/-- The latest entry of the id is queued and every dependency of it is done. -/
def Ready (tasks : List QueueTask) (id : String) : Prop :=
  ∃ task, latestTask? tasks id = some task ∧ task.status = .queued ∧
    ∀ d ∈ task.workItem.dependsOn, latestStatus tasks d = some .done

/-! ## The schedule -/

theorem text_eq_done {status : TaskStatus} (h : status.text = "done") : status = .done := by
  cases status with
  | done => rfl
  | queued | running | reviewPending | reworkRequired | escalated | failed | rolledBack =>
      exact absurd h (by decide)

theorem latestStatus_of_dependencyStatus {d : String}
    (h : dependencyStatus (latestTasksById tasks) d = "done") :
    latestStatus tasks d = some .done := by
  rw [dependencyStatus, dictGet?_latestTasksById] at h
  cases hlatest : latestTask? tasks d with
  | none =>
      rw [hlatest] at h
      exact absurd h (by decide)
  | some task =>
      rw [hlatest] at h
      rw [latestStatus, hlatest, Option.map_some, text_eq_done h]

/-- An entry without blockers has all its dependencies done. -/
theorem dependencies_done {task : QueueTask}
    (h : dependencyBlockers task (latestTasksById tasks) = []) :
    ∀ d ∈ task.workItem.dependsOn, latestStatus tasks d = some .done := by
  intro d hd
  apply latestStatus_of_dependencyStatus
  by_contra hne
  have hnone := List.filterMap_eq_nil_iff.mp h d hd
  simp [hne] at hnone

theorem ready_of_mem_schedule (hlive : LiveQueue tasks) {item : TaskReadiness}
    (h : item ∈ (schedule tasks).ready) : Ready tasks item.task.id := by
  obtain ⟨entry, -, hitem⟩ := List.mem_filterMap.mp h
  -- the item is one of the readiness records, filed under its own id
  obtain ⟨readiness, hreadiness, hpair⟩ := List.mem_map.mp (mem_of_dictGet?_dictOfPairs hitem)
  obtain ⟨-, rfl⟩ := Prod.mk.inj hpair
  obtain ⟨hrecord, hready⟩ := List.mem_filter.mp hreadiness
  obtain ⟨⟨task, index⟩, hindexed, rfl⟩ := List.mem_map.mp hrecord
  obtain ⟨hentry, hqueued⟩ := List.mem_filter.mp hindexed
  have htask : task ∈ tasks := List.fst_mem_of_mem_zipIdx hentry
  have hstatus : task.status = .queued := of_decide_eq_true hqueued
  refine ⟨task, ?_, hstatus, dependencies_done (List.isEmpty_iff.mp hready)⟩
  have hactive : task.status.isActive := by
    rw [hstatus]
    rfl
  exact KeyedLog.LiveLast.last?_of_mem hlive htask hactive

theorem ready_of_selected (hlive : LiveQueue tasks) {task : QueueTask}
    (h : (schedule tasks).selected = some task) : Ready tasks task.id := by
  obtain ⟨item, hitem, rfl⟩ := Option.map_eq_some_iff.mp h
  exact ready_of_mem_schedule hlive (List.mem_of_mem_head? hitem)

theorem mem_scheduleBatchLoop {limit : Int} {ready : List TaskReadiness}
    {selected : List QueueTask} {task : QueueTask} (h : task ∈ scheduleBatchLoop limit ready selected) :
    task ∈ selected ∨ ∃ item ∈ ready, item.task = task := by
  induction ready generalizing selected with
  | nil => exact Or.inl h
  | cons item rest ih =>
      -- a later item, or this one if it was selected
      have hlater : ∀ selected', task ∈ scheduleBatchLoop limit rest selected' →
          (∀ t ∈ selected', t ∈ selected ∨ t = item.task) →
          task ∈ selected ∨ ∃ item' ∈ item :: rest, item'.task = task := by
        intro selected' hmem hselected
        rcases ih hmem with hmem | ⟨item', hitem', heq⟩
        · rcases hselected task hmem with hmem | rfl
          · exact Or.inl hmem
          · exact Or.inr ⟨item, List.mem_cons_self, rfl⟩
        · exact Or.inr ⟨item', List.mem_cons_of_mem _ hitem', heq⟩
      have happended : ∀ t ∈ selected ++ [item.task], t ∈ selected ∨ t = item.task := by
        intro t ht
        simpa using ht
      rw [scheduleBatchLoop] at h
      split at h
      · exact hlater selected h fun t ht => Or.inl ht
      · dsimp only at h
        split at h
        · rcases happended task h with hmem | rfl
          · exact Or.inl hmem
          · exact Or.inr ⟨item, List.mem_cons_self, rfl⟩
        · exact hlater _ h happended

theorem ready_of_mem_scheduleBatch (hlive : LiveQueue tasks) {limit : Int} {batch : List QueueTask}
    (h : scheduleBatch tasks limit = .ok batch) {task : QueueTask} (htask : task ∈ batch) :
    Ready tasks task.id := by
  rw [scheduleBatch] at h
  split at h
  · cases h
  · obtain rfl := Except.ok.inj h
    rcases mem_scheduleBatchLoop htask with hnil | ⟨item, hitem, rfl⟩
    · exact absurd hnil List.not_mem_nil
    · exact ready_of_mem_schedule hlive hitem

/-! ## Claims -/

/-- A call that claims work. -/
inductive ClaimCall where
  | claimNext (maxAttempts : Option Int) (now : String)
  | claimBatch (limit : Int) (now : Nat → String)

/-- The store operation it makes. -/
def ClaimCall.op : ClaimCall → Op
  | .claimNext maxAttempts now => .claimNext maxAttempts now
  | .claimBatch limit now => .claimBatch limit now

/-- The ids it goes for: the selected task, or the tasks of the batch. -/
def ClaimCall.targets (call : ClaimCall) (tasks : List QueueTask) : List String :=
  match call with
  | .claimNext _ _ => (schedule tasks).selected.toList.map QueueTask.id
  | .claimBatch limit _ =>
    match scheduleBatch tasks limit with
    | .ok batch => batch.map QueueTask.id
    | .error _ => []

theorem ready_of_mem_targets (hlive : LiveQueue tasks) {call : ClaimCall} {id : String}
    (h : id ∈ call.targets tasks) : Ready tasks id := by
  cases call with
  | claimNext maxAttempts now =>
      obtain ⟨task, htask, rfl⟩ := List.mem_map.mp h
      exact ready_of_selected hlive (Option.mem_toList.mp htask)
  | claimBatch limit now =>
      rw [ClaimCall.targets] at h
      cases hbatch : scheduleBatch tasks limit with
      | error e => simp [hbatch] at h
      | ok batch =>
          rw [hbatch] at h
          obtain ⟨task, htask, rfl⟩ := List.mem_map.mp h
          exact ready_of_mem_scheduleBatch hlive hbatch htask

/-- The edges a claim takes, on its targets only. -/
def ClaimCall.rewrites (call : ClaimCall) (tasks : List QueueTask) (kind : EdgeKind) (id : String) :
    Prop :=
  (kind = .started ∨ kind = .attemptLimit) ∧ id ∈ call.targets tasks

theorem taskSteps_claim (call : ClaimCall) (s : Store) :
    TaskSteps (call.rewrites s.tasks) s.tasks (s.step call.op).tasks := by
  have hsteps : Steps (call.rewrites s.tasks) s (opWrites call.op s) := by
    cases call with
    | claimNext maxAttempts now =>
        apply Atomic.steps
        apply atomic_claimNext
        intro selected hselected
        have hmem : selected.id ∈ (ClaimCall.claimNext maxAttempts now).targets s.tasks := by
          rw [ClaimCall.targets, hselected]
          exact List.mem_singleton.mpr rfl
        exact ⟨fun _ => ⟨Or.inl rfl, hmem⟩, ⟨Or.inr rfl, hmem⟩⟩
    | claimBatch limit now =>
        apply steps_claimBatch
        intro batch hbatch task htask
        refine ⟨Or.inl rfl, ?_⟩
        rw [ClaimCall.targets, hbatch]
        exact List.mem_map_of_mem htask
  have h := hsteps.taskSteps_take (opWrites call.op s).length
  rwa [List.take_length] at h

/-- **What a claim does.**  An id keeps its latest entry, or it is a target whose
    queued entry starts or is escalated. -/
theorem latestTask?_claim (call : ClaimCall) (s : Store) (hlive : LiveQueue s.tasks) (id : String) :
    latestTask? (s.step call.op).tasks id = latestTask? s.tasks id ∨
      id ∈ call.targets s.tasks ∧ ∃ old new, latestTask? s.tasks id = some old ∧
        latestTask? (s.step call.op).tasks id = some new ∧
        new.workItem.dependsOn = old.workItem.dependsOn ∧ old.status = .queued ∧
        (new.status = .running ∨ new.status = .escalated) := by
  have hsteps := taskSteps_claim call s
  generalize (s.step call.op).tasks = after at hsteps
  -- the queue stays live on the way, and an id that moved is queued no more
  suffices h : LiveQueue after ∧ (latestTask? after id = latestTask? s.tasks id ∨
      id ∈ call.targets s.tasks ∧ ∃ old new, latestTask? s.tasks id = some old ∧
        latestTask? after id = some new ∧ new.workItem.dependsOn = old.workItem.dependsOn ∧
        old.status = .queued ∧ (new.status = .running ∨ new.status = .escalated)) from h.2
  induction hsteps with
  | refl => exact ⟨hlive, Or.inl rfl⟩
  | @tail middle after _ hstep ih =>
      obtain ⟨hmiddle, hbefore⟩ := ih
      refine ⟨liveQueue_step hmiddle hstep, ?_⟩
      rcases hstep.latest hmiddle id with hsame | ⟨⟨h | h, -⟩, -, -⟩ |
        ⟨kind, old, new, ⟨hkind, htarget⟩, hedge, hold, hnew⟩
      · rwa [hsame]
      · cases h
      · cases h
      · have hmoved : old.status = .queued ∧
            (new.status = .running ∨ new.status = .escalated) := by
          rcases hkind with rfl | rfl
          · cases hedge with
            | started hstatus => exact ⟨hstatus, Or.inl rfl⟩
          · cases hedge with
            | attemptLimit hstatus => exact ⟨hstatus, Or.inr rfl⟩
        rcases hbefore with hsame | ⟨-, first, moved, -, hlatest, -, -, hstatus⟩
        · right
          rw [hsame] at hold
          exact ⟨htarget, old, new, hold, hnew, hedge.dependsOn_eq, hmoved⟩
        · obtain rfl := Option.some.inj (hlatest.symm.trans hold)
          rw [hmoved.1] at hstatus
          exact absurd hstatus (by decide)

end LlmHarness
