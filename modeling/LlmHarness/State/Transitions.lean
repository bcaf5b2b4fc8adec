/-
  LlmHarness.State.Transitions

  What one mutator call can do to the queue and to the journal, said once.

  - `Edge` lists the lifecycle edges: how a mutator rewrites an entry.
  - `Op.rewrites` says which edges a call can take, and on which id.
  - `Atomic` is one durable change: nothing, a batch of new entries, or one
    entry rewritten, each with the transitions the journal gets for it.
  - `atomic_of_op`, `steps_of_op`: the writes of every call are such changes.
  - `taskSteps_of_op`: so every call, also one cut short, moves the queue along
    its edges.
-/

import LlmHarness.State.Store

namespace LlmHarness

open Python StoreM

/-! ## Lifecycle edges -/

/-- The ways a mutator changes the queue: a new entry, or an edge of an entry
    that is there. -/
inductive EdgeKind where
  | enqueued
  | started
  | retried
  | recovered
  | recorded
  | failureRecorded
  | bundleAttached (bundleId : String)
  | setupFailed
  | reviewFailed
  | reviewResolved (bundleId : String)
  | reworkLimit
  | reworkConfirmed
  | attemptLimit
  | escalationResolved
  | rolledBack
deriving DecidableEq, Repr

/-- `Edge kind old new`: the entry `old` may be rewritten to `new`. -/
inductive Edge : EdgeKind → QueueTask → QueueTask → Prop where
  | started {old : QueueTask} {now : String} (hstatus : old.status = .queued) :
    Edge .started old { old with
      status := .running
      updatedAtUtc := now
      attempts := old.attempts + 1
      lastCommit := none
      lastError := none }
  | retried {old : QueueTask} {now : String} (hstatus : old.status = .failed) :
    Edge .retried old { old with status := .queued, updatedAtUtc := now, lastError := none }
  | recovered {old : QueueTask} {now reason : String} (hstatus : old.status = .running) :
    Edge .recovered old { old with
      status := .queued
      updatedAtUtc := now
      lastError := some reason }
  | recorded {old : QueueTask} {now : String} {status : TaskStatus} {commit error : Option String}
      (hstatus : old.status = .running)
      (hnew : status = .reviewPending ∨ status = .done ∨ status = .failed) :
    Edge .recorded old { old with
      status := status
      updatedAtUtc := now
      lastCommit := commit
      lastError := error }
  | failureRecorded {old : QueueTask} {now error : String} :
    Edge .failureRecorded old { old with
      status := .failed
      updatedAtUtc := now
      lastCommit := none
      lastError := some error }
  | bundleAttached {old : QueueTask} {now bundleId : String} (hstatus : old.status = .reviewPending) :
    Edge (.bundleAttached bundleId) old { old with
      updatedAtUtc := now
      pendingReviewBundleId := some bundleId
      lastError := none }
  | setupFailed {old : QueueTask} {now error : String} (hstatus : old.status = .reviewPending) :
    Edge .setupFailed old { old with
      status := .failed
      updatedAtUtc := now
      lastError := some error }
  | reviewFailed {old : QueueTask} {now error : String} (hstatus : old.status = .reviewPending) :
    Edge .reviewFailed old { old with updatedAtUtc := now, lastError := some error }
  | reviewResolved {old : QueueTask} {now bundleId decisionId : String} {status : TaskStatus}
      {error : Option String} (hstatus : old.status = .reviewPending)
      (hbundle : old.pendingReviewBundleId = some bundleId)
      (hnew : status = .done ∨ status = .reworkRequired ∨ status = .escalated) :
    Edge (.reviewResolved bundleId) old { old with
      status := status
      updatedAtUtc := now
      pendingReviewBundleId := none
      lastReviewDecisionId := some decisionId
      lastError := error }
  | reworkLimit {old : QueueTask} {now error : String} (hstatus : old.status = .reworkRequired) :
    Edge .reworkLimit old { old with
      status := .escalated
      updatedAtUtc := now
      lastError := some error }
  | reworkConfirmed {old : QueueTask} {now decisionId : String} {instructions : List String}
      (hstatus : old.status = .reworkRequired) :
    Edge .reworkConfirmed old { old with
      status := .queued
      updatedAtUtc := now
      workItem := { old.workItem with
        correctionInstructions := instructions
        correctionDecisionId := some decisionId }
      pendingReviewBundleId := none
      lastError := none }
  | attemptLimit {old : QueueTask} {now error : String} (hstatus : old.status = .queued) :
    Edge .attemptLimit old { old with
      status := .escalated
      updatedAtUtc := now
      lastError := some error }
  | escalationResolved {old : QueueTask} {now : String} {status : TaskStatus} {attempts : Nat}
      {error : Option String} (hstatus : old.status = .escalated)
      (hnew : status = .queued ∨ status = .failed) :
    Edge .escalationResolved old { old with
      status := status
      updatedAtUtc := now
      attempts := attempts
      pendingReviewBundleId := none
      lastError := error }
  | rolledBack {old : QueueTask} {now error : String} (hstatus : old.status = .done) :
    Edge .rolledBack old { old with
      status := .rolledBack
      updatedAtUtc := now
      lastError := some error }

/-- Every edge keeps the id. -/
theorem Edge.id_eq {kind : EdgeKind} {old new : QueueTask} (h : Edge kind old new) :
    new.id = old.id := by
  cases h <;> rfl

/-- Every edge keeps the dependencies. -/
theorem Edge.dependsOn_eq {kind : EdgeKind} {old new : QueueTask} (h : Edge kind old new) :
    new.workItem.dependsOn = old.workItem.dependsOn := by
  cases h <;> rfl

/-- Every edge keeps the enqueue stamp. -/
theorem Edge.addedAtUtc_eq {kind : EdgeKind} {old new : QueueTask} (h : Edge kind old new) :
    new.addedAtUtc = old.addedAtUtc := by
  cases h <;> rfl

/-- The edges `_update_task` takes; it always rewrites the last entry of an id. -/
def EdgeKind.updates : EdgeKind → Bool
  | started | retried | recovered | recorded | failureRecorded => true
  | _ => false

/-- The other edges, a rollback apart, leave a live entry. -/
theorem Edge.active_of_replaces {kind : EdgeKind} {old new : QueueTask} (h : Edge kind old new)
    (hkind : kind.updates = false) (hroll : kind ≠ .rolledBack) : old.status.isActive := by
  cases h with
  | started | retried | recovered | recorded | failureRecorded => simp [EdgeKind.updates] at hkind
  | rolledBack => exact absurd rfl hroll
  | bundleAttached hstatus | setupFailed hstatus | reviewFailed hstatus | reviewResolved hstatus
  | reworkLimit hstatus | reworkConfirmed hstatus | attemptLimit hstatus
  | escalationResolved hstatus => simp [hstatus, TaskStatus.isActive]

/-- The transition an edge announces in the journal. -/
def EdgeKind.announces (kind : EdgeKind) (old new : QueueTask) : Option Transition :=
  match kind with
  | .bundleAttached _ | .reviewFailed => none
  | .failureRecorded => some ⟨some .running, .failed⟩
  | _ => some ⟨some old.status, new.status⟩

/-- Which changes a call can make, and on which id. -/
def Op.rewrites : Op → EdgeKind → String → Prop
  | .enqueueMany items _, kind, id => kind = .enqueued ∧ id ∈ items.map fun item => item.1.id
  | .claimNext .., kind, _ => kind = .started ∨ kind = .attemptLimit
  | .claimBatch .., kind, _ => kind = .started
  | .markRunning workItemId _, kind, id => kind = .started ∧ id = workItemId
  | .requeueFailed workItemId _, kind, id => kind = .retried ∧ id = workItemId
  | .recoverRunning workItemId _ _, kind, id => kind = .recovered ∧ id = workItemId
  | .recordResult report, kind, id => kind = .recorded ∧ id = report.workItemId
  | .recordFailure workItemId _ _ _ _ _, kind, id => kind = .failureRecorded ∧ id = workItemId
  | .attachReviewBundle workItemId bundleId _, kind, id =>
    kind = .bundleAttached bundleId ∧ id = workItemId
  | .failReviewSetup workItemId _ _, kind, id => kind = .setupFailed ∧ id = workItemId
  | .recordReviewFailure workItemId _ _, kind, id => kind = .reviewFailed ∧ id = workItemId
  | .resolveReview workItemId bundleId _ _ _ _, kind, id =>
    kind = .reviewResolved bundleId ∧ id = workItemId
  | .confirmRework workItemId _ _ _ _, kind, id =>
    (kind = .reworkLimit ∨ kind = .reworkConfirmed) ∧ id = workItemId
  | .escalateAttemptLimit workItemId _ _, kind, id => kind = .attemptLimit ∧ id = workItemId
  | .resolveEscalation workItemId _ _ _, kind, id => kind = .escalationResolved ∧ id = workItemId
  | .markRolledBack workItemId _ _ _, kind, id => kind = .rolledBack ∧ id = workItemId
  | .completeRollback record _, kind, id =>
    kind = .rolledBack ∧ id = record.workItemId ∧ record.ok ∧ record.rollbackCommit.isSome
  | .recordRollback _, _, _ => False
  | .recordReviewBundle _, _, _ => False
  | .recordReviewDecision _, _, _ => False
  | .recordOperatorEvent _, _, _ => False
  | .recordAuditReport _, _, _ => False
  | .setTelegramUpdateOffset _, _, _ => False
  | .interrupted _ 0, _, _ => False
  | .interrupted op (_ + 1), kind, id => op.rewrites kind id

/-! ## Atomic changes -/

/-- The transition a write announces, with the id it is about. -/
def Write.announcement : Write → Option (String × Transition)
  | .journal event =>
    match event.taskId, event.transition with
    | some id, some transition => some (id, transition)
    | _, _ => none
  | _ => none

/-- The transitions a list of writes announces, in order. -/
def announcements (writes : List Write) : List (String × Transition) :=
  writes.filterMap Write.announcement

/-- Writes that are not the queue file. -/
def KeepsQueue (writes : List Write) : Prop :=
  ∀ w ∈ writes, ∀ tasks, w ≠ .queue tasks

/-- One durable change of a call that may take the edges `R`. -/
inductive Atomic (R : EdgeKind → String → Prop) (s : Store) : List Write → Prop where
  /-- The queue stays and nothing is announced. -/
  | silent {writes : List Write} (hkeeps : KeepsQueue writes)
      (hsilent : announcements writes = []) : Atomic R s writes
  /-- A batch of fresh lifecycles goes to the end of the queue. -/
  | enqueued {items : List (WorkItem × String)} {now : String} {rest : List Write}
      (hitems : items ≠ []) (hallowed : ∀ item ∈ items, R .enqueued item.1.id)
      (hdistinct : (items.map fun item => item.1.id).Nodup)
      (hfree : activeIncoming s.tasks (items.map Prod.fst) = [])
      (hgraph : validateEnqueueGraph s.tasks (items.map Prod.fst) = .ok ())
      (hkeeps : KeepsQueue rest)
      (hannounced : announcements rest =
        items.map fun item => (item.1.id, Transition.mk none .queued)) :
    Atomic R s (.queue (s.tasks ++ items.map (queuedTask now)) :: rest)
  /-- The latest entry of an id, or an entry equal to it, is rewritten. -/
  | rewritten {kind : EdgeKind} {pre post : List QueueTask} {old new : QueueTask}
      {rest : List Write} (hallowed : R kind old.id) (hedge : Edge kind old new)
      (htasks : s.tasks = pre ++ old :: post)
      (hlatest : latestTask? s.tasks old.id = some old)
      (hlast : kind.updates → KeyedLog.IsLast QueueTask.id s.tasks pre old post)
      (hkeeps : KeepsQueue rest)
      (hannounced : announcements rest = ((kind.announces old new).map (old.id, ·)).toList) :
    Atomic R s (.queue (pre ++ new :: post) :: rest)

/-- A sequence of atomic changes, each from the store the ones before left. -/
inductive Steps (R : EdgeKind → String → Prop) : Store → List Write → Prop where
  | nil (s : Store) : Steps R s []
  | cons {s : Store} {writes rest : List Write} (first : Atomic R s writes)
      (next : Steps R (s.applyAll writes) rest) : Steps R s (writes ++ rest)

variable {R : EdgeKind → String → Prop} {s : Store} {α β : Type}

/-- One transition is a sequence of transitions. -/
theorem Atomic.steps {writes : List Write} (h : Atomic R s writes) : Steps R s writes := by
  have hsteps := Steps.cons h (Steps.nil _)
  rwa [List.append_nil] at hsteps

@[simp]
theorem announcements_nil : announcements [] = [] := rfl

@[simp]
theorem announcements_append (ws ws' : List Write) :
    announcements (ws ++ ws') = announcements ws ++ announcements ws' :=
  List.filterMap_append

theorem announcements_journal (event : JournalEvent) (ws : List Write) :
    announcements (.journal event :: ws) =
      (Write.announcement (.journal event)).toList ++ announcements ws := by
  simp only [announcements, List.filterMap_cons]
  cases Write.announcement (.journal event) <;> rfl

/-- Two lists of writes that leave the queue alone leave it alone together. -/
theorem keepsQueue_append {ws ws' : List Write} (h : KeepsQueue ws) (h' : KeepsQueue ws') :
    KeepsQueue (ws ++ ws') := by
  intro w hw tasks
  rcases List.mem_append.mp hw with hw | hw
  · exact h w hw tasks
  · exact h' w hw tasks

/-- Evidence written after an atomic change is part of it. -/
theorem Atomic.append_silent {ws ws' : List Write} (h : Atomic R s ws) (hkeeps' : KeepsQueue ws')
    (hsilent' : announcements ws' = []) : Atomic R s (ws ++ ws') := by
  have happend : ∀ ws, announcements (ws ++ ws') = announcements ws := by
    intro ws
    rw [announcements_append, hsilent', List.append_nil]
  cases h with
  | silent hkeeps hsilent =>
      exact .silent (keepsQueue_append hkeeps hkeeps') ((happend _).trans hsilent)
  | enqueued hitems hallowed hdistinct hfree hgraph hkeeps hannounced =>
      exact .enqueued hitems hallowed hdistinct hfree hgraph (keepsQueue_append hkeeps hkeeps')
        ((happend _).trans hannounced)
  | rewritten hallowed hedge htasks hlatest hlast hkeeps hannounced =>
      exact .rewritten hallowed hedge htasks hlatest hlast (keepsQueue_append hkeeps hkeeps')
        ((happend _).trans hannounced)

/-- Refused calls and reads change nothing. -/
theorem atomic_nil : Atomic R s [] :=
  .silent (fun _ hw => absurd hw List.not_mem_nil) rfl

/-- Writes are made one after the other. -/
theorem applyAll_append (s : Store) (ws ws' : List Write) :
    s.applyAll (ws ++ ws') = (s.applyAll ws).applyAll ws' :=
  List.foldl_append

/-! ## Running a store operation -/

/-- A sequence makes the writes of its first part, and those of the rest only if the first answers.
    -/
theorem bind_run (m : StoreM α) (next : α → StoreM β) (s : Store) :
    (m >>= next) s = match (m s).value with
      | .error e => ⟨(m s).writes, .error e⟩
      | .ok a => ⟨(m s).writes ++ (next a (s.applyAll (m s).writes)).writes,
          (next a (s.applyAll (m s).writes)).value⟩ := rfl

theorem bind_of_ok {m : StoreM α} {next : α → StoreM β} {ws : List Write} {a : α}
    (h : m s = ⟨ws, .ok a⟩) :
    (m >>= next) s = ⟨ws ++ (next a (s.applyAll ws)).writes, (next a (s.applyAll ws)).value⟩ := by
  rw [bind_run, h]

theorem bind_of_error {m : StoreM α} {next : α → StoreM β} {ws : List Write} {e : StateStoreError}
    (h : m s = ⟨ws, .error e⟩) : (m >>= next) s = ⟨ws, .error e⟩ := by
  rw [bind_run, h]

@[simp]
theorem pure_run (a : α) (s : Store) : (pure a : StoreM α) s = ⟨[], .ok a⟩ := rfl

@[simp]
theorem refuse_run (message : String) (s : Store) :
    (refuse message : StoreM α) s = ⟨[], .error ⟨message⟩⟩ := rfl

@[simp]
theorem read_bind (f : Store → α) (next : α → StoreM β) (s : Store) :
    (read f >>= next) s = next (f s) s := rfl

@[simp]
theorem write_run (w : Write) (s : Store) : write w s = ⟨[w], .ok ()⟩ := rfl

@[simp]
theorem write_bind (w : Write) (next : Unit → StoreM β) (s : Store) :
    (write w >>= next) s =
      ⟨w :: (next () (s.apply w)).writes, (next () (s.apply w)).value⟩ := rfl

@[simp]
theorem transitionEvent_bind (task : QueueTask) (previous current : TaskStatus) (action : String)
    (details : Json) (runId : Option String) (next : Unit → StoreM β) (s : Store) :
    (transitionEvent task previous current action details runId >>= next) s =
      (write (.journal {
        eventType := .stateTransition
        actor := "supervisor"
        action := action
        transition := some ⟨some previous, current⟩
        content := details
        taskId := some task.id
        runId := runId }) >>= next) s := rfl

theorem getTask_bind_some {workItemId : String} {task : QueueTask} (next : QueueTask → StoreM β)
    (h : latestTask? s.tasks workItemId = some task) :
    (getTask workItemId >>= next) s = next task s := by
  have hget : getTask workItemId s = ⟨[], .ok task⟩ := by simp [getTask, h]
  rw [bind_of_ok hget]
  rfl

theorem getTask_bind_none {workItemId : String} (next : QueueTask → StoreM β)
    (h : latestTask? s.tasks workItemId = none) :
    (getTask workItemId >>= next) s = ⟨[], .error ⟨s!"Unknown queued task: {workItemId}"⟩⟩ := by
  have hget : getTask workItemId s = ⟨[], .error ⟨s!"Unknown queued task: {workItemId}"⟩⟩ := by
    simp [getTask, h]
  rw [bind_of_error hget]

/-- The entry `_update_task` leaves. -/
def updatedTask (task : QueueTask) (status : TaskStatus) (now : String) (attemptsDelta : Nat)
    (lastCommit lastError : Option String) : QueueTask :=
  { task with
    status := status
    updatedAtUtc := now
    attempts := task.attempts + attemptsDelta
    lastCommit := lastCommit
    lastError := lastError }

/-- `_update_task` on a known id rewrites its last entry. -/
theorem updateTask_run {workItemId : String} {task : QueueTask} (status : TaskStatus) (now : String)
    (attemptsDelta : Nat) (lastCommit lastError : Option String)
    (h : latestTask? s.tasks workItemId = some task) :
    ∃ pre post, KeyedLog.IsLast QueueTask.id s.tasks pre task post ∧
      updateTask workItemId status now attemptsDelta lastCommit lastError s =
        ⟨[.queue (pre ++ updatedTask task status now attemptsDelta lastCommit lastError :: post)],
          .ok (updatedTask task status now attemptsDelta lastCommit lastError)⟩ := by
  obtain ⟨rfl, pre, post, hlast⟩ := KeyedLog.exists_isLast_of_last? h
  refine ⟨pre, post, hlast, ?_⟩
  simp [updateTask, KeyedLog.updateLast_of_isLast hlast, updatedTask]

theorem updateTask_run_none {workItemId : String} (status : TaskStatus) (now : String)
    (attemptsDelta : Nat) (lastCommit lastError : Option String)
    (h : latestTask? s.tasks workItemId = none) :
    updateTask workItemId status now attemptsDelta lastCommit lastError s =
      ⟨[], .error ⟨s!"Unknown queued task: {workItemId}"⟩⟩ := by
  have hnone : ∀ f, KeyedLog.updateLast QueueTask.id workItemId f s.tasks = none := fun f =>
    (KeyedLog.updateLast_eq_none_iff workItemId f s.tasks).mpr
      ((KeyedLog.last?_eq_none_iff QueueTask.id s.tasks workItemId).mp h)
  simp [updateTask, hnone]

/-- `_replace_task` on a latest entry rewrites an entry equal to it. -/
theorem replaceTask_run {workItemId : String} {task : QueueTask} (now : String)
    (changes : QueueTask → QueueTask) (h : latestTask? s.tasks workItemId = some task) :
    ∃ pre post, s.tasks = pre ++ task :: post ∧
      replaceTask task now changes s =
        ⟨[.queue (pre ++ changes { task with updatedAtUtc := now } :: post)],
          .ok (changes { task with updatedAtUtc := now })⟩ := by
  obtain ⟨log', hu⟩ := KeyedLog.updateFirst_isSome
    (fun task => changes { task with updatedAtUtc := now }) (KeyedLog.mem_of_last? h).1
  obtain ⟨-, pre, post, htasks, rfl⟩ := KeyedLog.updateFirst_eq_some hu
  exact ⟨pre, post, htasks, by simp [replaceTask, hu]⟩

/-! ## Calls are sequences of atomic changes -/

/-- What follows the queue write of an edge: evidence and the edge's transition. -/
structure Follows (kind : EdgeKind) (old new : QueueTask) (ws : List Write) : Prop where
  keeps : KeepsQueue ws
  announced : announcements ws = ((kind.announces old new).map (old.id, ·)).toList

/-- An operation on a task makes no write when the task is unknown. -/
theorem atomic_getTask {workItemId : String} {next : QueueTask → StoreM β}
    (h : ∀ task, latestTask? s.tasks workItemId = some task → Atomic R s (next task s).writes) :
    Atomic R s ((getTask workItemId >>= next) s).writes := by
  cases htask : latestTask? s.tasks workItemId with
  | none =>
      rw [getTask_bind_none next htask]
      exact atomic_nil
  | some task =>
      rw [getTask_bind_some next htask]
      exact h task htask

/-- The entry that is found for an id has it. -/
theorem latestTask?_id {tasks : List QueueTask} {workItemId : String} {task : QueueTask}
    (h : latestTask? tasks workItemId = some task) : task.id = workItemId :=
  (KeyedLog.mem_of_last? h).2

/-- An operation that goes through `_update_task` is one transition if the entry's move is an edge
    and the rest follows it. -/
theorem atomic_updateTask {workItemId : String} {task : QueueTask} {status : TaskStatus}
    {now : String} {attemptsDelta : Nat} {lastCommit lastError : Option String}
    {next : QueueTask → StoreM β} (kind : EdgeKind)
    (hlatest : latestTask? s.tasks workItemId = some task) (hallowed : R kind workItemId)
    (hedge : Edge kind task (updatedTask task status now attemptsDelta lastCommit lastError))
    (hnext : ∀ s', Follows kind task
      (updatedTask task status now attemptsDelta lastCommit lastError)
      (next (updatedTask task status now attemptsDelta lastCommit lastError) s').writes) :
    Atomic R s
      ((updateTask workItemId status now attemptsDelta lastCommit lastError >>= next) s).writes := by
  obtain ⟨pre, post, hlast, hrun⟩ :=
    updateTask_run status now attemptsDelta lastCommit lastError hlatest
  obtain rfl : task.id = workItemId := latestTask?_id hlatest
  have hid : latestTask? s.tasks task.id = some task := hlast.last?
  rw [bind_of_ok hrun]
  exact .rewritten hallowed hedge hlast.eq_append hid (fun _ => hlast) (hnext _).keeps
    (hnext _).announced

/-- ... and so is one that goes through `_replace_task`. -/
theorem atomic_replaceTask {workItemId : String} {task : QueueTask} {now : String}
    {changes : QueueTask → QueueTask} {next : QueueTask → StoreM β} (kind : EdgeKind)
    (hlatest : latestTask? s.tasks workItemId = some task) (hallowed : R kind workItemId)
    (hkind : kind.updates = false)
    (hedge : Edge kind task (changes { task with updatedAtUtc := now }))
    (hnext : ∀ s', Follows kind task (changes { task with updatedAtUtc := now })
      (next (changes { task with updatedAtUtc := now }) s').writes) :
    Atomic R s ((replaceTask task now changes >>= next) s).writes := by
  obtain ⟨pre, post, htasks, hrun⟩ := replaceTask_run now changes hlatest
  obtain rfl : task.id = workItemId := latestTask?_id hlatest
  rw [bind_of_ok hrun]
  exact .rewritten hallowed hedge htasks hlatest (by simp [hkind]) (hnext _).keeps (hnext _).announced

/-- The journal event of a transition is all that follows. -/
theorem follows_transitionEvent {kind : EdgeKind} {old new : QueueTask} {event : JournalEvent}
    (hid : event.taskId = some old.id) (htransition : event.transition = kind.announces old new) :
    Follows kind old new [.journal event] := by
  refine ⟨by simp [KeepsQueue], ?_⟩
  rw [announcements_journal, announcements_nil, List.append_nil, Write.announcement, hid,
    htransition]
  cases kind.announces old new <;> rfl

/-- A record of the history may stand before the event. -/
theorem follows_cons_history {kind : EdgeKind} {old new : QueueTask} {record : RunRecord}
    {ws : List Write} (h : Follows kind old new ws) :
    Follows kind old new (.history record :: ws) := by
  refine ⟨?_, h.announced⟩
  intro w hw tasks
  rcases List.mem_cons.mp hw with rfl | hw
  · simp
  · exact h.keeps w hw tasks

/-- A continuation that writes nothing. -/
theorem bind_writes {m : StoreM α} {next : α → StoreM β}
    (h : ∀ a s', (next a s').writes = []) : ((m >>= next) s).writes = (m s).writes := by
  have hrun := bind_run m next s
  cases hvalue : (m s).value with
  | error e => rw [hrun, hvalue]
  | ok a =>
      rw [hrun, hvalue]
      show (m s).writes ++ (next a _).writes = (m s).writes
      rw [h, List.append_nil]

/-- Two sequences of transitions are one. -/
theorem Steps.append {ws ws' : List Write} (h : Steps R s ws)
    (h' : Steps R (s.applyAll ws) ws') : Steps R s (ws ++ ws') := by
  induction h with
  | nil s => exact h'
  | cons first _ ih =>
      rw [List.append_assoc]
      rw [applyAll_append] at h'
      exact .cons first (ih h')

/-- A sequence of operations makes the transitions of its parts. -/
theorem steps_bind {m : StoreM α} {next : α → StoreM β} (hm : Steps R s (m s).writes)
    (hnext : ∀ a s', Steps R s' (next a s').writes) : Steps R s ((m >>= next) s).writes := by
  rw [bind_run]
  cases (m s).value with
  | error e => exact hm
  | ok a => exact hm.append (hnext a _)

theorem lift_bind_ok {result : Except StateStoreError α} {a : α} (next : α → StoreM β)
    (h : result = .ok a) : (lift result >>= next) s = next a s := by
  subst h
  rfl

theorem lift_bind_error {result : Except StateStoreError α} {e : StateStoreError}
    (next : α → StoreM β) (h : result = .error e) : (lift result >>= next) s = ⟨[], .error e⟩ := by
  subst h
  rfl

/-! ### Queue -/

/-- The events of a batch are appended in its order. -/
theorem recordEvents_run (events : List JournalEvent) (s : Store) :
    recordEvents events s = ⟨events.map Write.journal, .ok ()⟩ := by
  induction events generalizing s with
  | nil => rfl
  | cons event events ih => rw [recordEvents, write_bind, ih, List.map_cons]

theorem keepsQueue_journal (events : List JournalEvent) : KeepsQueue (events.map Write.journal) := by
  intro w hw tasks
  obtain ⟨event, -, rfl⟩ := List.mem_map.mp hw
  simp

/-- Every added entry is announced as queued. -/
theorem announcements_enqueued (now : String) (items : List (WorkItem × String)) :
    announcements (((items.map (queuedTask now)).map enqueuedEvent).map Write.journal) =
      items.map fun item => (item.1.id, Transition.mk none .queued) := by
  induction items with
  | nil => rfl
  | cons item items ih =>
      rw [List.map_cons, List.map_cons, List.map_cons, announcements_journal, ih]
      rfl

/-- `enqueue_many` rewrites the queue once, and every new entry is announced. -/
theorem atomic_enqueueMany (items : List (WorkItem × String)) (now : String)
    (hR : ∀ item ∈ items, R .enqueued item.1.id) :
    Atomic R s (enqueueMany items now s).writes := by
  by_cases hitems : items = []
  -- nothing to enqueue: the call returns before it reads the queue
  · rw [enqueueMany, if_pos hitems]
    exact atomic_nil
  · rw [enqueueMany, if_neg hitems, read_bind]
    -- an id twice in the batch, an entry that is active, or a refused graph: nothing is written
    by_cases hdistinct : ((items.map Prod.fst).map WorkItem.id).Nodup
    · rw [if_neg (not_not_intro hdistinct)]
      cases hactive : activeIncoming s.tasks (items.map Prod.fst) with
      | cons workItem rest => exact atomic_nil
      | nil =>
          cases hgraph : validateEnqueueGraph s.tasks (items.map Prod.fst) with
          | error e =>
              -- a refused graph raises before the first write
              show Atomic R s ((lift _ >>= _) s).writes
              rw [lift_bind_error _ rfl]
              exact atomic_nil
          | ok u =>
              -- one write of the queue, and then one event for each new entry
              show Atomic R s ((lift _ >>= _) s).writes
              rw [lift_bind_ok _ rfl, write_bind, bind_writes fun _ _ => rfl, recordEvents_run]
              rw [List.map_map] at hdistinct
              exact .enqueued hitems hR hdistinct hactive hgraph (keepsQueue_journal _)
                (announcements_enqueued now items)
    · rw [if_pos hdistinct]
      exact atomic_nil

/-- A claim is one transition. -/
theorem atomic_markRunning (workItemId now : String) (hR : R .started workItemId) :
    Atomic R s (markRunning workItemId now s).writes := by
  apply atomic_getTask
  intro task htask
  by_cases hstatus : task.status = .queued
  · rw [if_neg (not_not_intro hstatus), read_bind]
    cases (schedule s.tasks).ready.find? fun item => decide (item.task.id = workItemId) with
    | none => exact atomic_nil
    | some _ =>
        apply atomic_updateTask .started htask hR
        · exact Edge.started hstatus
        · intro s'
          exact follows_transitionEvent rfl rfl
  · rw [if_pos hstatus]
    exact atomic_nil

/-- The escalation at the attempt limit is one transition. -/
theorem atomic_escalateAttemptLimit (workItemId : String) (maxAttempts : Int) (now : String)
    (hR : R .attemptLimit workItemId) :
    Atomic R s (escalateAttemptLimit workItemId maxAttempts now s).writes := by
  apply atomic_getTask
  intro task htask
  by_cases hstatus : task.status ≠ .queued ∨ (task.attempts : Int) < maxAttempts
  · rw [if_pos hstatus]
    exact atomic_nil
  · rw [if_neg hstatus]
    have hqueued : task.status = .queued := by
      by_contra h
      exact hstatus (Or.inl h)
    apply atomic_replaceTask .attemptLimit htask hR rfl (Edge.attemptLimit hqueued)
    intro s'
    exact follows_transitionEvent rfl rfl

/-- `claim_next` starts the selected task below the limit, and escalates it at
    the limit. -/
theorem atomic_claimNext (maxAttempts : Option Int) (now : String)
    (hR : ∀ selected, (schedule s.tasks).selected = some selected →
      ((∀ limit ∈ maxAttempts, (selected.attempts : Int) < limit) → R .started selected.id) ∧
        R .attemptLimit selected.id) :
    Atomic R s (claimNext maxAttempts now s).writes := by
  rw [claimNext, read_bind]
  cases hselected : (schedule s.tasks).selected with
  | none => exact atomic_nil
  | some selected =>
      -- the selected task is claimed, or escalated at its budget
      obtain ⟨hstarted, hlimit⟩ := hR selected hselected
      cases maxAttempts with
      | none =>
          simp only
          rw [bind_writes fun _ _ => rfl]
          exact atomic_markRunning _ now (hstarted fun _ h => nomatch h)
      | some maxAttempts =>
          simp only
          by_cases hmax : maxAttempts ≤ (selected.attempts : Int)
          · rw [if_pos hmax, bind_writes fun _ _ => rfl]
            exact atomic_escalateAttemptLimit _ maxAttempts now hlimit
          · rw [if_neg hmax, bind_writes fun _ _ => rfl]
            refine atomic_markRunning _ now (hstarted fun limit h => ?_)
            obtain rfl := Option.some.inj h
            -- below the limit, so the claim is allowed
            omega

/-- The claims of a batch are one transition for each task. -/
theorem steps_markAllRunning (now : Nat → String) (tasks : List QueueTask) (index : Nat) (s : Store)
    (hR : ∀ task ∈ tasks, R .started task.id) :
    Steps R s (markAllRunning now index tasks s).writes := by
  induction tasks generalizing index s with
  | nil => exact .nil s
  | cons task tasks ih =>
      obtain ⟨htask, htasks⟩ := List.forall_mem_cons.mp hR
      rw [markAllRunning]
      apply steps_bind
      · exact (atomic_markRunning task.id (now index) htask).steps
      · intro updated s'
        rw [bind_writes fun _ _ => rfl]
        exact ih (index + 1) s' htasks

/-- `claim_batch` makes the transitions of the batch it selects. -/
theorem steps_claimBatch (limit : Int) (now : Nat → String)
    (hR : ∀ batch, scheduleBatch s.tasks limit = .ok batch → ∀ task ∈ batch, R .started task.id) :
    Steps R s (claimBatch limit now s).writes := by
  rw [claimBatch, read_bind]
  cases hbatch : scheduleBatch s.tasks limit with
  | error e =>
      rw [lift_bind_error _ rfl]
      exact .nil s
  | ok batch =>
      rw [lift_bind_ok _ rfl]
      exact steps_markAllRunning now batch 0 s (hR batch hbatch)

/-- A retry is one transition. -/
theorem atomic_requeueFailed (workItemId now : String) (hR : R .retried workItemId) :
    Atomic R s (requeueFailed workItemId now s).writes := by
  apply atomic_getTask
  intro task htask
  by_cases hstatus : task.status = .failed
  · rw [if_neg (not_not_intro hstatus)]
    apply atomic_updateTask .retried htask hR
    · exact Edge.retried hstatus
    · intro s'
      exact follows_transitionEvent rfl rfl
  · rw [if_pos hstatus]
    exact atomic_nil

/-- A recovery is one transition. -/
theorem atomic_recoverRunning (workItemId reason now : String) (hR : R .recovered workItemId) :
    Atomic R s (recoverRunning workItemId reason now s).writes := by
  apply atomic_getTask
  intro task htask
  by_cases hstatus : task.status = .running
  · rw [if_neg (not_not_intro hstatus)]
    apply atomic_updateTask .recovered htask hR
    · exact Edge.recovered hstatus
    · intro s'
      exact follows_transitionEvent rfl rfl
  · rw [if_pos hstatus]
    exact atomic_nil

/-- A result leaves a task in one of three statuses. -/
theorem resultStatus_cases (result : HarnessRunResult) (reviewRequired : Bool) :
    resultStatus result reviewRequired = .reviewPending ∨
      resultStatus result reviewRequired = .done ∨ resultStatus result reviewRequired = .failed := by
  rw [resultStatus]
  split
  · exact Or.inl rfl
  · split
    · exact Or.inr (Or.inl rfl)
    · exact Or.inr (Or.inr rfl)

/-- A result is one transition, unless it is known already. -/
theorem atomic_recordResult (report : ResultReport) (hR : R .recorded report.workItemId) :
    Atomic R s (recordResult report s).writes := by
  rw [recordResult, read_bind]
  cases s.history.find? fun item => decide (item.runId = report.selectedRunId) with
  | some existing =>
      -- the run id stands in the history: the record is returned or refused, nothing is written
      simp only
      split
      · exact atomic_nil
      · exact atomic_nil
  | none =>
      -- the run is new: what it does depends on the entry
      apply atomic_getTask
      intro current hcurrent
      split
      · -- a repeated result: only the history may miss it
        rename_i hsame
        have hnot : ¬ current.status = .running := by
          -- a result has one of three statuses, and running is none of them
          intro hrunning
          rcases resultStatus_cases report.result report.reviewRequired with h | h | h
          all_goals
            rw [hsame.1, ResultReport.status, h] at hrunning
            cases hrunning
        simp only [write_bind, if_neg hnot, pure_run]
        exact .silent (by simp [KeepsQueue]) rfl
      · split
        -- an entry that is no longer running refuses another result
        · exact atomic_nil
        · rename_i hrunning
          -- a running entry: the queue moves, the history and the journal follow
          rw [ne_eq, not_not] at hrunning
          apply atomic_updateTask .recorded hcurrent hR
          · exact Edge.recorded hrunning (resultStatus_cases _ _)
          · intro s'
            apply follows_cons_history
            apply follows_transitionEvent rfl
            show _ = some (Transition.mk (some current.status) _)
            rw [hrunning]
            rfl

/-- A failure is one transition, from whatever status the entry has. -/
theorem atomic_recordFailure (workItemId startedAtUtc error updatedAt finishedAt freshRunId : String)
    (hR : R .failureRecorded workItemId) :
    Atomic R s (recordFailure workItemId startedAtUtc error updatedAt finishedAt freshRunId s).writes := by
  rw [recordFailure]
  cases htask : latestTask? s.tasks workItemId with
  | none =>
      rw [bind_of_error (updateTask_run_none .failed updatedAt 0 none (some error) htask)]
      exact atomic_nil
  | some task =>
      apply atomic_updateTask .failureRecorded htask hR
      · exact Edge.failureRecorded
      · intro s'
        apply follows_cons_history
        exact follows_transitionEvent rfl rfl

/-! ### Review -/

/-- The attachment of a bundle is one transition. -/
theorem atomic_attachReviewBundle (workItemId bundleId now : String)
    (hR : R (.bundleAttached bundleId) workItemId) :
    Atomic R s (attachReviewBundle workItemId bundleId now s).writes := by
  apply atomic_getTask
  intro task htask
  by_cases hstatus : task.status = .reviewPending
  · rw [if_neg (not_not_intro hstatus)]
    apply atomic_replaceTask (.bundleAttached bundleId) htask hR rfl (Edge.bundleAttached hstatus)
    intro s'
    exact ⟨by simp [KeepsQueue], rfl⟩
  · rw [if_pos hstatus]
    exact atomic_nil

/-- A failed setup is one transition. -/
theorem atomic_failReviewSetup (workItemId error now : String) (hR : R .setupFailed workItemId) :
    Atomic R s (failReviewSetup workItemId error now s).writes := by
  apply atomic_getTask
  intro task htask
  by_cases hstatus : task.status = .reviewPending
  · rw [if_neg (not_not_intro hstatus)]
    apply atomic_replaceTask .setupFailed htask hR rfl (Edge.setupFailed hstatus)
    intro s'
    exact follows_transitionEvent rfl rfl
  · rw [if_pos hstatus]
    exact atomic_nil

/-- A failed review is one transition. -/
theorem atomic_recordReviewFailure (workItemId error now : String)
    (hR : R .reviewFailed workItemId) :
    Atomic R s (recordReviewFailure workItemId error now s).writes := by
  apply atomic_getTask
  intro task htask
  split
  · exact atomic_nil
  · rename_i hpending
    have hstatus : task.status = .reviewPending := by
      by_contra h
      exact hpending (Or.inl h)
    apply atomic_replaceTask .reviewFailed htask hR rfl (Edge.reviewFailed hstatus)
    intro s'
    exact ⟨by simp [KeepsQueue], rfl⟩

/-- A decision leaves a task in one of three statuses. -/
theorem decisionEffect_cases {decision summary : String} {status : TaskStatus}
    {error : Option String} (h : decisionEffect decision summary = some (status, error)) :
    status = .done ∨ status = .reworkRequired ∨ status = .escalated := by
  rw [decisionEffect] at h
  split at h
  · cases h
    exact Or.inl rfl
  · split at h
    · cases h
      exact Or.inr (Or.inl rfl)
    · split at h
      · cases h
        exact Or.inr (Or.inr rfl)
      · cases h

/-- A decision that is applied is one transition. -/
theorem atomic_resolveReview (workItemId bundleId decisionId decision summary now : String)
    (hR : R (.reviewResolved bundleId) workItemId) :
    Atomic R s (resolveReview workItemId bundleId decisionId decision summary now s).writes := by
  apply atomic_getTask
  intro task htask
  by_cases hstatus : task.status = .reviewPending
  · rw [if_neg (not_not_intro hstatus)]
    by_cases hbundle : task.pendingReviewBundleId = some bundleId
    · rw [if_neg (not_not_intro hbundle)]
      cases heffect : decisionEffect decision summary with
      | none => exact atomic_nil
      | some effect =>
          -- one of the three decisions: the entry moves and the event follows
          obtain ⟨status, error⟩ := effect
          apply atomic_replaceTask (.reviewResolved bundleId) htask hR rfl
            (Edge.reviewResolved hstatus hbundle (decisionEffect_cases heffect))
          intro s'
          exact follows_transitionEvent rfl rfl
    · rw [if_pos hbundle]
      exact atomic_nil
  · rw [if_pos hstatus]
    exact atomic_nil

/-- A confirmed rework is one transition: back to the queue, or the escalation at the budget. -/
theorem atomic_confirmRework (workItemId decisionId : String) (instructions : List String)
    (maxAttempts : Int) (now : String) (hlimit : R .reworkLimit workItemId)
    (hconfirmed : R .reworkConfirmed workItemId) :
    Atomic R s (confirmRework workItemId decisionId instructions maxAttempts now s).writes := by
  apply atomic_getTask
  intro task htask
  -- the conditions in the order of the source, then the budget
  by_cases hstatus : task.status = .reworkRequired
  · rw [if_neg (not_not_intro hstatus)]
    split
    · exact atomic_nil
    · split
      · exact atomic_nil
      · split
        · exact atomic_nil
        · split
          -- at the budget the task is escalated, below it it goes back to the queue
          · apply atomic_replaceTask .reworkLimit htask hlimit rfl (Edge.reworkLimit hstatus)
            intro s'
            exact follows_transitionEvent rfl rfl
          · apply atomic_replaceTask .reworkConfirmed htask hconfirmed rfl
              (Edge.reworkConfirmed hstatus)
            intro s'
            exact follows_transitionEvent rfl rfl
  · rw [if_pos hstatus]
    exact atomic_nil

theorem resolutionEffect_cases {resolution reason : String} {attempts attempts' : Nat}
    {status : TaskStatus} {error : Option String}
    (h : resolutionEffect resolution reason attempts = some (status, attempts', error)) :
    status = .queued ∨ status = .failed := by
  rw [resolutionEffect] at h
  split at h
  · cases h
    exact Or.inl rfl
  · split at h
    · cases h
      exact Or.inr rfl
    · cases h

/-- A resolved escalation is one transition. -/
theorem atomic_resolveEscalation (workItemId resolution reason now : String)
    (hR : R .escalationResolved workItemId) :
    Atomic R s (resolveEscalation workItemId resolution reason now s).writes := by
  apply atomic_getTask
  intro task htask
  by_cases hstatus : task.status = .escalated
  · rw [if_neg (not_not_intro hstatus)]
    split
    · exact atomic_nil
    · cases heffect : resolutionEffect resolution reason task.attempts with
      | none => exact atomic_nil
      | some effect =>
          obtain ⟨status, attempts, error⟩ := effect
          apply atomic_replaceTask .escalationResolved htask hR rfl
            (Edge.escalationResolved hstatus (resolutionEffect_cases heffect))
          intro s'
          exact follows_transitionEvent rfl rfl
  · rw [if_pos hstatus]
    exact atomic_nil

/-! ### Rollback and evidence -/

/-- The mark of a rollback is one transition. -/
theorem atomic_markRolledBack (workItemId targetCommit rollbackCommit now : String)
    (hR : R .rolledBack workItemId) :
    Atomic R s (markRolledBack workItemId targetCommit rollbackCommit now s).writes := by
  apply atomic_getTask
  intro task htask
  split
  · exact atomic_nil
  · by_cases hstatus : task.status = .done
    · rw [if_neg (not_not_intro hstatus)]
      apply atomic_replaceTask .rolledBack htask hR rfl (Edge.rolledBack hstatus)
      intro s'
      exact follows_transitionEvent rfl rfl
    · rw [if_pos hstatus]
      exact atomic_nil

/-- Rollback evidence leaves the queue alone and announces nothing. -/
theorem recordRollback_silent (record : RollbackRecord) (s : Store) :
    KeepsQueue (recordRollback record s).writes ∧
      announcements (recordRollback record s).writes = [] := by
  rw [recordRollback, read_bind]
  cases s.rollbackRecords.find? fun item => decide (item.rollbackId = record.rollbackId) with
  | some existing =>
      simp only
      split
      · exact ⟨by simp [KeepsQueue], rfl⟩
      · exact ⟨by simp [KeepsQueue], rfl⟩
  | none => exact ⟨by simp [KeepsQueue], rfl⟩

/-- A completed rollback makes the transition of the mark, and its record is silent. -/
theorem atomic_completeRollback (record : RollbackRecord) (now : String)
    (hR : record.ok → record.rollbackCommit.isSome → R .rolledBack record.workItemId) :
    Atomic R s (completeRollback record now s).writes := by
  rw [completeRollback]
  cases hok : record.ok with
  -- a rollback that failed, or has no commit, is refused before anything is written
  | false => exact atomic_nil
  | true =>
      cases hcommit : record.rollbackCommit with
      | none => exact atomic_nil
      | some rollbackCommit =>
          -- the task is marked first
          have hmark := atomic_markRolledBack (s := s) _ record.targetCommit rollbackCommit now
            (hR hok (by rw [hcommit]; rfl))
          show Atomic R s ((markRolledBack record.workItemId record.targetCommit rollbackCommit now
            >>= fun _ => recordRollback record) s).writes
          rw [bind_run]
          -- the record is appended only if the mark did not raise
          cases (markRolledBack record.workItemId record.targetCommit rollbackCommit now s).value with
          | error e => exact hmark
          | ok task =>
              obtain ⟨hkeeps, hsilent⟩ := recordRollback_silent record (s.applyAll
                (markRolledBack record.workItemId record.targetCommit rollbackCommit now s).writes)
              exact hmark.append_silent hkeeps hsilent

theorem atomic_recordReviewBundle (record : ReviewBundleRecord) :
    Atomic R s (recordReviewBundle record s).writes := by
  rw [recordReviewBundle, read_bind]
  cases s.reviewBundles.find? fun item => decide (item.bundleId = record.bundleId) with
  | some existing =>
      simp only
      split
      · exact atomic_nil
      · exact atomic_nil
  | none => exact .silent (by simp [KeepsQueue]) rfl

theorem atomic_recordReviewDecision (record : ReviewDecisionRecord) :
    Atomic R s (recordReviewDecision record s).writes := by
  rw [recordReviewDecision, read_bind]
  cases hfind : findReviewDecision record s.reviewDecisions with
  | error e =>
      rw [lift_bind_error _ rfl]
      exact atomic_nil
  | ok existing? =>
      rw [lift_bind_ok _ rfl]
      cases existing? with
      | some existing => exact atomic_nil
      | none => exact .silent (by simp [KeepsQueue]) rfl

theorem atomic_recordOperatorEvent (event : OperatorEvent) :
    Atomic R s (recordOperatorEvent event s).writes := by
  refine .silent (by simp [recordOperatorEvent, KeepsQueue]) ?_
  simp only [recordOperatorEvent, write_bind, pure_run, announcements, List.filterMap_cons,
    Write.announcement]
  cases event.taskId <;> rfl

theorem atomic_recordAuditReport (record : AuditRecord) :
    Atomic R s (recordAuditReport record s).writes :=
  .silent (by simp [recordAuditReport, KeepsQueue]) rfl

theorem atomic_setTelegramUpdateOffset (offset : Int) :
    Atomic R s (setTelegramUpdateOffset offset s).writes := by
  rw [setTelegramUpdateOffset, read_bind]
  cases s.telegramOffset with
  | none => exact .silent (by simp [KeepsQueue]) rfl
  | some current =>
      simp only
      split
      · exact atomic_nil
      · exact .silent (by simp [KeepsQueue]) rfl

/-! ### Every call -/

/-- Calls that run to their end. -/
def Op.isComplete : Op → Bool
  | .interrupted .. => false
  | _ => true

/-- Calls that rewrite the queue at most once. -/
def Op.isSingle : Op → Bool
  | .claimBatch .. => false
  | .interrupted op _ => op.isSingle
  | _ => true

/-- **Every completed call but `claim_batch` is one atomic change along its
    edges.** -/
theorem atomic_of_op (op : Op) (hcomplete : op.isComplete) (hsingle : op.isSingle) (s : Store) :
    Atomic op.rewrites s (opWrites op s) := by
  cases op with
  | enqueueMany items now =>
      exact atomic_enqueueMany items now fun item hitem => ⟨rfl, List.mem_map.mpr ⟨item, hitem, rfl⟩⟩
  | claimNext maxAttempts now =>
      exact atomic_claimNext maxAttempts now fun _ _ => ⟨fun _ => Or.inl rfl, Or.inr rfl⟩
  | claimBatch => simp [Op.isSingle] at hsingle
  | markRunning => exact atomic_markRunning _ _ ⟨rfl, rfl⟩
  | requeueFailed => exact atomic_requeueFailed _ _ ⟨rfl, rfl⟩
  | recoverRunning => exact atomic_recoverRunning _ _ _ ⟨rfl, rfl⟩
  | recordResult report => exact atomic_recordResult report ⟨rfl, rfl⟩
  | recordFailure => exact atomic_recordFailure _ _ _ _ _ _ ⟨rfl, rfl⟩
  | attachReviewBundle => exact atomic_attachReviewBundle _ _ _ ⟨rfl, rfl⟩
  | failReviewSetup => exact atomic_failReviewSetup _ _ _ ⟨rfl, rfl⟩
  | recordReviewFailure => exact atomic_recordReviewFailure _ _ _ ⟨rfl, rfl⟩
  | resolveReview => exact atomic_resolveReview _ _ _ _ _ _ ⟨rfl, rfl⟩
  | confirmRework => exact atomic_confirmRework _ _ _ _ _ ⟨Or.inl rfl, rfl⟩ ⟨Or.inr rfl, rfl⟩
  | escalateAttemptLimit => exact atomic_escalateAttemptLimit _ _ _ ⟨rfl, rfl⟩
  | resolveEscalation => exact atomic_resolveEscalation _ _ _ _ ⟨rfl, rfl⟩
  | markRolledBack => exact atomic_markRolledBack _ _ _ _ ⟨rfl, rfl⟩
  | completeRollback record now => exact atomic_completeRollback record now fun hok hcommit => ⟨rfl, rfl, hok, hcommit⟩
  | recordRollback record =>
      obtain ⟨hkeeps, hsilent⟩ := recordRollback_silent record s
      exact .silent hkeeps hsilent
  | recordReviewBundle record => exact atomic_recordReviewBundle record
  | recordReviewDecision record => exact atomic_recordReviewDecision record
  | recordOperatorEvent event => exact atomic_recordOperatorEvent event
  | recordAuditReport record => exact atomic_recordAuditReport record
  | setTelegramUpdateOffset offset => exact atomic_setTelegramUpdateOffset offset
  | interrupted => simp [Op.isComplete] at hcomplete

/-- **Every completed call is a sequence of atomic changes along its edges.** -/
theorem steps_of_op (op : Op) (hcomplete : op.isComplete) (s : Store) :
    Steps op.rewrites s (opWrites op s) := by
  by_cases hsingle : op.isSingle
  · exact (atomic_of_op op hcomplete hsingle s).steps
  · cases op with
    | claimBatch limit now => exact steps_claimBatch limit now fun _ _ _ _ => rfl
    | interrupted => simp [Op.isComplete] at hcomplete
    | _ => exact absurd rfl hsingle

/-- `claim_batch`, also one cut short, only starts tasks. -/
theorem Op.started_of_not_isSingle {op : Op} (hop : op.isSingle = false) {kind : EdgeKind}
    {id : String} (h : op.rewrites kind id) : kind = .started := by
  induction op with
  | claimBatch => exact h
  | interrupted op written ih =>
      cases written with
      | zero => exact h.elim
      | succ written => exact ih hop h
  | _ => simp [Op.isSingle] at hop

/-! ## The queue across a call -/

/-- One change of the queue along the edges `R`. -/
inductive TaskStep (R : EdgeKind → String → Prop) (tasks : List QueueTask) :
    List QueueTask → Prop where
  | enqueued {items : List (WorkItem × String)} {now : String}
      (hitems : items ≠ []) (hallowed : ∀ item ∈ items, R .enqueued item.1.id)
      (hdistinct : (items.map fun item => item.1.id).Nodup)
      (hfree : activeIncoming tasks (items.map Prod.fst) = [])
      (hgraph : validateEnqueueGraph tasks (items.map Prod.fst) = .ok ()) :
    TaskStep R tasks (tasks ++ items.map (queuedTask now))
  | rewritten {kind : EdgeKind} {pre post : List QueueTask} {old new : QueueTask}
      (hallowed : R kind old.id) (hedge : Edge kind old new) (htasks : tasks = pre ++ old :: post)
      (hlatest : latestTask? tasks old.id = some old)
      (hlast : kind.updates → KeyedLog.IsLast QueueTask.id tasks pre old post) :
    TaskStep R tasks (pre ++ new :: post)

/-- Any number of queue changes. -/
abbrev TaskSteps (R : EdgeKind → String → Prop) : List QueueTask → List QueueTask → Prop :=
  Relation.ReflTransGen (TaskStep R)

theorem KeepsQueue.tasks_eq {ws : List Write} (h : KeepsQueue ws) (s : Store) :
    (s.applyAll ws).tasks = s.tasks := by
  induction ws generalizing s with
  | nil => rfl
  | cons w ws ih =>
      have hw : (s.apply w).tasks = s.tasks := by
        cases w with
        | queue tasks => exact absurd rfl (h _ List.mem_cons_self tasks)
        | _ => rfl
      have hrest : KeepsQueue ws := fun v hv => h v (List.mem_cons_of_mem _ hv)
      exact (ih hrest (s.apply w)).trans hw

/-- A part of writes that leave the queue alone leaves it alone. -/
theorem KeepsQueue.take {ws : List Write} (h : KeepsQueue ws) (n : Nat) : KeepsQueue (ws.take n) :=
  fun w hw => h w (List.mem_of_mem_take hw)

/-- A queue write followed by other evidence, cut anywhere. -/
theorem tasks_take_queue {tasks : List QueueTask} {rest : List Write} (h : KeepsQueue rest)
    (s : Store) (n : Nat) :
    (s.applyAll ((Write.queue tasks :: rest).take n)).tasks = s.tasks ∨
      (s.applyAll ((Write.queue tasks :: rest).take n)).tasks = tasks := by
  cases n with
  | zero => exact Or.inl rfl
  | succ n => exact Or.inr ((h.take n).tasks_eq (s.apply (.queue tasks)))

/-- An atomic change cut anywhere changes the queue at most once. -/
theorem Atomic.taskStep_take {ws : List Write} (h : Atomic R s ws) (n : Nat) :
    (s.applyAll (ws.take n)).tasks = s.tasks ∨
      TaskStep R s.tasks (s.applyAll (ws.take n)).tasks := by
  cases h with
  | silent hkeeps _ => exact Or.inl ((hkeeps.take n).tasks_eq s)
  | enqueued hitems hallowed hdistinct hfree hgraph hkeeps _ =>
      apply (tasks_take_queue hkeeps s n).imp_right
      intro heq
      rw [heq]
      exact .enqueued hitems hallowed hdistinct hfree hgraph
  | rewritten hallowed hedge htasks hlatest hlast hkeeps _ =>
      apply (tasks_take_queue hkeeps s n).imp_right
      intro heq
      rw [heq]
      exact .rewritten hallowed hedge htasks hlatest hlast

/-- A transition that is cut anywhere moves the queue by an edge or not at all. -/
theorem Atomic.taskSteps_take {ws : List Write} (h : Atomic R s ws) (n : Nat) :
    TaskSteps R s.tasks (s.applyAll (ws.take n)).tasks := by
  rcases h.taskStep_take n with heq | hstep
  · rw [heq]
  · exact .single hstep

/-- ... and so does a sequence of them. -/
theorem Steps.taskSteps_take {ws : List Write} (h : Steps R s ws) (n : Nat) :
    TaskSteps R s.tasks (s.applyAll (ws.take n)).tasks := by
  induction h generalizing n with
  | nil s =>
      rw [List.take_nil]
      exact .refl
  | @cons s ws rest first _ ih =>
      by_cases hn : n ≤ ws.length
      · rw [List.take_append_of_le_length hn]
        exact first.taskSteps_take n
      · obtain ⟨k, rfl⟩ : ∃ k, n = ws.length + k := ⟨n - ws.length, by omega⟩
        have hfirst := first.taskSteps_take ws.length
        rw [List.take_length] at hfirst
        rw [List.take_length_add_append, applyAll_append]
        exact hfirst.trans (ih k)

theorem taskSteps_take_of_op (op : Op) (s : Store) (n : Nat) :
    TaskSteps op.rewrites s.tasks (s.applyAll ((opWrites op s).take n)).tasks := by
  induction op generalizing n with
  | interrupted op written ih =>
      rw [opWrites, List.take_take]
      cases written with
      | zero =>
          rw [Nat.min_zero, List.take_zero]
          exact .refl
      | succ written => exact ih (min n (written + 1))
  | _ => exact (steps_of_op _ rfl s).taskSteps_take n

/-- **A call, completed or cut short, moves the queue along its edges.** -/
theorem taskSteps_of_op (op : Op) (s : Store) :
    TaskSteps op.rewrites s.tasks (s.step op).tasks := by
  have h := taskSteps_take_of_op op s (opWrites op s).length
  rwa [List.take_length] at h

theorem taskStep_take_of_op (op : Op) (hsingle : op.isSingle) (s : Store) (n : Nat) :
    (s.applyAll ((opWrites op s).take n)).tasks = s.tasks ∨
      TaskStep op.rewrites s.tasks (s.applyAll ((opWrites op s).take n)).tasks := by
  induction op generalizing n with
  | claimBatch => simp [Op.isSingle] at hsingle
  | interrupted op written ih =>
      rw [opWrites, List.take_take]
      cases written with
      | zero =>
          rw [Nat.min_zero, List.take_zero]
          exact Or.inl rfl
      | succ written => exact ih hsingle (min n (written + 1))
  | _ => exact (atomic_of_op _ rfl rfl s).taskStep_take n

/-- A call other than `claim_batch` changes the queue at most once. -/
theorem taskStep_of_op (op : Op) (hsingle : op.isSingle) (s : Store) :
    (s.step op).tasks = s.tasks ∨ TaskStep op.rewrites s.tasks (s.step op).tasks := by
  have h := taskStep_take_of_op op hsingle s (opWrites op s).length
  rwa [List.take_length] at h

end LlmHarness
