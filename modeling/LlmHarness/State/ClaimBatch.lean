/-
  LlmHarness.State.ClaimBatch

  `claim_batch` claims one task of the batch after the other, and every claim
  reads the queue and schedules it again.  Claiming one task leaves the others
  queued and their dependencies done, so no claim of the batch is refused.

  On disk every claim also appends an event to the journal, after the queue is
  written; the batch is claimed as a whole exactly when the journal takes them.
-/

import LlmHarness.State.OnDisk
import LlmHarness.State.ReadyQueue

namespace LlmHarness

open Python StoreM

variable {s : Store}

/-! ## One claim -/

/-- The entry a claim leaves. -/
def startedTask (task : QueueTask) (now : String) : QueueTask := updatedTask task .running now 1 none none

/-- The event of a claim. -/
def startedEvent (workItemId : String) : JournalEvent where
  eventType := .stateTransition
  actor := "supervisor"
  action := "task.started"
  transition := some ⟨some .queued, .running⟩
  taskId := some workItemId

/-- The event of a claim is read back when the id of its task breaks no line. -/
theorem lineSafe_startedEvent (workItemId : String) :
    (startedEvent workItemId).line.LineSafe ↔ UnbrokenText workItemId := by
  have hcontent : (Journal.redact (.ofJson (.obj [("from", .str "queued"), ("to", .str "running"),
      ("details", .null)]))).LineSafe := Journal.lineSafe_redact _ (by decide)
  have hrecorded : (startedEvent workItemId).recordedContent = .obj [("from", .str "queued"),
      ("to", .str "running"), ("details", .null)] := rfl
  have hnames : UnbrokenText "supervisor" ∧ UnbrokenText "task.started" := by decide
  rw [lineSafe_eventLine_iff, hrecorded]
  simp [hcontent, hnames, startedEvent]

/-- The entry is queued and all its dependencies are done. -/
structure Claimable (tasks : List QueueTask) (task : QueueTask) : Prop where
  mem : task ∈ tasks
  queued : task.status = .queued
  done : ∀ d ∈ task.workItem.dependsOn, latestStatus tasks d = some .done

theorem Claimable.active {tasks : List QueueTask} {task : QueueTask} (h : Claimable tasks task) :
    task.status.isActive := by
  rw [h.queued]
  rfl

theorem Claimable.latest {tasks : List QueueTask} {task : QueueTask} (h : Claimable tasks task)
    (hlive : LiveQueue tasks) : latestTask? tasks task.id = some task :=
  KeyedLog.LiveLast.last?_of_mem hlive h.mem h.active

/-- A claimable entry is filed as ready. -/
theorem Claimable.scheduled {tasks : List QueueTask} {task : QueueTask} (h : Claimable tasks task)
    (hlive : LiveQueue tasks) : ∃ item ∈ (schedule tasks).ready, item.task = task := by
  have hexact := scheduleExact_of_live hlive
  have hqueued : task ∈ tasks.filter fun task => task.status = .queued :=
    List.mem_filter.mpr ⟨h.mem, decide_eq_true h.queued⟩
  rcases List.mem_append.mp (hexact.split.mem_iff.mpr hqueued) with hready | hwaiting
  · exact List.mem_map.mp hready
  · obtain ⟨item, hitem, rfl⟩ := List.mem_map.mp hwaiting
    obtain ⟨d, hd, hnot⟩ := hexact.waiting item hitem
    exact absurd (h.done d hd) hnot

/-- `mark_running` claims a claimable entry. -/
theorem markRunning_claimable {task : QueueTask} (h : Claimable s.tasks task)
    (hlive : LiveQueue s.tasks) (now : String) :
    ∃ pre post, KeyedLog.IsLast QueueTask.id s.tasks pre task post ∧
      markRunning task.id now s = ⟨[.queue (pre ++ startedTask task now :: post),
        .journal (startedEvent task.id)], .ok (startedTask task now)⟩ := by
  have hlatest := h.latest hlive
  obtain ⟨item, hitem, hitemTask⟩ := h.scheduled hlive
  obtain ⟨found, hfound⟩ : ∃ found,
      (schedule s.tasks).ready.find? (fun item => item.task.id = task.id) = some found := by
    rw [← Option.isSome_iff_exists, List.find?_isSome]
    exact ⟨item, hitem, by rw [hitemTask]; exact decide_eq_true rfl⟩
  obtain ⟨pre, post, hlast, hrun⟩ := updateTask_run .running now 1 none none hlatest
  rw [markRunning, getTask_bind_some _ hlatest, if_neg (not_not.mpr h.queued), read_bind]
  dsimp only
  rw [hfound]
  dsimp only
  rw [bind_of_ok hrun, transitionEvent_bind, write_bind]
  refine ⟨pre, post, hlast, ?_⟩
  rw [h.queued]
  rfl

/-- The other claimable entries stay claimable. -/
theorem Claimable.started {tasks pre post : List QueueTask} {task other : QueueTask} {now : String}
    (hlive : LiveQueue tasks) (htask : Claimable tasks task)
    (hlast : KeyedLog.IsLast QueueTask.id tasks pre task post) (h : Claimable tasks other)
    (hne : other.id ≠ task.id) : Claimable (pre ++ startedTask task now :: post) other where
  mem := by
    have hmem := h.mem
    rw [hlast.eq_append, List.mem_append, List.mem_cons] at hmem
    rw [List.mem_append, List.mem_cons]
    rcases hmem with hpre | rfl | hpost
    · exact Or.inl hpre
    · exact absurd rfl hne
    · exact Or.inr (Or.inr hpost)
  queued := h.queued
  done := by
    intro d hd
    have hdone := h.done d hd
    have hrewritten := latestTask?_rewritten hlast (show (startedTask task now).id = task.id from rfl) d
    rw [latestStatus, hrewritten]
    by_cases hid : d = task.id
    · -- a queued entry is no dependency that is done
      rw [hid, latestStatus, htask.latest hlive, Option.map_some, htask.queued] at hdone
      cases hdone
    · rw [if_neg hid]
      exact hdone

theorem liveQueue_started {tasks pre post : List QueueTask} {task : QueueTask} {now : String}
    (hlive : LiveQueue tasks) (hlast : KeyedLog.IsLast QueueTask.id tasks pre task post) :
    LiveQueue (pre ++ startedTask task now :: post) := by
  have hsplit := hlast.eq_append
  rw [hsplit] at hlive
  exact KeyedLog.LiveLast.replace hlive rfl fun _ => hlast.fresh

/-! ## The whole batch -/

/-- An entry after the batch is claimed, the first of it at the reading `index` of the clock. -/
def claimedFrom (now : Nat → String) (index : Nat) (batch : List QueueTask) (task : QueueTask) :
    QueueTask :=
  if task ∈ batch then startedTask task (now (index + batch.idxOf task)) else task

/-- A batch that was claimed as a whole. -/
structure BatchClaimed (s : Store) (now : Nat → String) (index : Nat) (batch : List QueueTask)
    (outcome : Outcome (List QueueTask)) : Prop where
  /-- The claimed entries are returned in the order of the batch. -/
  value : outcome.value = .ok (batch.map (claimedFrom now index batch))
  /-- Exactly the entries of the batch are changed. -/
  tasks : (s.applyAll outcome.writes).tasks = s.tasks.map (claimedFrom now index batch)
  /-- Each is claimed in turn, by two writes. -/
  writes : outcome.writes.length = 2 * batch.length
  /-- The claims are announced in the journal, and no other log is touched. -/
  announced : outcome.writes.filterMap Write.line? =
    batch.map fun task => (Log.journal, (startedEvent task.id).line)
  /-- At the moment of its claim an entry is queued and its dependencies are done. -/
  moment : ∀ (k : Nat) (task : QueueTask), batch[k]? = some task →
    Claimable (s.applyAll (outcome.writes.take (2 * k))).tasks task

theorem claimedFrom_cons {now : Nat → String} {index : Nat} {first : QueueTask}
    {rest : List QueueTask} (hrest : ∀ other ∈ rest, other.status = .queued) (task : QueueTask)
    (hfirst : first ∉ rest) :
    claimedFrom now (index + 1) rest (if task = first then startedTask first (now index) else task) =
      claimedFrom now index (first :: rest) task := by
  by_cases htask : task = first
  · subst htask
    have hnot : startedTask task (now index) ∉ rest := by
      intro hmem
      have hrunning : (startedTask task (now index)).status = .running := rfl
      rw [hrest _ hmem] at hrunning
      cases hrunning
    simp [claimedFrom, hnot]
  · rw [if_neg htask]
    by_cases hmem : task ∈ rest
    · have hindex : (first :: rest).idxOf task = rest.idxOf task + 1 :=
        List.idxOf_cons_ne _ fun h => htask h.symm
      have hsum : index + 1 + rest.idxOf task = index + (rest.idxOf task + 1) := by omega
      simp [claimedFrom, hmem, hindex, hsum]
    · simp [claimedFrom, hmem, htask]

/-- In a queue whose live entries are single, rewriting one of them rewrites its every occurrence. -/
theorem map_rewritten {tasks pre post : List QueueTask} {task : QueueTask} (new : QueueTask)
    (hlive : LiveQueue tasks) (hactive : task.status.isActive)
    (hlast : KeyedLog.IsLast QueueTask.id tasks pre task post) :
    pre ++ new :: post = tasks.map fun other => if other = task then new else other := by
  have hsplit := hlast.eq_append
  have hpost : ∀ other ∈ post, other ≠ task := by
    rintro other hother rfl
    exact hlast.fresh other hother rfl
  have hpre : ∀ other ∈ pre, other ≠ task := by
    rintro other hother rfl
    rw [hsplit] at hlive
    exact (List.pairwise_append.mp hlive).2.2 other hother other List.mem_cons_self hactive rfl
  have hkeep : ∀ items : List QueueTask, (∀ other ∈ items, other ≠ task) →
      items.map (fun other => if other = task then new else other) = items := by
    intro items hitems
    conv_rhs => rw [← List.map_id items]
    exact List.map_congr_left fun other hother => if_neg (hitems other hother)
  rw [hsplit, List.map_append, List.map_cons, hkeep pre hpre, hkeep post hpost, if_pos rfl]

/-- The writes of one claim. -/
def claimWrites (pre post : List QueueTask) (task : QueueTask) (now : String) : List Write :=
  [.queue (pre ++ startedTask task now :: post), .journal (startedEvent task.id)]

/-- The first claim of a batch before the claims of the rest. -/
theorem BatchClaimed.cons {now : Nat → String} {index : Nat} {first : QueueTask}
    {rest pre post : List QueueTask} {ws : List Write} (hlive : LiveQueue s.tasks)
    (hfirst : Claimable s.tasks first) (hlast : KeyedLog.IsLast QueueTask.id s.tasks pre first post)
    (hqueued : ∀ other ∈ rest, other.status = .queued) (hnotMem : first ∉ rest)
    (hclaimed : BatchClaimed (s.applyAll (claimWrites pre post first (now index))) now (index + 1) rest
      ⟨ws, .ok (rest.map (claimedFrom now (index + 1) rest))⟩) :
    BatchClaimed s now index (first :: rest) ⟨claimWrites pre post first (now index) ++ ws,
      .ok (startedTask first (now index) :: rest.map (claimedFrom now (index + 1) rest))⟩ := by
  constructor
  case value =>
    have hhead : claimedFrom now index (first :: rest) first = startedTask first (now index) := by
      simp [claimedFrom]
    have htail : rest.map (claimedFrom now (index + 1) rest) =
        rest.map (claimedFrom now index (first :: rest)) := by
      apply List.map_congr_left
      intro task htask
      have hne : task ≠ first := fun h => hnotMem (h ▸ htask)
      have hcons := @claimedFrom_cons now index first rest hqueued task hnotMem
      rwa [if_neg hne] at hcons
    rw [List.map_cons, hhead, ← htail]
  case tasks =>
    have htasks : (s.applyAll (claimWrites pre post first (now index))).tasks =
        pre ++ startedTask first (now index) :: post := rfl
    rw [applyAll_append, hclaimed.tasks, htasks, map_rewritten _ hlive hfirst.active hlast, List.map_map]
    exact List.map_congr_left fun task _ => claimedFrom_cons hqueued task hnotMem
  case writes =>
    have hwrites : ws.length = 2 * rest.length := hclaimed.writes
    rw [List.length_append, hwrites, claimWrites, List.length_cons, List.length_cons, List.length_cons,
      List.length_nil]
    omega
  case announced =>
    have hannounced : ws.filterMap Write.line? = rest.map fun task => (Log.journal, (startedEvent task.id).line) :=
      hclaimed.announced
    rw [List.filterMap_append, hannounced]
    rfl
  case moment =>
    intro k task hk
    cases k with
    | zero =>
        obtain rfl : first = task := by simpa using hk
        exact hfirst
    | succ k =>
        -- the two writes of the first claim come before those of the others
        have htwo : 2 * (k + 1) = 2 * k + 2 := by omega
        have htake : List.take (2 * (k + 1)) (claimWrites pre post first (now index) ++ ws) =
            claimWrites pre post first (now index) ++ ws.take (2 * k) := by
          rw [htwo]
          rfl
        rw [htake, applyAll_append]
        exact hclaimed.moment k task hk

/-- **The batch claims.**  A batch of claimable entries with distinct ids is claimed as a whole. -/
theorem batchClaimed_markAllRunning (now : Nat → String) (index : Nat) {batch : List QueueTask}
    (hlive : LiveQueue s.tasks) (hbatch : ∀ task ∈ batch, Claimable s.tasks task)
    (hids : (batch.map QueueTask.id).Nodup) :
    BatchClaimed s now index batch (markAllRunning now index batch s) := by
  induction batch generalizing s index with
  | nil =>
      refine ⟨rfl, ?_, rfl, rfl, by simp⟩
      have hid : claimedFrom now index [] = id := by
        funext task
        simp [claimedFrom]
      rw [hid, List.map_id]
      rfl
  | cons first rest ih =>
      obtain ⟨hfirst, hrest⟩ := List.forall_mem_cons.mp hbatch
      obtain ⟨hfresh, hrestIds⟩ := List.nodup_cons.mp hids
      obtain ⟨pre, post, hlast, hrun⟩ := markRunning_claimable hfirst hlive (now index)
      have hnotMem : first ∉ rest := fun hmem => hfresh (List.mem_map_of_mem hmem)
      -- the store after the first claim, in which the rest can still be claimed
      obtain ⟨s', hs'⟩ : ∃ s', s' = s.applyAll (claimWrites pre post first (now index)) := ⟨_, rfl⟩
      have htasks : s'.tasks = pre ++ startedTask first (now index) :: post := by
        rw [hs']
        rfl
      have hlive' : LiveQueue s'.tasks := by
        rw [htasks]
        exact liveQueue_started hlive hlast
      have hrest' : ∀ task ∈ rest, Claimable s'.tasks task := by
        intro task htask
        rw [htasks]
        exact Claimable.started hlive hfirst hlast (hrest task htask) fun hid =>
          hfresh (hid ▸ List.mem_map_of_mem htask)
      have hclaimed := ih (index + 1) hlive' hrest' hrestIds
      have hnext : markAllRunning now (index + 1) rest s' =
          ⟨(markAllRunning now (index + 1) rest s').writes,
            .ok (rest.map (claimedFrom now (index + 1) rest))⟩ := by
        rw [← hclaimed.value]
      have hmarked : markAllRunning now index (first :: rest) s =
          ⟨claimWrites pre post first (now index) ++ (markAllRunning now (index + 1) rest s').writes,
            .ok (startedTask first (now index) :: rest.map (claimedFrom now (index + 1) rest))⟩ := by
        rw [markAllRunning, bind_of_ok hrun, ← claimWrites, ← hs', bind_of_ok hnext, pure_run, List.append_nil]
      rw [hnext, hs'] at hclaimed
      rw [hmarked, hs']
      exact BatchClaimed.cons hlive hfirst hlast (fun other hother => (hrest other hother).queued) hnotMem
        hclaimed

/-! ## The batch of the scheduler -/

/-- The loop of `schedule_batch` selects ready tasks in the order they come in. -/
theorem scheduleBatchLoop_sublist (limit : Int) (ready : List TaskReadiness)
    (selected : List QueueTask) : ∃ more, scheduleBatchLoop limit ready selected = selected ++ more ∧
      more.Sublist (ready.map TaskReadiness.task) := by
  induction ready generalizing selected with
  | nil => exact ⟨[], by simp [scheduleBatchLoop], List.Sublist.refl _⟩
  | cons item rest ih =>
      rw [scheduleBatchLoop]
      split
      · obtain ⟨more, heq, hsub⟩ := ih selected
        exact ⟨more, heq, hsub.cons _⟩
      · dsimp only
        split
        · exact ⟨[item.task], rfl, (List.nil_sublist _).cons_cons _⟩
        · obtain ⟨more, heq, hsub⟩ := ih (selected ++ [item.task])
          exact ⟨item.task :: more, by rw [heq, List.append_assoc]; rfl, hsub.cons_cons _⟩

/-- The tasks of a batch are claimable and have distinct ids. -/
theorem claimable_of_scheduleBatch {tasks batch : List QueueTask} {limit : Int}
    (hlive : LiveQueue tasks) (h : scheduleBatch tasks limit = .ok batch) :
    (∀ task ∈ batch, Claimable tasks task) ∧ (batch.map QueueTask.id).Nodup := by
  rw [scheduleBatch] at h
  split at h
  · cases h
  · obtain ⟨more, heq, hsub⟩ := scheduleBatchLoop_sublist limit (schedule tasks).ready []
    rw [List.nil_append] at heq
    obtain rfl : more = batch := heq.symm.trans (Except.ok.inj h)
    -- The batch is picked from the ready entries in their order.
    have hready : (schedule tasks).ready.map TaskReadiness.task =
        ((readyEntries tasks).insertionSort ScheduledBefore).map Prod.fst := by
      rw [schedule_ready hlive, List.map_map]
      rfl
    rw [hready] at hsub
    constructor
    · intro task htask
      obtain ⟨⟨entry, position⟩, hentry, rfl⟩ := List.mem_map.mp (hsub.subset htask)
      rw [List.mem_insertionSort] at hentry
      obtain ⟨hqueued, hentryReady⟩ := List.mem_filter.mp hentry
      obtain ⟨hposition, hstatus⟩ := mem_queuedEntries.mp hqueued
      exact ⟨List.mem_of_getElem? hposition, hstatus, (readinessOf_ready_iff _).mp hentryReady⟩
    -- In a live queue the queued entries have distinct ids.
    · have hids : ((((readyEntries tasks).insertionSort ScheduledBefore).map Prod.fst).map
          QueueTask.id).Nodup := by
        rw [List.map_map]
        have hperm := (List.perm_insertionSort ScheduledBefore (readyEntries tasks)).map
          (QueueTask.id ∘ Prod.fst)
        exact hperm.nodup_iff.mpr
          ((nodup_ids_queuedEntries hlive).sublist (List.filter_sublist.map _))
      exact hids.sublist (hsub.map QueueTask.id)

/-- On a queue whose live entries are single the whole batch of `schedule_batch` is claimed, in
    its order, where no append is refused. -/
theorem batchClaimed_claimBatch (hlive : LiveQueue s.tasks) {limit : Int} (hlimit : 1 ≤ limit)
    (now : Nat → String) : ∃ batch, scheduleBatch s.tasks limit = .ok batch ∧
      BatchClaimed s now 0 batch (claimBatch limit now s) := by
  obtain ⟨batch, hbatch⟩ : ∃ batch, scheduleBatch s.tasks limit = .ok batch := by
    rw [scheduleBatch, if_neg (by omega)]
    exact ⟨_, rfl⟩
  obtain ⟨hclaimable, hids⟩ := claimable_of_scheduleBatch hlive hbatch
  refine ⟨batch, hbatch, ?_⟩
  rw [claimBatch, read_bind, lift_bind_ok _ hbatch]
  exact batchClaimed_markAllRunning now 0 hlive hclaimable hids

/-! ## On disk -/

/-- The journal takes the events of a batch: it can be read, and no id before the last breaks its
    line. -/
def TakesClaims (s : Store) (batch : List QueueTask) : Prop :=
  batch = [] ∨ (s.Readable .journal ∧ ∀ task ∈ batch.dropLast, UnbrokenText task.id)

instance (s : Store) (batch : List QueueTask) : Decidable (TakesClaims s batch) :=
  inferInstanceAs (Decidable (_ ∨ _ ∧ _))

theorem takesClaims_iff (s : Store) (batch : List QueueTask) :
    s.Takes .journal (batch.map fun task => (startedEvent task.id).line) ↔ TakesClaims s batch := by
  simp only [Store.Takes, TakesClaims, Store.Readable, List.map_eq_nil_iff, ← List.map_dropLast,
    List.forall_mem_append, List.forall_mem_map, lineSafe_startedEvent]

/-- No append of the claims is refused exactly when the journal takes them. -/
theorem BatchClaimed.refusedLog?_eq_none_iff {now : Nat → String} {index : Nat}
    {batch : List QueueTask} {outcome : Outcome (List QueueTask)}
    (h : BatchClaimed s now index batch outcome) :
    s.refusedLog? outcome.writes = none ↔ TakesClaims s batch := by
  have hlines : ∀ log, appendedLines log outcome.writes =
      if log = .journal then batch.map (fun task => (startedEvent task.id).line) else [] := by
    intro log
    rw [appendedLines, h.announced, List.filter_map, List.map_map]
    by_cases hlog : log = .journal
    · subst hlog
      simp [Function.comp_def]
    · simp [hlog, Ne.symm hlog, Function.comp_def]
  rw [LlmHarness.refusedLog?_eq_none_iff, ← takesClaims_iff]
  constructor
  · intro hall
    simpa [hlines] using hall .journal
  · intro htakes log
    by_cases hlog : log = .journal
    · rw [hlines, if_pos hlog, hlog]
      exact htakes
    · rw [hlines, if_neg hlog]
      exact Or.inl rfl

/-- **`claim_batch` is all-or-nothing.**  In every run on disk, `claim_batch` claims the whole batch
    of `schedule_batch` in its order exactly when the journal takes the events of the claims. -/
theorem claimBatch_onDisk_iff (events : List DiskEvent) (limit : Int) (hlimit : 1 ≤ limit)
    (now : Nat → String) :
    (∃ batch, scheduleBatch (diskRun events).tasks limit = .ok batch ∧
      BatchClaimed (diskRun events) now 0 batch (onDisk (claimBatch limit now) (diskRun events))) ↔
      ∃ batch, scheduleBatch (diskRun events).tasks limit = .ok batch ∧
        TakesClaims (diskRun events) batch := by
  obtain ⟨batch, hbatch, hclaimed⟩ :=
    batchClaimed_claimBatch (liveQueue_diskRun events) hlimit now
  constructor
  · rintro ⟨batch', hbatch', hdisk⟩
    obtain rfl : batch = batch' := Except.ok.inj (hbatch.symm.trans hbatch')
    exact ⟨batch, hbatch, hclaimed.refusedLog?_eq_none_iff.mp (complete_of_onDisk hdisk.value)⟩
  · rintro ⟨batch', hbatch', htakes⟩
    obtain rfl : batch = batch' := Except.ok.inj (hbatch.symm.trans hbatch')
    refine ⟨batch, hbatch, ?_⟩
    rw [onDisk_of_complete (hclaimed.refusedLog?_eq_none_iff.mpr htakes)]
    exact hclaimed

/-- One queued task is claimed. -/
theorem claimBatch_oneTask : ∃ batch, scheduleBatch (diskRun
      [.call (.enqueueMany [(sampleItem "a", "")] "t0")]).tasks 2 = .ok batch ∧
    BatchClaimed (diskRun [.call (.enqueueMany [(sampleItem "a", "")] "t0")]) (fun _ => "t1") 0 batch
      (onDisk (claimBatch 2 fun _ => "t1")
        (diskRun [.call (.enqueueMany [(sampleItem "a", "")] "t0")])) :=
  (claimBatch_onDisk_iff _ 2 (by decide) _).mpr ⟨_, rfl, by decide +kernel⟩

/-- The store after a task whose id breaks its line was enqueued. -/
def brokenJournalRun : List DiskEvent := [.call (.enqueueMany [(sampleItem "a\u2028", "")] "t0")]

/-- A batch that is left with its first claim written: the event of the claim finds a journal that
    cannot be read. -/
theorem not_claimBatch_brokenJournal : ¬ ∀ (events : List DiskEvent) (limit : Int), 1 ≤ limit →
    ∀ now : Nat → String, ∃ batch, scheduleBatch (diskRun events).tasks limit = .ok batch ∧
      BatchClaimed (diskRun events) now 0 batch (onDisk (claimBatch limit now) (diskRun events)) := by
  intro h
  obtain ⟨batch, hbatch, htakes⟩ :=
    (claimBatch_onDisk_iff brokenJournalRun 1 (by decide) fun _ => "t1").mp (h _ 1 (by decide) _)
  have hone : (scheduleBatch (diskRun brokenJournalRun).tasks 1).toOption.map List.length = some 1 := by
    decide +kernel
  have hbroken : ¬ (diskRun brokenJournalRun).Readable .journal := by decide +kernel
  rcases htakes with rfl | hread
  · rw [hbatch] at hone
    cases hone
  · exact hbroken hread.1

end LlmHarness
