/-
  LlmHarness.State.Journal

  Replaying the journal.  The `state_transition` events, folded in order, give
  the status of the latest entry of every id; what an event gives as `from` is
  the status before the call, except that a fresh lifecycle starts from nothing
  and that `record_failure` always writes `running`.
-/

import LlmHarness.State.OnDisk

namespace LlmHarness

/-- The transitions of a journal, with the ids they are about. -/
def journalTransitions (journal : List JournalEvent) : List (String × Transition) :=
  announcements (journal.map Write.journal)

/-- The status a replay of the journal ends with for an id. -/
def replayedStatus (journal : List JournalEvent) (id : String) : Option TaskStatus :=
  (KeyedLog.last? Prod.fst (journalTransitions journal) id).map fun event => event.2.current

/-- The store after a sequence of calls on disk, from an empty state root. -/
def callsOnDisk (ops : List Op) : Store := diskRun (ops.map .call)

/-- The law of the journal: `from` is the status before the call, and the last
    `to` is the status after the run. -/
structure JournalReplays (ops : List Op) : Prop where
  previous : ∀ before op after, ops = before ++ op :: after →
    ∀ id transition, (id, transition) ∈ announcements (diskWrites op (callsOnDisk before)) →
      transition.previous = latestStatus (callsOnDisk before).tasks id
  current : ∀ id,
    replayedStatus (callsOnDisk ops).journal id = latestStatus (callsOnDisk ops).tasks id

/-- A call of `enqueue_many`. -/
def Op.isEnqueue : Op → Bool
  | .enqueueMany .. => true
  | _ => false

/-- A call of `record_failure`. -/
def Op.isFailureRecord : Op → Bool
  | .recordFailure .. => true
  | _ => false

/-- The call is not cut short, neither by a crash nor by a log that cannot be read. -/
structure Completes (s : Store) (op : Op) : Prop where
  complete : op.isComplete
  undisturbed : diskWrites op s = opWrites op s

/-- What the journal accounts for: a fresh lifecycle starts from nothing, on an
    id without a live entry; every other event starts from the status before the
    call, that of `record_failure` where it finds a running task; the last `to` is
    the status after the run. -/
structure JournalAccounts (ops : List Op) : Prop where
  opened : ∀ before op after, ops = before ++ op :: after → op.isEnqueue →
    ∀ id transition, (id, transition) ∈ announcements (diskWrites op (callsOnDisk before)) →
      transition = ⟨none, .queued⟩ ∧
        ∀ status, latestStatus (callsOnDisk before).tasks id = some status → status.isActive = false
  previous : ∀ before op after, ops = before ++ op :: after → op.isEnqueue = false →
    ∀ id transition, (id, transition) ∈ announcements (diskWrites op (callsOnDisk before)) →
      (op.isFailureRecord → latestStatus (callsOnDisk before).tasks id = some .running) →
      transition.previous.isSome ∧
        transition.previous = latestStatus (callsOnDisk before).tasks id
  current : ∀ id,
    replayedStatus (callsOnDisk ops).journal id = latestStatus (callsOnDisk ops).tasks id

/-- The id and the enqueue stamp of an entry. -/
def QueueTask.stamp (task : QueueTask) : String × String := (task.id, task.addedAtUtc)

/-- The lifecycles of one id were enqueued at different clock readings. -/
def DistinctStamps (tasks : List QueueTask) : Prop := (tasks.map QueueTask.stamp).Nodup

variable {R : EdgeKind → String → Prop} {s : Store}

/-! ## What a change announces -/

theorem Edge.status_of_announces_none {kind : EdgeKind} {old new : QueueTask}
    (h : Edge kind old new) (hannounces : kind.announces old new = none) :
    new.status = old.status := by
  cases h with
  | bundleAttached | reviewFailed => rfl
  | started | retried | recovered | recorded | failureRecorded | setupFailed | reviewResolved
  | reworkLimit | reworkConfirmed | attemptLimit | escalationResolved | rolledBack =>
      cases hannounces

theorem Edge.current_of_announces {kind : EdgeKind} {old new : QueueTask} {transition : Transition}
    (h : Edge kind old new) (hannounces : kind.announces old new = some transition) :
    transition.current = new.status := by
  cases h <;> cases hannounces <;> rfl

theorem Edge.previous_of_announces {kind : EdgeKind} {old new : QueueTask}
    {transition : Transition} (h : Edge kind old new)
    (hannounces : kind.announces old new = some transition)
    (hkind : kind = .failureRecorded → old.status = .running) :
    transition.previous = some old.status := by
  cases h with
  | failureRecorded =>
      -- the call writes `running` whatever the status was
      rw [hkind rfl]
      cases hannounces
      rfl
  | bundleAttached | reviewFailed => cases hannounces
  | started | retried | recovered | recorded | setupFailed | reviewResolved
  | reworkLimit | reworkConfirmed | attemptLimit | escalationResolved | rolledBack =>
      cases hannounces
      rfl

/-- An announcement is that of a new entry or that of an edge of the latest one. -/
theorem Atomic.announced {ws : List Write} (h : Atomic R s ws) {id : String}
    {transition : Transition} (hmem : (id, transition) ∈ announcements ws) :
    (R .enqueued id ∧ transition = ⟨none, .queued⟩ ∧
        ∀ task ∈ s.tasks, task.id = id → task.status.isActive = false) ∨
      ∃ kind old new, R kind id ∧ Edge kind old new ∧ latestTask? s.tasks id = some old ∧
        kind.announces old new = some transition := by
  -- an enqueued batch announces its items, a rewritten entry at most its own change
  cases h with
  | silent _ hsilent =>
      rw [hsilent] at hmem
      cases hmem
  | @enqueued items now rest hitems hallowed hdistinct hfree hgraph hkeeps hannounced =>
      left
      have hevents : announcements (.queue (s.tasks ++ items.map (queuedTask now)) :: rest) =
          announcements rest := rfl
      rw [hevents, hannounced] at hmem
      obtain ⟨item, hitem, heq⟩ := List.mem_map.mp hmem
      obtain ⟨rfl, rfl⟩ := Prod.mk.inj heq
      refine ⟨hallowed item hitem, rfl, fun task htask hid => ?_⟩
      by_contra hactive
      rw [Bool.not_eq_false] at hactive
      exact not_active_of_activeIncoming hfree htask hactive (List.mem_map_of_mem hitem) hid.symm
  | @rewritten kind pre post old new rest hallowed hedge htasks hlatest hlast hkeeps hannounced =>
      right
      have hevents : announcements (.queue (pre ++ new :: post) :: rest) = announcements rest := rfl
      rw [hevents, hannounced, Option.mem_toList, Option.map_eq_some_iff] at hmem
      obtain ⟨t, ht, heq⟩ := hmem
      obtain ⟨rfl, rfl⟩ := Prod.mk.inj heq
      exact ⟨kind, old, new, hallowed, hedge, hlatest, ht⟩

/-- A batch announces the start of tasks that were queued before the batch. -/
theorem Steps.announced_started {ws : List Write} (h : Steps R s ws)
    (hR : ∀ kind id, R kind id → kind = .started) {id : String} {transition : Transition}
    (hmem : (id, transition) ∈ announcements ws) :
    transition.previous = some .queued ∧ latestStatus s.tasks id = some .queued := by
  induction h with
  | nil s => cases hmem
  | @cons s ws rest first _ ih =>
      rw [announcements_append, List.mem_append] at hmem
      rcases hmem with hmem | hmem
      -- only tasks are started, so nothing is enqueued and no other edge is taken
      · rcases first.announced hmem with ⟨henq, -⟩ | ⟨kind, old, new, hkind, hedge, hlatest, ht⟩
        · cases hR _ _ henq
        · obtain rfl := hR _ _ hkind
          have hprevious := hedge.previous_of_announces ht fun h => by cases h
          cases hedge with
          | started hstatus =>
              rw [hstatus] at hprevious
              exact ⟨hprevious, by rw [latestStatus, hlatest, Option.map_some, hstatus]⟩
      · -- starting tasks queues none, so the task was queued before
        obtain ⟨hprevious, hafter⟩ := ih hmem
        refine ⟨hprevious, ?_⟩
        have hstep := first.taskStep_take ws.length
        rw [List.take_length] at hstep
        rcases hstep with heq | hstep
        · rwa [heq] at hafter
        · generalize (s.applyAll ws).tasks = after at hstep hafter
          cases hstep with
          | @enqueued items _ hitems hallowed =>
              obtain ⟨item, hitem⟩ := List.exists_mem_of_ne_nil _ hitems
              cases hR _ _ (hallowed item hitem)
          | @rewritten kind pre post old new hallowed hedge htasks hlatest hlast =>
              obtain rfl := hR _ _ hallowed
              rw [latestStatus, latestTask?_rewritten (hlast rfl) hedge.id_eq] at hafter
              by_cases hid : id = old.id
              · rw [if_pos hid] at hafter
                -- a started task is running afterwards, and so not the one that was queued
                cases hedge
                cases hafter
              · rwa [if_neg hid] at hafter

/-! ## The last event of an id -/

theorem journalTransitions_applyAll (s : Store) (ws : List Write) :
    journalTransitions (s.applyAll ws).journal =
      journalTransitions s.journal ++ announcements ws := by
  induction ws generalizing s with
  | nil => rw [announcements_nil, List.append_nil]; rfl
  | cons w ws ih =>
      have hone : journalTransitions (s.apply w).journal =
          journalTransitions s.journal ++ announcements [w] := by
        cases w with
        | journal event =>
            rw [journalTransitions, Store.apply, List.map_append, announcements_append]
            rfl
        | _ => exact (List.append_nil _).symm
      have hsplit : announcements (w :: ws) = announcements [w] ++ announcements ws :=
        announcements_append [w] ws
      have hrest := ih (s.apply w)
      rw [hsplit, ← List.append_assoc, ← hone]
      exact hrest

/-- The journal replays to the statuses of the queue. -/
def Replayed (s : Store) : Prop :=
  ∀ id, replayedStatus s.journal id = latestStatus s.tasks id

theorem stamps_grow {tasks tasks' : List QueueTask} (h : TaskStep R tasks tasks') :
    tasks.map QueueTask.stamp <+: tasks'.map QueueTask.stamp := by
  cases h with
  | enqueued =>
      rw [List.map_append]
      exact List.prefix_append _ _
  | @rewritten kind pre post old new _ hedge htasks _ _ =>
      have hstamp : new.stamp = old.stamp := congrArg₂ Prod.mk hedge.id_eq hedge.addedAtUtc_eq
      have hstamps : (pre ++ new :: post).map QueueTask.stamp = tasks.map QueueTask.stamp := by
        rw [htasks, List.map_append, List.map_append, List.map_cons, List.map_cons, hstamp]
      exact hstamps ▸ List.prefix_rfl

theorem stamps_grow_steps {tasks tasks' : List QueueTask} (h : TaskSteps R tasks tasks') :
    tasks.map QueueTask.stamp <+: tasks'.map QueueTask.stamp := by
  induction h with
  | refl => exact List.prefix_rfl
  | tail _ hstep ih => exact ih.trans (stamps_grow hstep)

theorem DistinctStamps.of_earlier {tasks tasks' : List QueueTask} (h : DistinctStamps tasks')
    (hearlier : tasks.map QueueTask.stamp <+: tasks'.map QueueTask.stamp) : DistinctStamps tasks :=
  h.sublist hearlier.sublist

/-- Entries with distinct stamps are rewritten at the last entry of their id. -/
theorem isLast_of_distinctStamps {pre post : List QueueTask} {old : QueueTask}
    (hstamps : DistinctStamps (pre ++ old :: post))
    (hlatest : latestTask? (pre ++ old :: post) old.id = some old) :
    KeyedLog.IsLast QueueTask.id (pre ++ old :: post) pre old post := by
  refine ⟨rfl, fun c hc hid => ?_⟩
  -- the latest entry would stand in `post` and carry the same stamp
  obtain ⟨d, hd⟩ := latestTask?_of_mem hc
  rw [hid] at hd
  have hold : latestTask? (pre ++ old :: post) old.id = some d := by
    rw [latestTask?_append, latestTask?, KeyedLog.last?_cons]
    rw [latestTask?] at hd
    rw [hd]
    rfl
  rw [hlatest, Option.some.injEq] at hold
  subst hold
  have hmem : old ∈ post := (KeyedLog.mem_of_last? hd).1
  have hnodup := (List.nodup_append.mp (by simpa [DistinctStamps] using hstamps)).2.1
  exact (List.nodup_cons.mp hnodup).1 (List.mem_map_of_mem hmem)

theorem replayedStatus_applyAll (s : Store) (ws : List Write) (id : String) :
    replayedStatus (s.applyAll ws).journal id =
      ((KeyedLog.last? Prod.fst (announcements ws) id).map fun event => event.2.current).or
        (replayedStatus s.journal id) := by
  rw [replayedStatus, journalTransitions_applyAll, KeyedLog.last?_append, replayedStatus]
  cases KeyedLog.last? Prod.fst (announcements ws) id <;> rfl

/-- A list of new entries maps an id to `queued` exactly when its announcements do. -/
theorem latestStatus_queuedTasks (now : String) (items : List (WorkItem × String)) (id : String) :
    latestStatus (items.map (queuedTask now)) id =
      (KeyedLog.last? Prod.fst
        (items.map fun item => (item.1.id, Transition.mk none .queued)) id).map
          fun event => event.2.current := by
  -- the last entry of an id and the last event of it are found side by side
  induction items with
  | nil => rfl
  | cons item items ih =>
      rw [latestStatus, latestTask?] at ih ⊢
      rw [List.map_cons, List.map_cons, KeyedLog.last?_cons, KeyedLog.last?_cons]
      have hid : (queuedTask now item).id = item.1.id := rfl
      cases hrest : KeyedLog.last? QueueTask.id (items.map (queuedTask now)) id <;>
      cases hrest' : KeyedLog.last? Prod.fst
        (items.map fun item => (item.1.id, Transition.mk none .queued)) id <;>
      simp only [hrest, hrest', Option.map_none, Option.map_some] at ih
      · rw [Option.none_or, Option.none_or, hid]
        by_cases h : item.1.id = id
        · rw [if_pos h, if_pos h]
          rfl
        · rw [if_neg h, if_neg h]
          rfl
      · cases ih
      · cases ih
      · simpa using ih

/-- **One change.** -/
theorem replayed_atomic {ws : List Write} (h : Atomic R s ws) (hreplayed : Replayed s)
    (hstamps : DistinctStamps (s.applyAll ws).tasks) : Replayed (s.applyAll ws) := by
  intro id
  rw [replayedStatus_applyAll, hreplayed id]
  -- the silent part of the step leaves the queue, an item is replayed as queued
  cases h with
  | silent hkeeps hsilent => rw [hsilent, hkeeps.tasks_eq]; rfl
  | @enqueued items now rest _ _ _ _ _ hkeeps hannounced =>
      have htasks : (s.applyAll (.queue (s.tasks ++ items.map (queuedTask now)) :: rest)).tasks =
          s.tasks ++ items.map (queuedTask now) := hkeeps.tasks_eq _
      have hevents : announcements (.queue (s.tasks ++ items.map (queuedTask now)) :: rest) =
          announcements rest := rfl
      rw [htasks, hevents, hannounced, ← latestStatus_queuedTasks now items id, latestStatus,
        latestStatus, latestStatus, latestTask?_append]
      cases latestTask? (items.map (queuedTask now)) id <;> rfl
  | @rewritten kind pre post old new rest hallowed hedge htasks hlatest hupdates hkeeps hannounced =>
      have htasks' : (s.applyAll (.queue (pre ++ new :: post) :: rest)).tasks =
          pre ++ new :: post := hkeeps.tasks_eq _
      have hevents : announcements (.queue (pre ++ new :: post) :: rest) = announcements rest := rfl
      -- the rewritten entry was the last of its id, as later entries have later stamps
      have hlast : KeyedLog.IsLast QueueTask.id s.tasks pre old post := by
        rw [htasks]
        apply isLast_of_distinctStamps
        · rw [htasks'] at hstamps
          have hstep : TaskStep R s.tasks (pre ++ new :: post) :=
            .rewritten hallowed hedge htasks hlatest hupdates
          exact htasks ▸ hstamps.of_earlier (stamps_grow hstep)
        · exact htasks ▸ hlatest
      rw [htasks', hevents, hannounced, latestStatus, latestStatus,
        latestTask?_rewritten hlast hedge.id_eq]
      cases hannounces : kind.announces old new with
      | none =>
          have hsame := hedge.status_of_announces_none hannounces
          by_cases hid : id = old.id
          · subst hid
            simp [hlatest, hsame]
          · simp [hid]
      -- an announced change names the status the entry has now
      | some transition =>
          have hcurrent := hedge.current_of_announces hannounces
          by_cases hid : id = old.id
          · subst hid
            simp [KeyedLog.last?_cons, hcurrent]
          · simp [KeyedLog.last?_cons, Ne.symm hid, hid]

theorem replayed_steps {ws : List Write} (h : Steps R s ws) (hreplayed : Replayed s)
    (hstamps : DistinctStamps (s.applyAll ws).tasks) : Replayed (s.applyAll ws) := by
  induction h with
  | nil s => exact hreplayed
  | @cons s ws rest first next ih =>
      rw [applyAll_append] at hstamps ⊢
      have hafter := next.taskSteps_take rest.length
      rw [List.take_length] at hafter
      have hmiddle := hstamps.of_earlier (stamps_grow_steps hafter)
      exact ih (replayed_atomic first hreplayed hmiddle) hstamps

/-! ## Runs -/

theorem mem_of_concat_complete {ops : List Op} {op : Op}
    (h : ∀ o ∈ ops ++ [op], o.isComplete) : (∀ o ∈ ops, o.isComplete) ∧ op.isComplete :=
  ⟨fun o ho => h o (List.mem_append_left _ ho), h op (by simp)⟩

/-- The journal of a run of completed calls replays to the queue. -/
theorem replayed_execute (ops : List Op) (hcomplete : ∀ op ∈ ops, op.isComplete)
    (hstamps : DistinctStamps (execute ops).tasks) : Replayed (execute ops) := by
  induction ops using List.reverseRecOn with
  | nil => exact fun _ => rfl
  | append_singleton ops op ih =>
      obtain ⟨hops, hop⟩ := mem_of_concat_complete hcomplete
      rw [execute_concat] at hstamps ⊢
      have hbefore := hstamps.of_earlier (stamps_grow_steps (taskSteps_of_op op (execute ops)))
      exact replayed_steps (steps_of_op op hop (execute ops)) (ih hops hbefore) hstamps

theorem Op.isEnqueue_of_rewrites {op : Op} (hcomplete : op.isComplete) {id : String}
    (h : op.rewrites .enqueued id) : op.isEnqueue := by
  cases op with
  | enqueueMany => rfl
  | interrupted => simp [Op.isComplete] at hcomplete
  | _ => simp [Op.rewrites] at h

theorem Op.isFailureRecord_of_rewrites {op : Op} (hcomplete : op.isComplete) {id : String}
    (h : op.rewrites .failureRecorded id) : op.isFailureRecord := by
  cases op with
  | recordFailure => rfl
  | interrupted => simp [Op.isComplete] at hcomplete
  | _ => simp [Op.rewrites] at h

/-- An enqueue announces fresh lifecycles only. -/
theorem announced_enqueue {op : Op} (hop : op.isEnqueue) (s : Store) {id : String}
    {transition : Transition} (hmem : (id, transition) ∈ announcements (opWrites op s)) :
    transition = ⟨none, .queued⟩ ∧
      ∀ status, latestStatus s.tasks id = some status → status.isActive = false := by
  cases op with
  | enqueueMany items now =>
      rcases (atomic_of_op (.enqueueMany items now) rfl rfl s).announced hmem with
        ⟨-, htransition, hfree⟩ | ⟨kind, old, new, hkind, hedge, -, -⟩
      · refine ⟨htransition, fun status hstatus => ?_⟩
        obtain ⟨task, htask, rfl⟩ := Option.map_eq_some_iff.mp hstatus
        exact hfree task (KeyedLog.mem_of_last? htask).1 (latestTask?_id htask)
      · rw [hkind.1] at hedge
        cases hedge
  | _ => cases hop

/-- Any other completed call announces changes of what the latest entries were before it,
    `record_failure` where it finds a running task. -/
theorem announced_previous {op : Op} (hcomplete : op.isComplete) (henqueue : op.isEnqueue = false)
    (s : Store) {id : String} {transition : Transition}
    (hmem : (id, transition) ∈ announcements (opWrites op s))
    (hfailure : op.isFailureRecord → latestStatus s.tasks id = some .running) :
    transition.previous.isSome ∧ transition.previous = latestStatus s.tasks id := by
  cases hsingle : op.isSingle with
  | true =>
      rcases (atomic_of_op op hcomplete hsingle s).announced hmem with
        ⟨henqueued, -⟩ | ⟨kind, old, new, hkind, hedge, hlatest, hannounces⟩
      · rw [Op.isEnqueue_of_rewrites hcomplete henqueued] at henqueue
        cases henqueue
      · have hrunning : kind = .failureRecorded → old.status = .running := by
          rintro rfl
          have hstatus := hfailure (Op.isFailureRecord_of_rewrites hcomplete hkind)
          rw [latestStatus, hlatest] at hstatus
          exact Option.some.inj hstatus
        rw [hedge.previous_of_announces hannounces hrunning, latestStatus, hlatest]
        exact ⟨rfl, rfl⟩
  | false =>
      have hstarted := (steps_of_op op hcomplete s).announced_started
        (fun _ _ => Op.started_of_not_isSingle hsingle) hmem
      rw [hstarted.1, hstarted.2]
      exact ⟨rfl, rfl⟩

/-- A run on disk of calls none of which is cut short is the run of the model. -/
theorem callsOnDisk_eq {ops : List Op}
    (h : Run.Each (fun s op => diskStep s (.call op)) Completes Store.empty ops) :
    callsOnDisk ops = execute ops := by
  induction ops using List.reverseRecOn with
  | nil => rfl
  | append_singleton ops op ih =>
      obtain ⟨hops, hop⟩ := (Run.each_concat Store.empty ops op).mp h
      have hbefore : ops.foldl (fun s op => diskStep s (.call op)) Store.empty = callsOnDisk ops := by
        rw [callsOnDisk, diskRun, List.foldl_map]
      rw [hbefore] at hop
      have hlast : callsOnDisk (ops ++ [op]) = diskStep (callsOnDisk ops) (.call op) := by
        rw [callsOnDisk, diskRun, List.map_append, List.foldl_append]
        rfl
      rw [hlast, diskStep, hop.undisturbed, execute_concat, ih hops]
      rfl

/-- No call of a run is cut short where every log can be read at its end. -/
theorem completes_of_readable {ops : List Op} (hcomplete : ∀ op ∈ ops, op.isComplete)
    (hread : ∀ log, (execute ops).Readable log) :
    Run.Each (fun s op => diskStep s (.call op)) Completes Store.empty ops := by
  induction ops using List.reverseRecOn with
  | nil => trivial
  | append_singleton ops op ih =>
      obtain ⟨hops, hop⟩ := mem_of_concat_complete hcomplete
      rw [execute_concat] at hread
      have hbefore := ih hops fun log => (hread log).of_later
      have hstore : ops.foldl (fun s op => diskStep s (.call op)) Store.empty = execute ops := by
        rw [← callsOnDisk_eq hbefore, callsOnDisk, diskRun, List.foldl_map]
      refine (Run.each_concat Store.empty ops op).mpr ⟨hbefore, ?_⟩
      rw [hstore]
      exact ⟨hop, diskWrites_of_readable hop hread⟩

/-- **Journal replay.**  In every run on disk of completed calls whose enqueues of one id
    read different stamps, the journal accounts for the queue. -/
theorem journalAccounts_callsOnDisk (ops : List Op)
    (hcompletes : Run.Each (fun s op => diskStep s (.call op)) Completes Store.empty ops)
    (hstamps : DistinctStamps (callsOnDisk ops).tasks) : JournalAccounts ops := by
  -- each call is made on the store of the model, and writes what the call of the model writes
  have hcall : ∀ before op after, ops = before ++ op :: after →
      callsOnDisk before = execute before ∧ op.isComplete ∧
        diskWrites op (callsOnDisk before) = opWrites op (execute before) := by
    rintro before op after rfl
    obtain ⟨hbefore, hrest⟩ := (Run.each_append Store.empty before (op :: after)).mp hcompletes
    have hstore := callsOnDisk_eq hbefore
    have hfold : before.foldl (fun s op => diskStep s (.call op)) Store.empty = execute before := by
      rw [← hstore, callsOnDisk, diskRun, List.foldl_map]
    rw [hfold] at hrest
    exact ⟨hstore, hrest.1.complete, by rw [hstore, hrest.1.undisturbed]⟩
  have hops : ∀ op ∈ ops, op.isComplete := by
    intro op hop
    obtain ⟨before, after, hsplit⟩ := List.append_of_mem hop
    exact (hcall before op after hsplit).2.1
  rw [callsOnDisk_eq hcompletes] at hstamps
  constructor
  case opened =>
    intro before op after hsplit hop id transition hmem
    obtain ⟨hstore, -, hwrites⟩ := hcall before op after hsplit
    rw [hwrites] at hmem
    rw [hstore]
    exact announced_enqueue hop (execute before) hmem
  case previous =>
    intro before op after hsplit henqueue id transition hmem hfailure
    obtain ⟨hstore, hcomplete, hwrites⟩ := hcall before op after hsplit
    rw [hwrites] at hmem
    rw [hstore] at hfailure ⊢
    exact announced_previous hcomplete henqueue (execute before) hmem hfailure
  case current =>
    rw [callsOnDisk_eq hcompletes]
    exact replayed_execute ops hops hstamps

/-- A task is retried once and accepted, then enqueued again. -/
def retriedRun : List Op :=
  [.enqueueMany [(sampleItem "a", "")] "t0", .claimBatch 2 fun _ => "t1",
    .recordFailure "a" "t1" "crashed" "t2" "t2" "r1", .requeueFailed "a" "t3",
    .claimNext (some 3) "t4", recordAccepted "a" "c1" "r2",
    .enqueueMany [(sampleItem "a", "")] "t5"]

theorem journalAccounts_retriedRun : JournalAccounts retriedRun := by
  have hrun : (∀ log ∈ Log.all, (execute retriedRun).Readable log) ∧
      ((execute retriedRun).tasks.map QueueTask.stamp).Nodup := by decide +kernel
  have hcompletes := completes_of_readable (by decide : ∀ op ∈ retriedRun, op.isComplete) fun log =>
    hrun.1 log log.mem_all
  refine journalAccounts_callsOnDisk retriedRun hcompletes ?_
  rw [callsOnDisk_eq hcompletes]
  exact hrun.2

/-! ## Where the plain law fails -/

/-- A done task is enqueued again. -/
def reenqueuedRun : List Op :=
  [.enqueueMany [(sampleItem "a", "")] "t0", .claimNext none "t1", recordAccepted "a" "c1" "r1"] ++
    .enqueueMany [(sampleItem "a", "")] "t2" :: []

/-- Two lifecycles of one id that agree in every field, both stamps included;
    the rollback then rewrites the first of the two equal entries. -/
def equalStampsRun : List Op :=
  [.enqueueMany [(sampleItem "a", "")] "t", .claimNext none "t", recordAccepted "a" "c1" "r1",
    .enqueueMany [(sampleItem "a", "")] "t", .claimNext none "t", recordAccepted "a" "c1" "r2",
    .markRolledBack "a" "c1" "c2" "t"]

/-- A re-enqueue starts from nothing although the id has a done entry, and with
    equal stamps the last event of a run can miss the latest entry. -/
theorem not_journalReplays : ¬ JournalReplays reenqueuedRun ∧ ¬ JournalReplays equalStampsRun := by
  constructor
  · intro h
    have hprevious := h.previous _ _ [] rfl "a" ⟨none, .queued⟩ (by decide +kernel)
    revert hprevious
    decide +kernel
  · intro h
    have hcurrent := h.current "a"
    revert hcurrent
    decide +kernel

end LlmHarness
