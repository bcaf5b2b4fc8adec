/-
  LlmHarness.State.Invariants

  Runs of mutator calls and the invariants of the queue that the other modules
  rest on: a live entry is the last of its id, and every dependency names an
  entry of the queue.
-/

import LlmHarness.Lib.Run
import LlmHarness.State.Transitions

namespace LlmHarness

variable {R : EdgeKind → String → Prop} {tasks tasks' : List QueueTask}

/-! ## Runs -/

@[simp]
theorem execute_nil : execute [] = Store.empty := rfl

theorem execute_concat (ops : List Op) (op : Op) : execute (ops ++ [op]) = (execute ops).step op := by
  simp [execute, List.foldl_append]

/-- What every change of the queue keeps, every call keeps. -/
theorem step_induction {P : List QueueTask → Prop}
    (hstep : ∀ {R : EdgeKind → String → Prop} {tasks tasks' : List QueueTask},
      P tasks → TaskStep R tasks tasks' → P tasks')
    {s : Store} (h : P s.tasks) (op : Op) : P (s.step op).tasks := by
  have hsteps := taskSteps_of_op op s
  generalize (s.step op).tasks = after at hsteps
  induction hsteps with
  | refl => exact h
  | tail _ hlast hbefore => exact hstep hbefore hlast

/-- ... and holds after every run, if it holds of the empty queue. -/
theorem execute_induction {P : List QueueTask → Prop} (hempty : P [])
    (hstep : ∀ {R : EdgeKind → String → Prop} {tasks tasks' : List QueueTask},
      P tasks → TaskStep R tasks tasks' → P tasks')
    (ops : List Op) : P (execute ops).tasks := by
  induction ops using List.reverseRecOn with
  | nil => exact hempty
  | append_singleton ops op ih =>
      rw [execute_concat]
      exact step_induction hstep ih op

/-- Every call of a run satisfies a condition in the store it is made on. -/
abbrev EachStep (C : Store → Op → Prop) : Store → List Op → Prop := Run.Each Store.step C

/-! ## Added entries -/

theorem mem_queuedTasks {now : String} {items : List (WorkItem × String)} {task : QueueTask}
    (h : task ∈ items.map (queuedTask now)) :
    ∃ item ∈ items, task = queuedTask now item := by
  obtain ⟨item, hitem, rfl⟩ := List.mem_map.mp h
  exact ⟨item, hitem, rfl⟩

/-- No incoming id has a live entry. -/
theorem not_active_of_activeIncoming {items : List WorkItem} (h : activeIncoming tasks items = [])
    {task : QueueTask} (htask : task ∈ tasks) (hactive : task.status.isActive) {workItem : WorkItem}
    (hitem : workItem ∈ items) : workItem.id ≠ task.id := by
  intro heq
  have hno := List.filter_eq_nil_iff.mp h workItem hitem
  apply hno
  rw [List.any_eq_true]
  exact ⟨task, htask, by simp [heq, hactive]⟩

/-! ## Live entries are last -/

/-- A live entry is the last entry of its id. -/
def LiveQueue (tasks : List QueueTask) : Prop :=
  KeyedLog.LiveLast QueueTask.id (fun task => task.status.isActive) tasks

/-- In such a queue only a rollback can rewrite an entry that is not the last
    of its id. -/
theorem LiveQueue.isLast_of_edge (h : LiveQueue tasks) {kind : EdgeKind}
    {pre post : List QueueTask} {old new : QueueTask} (hedge : Edge kind old new)
    (htasks : tasks = pre ++ old :: post)
    (hlast : kind.updates → KeyedLog.IsLast QueueTask.id tasks pre old post)
    (hroll : kind ≠ .rolledBack) : KeyedLog.IsLast QueueTask.id tasks pre old post := by
  cases hkind : kind.updates with
  | true => exact hlast hkind
  | false => exact KeyedLog.LiveLast.isLast h htasks (hedge.active_of_replaces hkind hroll)

theorem liveQueue_step (h : LiveQueue tasks) (hstep : TaskStep R tasks tasks') :
    LiveQueue tasks' := by
  cases hstep with
  | enqueued _ _ hdistinct hfree _ =>
      apply KeyedLog.LiveLast.append h
      · intro task htask hactive added hadded
        obtain ⟨item, hitem, rfl⟩ := mem_queuedTasks hadded
        exact not_active_of_activeIncoming hfree htask hactive (List.mem_map_of_mem hitem)
      · rw [List.pairwise_map]
        exact (List.pairwise_map.mp hdistinct).imp fun hne => Ne.symm hne
  | @rewritten kind pre post old new _ hedge htasks _ hlast =>
      subst htasks
      apply KeyedLog.LiveLast.replace h hedge.id_eq
      intro hactive
      by_cases hroll : kind = .rolledBack
      · subst hroll
        cases hedge
        simp [TaskStatus.isActive] at hactive
      · exact (h.isLast_of_edge hedge rfl hlast hroll).fresh

theorem liveQueue_call {s : Store} (h : LiveQueue s.tasks) (op : Op) :
    LiveQueue (s.step op).tasks :=
  step_induction liveQueue_step h op

/-- **Single live lifecycle.**  After every run a live entry is the last entry of
    its id. -/
theorem liveQueue_execute (ops : List Op) : LiveQueue (execute ops).tasks :=
  execute_induction List.Pairwise.nil liveQueue_step ops

/-! ## The latest entries across a change -/

/-- The status of the latest entry of an id. -/
def latestStatus (tasks : List QueueTask) (id : String) : Option TaskStatus :=
  (latestTask? tasks id).map QueueTask.status

/-- Rewriting the last entry of an id changes what that id maps to. -/
theorem latestTask?_rewritten {pre post : List QueueTask} {old new : QueueTask}
    (hlast : KeyedLog.IsLast QueueTask.id tasks pre old post) (hid : new.id = old.id)
    (id : String) : latestTask? (pre ++ new :: post) id =
      if id = old.id then some new else latestTask? tasks id :=
  hlast.last?_replace hid id

/-- A rollback rewrites the last entry of its id, or leaves every latest entry
    as it is. -/
theorem latestTask?_rolledBack {pre post : List QueueTask} {old new : QueueTask}
    (htasks : tasks = pre ++ old :: post) (hid : new.id = old.id) :
    KeyedLog.IsLast QueueTask.id tasks pre old post ∨
      ∀ id, latestTask? (pre ++ new :: post) id = latestTask? tasks id := by
  by_cases hstale : ∃ c ∈ post, c.id = old.id
  · right
    intro id
    rw [htasks]
    exact KeyedLog.last?_replace_stale hid hstale id
  · left
    exact ⟨htasks, fun c hc hcid => hstale ⟨c, hc, hcid⟩⟩

/-- The latest entry of an id after an enqueue. -/
theorem latestTask?_append (tasks added : List QueueTask) (id : String) :
    latestTask? (tasks ++ added) id = (latestTask? added id).or (latestTask? tasks id) :=
  KeyedLog.last?_append QueueTask.id tasks added id

theorem latestTask?_of_mem {task : QueueTask} (h : task ∈ tasks) :
    ∃ latest, latestTask? tasks task.id = some latest :=
  KeyedLog.exists_last?_of_mem h

/-- What one change does to the latest entry of an id: nothing, a fresh entry,
    or an edge. -/
theorem TaskStep.latest (hlive : LiveQueue tasks) (h : TaskStep R tasks tasks') (id : String) :
    latestTask? tasks' id = latestTask? tasks id ∨
      (R .enqueued id ∧ latestStatus tasks' id = some .queued ∧
        ∀ status, latestStatus tasks id = some status → status.isActive = false) ∨
      ∃ kind old new, R kind id ∧ Edge kind old new ∧ latestTask? tasks id = some old ∧
        latestTask? tasks' id = some new := by
  cases h with
  -- a batch: its entries are new, or their ids are none of theirs
  | @enqueued items now _ hallowed _ hfree _ =>
      cases hadded : latestTask? (items.map (queuedTask now)) id with
      | none =>
          left
          rw [latestTask?_append, hadded, Option.none_or]
      | some added =>
          right
          left
          obtain ⟨hmem, rfl⟩ := KeyedLog.mem_of_last? hadded
          obtain ⟨item, hitem, rfl⟩ := mem_queuedTasks hmem
          refine ⟨hallowed item hitem, ?_, fun status hstatus => ?_⟩
          · rw [latestStatus, latestTask?_append, hadded]
            rfl
          -- the entry before was not active, or the batch would have been refused
          · obtain ⟨task, htask, rfl⟩ := Option.map_eq_some_iff.mp hstatus
            obtain ⟨htaskMem, htaskId⟩ := KeyedLog.mem_of_last? htask
            cases hactive : task.status.isActive with
            | false => rfl
            | true =>
                have hitem' : item.1 ∈ items.map Prod.fst := List.mem_map_of_mem hitem
                exact absurd htaskId.symm
                  (not_active_of_activeIncoming hfree htaskMem hactive hitem')
  | @rewritten kind pre post old new hallowed hedge htasks hlatest hlast =>
      -- a rollback may rewrite an entry that is not the last of its id
      have hcases : KeyedLog.IsLast QueueTask.id tasks pre old post ∨
          ∀ id, latestTask? (pre ++ new :: post) id = latestTask? tasks id := by
        by_cases hroll : kind = .rolledBack
        · exact latestTask?_rolledBack htasks hedge.id_eq
        · exact Or.inl (hlive.isLast_of_edge hedge htasks hlast hroll)
      rcases hcases with hlast | hsame
      -- the last entry of the id was rewritten
      · have hnew := latestTask?_rewritten hlast hedge.id_eq id
        by_cases hid : id = old.id
        · right
          right
          subst hid
          rw [if_pos rfl] at hnew
          exact ⟨kind, old, new, hallowed, hedge, hlatest, hnew⟩
        · left
          rw [hnew, if_neg hid]
      · exact Or.inl (hsame id)

/-! ## One queue position across a change -/

/-- What one change does at one position of the queue: nothing, a fresh entry
    behind the last one, or an edge of the latest entry of an id. -/
theorem TaskStep.entry (h : TaskStep R tasks tasks') (index : Nat) :
    tasks'[index]? = tasks[index]? ∨
      (tasks[index]? = none ∧ ∃ item now, tasks'[index]? = some (queuedTask now item)) ∨
      ∃ kind old new, R kind old.id ∧ Edge kind old new ∧ latestTask? tasks old.id = some old ∧
        tasks[index]? = some old ∧ tasks'[index]? = some new := by
  cases h with
  -- entries are appended, and none is moved
  | @enqueued items now =>
      by_cases hindex : index < tasks.length
      · left
        rw [List.getElem?_append_left hindex]
      · rw [List.getElem?_append_right (Nat.le_of_not_lt hindex), List.getElem?_map]
        have hnone : tasks[index]? = none := List.getElem?_eq_none (Nat.le_of_not_lt hindex)
        cases items[index - tasks.length]? with
        | none => exact Or.inl hnone.symm
        | some item => exact Or.inr (Or.inl ⟨hnone, item, now, rfl⟩)
  | @rewritten kind pre post old new hallowed hedge htasks hlatest hlast =>
      -- the rewritten entry keeps its place
      by_cases hindex : index = pre.length
      · right
        right
        refine ⟨kind, old, new, hallowed, hedge, hlatest, ?_, ?_⟩
        · rw [htasks, hindex]
          simp
        · rw [hindex]
          simp
      · left
        rw [htasks]
        by_cases hlt : index < pre.length
        · rw [List.getElem?_append_left hlt, List.getElem?_append_left hlt]
        · have hle : pre.length ≤ index := Nat.le_of_not_lt hlt
          rw [List.getElem?_append_right hle, List.getElem?_append_right hle]
          obtain ⟨k, hk⟩ : ∃ k, index - pre.length = k + 1 := ⟨index - pre.length - 1, by omega⟩
          rw [hk, List.getElem?_cons_succ, List.getElem?_cons_succ]

/-! ## Dependencies name entries -/

theorem checkDependencies_ok_iff (knownIds : List String) (items : List WorkItem) :
    checkDependencies knownIds items = .ok () ↔
      ∀ workItem ∈ items, workItem.dependsOn.Nodup ∧ ∀ d ∈ workItem.dependsOn, d ∈ knownIds := by
  induction items with
  | nil => simp [checkDependencies]
  | cons workItem rest ih =>
      rw [checkDependencies, List.forall_mem_cons]
      by_cases hnodup : workItem.dependsOn.Nodup
      · rw [if_neg (not_not_intro hnodup)]
        by_cases hall : ∀ d ∈ workItem.dependsOn, d ∈ knownIds
        · have hunknown : (workItem.dependsOn.filter fun d => decide (d ∉ knownIds)) = [] := by
            simpa [List.filter_eq_nil_iff] using hall
          rw [hunknown, if_neg (by simp), ih]
          exact (and_iff_right ⟨hnodup, hall⟩).symm
        · have hunknown : (workItem.dependsOn.filter fun d => decide (d ∉ knownIds)) ≠ [] := by
            simpa [List.filter_eq_nil_iff] using hall
          rw [if_pos hunknown]
          exact iff_of_false (by simp) fun h => hall h.1.2
      · rw [if_pos hnodup]
        exact iff_of_false (by simp) fun h => hnodup h.1.1

/-- An accepted batch has distinct dependencies that name known ids. -/
theorem dependencies_of_validate {items : List WorkItem}
    (h : validateEnqueueGraph tasks items = .ok ()) :
    ∀ workItem ∈ items, workItem.dependsOn.Nodup ∧
      ∀ d ∈ workItem.dependsOn, d ∈ tasks.map QueueTask.id ++ items.map WorkItem.id := by
  rw [← checkDependencies_ok_iff]
  rw [validateEnqueueGraph] at h
  cases hcheck : checkDependencies (tasks.map QueueTask.id ++ items.map WorkItem.id) items with
  | error e => simp [hcheck] at h
  | ok u => rfl

/-- Every dependency of an entry is the id of an entry. -/
def DependenciesKnown (tasks : List QueueTask) : Prop :=
  ∀ task ∈ tasks, ∀ d ∈ task.workItem.dependsOn, d ∈ tasks.map QueueTask.id

/-- A change never takes an id away. -/
theorem ids_step (hstep : TaskStep R tasks tasks') {id : String}
    (h : id ∈ tasks.map QueueTask.id) : id ∈ tasks'.map QueueTask.id := by
  cases hstep with
  | enqueued =>
      rw [List.map_append]
      exact List.mem_append_left _ h
  | rewritten _ hedge htasks _ _ =>
      subst htasks
      simpa [List.map_append, hedge.id_eq] using h

theorem dependenciesKnown_step (h : DependenciesKnown tasks) (hstep : TaskStep R tasks tasks') :
    DependenciesKnown tasks' := by
  have hids := @ids_step R tasks tasks' hstep
  cases hstep with
  | @enqueued items now _ _ hdistinct _ hgraph =>
      intro task htask d hd
      rcases List.mem_append.mp htask with htask | htask
      · exact hids (h task htask d hd)
      · obtain ⟨item, hitem, rfl⟩ := mem_queuedTasks htask
        have hknown := (dependencies_of_validate hgraph item.1 (List.mem_map_of_mem hitem)).2 d hd
        rw [List.map_append, List.map_map]
        rw [List.map_map] at hknown
        exact hknown
  | @rewritten kind pre post old new _ hedge htasks _ _ =>
      subst htasks
      intro task htask d hd
      apply hids
      rcases List.mem_append.mp htask with htask | htask
      · exact h task (List.mem_append_left _ htask) d hd
      · rcases List.mem_cons.mp htask with rfl | htask
        · rw [hedge.dependsOn_eq] at hd
          exact h old (by simp) d hd
        · exact h task (by simp [htask]) d hd

theorem dependenciesKnown_execute (ops : List Op) : DependenciesKnown (execute ops).tasks :=
  execute_induction (fun _ h => absurd h List.not_mem_nil) dependenciesKnown_step ops

end LlmHarness
