/-
  LlmHarness.State.DependencyGraph

  The graph of unresolved tasks.  `_validate_enqueue_graph` keeps it acyclic
  when tasks are enqueued; no other call looks at it, so a call that turns a
  done task back into an unresolved one must not close a cycle.
-/

import LlmHarness.Rollback.Plan
import LlmHarness.State.Invariants

namespace LlmHarness

open Python Relation

/-- The latest entry of the id is not done. -/
def Unresolved (tasks : List QueueTask) (id : String) : Prop :=
  ∃ task, latestTask? tasks id = some task ∧ task.status ≠ .done

/-- The latest entry of the id lists the dependency. -/
def DependsOn (tasks : List QueueTask) (id dependencyId : String) : Prop :=
  ∃ task, latestTask? tasks id = some task ∧ dependencyId ∈ task.workItem.dependsOn

/-- An edge of the graph of unresolved ids. -/
def UnresolvedEdge (tasks : List QueueTask) (a b : String) : Prop :=
  Unresolved tasks a ∧ Unresolved tasks b ∧ DependsOn tasks a b

/-- No unresolved id reaches itself. -/
def GraphAcyclic (tasks : List QueueTask) : Prop :=
  ∀ id, ¬ TransGen (UnresolvedEdge tasks) id id

/-- An edge of the graph in which `id` counts as unresolved. -/
def ReopenedEdge (tasks : List QueueTask) (id a b : String) : Prop :=
  (a = id ∨ Unresolved tasks a) ∧ (b = id ∨ Unresolved tasks b) ∧ DependsOn tasks a b

/-- Counted as unresolved, `id` does not reach itself. -/
def NoReturn (tasks : List QueueTask) (id : String) : Prop :=
  ¬ TransGen (ReopenedEdge tasks id) id id

/-! ## What the graph depends on -/

/-- What the graph reads of a latest entry. -/
def graphView (tasks : List QueueTask) (id : String) : Option (Bool × List String) :=
  (latestTask? tasks id).map fun task => (decide (task.status = .done), task.workItem.dependsOn)

theorem unresolved_iff_view (tasks : List QueueTask) (id : String) :
    Unresolved tasks id ↔ ∃ deps, graphView tasks id = some (false, deps) := by
  rw [Unresolved, graphView]
  cases latestTask? tasks id <;> simp

theorem dependsOn_iff_view (tasks : List QueueTask) (a b : String) :
    DependsOn tasks a b ↔ ∃ done deps, graphView tasks a = some (done, deps) ∧ b ∈ deps := by
  rw [DependsOn, graphView]
  cases latestTask? tasks a <;> simp

theorem unresolvedEdge_congr {tasks tasks' : List QueueTask} {a b : String}
    (ha : graphView tasks' a = graphView tasks a) (hb : graphView tasks' b = graphView tasks b) :
    UnresolvedEdge tasks' a b ↔ UnresolvedEdge tasks a b := by
  simp only [UnresolvedEdge, unresolved_iff_view, dependsOn_iff_view, ha, hb]

theorem graphAcyclic_congr {tasks tasks' : List QueueTask}
    (h : ∀ id, graphView tasks' id = graphView tasks id) :
    GraphAcyclic tasks' ↔ GraphAcyclic tasks := by
  have hedge : UnresolvedEdge tasks' = UnresolvedEdge tasks := by
    funext a b
    exact propext (unresolvedEdge_congr (h a) (h b))
  rw [GraphAcyclic, GraphAcyclic, hedge]

/-! ## What the enqueue check establishes -/

/-- The latest entries with the incoming items over them. -/
theorem incoming_latest (tasks : List QueueTask) (items : List WorkItem) :
    (items.foldl (fun latest workItem => dictInsert latest (workItem.id, incomingTask workItem))
      (latestTasksById tasks)) = latestTasksById (tasks ++ items.map incomingTask) := by
  rw [latestTasksById, latestTasksById, List.map_append, List.map_map, dictOfPairs, dictOfPairs,
    List.foldl_append]
  exact List.foldl_map.symm

theorem mem_keys_unresolvedGraph (tasks : List QueueTask) (id : String) :
    id ∈ (unresolvedGraph (latestTasksById tasks)).map Prod.fst ↔ Unresolved tasks id := by
  rw [unresolvedGraph, List.map_map]
  constructor
  · intro h
    obtain ⟨⟨k, task⟩, hmem, rfl⟩ := List.mem_map.mp h
    obtain ⟨hentry, hstatus⟩ := List.mem_filter.mp hmem
    have hget := (mem_iff_dictGet? (nodup_keys_latestTasksById tasks) k task).mp hentry
    rw [dictGet?_latestTasksById] at hget
    exact ⟨task, hget, by simpa using hstatus⟩
  · rintro ⟨task, htask, hstatus⟩
    rw [← dictGet?_latestTasksById] at htask
    have hentry := (mem_iff_dictGet? (nodup_keys_latestTasksById tasks) id task).mpr htask
    exact List.mem_map.mpr ⟨(id, task), List.mem_filter.mpr ⟨hentry, by simpa using hstatus⟩, rfl⟩

theorem nodup_keys_unresolvedGraph (tasks : List QueueTask) :
    ((unresolvedGraph (latestTasksById tasks)).map Prod.fst).Nodup := by
  rw [unresolvedGraph, List.map_map]
  exact ((nodup_keys_latestTasksById tasks).sublist (List.filter_sublist.map Prod.fst))

/-- The successors of the search graph are the edges of the unresolved graph. -/
theorem mem_graphSuccessors (tasks : List QueueTask) (a b : String) :
    b ∈ graphSuccessors (unresolvedGraph (latestTasksById tasks)) a ↔ UnresolvedEdge tasks a b := by
  have hkeys := mem_keys_unresolvedGraph tasks b
  -- the keys of the graph are the unresolved ids
  have hfst : ((latestTasksById tasks).filter fun entry => decide (entry.2.status ≠ .done)).map
      Prod.fst = (unresolvedGraph (latestTasksById tasks)).map Prod.fst := by
    rw [unresolvedGraph, List.map_map]
    rfl
  constructor
  · intro h
    rw [graphSuccessors] at h
    -- a successor stands in the entry of `a`, filtered to the keys
    cases hget : dictGet? (unresolvedGraph (latestTasksById tasks)) a with
    | none => simp [hget] at h
    | some deps =>
        rw [hget, Option.getD_some] at h
        have hmem := (mem_iff_dictGet? (nodup_keys_unresolvedGraph tasks) a deps).mpr hget
        -- the entry comes from the latest task of `a`, which is unresolved
        obtain ⟨⟨k, task⟩, hentry, heq⟩ := List.mem_map.mp hmem
        obtain ⟨rfl, rfl⟩ := Prod.mk.inj heq
        obtain ⟨hdep, hknown⟩ := List.mem_filter.mp h
        obtain ⟨hlatest, hstatus⟩ := List.mem_filter.mp hentry
        have htask := (mem_iff_dictGet? (nodup_keys_latestTasksById tasks) k task).mp hlatest
        rw [dictGet?_latestTasksById] at htask
        refine ⟨⟨task, htask, by simpa using hstatus⟩, hkeys.mp ?_, ⟨task, htask, hdep⟩⟩
        rw [← hfst]
        exact of_decide_eq_true hknown
  -- the task of `a` makes the entry, and `b` passes the filter
  · rintro ⟨⟨task, htask, hstatus⟩, hb, ⟨task', htask', hdep⟩⟩
    obtain rfl : task = task' := Option.some.inj (htask.symm.trans htask')
    rw [← dictGet?_latestTasksById] at htask
    have hentry := (mem_iff_dictGet? (nodup_keys_latestTasksById tasks) a task).mpr htask
    have hmem : (a, task.workItem.dependsOn.filter fun d => decide (d ∈
        ((latestTasksById tasks).filter fun entry => decide (entry.2.status ≠ .done)).map
          Prod.fst)) ∈ unresolvedGraph (latestTasksById tasks) :=
      List.mem_map.mpr ⟨(a, task), List.mem_filter.mpr ⟨hentry, by simpa using hstatus⟩, rfl⟩
    have hget := (mem_iff_dictGet? (nodup_keys_unresolvedGraph tasks) a _).mp hmem
    rw [graphSuccessors, hget, Option.getD_some]
    refine List.mem_filter.mpr ⟨hdep, decide_eq_true ?_⟩
    rw [hfst]
    exact hkeys.mpr hb

/-- The search never leaves the unresolved ids. -/
theorem unresolvedGraph_closed (tasks : List QueueTask) :
    ∀ a ∈ (unresolvedGraph (latestTasksById tasks)).map Prod.fst,
      ∀ b ∈ graphSuccessors (unresolvedGraph (latestTasksById tasks)) a,
        b ∈ (unresolvedGraph (latestTasksById tasks)).map Prod.fst := by
  intro a _ b hb
  exact (mem_keys_unresolvedGraph tasks b).mpr ((mem_graphSuccessors tasks a b).mp hb).2.1

theorem edge_eq_unresolvedEdge (tasks : List QueueTask) :
    CycleSearch.Edge (graphSuccessors (unresolvedGraph (latestTasksById tasks))) =
      UnresolvedEdge tasks := by
  funext a b
  exact propext (mem_graphSuccessors tasks a b)

/-- The search succeeds exactly when the graph of unresolved ids is acyclic. -/
theorem search_ok_iff_graphAcyclic (tasks : List QueueTask) :
    (∃ visited, CycleSearch.search (graphSuccessors (unresolvedGraph (latestTasksById tasks)))
      ((unresolvedGraph (latestTasksById tasks)).map Prod.fst) = .ok visited) ↔
      GraphAcyclic tasks := by
  rw [CycleSearch.search_ok_iff (unresolvedGraph_closed tasks)]
  simp only [CycleSearch.OnCycle, edge_eq_unresolvedEdge]
  constructor
  · intro h id hcycle
    -- an id on a cycle has an edge, so it is a node
    obtain ⟨b, hb, -⟩ := TransGen.head'_iff.mp hcycle
    exact h id ((mem_keys_unresolvedGraph tasks id).mpr hb.1) hcycle
  · intro h id _
    exact h id

/-- **The enqueue check.**  It accepts exactly the batches with distinct, known
    dependencies that leave the graph of unresolved ids acyclic. -/
theorem validateEnqueueGraph_ok_iff (tasks : List QueueTask) (items : List WorkItem) :
    validateEnqueueGraph tasks items = .ok () ↔
      (∀ workItem ∈ items, workItem.dependsOn.Nodup ∧
        ∀ d ∈ workItem.dependsOn, d ∈ tasks.map QueueTask.id ++ items.map WorkItem.id) ∧
      GraphAcyclic (tasks ++ items.map incomingTask) := by
  rw [← checkDependencies_ok_iff, ← search_ok_iff_graphAcyclic, validateEnqueueGraph,
    incoming_latest]
  cases checkDependencies (tasks.map QueueTask.id ++ items.map WorkItem.id) items with
  | error e => exact iff_of_false (by simp) fun h => by cases h.1
  | ok u =>
      simp only
      cases CycleSearch.search (graphSuccessors (unresolvedGraph
          (latestTasksById (tasks ++ items.map incomingTask))))
        ((unresolvedGraph (latestTasksById (tasks ++ items.map incomingTask))).map Prod.fst) with
      | error cycle =>
          refine iff_of_false (by simp) ?_
          rintro ⟨-, visited, h⟩
          cases h
      | ok visited => exact iff_of_true rfl ⟨trivial, visited, rfl⟩

/-! ## A change of the queue -/

/-- The view of the latest entries after a list of entries is added. -/
theorem graphView_append (tasks added : List QueueTask) (id : String) :
    graphView (tasks ++ added) id = (graphView added id).or (graphView tasks id) := by
  rw [graphView, latestTask?_append, graphView, graphView]
  cases latestTask? added id <;> rfl

/-- Queued entries and their placeholders look alike to the graph. -/
theorem graphView_queuedTasks (now : String) (items : List (WorkItem × String)) (id : String) :
    graphView (items.map (queuedTask now)) id =
      graphView ((items.map Prod.fst).map incomingTask) id := by
  induction items with
  | nil => rfl
  | cons item items ih =>
      have hsplit : ∀ (task : QueueTask) (rest : List QueueTask),
          graphView (task :: rest) id = (graphView rest id).or (graphView [task] id) :=
        fun task rest => graphView_append [task] rest id
      have hone : graphView [queuedTask now item] id = graphView [incomingTask item.1] id := by
        simp only [graphView, latestTask?, KeyedLog.last?_cons]
        by_cases hid : item.1.id = id <;> simp [QueueTask.id, queuedTask, incomingTask, hid]
      rw [List.map_cons, List.map_cons, List.map_cons, hsplit (queuedTask now item),
        hsplit (incomingTask item.1), ih, hone]

variable {R : EdgeKind → String → Prop} {tasks tasks' : List QueueTask}

/-- An accepted batch leaves the graph acyclic, whatever it was before. -/
theorem graphAcyclic_enqueued {now : String} {items : List (WorkItem × String)}
    (h : validateEnqueueGraph tasks (items.map Prod.fst) = .ok ()) :
    GraphAcyclic (tasks ++ items.map (queuedTask now)) := by
  have hacyclic := ((validateEnqueueGraph_ok_iff tasks _).mp h).2
  refine (graphAcyclic_congr fun id => ?_).mp hacyclic
  rw [graphView_append, graphView_append, graphView_queuedTasks]

/-- Rewriting the last entry of an id keeps the graph acyclic unless it reopens
    a done task that reaches itself. -/
theorem graphAcyclic_rewritten {kind : EdgeKind} {pre post : List QueueTask} {old new : QueueTask}
    (h : GraphAcyclic tasks) (hedge : Edge kind old new)
    (hlast : KeyedLog.IsLast QueueTask.id tasks pre old post)
    (hsafe : old.status = .done → new.status ≠ .done → NoReturn tasks old.id) :
    GraphAcyclic (pre ++ new :: post) := by
  -- the old entry is the latest of its id, and the new one takes its place
  have hlatest : latestTask? tasks old.id = some old := hlast.last?
  have hafter := latestTask?_rewritten hlast hedge.id_eq
  -- dependencies stay; only the status of the rewritten id changes
  have hdeps : ∀ a b, DependsOn (pre ++ new :: post) a b → DependsOn tasks a b := by
    rintro a b ⟨task, htask, hb⟩
    rw [hafter] at htask
    by_cases ha : a = old.id
    · rw [if_pos ha, Option.some.injEq] at htask
      subst htask ha
      exact ⟨old, hlatest, hedge.dependsOn_eq ▸ hb⟩
    · rw [if_neg ha] at htask
      exact ⟨task, htask, hb⟩
  have hunresolved : ∀ a, a ≠ old.id → Unresolved (pre ++ new :: post) a → Unresolved tasks a := by
    rintro a ha ⟨task, htask, hstatus⟩
    rw [hafter, if_neg ha] at htask
    exact ⟨task, htask, hstatus⟩
  -- an edge that is new has the rewritten id at one of its ends
  have hpatch : ∀ a b, UnresolvedEdge (pre ++ new :: post) a b →
      UnresolvedEdge tasks a b ∨ a = old.id ∨ b = old.id := by
    rintro a b ⟨ha, hb, hab⟩
    by_cases haid : a = old.id
    · exact Or.inr (Or.inl haid)
    · by_cases hbid : b = old.id
      · exact Or.inr (Or.inr hbid)
      · exact Or.inl ⟨hunresolved a haid ha, hunresolved b hbid hb, hdeps a b hab⟩
  apply CycleSearch.acyclic_patch hpatch h
  intro hcycle
  by_cases hnew : new.status = .done
  · -- a done task has no edge
    obtain ⟨b, ⟨⟨task, htask, hstatus⟩, -, -⟩, -⟩ := TransGen.head'_iff.mp hcycle
    rw [hafter, if_pos rfl, Option.some.injEq] at htask
    exact hstatus (htask ▸ hnew)
  -- the new entry is unresolved, so a cycle through it is one of the reopened graph
  · have hreopened : ∀ a b, UnresolvedEdge (pre ++ new :: post) a b →
        ReopenedEdge tasks old.id a b := by
      rintro a b ⟨ha, hb, hab⟩
      refine ⟨?_, ?_, hdeps a b hab⟩
      · by_cases haid : a = old.id
        · exact Or.inl haid
        · exact Or.inr (hunresolved a haid ha)
      · by_cases hbid : b = old.id
        · exact Or.inl hbid
        · exact Or.inr (hunresolved b hbid hb)
    -- done before: the condition excludes the cycle
    by_cases hold : old.status = .done
    · exact hsafe hold hnew (TransGen.mono hreopened _ _ hcycle)
    · -- the id was unresolved before: the cycle is an old one
      have hid : Unresolved tasks old.id := ⟨old, hlatest, hold⟩
      apply h old.id
      refine TransGen.mono (fun a b hab => ?_) _ _ hcycle
      obtain ⟨ha, hb, hdep⟩ := hreopened a b hab
      refine ⟨?_, ?_, hdep⟩
      · rcases ha with rfl | ha
        · exact hid
        · exact ha
      · rcases hb with rfl | hb
        · exact hid
        · exact hb

/-- **One change of the queue.** -/
theorem graphAcyclic_step (hlive : LiveQueue tasks) (h : GraphAcyclic tasks)
    (hstep : TaskStep R tasks tasks')
    (hsafe : ∀ {kind old new}, R kind old.id → Edge kind old new →
      latestTask? tasks old.id = some old → old.status = .done → new.status ≠ .done →
      NoReturn tasks old.id) : GraphAcyclic tasks' := by
  cases hstep with
  | enqueued _ _ _ _ hgraph => exact graphAcyclic_enqueued hgraph
  | @rewritten kind pre post old new hallowed hedge htasks hlatest hlast =>
      by_cases hroll : kind = .rolledBack
      · rcases latestTask?_rolledBack htasks hedge.id_eq with hlast | hsame
        · exact graphAcyclic_rewritten h hedge hlast (hsafe hallowed hedge hlatest)
        · refine (graphAcyclic_congr fun id => ?_).mpr h
          rw [graphView, hsame, graphView]
      · exact graphAcyclic_rewritten h hedge (hlive.isLast_of_edge hedge htasks hlast hroll)
          (hsafe hallowed hedge hlatest)

/-! ## Runs -/

/-- The id whose done entry a call may turn into an unresolved one. -/
def Op.reopens : Op → Option String
  | .recordFailure workItemId _ _ _ _ _ => some workItemId
  | .markRolledBack workItemId _ _ _ => some workItemId
  | .completeRollback record _ =>
    if record.ok && record.rollbackCommit.isSome then some record.workItemId else none
  | .interrupted _ 0 => none
  | .interrupted op (_ + 1) => op.reopens
  | _ => none

/-- The call reopens no done task that, counted as unresolved, reaches itself. -/
def ReopensSafely (s : Store) (op : Op) : Prop :=
  ∀ id task, op.reopens = some id → latestTask? s.tasks id = some task → task.status = .done →
    NoReturn s.tasks id

theorem Op.reopens_of_rewrites {op : Op} {kind : EdgeKind} {id : String}
    (h : op.rewrites kind id) (hkind : kind = .failureRecorded ∨ kind = .rolledBack) :
    op.reopens = some id := by
  induction op with
  -- the two calls that can take a done task back
  | recordFailure | markRolledBack => rw [h.2]; rfl
  | completeRollback record =>
      obtain ⟨-, rfl, hok, hcommit⟩ := h
      rw [Op.reopens, hok, hcommit]
      rfl
  -- a call that is cut makes the writes of the call, if any
  | interrupted op written ih =>
      cases written with
      | zero => exact h.elim
      | succ written => exact ih h
  -- the rules of every other call are of other kinds
  | enqueueMany => rw [h.1] at hkind; simp at hkind
  | recordRollback | recordReviewBundle | recordReviewDecision
  | recordOperatorEvent | recordAuditReport | setTelegramUpdateOffset => exact h.elim
  | claimNext => rcases h with rfl | rfl <;> simp at hkind
  | claimBatch => subst h; simp at hkind
  | confirmRework => rcases h.1 with rfl | rfl <;> simp at hkind
  | markRunning | requeueFailed | recoverRunning | recordResult | attachReviewBundle
  | failReviewSetup | recordReviewFailure | resolveReview | escalateAttemptLimit
  | resolveEscalation => rw [h.1] at hkind; simp at hkind

/-- Only a recorded failure and a rollback rewrite a done entry. -/
theorem Edge.kind_of_done {kind : EdgeKind} {old new : QueueTask} (h : Edge kind old new)
    (hdone : old.status = .done) : kind = .failureRecorded ∨ kind = .rolledBack := by
  cases h with
  | failureRecorded => exact Or.inl rfl
  | rolledBack => exact Or.inr rfl
  | started h | retried h | recovered h | recorded h | bundleAttached h | setupFailed h
  | reviewFailed h | reviewResolved h | reworkLimit h | reworkConfirmed h | attemptLimit h
  | escalationResolved h => simp [hdone] at h

/-- **One call.** -/
theorem graphAcyclic_op {s : Store} (hlive : LiveQueue s.tasks) (h : GraphAcyclic s.tasks) {op : Op}
    (hsafe : ReopensSafely s op) : GraphAcyclic (s.step op).tasks := by
  cases hsingle : op.isSingle with
  | true =>
      -- a call of one transition: the rule of its edge carries the condition
      rcases taskStep_of_op op hsingle s with heq | hstep
      · rw [heq]
        exact h
      · apply graphAcyclic_step hlive h hstep
        intro kind old new hallowed hedge hlatest hdone _
        exact hsafe old.id old (Op.reopens_of_rewrites hallowed (hedge.kind_of_done hdone)) hlatest
          hdone
  | false =>
      -- a batch: every claim in it keeps both invariants
      have hsteps := taskSteps_of_op op s
      suffices hboth : ∀ after, TaskSteps op.rewrites s.tasks after →
          LiveQueue after ∧ GraphAcyclic after from (hboth _ hsteps).2
      intro after hafter
      induction hafter with
      | refl => exact ⟨hlive, h⟩
      | tail _ hstep ih =>
          refine ⟨liveQueue_step ih.1 hstep, graphAcyclic_step ih.1 ih.2 hstep ?_⟩
          intro kind old new hallowed hedge _ hdone _
          -- a batch only starts queued tasks
          obtain rfl := Op.started_of_not_isSingle hsingle hallowed
          rcases hedge.kind_of_done hdone with h | h <;> cases h

theorem graphAcyclic_run (ops : List Op) (hsafe : EachStep ReopensSafely Store.empty ops) :
    GraphAcyclic (execute ops).tasks := by
  induction ops using List.reverseRecOn with
  | nil =>
      intro id hcycle
      obtain ⟨b, ⟨⟨task, htask, -⟩, -, -⟩, -⟩ := TransGen.head'_iff.mp hcycle
      cases htask
  | append_singleton ops op ih =>
      obtain ⟨hops, hop⟩ := (Run.each_concat _ ops op).mp hsafe
      rw [execute_concat]
      exact graphAcyclic_op (liveQueue_execute ops) (ih hops) hop

/-! ## Enqueueing a fresh item -/

/-- An item whose id is new and whose dependencies are distinct and known. -/
structure FreshItem (tasks : List QueueTask) (workItem : WorkItem) : Prop where
  fresh : workItem.id ∉ tasks.map QueueTask.id
  distinct : workItem.dependsOn.Nodup
  known : ∀ d ∈ workItem.dependsOn, d ∈ tasks.map QueueTask.id

/-- A fresh item closes no cycle: nothing depends on it yet. -/
theorem graphAcyclic_fresh {workItem : WorkItem} (h : GraphAcyclic tasks)
    (hknown : DependenciesKnown tasks) (hitem : FreshItem tasks workItem) :
    GraphAcyclic (tasks ++ [incomingTask workItem]) := by
  have hone : ∀ id, latestTask? [incomingTask workItem] id =
      if workItem.id = id then some (incomingTask workItem) else none := by
    intro id
    by_cases hid : workItem.id = id <;> simp [latestTask?, KeyedLog.last?_cons, QueueTask.id, incomingTask, hid]
  -- the fresh id is the only one whose entry changes
  have hother : ∀ id, id ≠ workItem.id →
      graphView (tasks ++ [incomingTask workItem]) id = graphView tasks id := by
    intro id hid
    rw [graphView, latestTask?_append, hone, if_neg (Ne.symm hid), Option.none_or, graphView]
  -- no entry names the fresh id as a dependency
  have hno : ∀ a, ¬ DependsOn (tasks ++ [incomingTask workItem]) a workItem.id := by
    rintro a ⟨task, htask, hd⟩
    have hmem := (KeyedLog.mem_of_last? htask).1
    rcases List.mem_append.mp hmem with hmem | hmem
    · exact hitem.fresh (hknown task hmem _ hd)
    · obtain rfl := List.mem_singleton.mp hmem
      exact hitem.fresh (hitem.known _ hd)
  -- so a new edge has the fresh id at one of its ends
  have hpatch : ∀ a b, UnresolvedEdge (tasks ++ [incomingTask workItem]) a b →
      UnresolvedEdge tasks a b ∨ a = workItem.id ∨ b = workItem.id := by
    intro a b hab
    by_cases ha : a = workItem.id
    · exact Or.inr (Or.inl ha)
    · by_cases hb : b = workItem.id
      · exact Or.inr (Or.inr hb)
      · exact Or.inl ((unresolvedEdge_congr (hother a ha) (hother b hb)).mp hab)
  apply CycleSearch.acyclic_patch hpatch h
  -- a cycle through the fresh id would have an edge into it
  intro hcycle
  obtain ⟨a, -, hlast⟩ := TransGen.tail'_iff.mp hcycle
  exact hno a hlast.2.2

/-- Over an acyclic graph a fresh item is always accepted. -/
theorem enqueueMany_fresh {s : Store} (h : GraphAcyclic s.tasks)
    (hknown : DependenciesKnown s.tasks) {workItem : WorkItem} (source now : String)
    (hitem : FreshItem s.tasks workItem) :
    (enqueueMany [(workItem, source)] now s).value = .ok [queuedTask now (workItem, source)] := by
  -- the three checks of the call pass
  have hgraph : validateEnqueueGraph s.tasks [workItem] = .ok () := by
    refine (validateEnqueueGraph_ok_iff s.tasks [workItem]).mpr ⟨?_, ?_⟩
    · intro w hw
      obtain rfl := List.mem_singleton.mp hw
      exact ⟨hitem.distinct, fun d hd => List.mem_append_left _ (hitem.known d hd)⟩
    · exact graphAcyclic_fresh h hknown hitem
  have hactive : activeIncoming s.tasks [workItem] = [] := by
    refine List.filter_eq_nil_iff.mpr fun w hw hany => ?_
    obtain rfl := List.mem_singleton.mp hw
    obtain ⟨task, htask, hid⟩ := List.any_eq_true.mp hany
    rw [Bool.and_eq_true, decide_eq_true_eq] at hid
    exact hitem.fresh (hid.1 ▸ List.mem_map_of_mem htask)
  -- what is left is the write and the event
  rw [enqueueMany, if_neg (by simp), read_bind]
  simp only [List.map_cons, List.map_nil, List.nodup_singleton, not_true, if_false, hactive]
  rw [lift_bind_ok _ hgraph, write_bind, bind_of_ok (recordEvents_run _ _)]
  rfl

/-- **Dependency graph invariant.**  In every run whose calls reopen a done task
    only when it does not reach itself, every store reached has an acyclic graph
    of unresolved ids, and accepts every fresh item with known, distinct
    dependencies. -/
theorem graphAcyclic_execute (ops : List Op) (hsafe : EachStep ReopensSafely Store.empty ops)
    (before : List Op) (hbefore : before <+: ops) :
    GraphAcyclic (execute before).tasks ∧
      ∀ workItem source now, FreshItem (execute before).tasks workItem →
        (enqueueMany [(workItem, source)] now (execute before)).value =
          .ok [queuedTask now (workItem, source)] := by
  have hacyclic := graphAcyclic_run before (hsafe.of_earlier hbefore)
  exact ⟨hacyclic, fun workItem source now hitem =>
    enqueueMany_fresh hacyclic (dependenciesKnown_execute before) source now hitem⟩

/-- "a" is done and "b", which depends on it, is queued. -/
def doneThenQueuedRun : List Op :=
  [.enqueueMany [(sampleItem "a", "")] "t0", .claimNext none "t1", recordAccepted "a" "c1" "r1",
    .enqueueMany [(sampleItem "b" ["a"], "")] "t2"]

/-- A failure recorded for the done "a" reopens it; nothing unresolved leads
    back to it. -/
theorem graphAcyclic_execute_reopened :
    GraphAcyclic (execute
      (doneThenQueuedRun ++ [.recordFailure "a" "t3" "lost" "t3" "t3" "r2"])).tasks := by
  refine (graphAcyclic_execute _ ?_ _ List.prefix_rfl).1
  refine (Run.each_concat _ _ _).mpr ⟨⟨?_, ?_, ?_, ?_, trivial⟩, ?_⟩
  · exact fun _ _ h => nomatch h
  · exact fun _ _ h => nomatch h
  · exact fun _ _ h => nomatch h
  · exact fun _ _ h => nomatch h
  · intro id _ h _ _ hcycle
    obtain rfl := Option.some.inj h
    -- "a" has no dependencies, so no edge leaves it
    obtain ⟨b, ⟨-, -, ⟨task, htask, hb⟩⟩, -⟩ := TransGen.head'_iff.mp hcycle
    have hdeps : (latestTask? (execute doneThenQueuedRun).tasks "a").map
        (fun task => task.workItem.dependsOn) = some [] := by decide +kernel
    have htask : latestTask? (execute doneThenQueuedRun).tasks "a" = some task := htask
    rw [htask, Option.map_some, Option.some.injEq] at hdeps
    rw [hdeps] at hb
    cases hb

/-! ## The defect -/

/-- The rollbacks of a run are ones `plan_rollback` would allow at that point. -/
def RollbackPlanned (s : Store) : Op → Prop
  | .markRolledBack workItemId _ _ _ => ∃ git, (planRollback git s workItemId none).eligible
  | .completeRollback record _ => ∃ git, (planRollback git s record.workItemId none).eligible
  | _ => True

/-- "b" is done, "a" depends on it and is done, "b" is enqueued again and now
    depends on "a"; then "a" is rolled back. -/
def reopenedCycleRun : List Op :=
  [.enqueueMany [(sampleItem "b", "")] "t0", .claimNext none "t1", recordAccepted "b" "c1" "r1",
    .enqueueMany [(sampleItem "a" ["b"], "")] "t2", .claimNext none "t3",
    recordAccepted "a" "c2" "r2", .enqueueMany [(sampleItem "b" ["a"], "")] "t4",
    .completeRollback {
      rollbackId := "k"
      createdAtUtc := "t5"
      workItemId := "a"
      runId := "r2"
      targetCommit := "c2"
      rollbackCommit := some "c3"
      reason := "regression"
      ok := true
      changedFiles := ["src/f"]
      commandResults := [] } "t5"]

theorem cyclic_reopenedCycleRun : ¬ GraphAcyclic (execute reopenedCycleRun).tasks := by
  rw [← search_ok_iff_graphAcyclic]
  rintro ⟨visited, h⟩
  have hfail : (CycleSearch.search (graphSuccessors (unresolvedGraph (latestTasksById
      (execute reopenedCycleRun).tasks))) ((unresolvedGraph (latestTasksById
      (execute reopenedCycleRun).tasks)).map Prod.fst)).isOk = false := by decide +kernel
  rw [h] at hfail
  cases hfail

/-- The rollback of "a" is planned, and leaves a cycle on which every later
    enqueue fails. -/
theorem not_graphAcyclic_reopenedCycleRun :
    EachStep RollbackPlanned Store.empty reopenedCycleRun ∧
      ¬ GraphAcyclic (execute reopenedCycleRun).tasks ∧
      FreshItem (execute reopenedCycleRun).tasks (sampleItem "c") ∧
      (enqueueMany [(sampleItem "c", "")] "t6" (execute reopenedCycleRun)).value =
        .error ⟨"Queue task dependency cycle: b -> a -> b."⟩ := by
  exact ⟨⟨trivial, trivial, trivial, trivial, trivial, trivial, trivial,
    ⟨plainGitView, by decide +kernel⟩, trivial⟩, cyclic_reopenedCycleRun,
    ⟨by decide +kernel, by decide, by decide⟩, rfl⟩

end LlmHarness
