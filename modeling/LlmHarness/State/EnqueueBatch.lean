/-
  LlmHarness.State.EnqueueBatch

  `enqueue_many` as a whole: which batches it takes, what it appends, and that a
  refused batch leaves no trace.  The search for a cycle runs over the latest
  entries with placeholders for the batch; to the graph these look like the
  entries that are appended.

  On disk the search has a call stack of limited depth, and a journal that takes
  the events of the batch is needed for all of it to be appended.
-/

import LlmHarness.State.DependencyGraph
import LlmHarness.State.OnDisk

namespace LlmHarness

open Python Relation StoreM

/-- What is asked of a batch before the search for a cycle. -/
structure ValidBatch (tasks : List QueueTask) (items : List (WorkItem × String)) : Prop where
  distinct : (items.map fun item => item.1.id).Nodup
  free : ∀ item ∈ items, ∀ task ∈ tasks, task.id = item.1.id → task.status.isActive = false
  dependsOn : ∀ item ∈ items, item.1.dependsOn.Nodup
  known : ∀ item ∈ items, ∀ d ∈ item.1.dependsOn,
    d ∈ tasks.map QueueTask.id ∨ d ∈ items.map fun item => item.1.id

/-- A batch the queue takes: valid, and no unresolved id reaches itself afterwards. -/
structure Enqueueable (tasks : List QueueTask) (items : List (WorkItem × String)) (now : String) :
    Prop extends ValidBatch tasks items where
  acyclic : GraphAcyclic (tasks ++ items.map (queuedTask now))

/-- The store with the batch appended and announced. -/
def Store.enqueued (s : Store) (added : List QueueTask) : Store :=
  { s with tasks := s.tasks ++ added, journal := s.journal ++ added.map enqueuedEvent }

/-- The graph the search of `_validate_enqueue_graph` runs on. -/
def enqueueGraph (tasks : List QueueTask) (items : List WorkItem) : List (String × List String) :=
  unresolvedGraph (items.foldl (fun latest workItem =>
    dictInsert latest (workItem.id, incomingTask workItem)) (latestTasksById tasks))

/-- The search of `_validate_enqueue_graph`. -/
def enqueueSearch (tasks : List QueueTask) (items : List WorkItem) :
    Except (List String) (List String) :=
  CycleSearch.search (graphSuccessors (enqueueGraph tasks items))
    ((enqueueGraph tasks items).map Prod.fst)

variable {tasks : List QueueTask} {items : List (WorkItem × String)} {now : String} {s : Store}

/-! ## The search -/

theorem enqueueGraph_eq (tasks : List QueueTask) (items : List WorkItem) :
    enqueueGraph tasks items =
      unresolvedGraph (latestTasksById (tasks ++ items.map incomingTask)) := by
  rw [enqueueGraph, incoming_latest]

theorem enqueueSearch_eq (tasks : List QueueTask) (items : List WorkItem) :
    enqueueSearch tasks items =
      CycleSearch.search
        (graphSuccessors (unresolvedGraph (latestTasksById (tasks ++ items.map incomingTask))))
        ((unresolvedGraph (latestTasksById (tasks ++ items.map incomingTask))).map Prod.fst) := by
  rw [enqueueSearch, enqueueGraph_eq]

/-- To the graph the placeholders look like the entries that are appended. -/
theorem graphView_incoming (tasks : List QueueTask) (items : List (WorkItem × String))
    (now id : String) :
    graphView (tasks ++ (items.map Prod.fst).map incomingTask) id =
      graphView (tasks ++ items.map (queuedTask now)) id := by
  rw [graphView_append, graphView_append, graphView_queuedTasks]

theorem unresolvedEdge_incoming (tasks : List QueueTask) (items : List (WorkItem × String))
    (now : String) :
    UnresolvedEdge (tasks ++ (items.map Prod.fst).map incomingTask) =
      UnresolvedEdge (tasks ++ items.map (queuedTask now)) := by
  funext a b
  apply propext
  exact unresolvedEdge_congr (graphView_incoming tasks items now a)
    (graphView_incoming tasks items now b)

/-- The search ends of itself, whatever the graph. -/
theorem visits_enqueueSearch (tasks : List QueueTask) (items : List WorkItem) :
    CycleSearch.Visits (graphSuccessors (enqueueGraph tasks items)) [] []
      ((enqueueGraph tasks items).map Prod.fst) (enqueueSearch tasks items) := by
  rw [enqueueSearch_eq, enqueueGraph_eq]
  exact CycleSearch.visits_search (unresolvedGraph_closed _)

/-- The search fails exactly on a cycle of the graph after the addition. -/
theorem enqueueSearch_ok_iff (tasks : List QueueTask) (items : List (WorkItem × String))
    (now : String) :
    (∃ visited, enqueueSearch tasks (items.map Prod.fst) = .ok visited) ↔
      GraphAcyclic (tasks ++ items.map (queuedTask now)) := by
  rw [enqueueSearch_eq, search_ok_iff_graphAcyclic]
  exact graphAcyclic_congr (graphView_incoming tasks items now)

/-- The cycle it reports is a path of unresolved ids back to its start. -/
theorem enqueueSearch_error {cycle : List String}
    (h : enqueueSearch tasks (items.map Prod.fst) = .error cycle) (now : String) :
    ∃ id inner, cycle = id :: (inner ++ [id]) ∧
      List.IsChain (UnresolvedEdge (tasks ++ items.map (queuedTask now))) cycle := by
  rw [enqueueSearch_eq] at h
  have hcycle := CycleSearch.isCycle_of_search (unresolvedGraph_closed _) h
  rw [CycleSearch.IsCycle, edge_eq_unresolvedEdge, unresolvedEdge_incoming tasks items now]
    at hcycle
  exact hcycle

/-! ## The checks before it -/

theorem activeIncoming_eq_nil_iff :
    activeIncoming tasks (items.map Prod.fst) = [] ↔
      ∀ item ∈ items, ∀ task ∈ tasks, task.id = item.1.id → task.status.isActive = false := by
  simp [activeIncoming, List.filter_eq_nil_iff]

theorem checkDependencies_map_ok_iff :
    checkDependencies (tasks.map QueueTask.id ++ (items.map Prod.fst).map WorkItem.id)
        (items.map Prod.fst) = .ok () ↔
      (∀ item ∈ items, item.1.dependsOn.Nodup) ∧ ∀ item ∈ items, ∀ d ∈ item.1.dependsOn,
        d ∈ tasks.map QueueTask.id ∨ d ∈ items.map fun item => item.1.id := by
  have hids : (items.map Prod.fst).map WorkItem.id = items.map fun item => item.1.id := by
    rw [List.map_map]
    rfl
  rw [checkDependencies_ok_iff, hids, List.forall_mem_map]
  simp only [List.mem_append, forall_and]

/-- The part of `_validate_enqueue_graph` after the checks on each item. -/
theorem validateEnqueueGraph_of_checked {items : List WorkItem}
    (h : checkDependencies (tasks.map QueueTask.id ++ items.map WorkItem.id) items = .ok ()) :
    validateEnqueueGraph tasks items =
      match enqueueSearch tasks items with
      | .error cycle => .error ⟨"Queue task dependency cycle: " ++ " -> ".intercalate cycle ++ "."⟩
      | .ok _ => .ok () := by
  rw [validateEnqueueGraph, h]
  rfl

/-! ## The call -/

/-- A refused batch has no writes. -/
theorem enqueueMany_refused (hitems : items ≠ []) (h : ¬ Enqueueable s.tasks items now) :
    ∃ e, enqueueMany items now s = ⟨[], .error e⟩ := by
  rw [enqueueMany, if_neg hitems, read_bind]
  by_cases hdistinct : ((items.map Prod.fst).map WorkItem.id).Nodup
  · rw [if_neg (not_not_intro hdistinct)]
    cases hactive : activeIncoming s.tasks (items.map Prod.fst) with
    | cons workItem rest => exact ⟨_, rfl⟩
    | nil =>
        cases hgraph : validateEnqueueGraph s.tasks (items.map Prod.fst) with
        | error e => exact ⟨e, lift_bind_error _ rfl⟩
        | ok u =>
            -- every check passed, so the batch is one the queue takes
            obtain ⟨hdeps, -⟩ := (validateEnqueueGraph_ok_iff s.tasks _).mp hgraph
            obtain ⟨hnodup, hknown⟩ :=
              checkDependencies_map_ok_iff.mp ((checkDependencies_ok_iff _ _).mpr hdeps)
            rw [List.map_map] at hdistinct
            exact absurd ⟨⟨hdistinct, activeIncoming_eq_nil_iff.mp hactive, hnodup, hknown⟩,
              graphAcyclic_enqueued hgraph⟩ h
  · rw [if_pos hdistinct]
    exact ⟨_, rfl⟩

/-- Past the checks on ids and dependencies the search decides. -/
theorem enqueueMany_of_valid (hitems : items ≠ []) (h : ValidBatch s.tasks items) :
    enqueueMany items now s =
      match enqueueSearch s.tasks (items.map Prod.fst) with
      | .error cycle => ⟨[], .error
          ⟨"Queue task dependency cycle: " ++ " -> ".intercalate cycle ++ "."⟩⟩
      | .ok _ => ⟨.queue (s.tasks ++ items.map (queuedTask now)) ::
          ((items.map (queuedTask now)).map enqueuedEvent).map .journal,
          .ok (items.map (queuedTask now))⟩ := by
  have hdistinct : ((items.map Prod.fst).map WorkItem.id).Nodup := by
    rw [List.map_map]
    exact h.distinct
  have hactive := activeIncoming_eq_nil_iff.mpr h.free
  have hgraph := validateEnqueueGraph_of_checked
    (checkDependencies_map_ok_iff.mpr ⟨h.dependsOn, h.known⟩)
  rw [enqueueMany, if_neg hitems, read_bind]
  simp only [hdistinct, not_true, if_false, hactive, hgraph]
  cases enqueueSearch s.tasks (items.map Prod.fst) with
  | error cycle => exact lift_bind_error _ rfl
  | ok visited =>
      rw [lift_bind_ok _ rfl, write_bind, bind_of_ok (recordEvents_run _ _)]
      show Outcome.mk (_ :: (_ ++ [])) _ = _
      rw [List.append_nil]
      rfl

theorem applyAll_journal (s : Store) (events : List JournalEvent) :
    s.applyAll (events.map .journal) = { s with journal := s.journal ++ events } := by
  induction events generalizing s with
  | nil => simp [Store.applyAll]
  | cons event events ih =>
      show (s.apply (.journal event)).applyAll (events.map .journal) = _
      rw [ih, Store.apply, List.append_assoc, List.singleton_append]

/-- **`enqueue_many`.**  The empty batch returns at once.  Any other batch is
    appended in order, as queued entries without attempts, exactly when it is one
    the queue takes; otherwise the call raises and writes nothing.  The search
    ends on every queue, and a valid batch is refused with a cycle of the graph
    after the addition exactly when there is one. -/
theorem enqueueMany_exact (s : Store) (items : List (WorkItem × String)) (now : String) :
    (items = [] → enqueueMany items now s = ⟨[], .ok []⟩) ∧
    (items ≠ [] → Enqueueable s.tasks items now →
      (enqueueMany items now s).value = .ok (items.map (queuedTask now)) ∧
      s.step (.enqueueMany items now) = s.enqueued (items.map (queuedTask now))) ∧
    (items ≠ [] → ¬ Enqueueable s.tasks items now →
      (∃ e, (enqueueMany items now s).value = .error e) ∧
      s.step (.enqueueMany items now) = s) ∧
    CycleSearch.Visits (graphSuccessors (enqueueGraph s.tasks (items.map Prod.fst))) [] []
      ((enqueueGraph s.tasks (items.map Prod.fst)).map Prod.fst)
      (enqueueSearch s.tasks (items.map Prod.fst)) ∧
    (items ≠ [] → ValidBatch s.tasks items →
      ((∃ id inner, List.IsChain (UnresolvedEdge (s.tasks ++ items.map (queuedTask now)))
          (id :: (inner ++ [id])) ∧
        (enqueueMany items now s).value = .error
          ⟨"Queue task dependency cycle: " ++ " -> ".intercalate (id :: (inner ++ [id])) ++ "."⟩) ↔
      ¬ GraphAcyclic (s.tasks ++ items.map (queuedTask now)))) := by
  refine ⟨?_, ?_, ?_, visits_enqueueSearch _ _, ?_⟩
  -- an empty batch
  · rintro rfl
    rfl
  -- a valid batch: the search finds no cycle, so the queue is rewritten and announced
  · intro hitems h
    obtain ⟨visited, hsearch⟩ := (enqueueSearch_ok_iff s.tasks items now).mpr h.acyclic
    have hrun := @enqueueMany_of_valid items now s hitems h.toValidBatch
    rw [hsearch] at hrun
    refine ⟨by rw [hrun], ?_⟩
    show s.applyAll (enqueueMany items now s).writes = _
    rw [hrun]
    exact applyAll_journal _ _
  -- a batch that is not valid is refused before anything is written
  · intro hitems h
    obtain ⟨e, hrun⟩ := enqueueMany_refused hitems h
    refine ⟨⟨e, by rw [hrun]⟩, ?_⟩
    show s.applyAll (enqueueMany items now s).writes = _
    rw [hrun]
    rfl
  -- a valid batch with a cycle: the search returns one
  · intro hitems h
    rw [← enqueueSearch_ok_iff s.tasks items now, enqueueMany_of_valid hitems h]
    cases hsearch : enqueueSearch s.tasks (items.map Prod.fst) with
    | error cycle =>
        obtain ⟨id, inner, rfl, hchain⟩ := enqueueSearch_error hsearch now
        refine iff_of_true ⟨id, inner, hchain, rfl⟩ ?_
        rintro ⟨visited, hok⟩
        cases hok
    | ok visited =>
        refine iff_of_false ?_ (not_not_intro ⟨visited, rfl⟩)
        rintro ⟨id, inner, -, herror⟩
        cases herror

/-! ## On disk -/

/-- A batch that the checks before the search for a cycle let through. -/
def ReachesSearch (tasks : List QueueTask) (items : List (WorkItem × String)) : Prop :=
  items ≠ [] ∧ ((items.map Prod.fst).map WorkItem.id).Nodup ∧
    activeIncoming tasks (items.map Prod.fst) = [] ∧
    (checkDependencies (tasks.map QueueTask.id ++ (items.map Prod.fst).map WorkItem.id)
      (items.map Prod.fst)).isOk

instance (tasks : List QueueTask) (items : List (WorkItem × String)) :
    Decidable (ReachesSearch tasks items) :=
  inferInstanceAs (Decidable (_ ∧ _ ∧ _ = [] ∧ _ = true))

/-- The search of `_validate_enqueue_graph` fits on a call stack with room for `frames` calls. -/
def SearchFits (frames : Nat) (tasks : List QueueTask) (items : List (WorkItem × String)) : Prop :=
  (CycleSearch.searchWithin (graphSuccessors (enqueueGraph tasks (items.map Prod.fst))) frames
    ((enqueueGraph tasks (items.map Prod.fst)).map Prod.fst)).isSome

instance (frames : Nat) (tasks : List QueueTask) (items : List (WorkItem × String)) :
    Decidable (SearchFits frames tasks items) :=
  inferInstanceAs (Decidable (_ = true))

/-- `enqueue_many` on disk, with room for `frames` calls of `visit`; `none` where the search needs
    more of them and ends in a `RecursionError`, before anything is written. -/
def enqueueManyWithin (frames : Nat) (items : List (WorkItem × String)) (now : String) (s : Store) :
    Option (Outcome (List QueueTask)) :=
  if ReachesSearch s.tasks items ∧ ¬ SearchFits frames s.tasks items then none
  else some (onDisk (enqueueMany items now) s)

/-- The journal takes the events of a batch: it can be read, and no event before the last breaks
    its line. -/
def TakesBatch (s : Store) (added : List QueueTask) : Prop :=
  s.Readable .journal ∧ ∀ task ∈ added.dropLast, (enqueuedEvent task).line.LineSafe

/-- The search fits when there are more frames than unresolved ids. -/
theorem searchFits_of_room {frames : Nat} (tasks : List QueueTask) (items : List (WorkItem × String))
    (h : (enqueueGraph tasks (items.map Prod.fst)).length < frames) :
    SearchFits frames tasks items := by
  have hclosed := unresolvedGraph_closed (tasks ++ (items.map Prod.fst).map incomingTask)
  rw [← enqueueGraph_eq] at hclosed
  obtain ⟨result, hresult⟩ := CycleSearch.searchWithin_of_room hclosed
    (by rwa [List.length_map] : ((enqueueGraph tasks (items.map Prod.fst)).map Prod.fst).length < frames)
  rw [SearchFits, hresult]
  rfl

/-- No append of an accepted batch is refused exactly when the journal takes its events. -/
theorem refusedLog?_enqueueMany (hitems : items ≠ []) (h : Enqueueable s.tasks items now) :
    s.refusedLog? (enqueueMany items now s).writes = none ↔
      TakesBatch s (items.map (queuedTask now)) := by
  obtain ⟨visited, hsearch⟩ := (enqueueSearch_ok_iff s.tasks items now).mpr h.acyclic
  have hrun := @enqueueMany_of_valid items now s hitems h.toValidBatch
  rw [hsearch] at hrun
  -- the batch appends to the journal only, one line for each entry
  have hlines : ∀ log, appendedLines log (enqueueMany items now s).writes =
      if log = .journal then (items.map (queuedTask now)).map (fun task => (enqueuedEvent task).line)
      else [] := by
    intro log
    have hannounced : (enqueueMany items now s).writes.filterMap Write.line? =
        (items.map (queuedTask now)).map fun task => (Log.journal, (enqueuedEvent task).line) := by
      rw [hrun, List.map_map, List.map_map]
      dsimp only
      rw [List.filterMap_cons_none rfl, List.filterMap_map, List.map_map]
      exact congrFun (@List.filterMap_eq_map _ _
        fun item => (Log.journal, (enqueuedEvent (queuedTask now item)).line)) items
    rw [appendedLines, hannounced, List.filter_map, List.map_map]
    by_cases hlog : log = .journal
    · subst hlog
      simp [Function.comp_def]
    · simp [hlog, Ne.symm hlog, Function.comp_def]
  have hone : items.map (queuedTask now) ≠ [] := by simpa using hitems
  rw [refusedLog?_eq_none_iff]
  -- the journal takes the lines, and no other log gets one
  constructor
  · intro hall
    have hjournal := hall .journal
    rw [hlines, if_pos rfl, Store.Takes, List.map_eq_nil_iff, or_iff_right hone, ← List.map_dropLast,
      List.forall_mem_append, List.forall_mem_map] at hjournal
    exact hjournal
  · intro htakes log
    by_cases hlog : log = .journal
    · rw [hlines, if_pos hlog, hlog, Store.Takes, ← List.map_dropLast, List.forall_mem_append,
        List.forall_mem_map]
      exact Or.inr htakes
    · rw [hlines, if_neg hlog]
      exact Or.inl rfl

/-- **`enqueue_many` on disk.**  Where the search for a cycle fits on the call stack: the empty
    batch returns at once.  Any other batch is refused, and nothing is written, unless it is one the
    queue takes; then it is appended in order, as queued entries without attempts, and announced,
    given that the journal takes its events.  A valid batch is refused with a cycle of the graph
    after the addition exactly when there is one. -/
theorem enqueueMany_onDisk (frames : Nat) (s : Store) (items : List (WorkItem × String))
    (now : String) (hfits : SearchFits frames s.tasks items) :
    ∃ outcome, enqueueManyWithin frames items now s = some outcome ∧
      (items = [] → outcome = ⟨[], .ok []⟩) ∧
      (items ≠ [] → Enqueueable s.tasks items now → TakesBatch s (items.map (queuedTask now)) →
        outcome.value = .ok (items.map (queuedTask now)) ∧
        s.applyAll outcome.writes = s.enqueued (items.map (queuedTask now))) ∧
      (items ≠ [] → ¬ Enqueueable s.tasks items now →
        (∃ e, outcome.value = .error e) ∧ s.applyAll outcome.writes = s) ∧
      CycleSearch.Visits (graphSuccessors (enqueueGraph s.tasks (items.map Prod.fst))) [] []
        ((enqueueGraph s.tasks (items.map Prod.fst)).map Prod.fst)
        (enqueueSearch s.tasks (items.map Prod.fst)) ∧
      (items ≠ [] → ValidBatch s.tasks items →
        ((∃ id inner, List.IsChain (UnresolvedEdge (s.tasks ++ items.map (queuedTask now)))
            (id :: (inner ++ [id])) ∧
          outcome.value = .error
            ⟨"Queue task dependency cycle: " ++ " -> ".intercalate (id :: (inner ++ [id])) ++ "."⟩) ↔
        ¬ GraphAcyclic (s.tasks ++ items.map (queuedTask now)))) := by
  obtain ⟨hempty, htaken, hrefused, hvisits, hcycle⟩ := enqueueMany_exact s items now
  have hrun : enqueueManyWithin frames items now s = some (onDisk (enqueueMany items now) s) :=
    if_neg fun h => h.2 hfits
  -- a refused batch writes nothing, so the disk has no part in it
  have hquiet : items ≠ [] → ¬ Enqueueable s.tasks items now →
      onDisk (enqueueMany items now) s = enqueueMany items now s := by
    intro hitems hno
    obtain ⟨e, he⟩ := enqueueMany_refused hitems hno
    refine onDisk_of_complete ?_
    rw [he]
    rfl
  refine ⟨_, hrun, ?_, ?_, ?_, hvisits, ?_⟩
  · rintro rfl
    rfl
  · intro hitems h htakes
    rw [onDisk_of_complete ((refusedLog?_enqueueMany hitems h).mpr htakes)]
    exact htaken hitems h
  · intro hitems hno
    rw [hquiet hitems hno]
    exact hrefused hitems hno
  · intro hitems hvalid
    by_cases hacyclic : GraphAcyclic (s.tasks ++ items.map (queuedTask now))
    · -- whatever the disk does, the error is not that of a cycle
      refine iff_of_false ?_ (not_not_intro hacyclic)
      rintro ⟨id, inner, hchain, -⟩
      exact hacyclic id (CycleSearch.transGen_of_isChain inner hchain)
    · rw [hquiet hitems fun h => hacyclic h.acyclic]
      exact hcycle hitems hvalid

/-- A task and one that waits for it are appended to an empty store. -/
theorem enqueueMany_onDisk_pair :
    ∃ outcome, enqueueManyWithin 1000 [(sampleItem "a", "cli"), (sampleItem "b" ["a"], "cli")] "t0"
        Store.empty = some outcome ∧
      outcome.value = .ok [queuedTask "t0" (sampleItem "a", "cli"),
        queuedTask "t0" (sampleItem "b" ["a"], "cli")] := by
  have hfits : SearchFits 1000 Store.empty.tasks
      [(sampleItem "a", "cli"), (sampleItem "b" ["a"], "cli")] := by decide +kernel
  obtain ⟨outcome, hrun, -, htaken, -⟩ := enqueueMany_onDisk 1000 Store.empty _ "t0" hfits
  refine ⟨outcome, hrun, (htaken (by simp) ⟨⟨by decide +kernel, by simp [Store.empty],
    by decide +kernel, by decide +kernel⟩, ?_⟩ ⟨?_, ?_⟩).1⟩
  · exact (enqueueSearch_ok_iff Store.empty.tasks _ "t0").mp ⟨_, rfl⟩
  · exact List.forall_mem_nil _
  · decide +kernel

/-- Over a queue with a cycle the empty batch succeeds all the same. -/
theorem enqueueMany_empty_cyclic :
    (enqueueMany [] "t6" (execute reopenedCycleRun)).value = .ok [] ∧
      ¬ Enqueueable (execute reopenedCycleRun).tasks [] "t6" := by
  refine ⟨rfl, fun h => cyclic_reopenedCycleRun ?_⟩
  have hacyclic := h.acyclic
  rw [List.map_nil, List.append_nil] at hacyclic
  exact hacyclic

end LlmHarness
