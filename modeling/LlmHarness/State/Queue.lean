/-
  LlmHarness.State.Queue

  The functions of `state.py` that only read the queue: the latest entry of an
  id, dependency blockers, `schedule`, `schedule_batch`, `downstream_tasks` and
  `_validate_enqueue_graph`.  A queue is the list of its entries in file order.
-/

import Mathlib.Data.List.Sort
import LlmHarness.Lib.CycleSearch
import LlmHarness.Lib.KeyedLog
import LlmHarness.Lib.Worklist
import LlmHarness.State.Records
import LlmHarness.State.ResourceScope

namespace LlmHarness

open Python

/-- The id an entry is filed under. -/
def QueueTask.id (task : QueueTask) : String := task.workItem.id

/-- The allowed paths of an entry, as text. -/
def QueueTask.allowedPaths (task : QueueTask) : List Text :=
  task.workItem.allowedPaths.map String.toList

/-- The search of `_get_task`: the last entry of an id. -/
def latestTask? (tasks : List QueueTask) (workItemId : String) : Option QueueTask :=
  KeyedLog.last? QueueTask.id tasks workItemId

/-- `_latest_tasks_by_id`. -/
def latestTasksById (tasks : List QueueTask) : List (String × QueueTask) :=
  dictOfPairs (tasks.map fun task => (task.id, task))

theorem dictGet?_latestTasksById (tasks : List QueueTask) (workItemId : String) :
    dictGet? (latestTasksById tasks) workItemId = latestTask? tasks workItemId := by
  rw [latestTasksById, dictGet?_dictOfPairs, ← List.map_reverse, dictGet?, List.find?_map,
    Option.map_map, latestTask?, KeyedLog.last?]
  exact Option.map_id'

theorem nodup_keys_latestTasksById (tasks : List QueueTask) :
    ((latestTasksById tasks).map Prod.fst).Nodup :=
  nodup_keys_dictOfPairs _

/-! ## Scheduling -/

/-- The status of a dependency, as `_dependency_blockers` reads it. -/
def dependencyStatus (latest : List (String × QueueTask)) (dependencyId : String) : String :=
  match dictGet? latest dependencyId with
  | some dependency => dependency.status.text
  | none => "missing"

/-- `_dependency_blockers`. -/
def dependencyBlockers (task : QueueTask) (latest : List (String × QueueTask)) :
    List DependencyBlocker :=
  task.workItem.dependsOn.filterMap fun dependencyId =>
    let status := dependencyStatus latest dependencyId
    if status = "done" then none else some ⟨dependencyId, status⟩

/-- The readiness of one queued entry. -/
def taskReadiness (latest : List (String × QueueTask)) (task : QueueTask) : TaskReadiness :=
  let blockers := dependencyBlockers task latest
  ⟨task, blockers.isEmpty, blockers⟩

/-- The sort key of `schedule`: descending priority, then queue position. -/
def ScheduledBefore (first second : QueueTask × Nat) : Prop :=
  second.1.workItem.priority < first.1.workItem.priority ∨
    (first.1.workItem.priority = second.1.workItem.priority ∧ first.2 ≤ second.2)

instance : DecidableRel ScheduledBefore := fun _ _ =>
  inferInstanceAs (Decidable (_ ∨ (_ ∧ _)))

/-- `schedule`. -/
def schedule (tasks : List QueueTask) : QueueSchedule :=
  let latest := latestTasksById tasks
  let indexed := tasks.zipIdx.filter fun item => item.1.status = .queued
  let readiness := indexed.map fun item => taskReadiness latest item.1
  let readyById := dictOfPairs ((readiness.filter TaskReadiness.ready).map fun item =>
    (item.task.id, item))
  let inReady := indexed.filter fun item => (dictGet? readyById item.1.id).isSome
  let ready := (inReady.insertionSort ScheduledBefore).filterMap fun item =>
    dictGet? readyById item.1.id
  let waiting := readiness.filter fun item => !item.ready
  ⟨ready.head?.map TaskReadiness.task, ready, waiting⟩

/-- The loop of `schedule_batch`. -/
def scheduleBatchLoop (limit : Int) : List TaskReadiness → List QueueTask → List QueueTask
  | [], selected => selected
  | readiness :: rest, selected =>
    let candidate := readiness.task
    if selected.any fun current =>
        resourceScopesConflict candidate.allowedPaths current.allowedPaths then
      scheduleBatchLoop limit rest selected
    else
      let selected := selected ++ [candidate]
      if (selected.length : Int) = limit then selected else scheduleBatchLoop limit rest selected

/-- `schedule_batch`. -/
def scheduleBatch (tasks : List QueueTask) (limit : Int) : Except StateStoreError (List QueueTask) :=
  if limit < 1 then .error ⟨"Scheduler batch limit must be at least 1."⟩
  else .ok (scheduleBatchLoop limit (schedule tasks).ready [])

/-! ## Dependents -/

/-- `downstream_tasks`: the worklist over the latest entries, backwards along
    `depends_on`. -/
def downstreamTasks (tasks : List QueueTask) (workItemId : String) : List QueueTask :=
  Worklist.closure (fun dependencyId task => dependencyId ∈ task.workItem.dependsOn)
    (latestTasksById tasks) workItemId

/-! ## Enqueue validation -/

/-- The dependency checks of `_validate_enqueue_graph` on each incoming item. -/
def checkDependencies (knownIds : List String) : List WorkItem → Except StateStoreError Unit
  | [] => .ok ()
  | workItem :: rest =>
    if ¬ workItem.dependsOn.Nodup then
      .error ⟨s!"Task {workItem.id} contains duplicate dependencies."⟩
    else
      let unknown := workItem.dependsOn.filter fun dependencyId => dependencyId ∉ knownIds
      if unknown ≠ [] then
        .error ⟨s!"Task {workItem.id} has unknown dependencies: " ++ ", ".intercalate unknown ++ "."⟩
      else checkDependencies knownIds rest

/-- The placeholder entry of an incoming item. -/
def incomingTask (workItem : WorkItem) : QueueTask :=
  { workItem := workItem, status := .queued, source := "", addedAtUtc := "", updatedAtUtc := "" }

/-- The graph of `_validate_enqueue_graph`: the ids whose latest entry is not
    done, each with its dependencies among them. -/
def unresolvedGraph (latest : List (String × QueueTask)) : List (String × List String) :=
  let unresolved := latest.filter fun entry => entry.2.status ≠ .done
  unresolved.map fun (taskId, task) =>
    (taskId, task.workItem.dependsOn.filter fun dependencyId =>
      dependencyId ∈ unresolved.map Prod.fst)

/-- `graph.get(task_id, ())`. -/
def graphSuccessors (graph : List (String × List String)) (taskId : String) : List String :=
  (dictGet? graph taskId).getD []

/-- `_validate_enqueue_graph`. -/
def validateEnqueueGraph (existing : List QueueTask) (incoming : List WorkItem) :
    Except StateStoreError Unit :=
  let knownIds := existing.map QueueTask.id ++ incoming.map WorkItem.id
  match checkDependencies knownIds incoming with
  | .error e => .error e
  | .ok () =>
    let latest := incoming.foldl (fun latest workItem =>
      dictInsert latest (workItem.id, incomingTask workItem)) (latestTasksById existing)
    let graph := unresolvedGraph latest
    match CycleSearch.search (graphSuccessors graph) (graph.map Prod.fst) with
    | .error cycle => .error ⟨"Queue task dependency cycle: " ++ " -> ".intercalate cycle ++ "."⟩
    | .ok _ => .ok ()

end LlmHarness
