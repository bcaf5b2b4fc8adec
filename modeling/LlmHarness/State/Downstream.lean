/-
  LlmHarness.State.Downstream

  `downstream_tasks`, which decides whether a rollback is allowed.  The worklist
  runs over the latest entries of a queue in which an id may have several
  lifecycles and `depends_on` may be cyclic.
-/

import LlmHarness.State.DependencyGraph

namespace LlmHarness

open Python Relation

/-- `dependency_id in task.work_item.depends_on`. -/
abbrev listsDependency (dependencyId : String) (task : QueueTask) : Bool :=
  dependencyId ∈ task.workItem.dependsOn

/-- The entries of the dict are the latest entries. -/
theorem mem_latestTasksById_iff (tasks : List QueueTask) (id : String) (task : QueueTask) :
    (id, task) ∈ latestTasksById tasks ↔ latestTask? tasks id = some task := by
  rw [mem_iff_dictGet? (nodup_keys_latestTasksById tasks), dictGet?_latestTasksById]

/-- The edges of the worklist are the steps between latest entries. -/
theorem points_eq_dependsOn (tasks : List QueueTask) :
    Worklist.Points listsDependency (latestTasksById tasks) = DependsOn tasks := by
  funext a b
  apply propext
  constructor
  · rintro ⟨⟨key, task⟩, hentry, rfl, hb⟩
    exact ⟨task, (mem_latestTasksById_iff tasks key task).mp hentry, of_decide_eq_true hb⟩
  · rintro ⟨task, htask, hb⟩
    exact ⟨(a, task), (mem_latestTasksById_iff tasks a task).mpr htask, rfl, decide_eq_true hb⟩

/-- **Completeness of `downstream_tasks`.**  It returns the latest entry of every
    other id that transitively depends on the task. -/
theorem downstreamTasks_complete {tasks : List QueueTask} {id target : String}
    (h : TransGen (DependsOn tasks) id target) (hne : id ≠ target) :
    ∃ task ∈ downstreamTasks tasks target, latestTask? tasks id = some task := by
  rw [← points_eq_dependsOn] at h
  obtain ⟨⟨key, task⟩, hentry, rfl, hfound⟩ := Worklist.exists_mem_closure h hne
  exact ⟨task, hfound, (mem_latestTasksById_iff tasks key task).mp hentry⟩

/-- **Soundness of `downstream_tasks`.**  What it returns are the latest entries
    of distinct other ids that transitively depend on the task. -/
theorem downstreamTasks_sound (tasks : List QueueTask) (target : String) :
    ((downstreamTasks tasks target).map QueueTask.id).Nodup ∧
      ∀ task ∈ downstreamTasks tasks target, latestTask? tasks task.id = some task ∧
        task.id ≠ target ∧ TransGen (DependsOn tasks) task.id target := by
  obtain ⟨filed, hclosure, hnodup, hfiled⟩ :=
    Worklist.closure_filed listsDependency (latestTasksById tasks) target
  have hdown : downstreamTasks tasks target = filed.map Prod.snd := hclosure
  obtain ⟨hstart, hkeys⟩ := List.nodup_cons.mp hnodup
  -- the key of a filed entry is the id of its task
  have hlatest : ∀ entry ∈ filed, latestTask? tasks entry.1 = some entry.2 := by
    intro entry hentry
    exact (mem_latestTasksById_iff tasks entry.1 entry.2).mp (hfiled entry hentry).1
  have hid : ∀ entry ∈ filed, entry.2.id = entry.1 := by
    intro entry hentry
    exact (KeyedLog.mem_of_last? (hlatest entry hentry)).2
  rw [hdown]
  refine ⟨?_, ?_⟩
  · have hids : (filed.map Prod.snd).map QueueTask.id = filed.map Prod.fst := by
      rw [List.map_map]
      exact List.map_congr_left hid
    rw [hids]
    exact hkeys
  · intro task htask
    obtain ⟨entry, hentry, rfl⟩ := List.mem_map.mp htask
    rw [hid entry hentry]
    refine ⟨hlatest entry hentry, ?_, ?_⟩
    · rintro rfl
      exact hstart (List.mem_map_of_mem hentry)
    · rw [← points_eq_dependsOn]
      exact (hfiled entry hentry).2

/-- **`downstream_tasks`.**  On every queue its loop ends, and it returns, each
    once, exactly the latest entries of the other ids that reach the task through
    one or more `depends_on` steps between latest entries. -/
theorem downstreamTasks_exact (tasks : List QueueTask) (workItemId : String) :
    Worklist.Ends listsDependency (latestTasksById tasks) ⟨[workItemId], [], [workItemId]⟩
      (downstreamTasks tasks workItemId) ∧
    ((downstreamTasks tasks workItemId).map QueueTask.id).Nodup ∧
    ∀ task, task ∈ downstreamTasks tasks workItemId ↔
      latestTask? tasks task.id = some task ∧ task.id ≠ workItemId ∧
        TransGen (DependsOn tasks) task.id workItemId := by
  obtain ⟨hnodup, hsound⟩ := downstreamTasks_sound tasks workItemId
  refine ⟨Worklist.ends_closure, hnodup, fun task => ⟨hsound task, ?_⟩⟩
  rintro ⟨htask, hne, hreaches⟩
  obtain ⟨found, hfound, hlatest⟩ := downstreamTasks_complete hreaches hne
  obtain rfl := Option.some.inj (htask.symm.trans hlatest)
  exact hfound

end LlmHarness
