/-
  LlmHarness.State.ReadyQueue

  What `schedule` makes of a queue: every queued entry is filed once, among the
  ready ones when its dependencies are done and among the waiting ones otherwise,
  and the ready ones come in the order of their priorities, then of the queue.

  `schedule` files readiness records under the ids of their entries.  That loses
  none of them because a live entry is the only live entry of its id.
-/

import LlmHarness.State.Readiness

namespace LlmHarness

open Python

variable {tasks : List QueueTask}

/-! ## Live entries by position -/

/-- An entry whose lifecycle has not ended has no entry of its id behind it, and no other such entry
    of its id at all. -/
structure SingleLiveLifecycle (tasks : List QueueTask) : Prop where
  last : ∀ (i j : Nat) (live other : QueueTask), tasks[i]? = some live → tasks[j]? = some other →
    live.status.isActive → other.id = live.id → j ≤ i
  unique : ∀ (i j : Nat) (live other : QueueTask), tasks[i]? = some live → tasks[j]? = some other →
    live.status.isActive → other.status.isActive → other.id = live.id → i = j

theorem singleLiveLifecycle_of_live (hlive : LiveQueue tasks) : SingleLiveLifecycle tasks := by
  have hpairs := List.pairwise_iff_getElem.mp hlive
  have hlast : ∀ (i j : Nat) (live other : QueueTask), tasks[i]? = some live →
      tasks[j]? = some other → live.status.isActive → other.id = live.id → j ≤ i := by
    intro i j live other hi hj hactive hid
    obtain ⟨hilt, rfl⟩ := List.getElem?_eq_some_iff.mp hi
    obtain ⟨hjlt, rfl⟩ := List.getElem?_eq_some_iff.mp hj
    by_contra hlt
    have hne := hpairs i j hilt hjlt (by omega) hactive
    exact hne hid
  refine ⟨hlast, fun i j live other hi hj hactive hactive' hid => ?_⟩
  have hji := hlast i j live other hi hj hactive hid
  have hij := hlast j i other live hj hi hactive' hid.symm
  omega

/-! ## The queued entries -/

/-- The queued entries with their positions, as `schedule` lists them. -/
def queuedEntries (tasks : List QueueTask) : List (QueueTask × Nat) :=
  tasks.zipIdx.filter fun item => item.1.status = .queued

/-- The readiness record of an entry. -/
def readinessOf (tasks : List QueueTask) (item : QueueTask × Nat) : TaskReadiness :=
  taskReadiness (latestTasksById tasks) item.1

theorem map_fst_queuedEntries (tasks : List QueueTask) :
    (queuedEntries tasks).map Prod.fst = tasks.filter fun task => task.status = .queued := by
  have hfilter := List.filter_map (f := Prod.fst) (p := fun task : QueueTask =>
    decide (task.status = .queued)) (l := tasks.zipIdx)
  rw [List.zipIdx_map_fst] at hfilter
  exact hfilter.symm

theorem mem_queuedEntries {task : QueueTask} {index : Nat} :
    (task, index) ∈ queuedEntries tasks ↔ tasks[index]? = some task ∧ task.status = .queued := by
  rw [queuedEntries, List.mem_filter, List.mem_zipIdx_iff_getElem?, decide_eq_true_eq]

/-- No two queued entries have one id. -/
theorem nodup_ids_queuedEntries (hlive : LiveQueue tasks) :
    ((queuedEntries tasks).map fun item => item.1.id).Nodup := by
  have hmap : ((queuedEntries tasks).map fun item => item.1.id) =
      (tasks.filter fun task => task.status = .queued).map QueueTask.id := by
    rw [← map_fst_queuedEntries, List.map_map]
    rfl
  rw [hmap, List.Nodup, List.pairwise_map]
  have hqueued : (tasks.filter fun task => task.status = .queued).Pairwise fun a b =>
      a.status.isActive → b.id ≠ a.id := List.Pairwise.sublist List.filter_sublist hlive
  refine (List.Pairwise.and_mem.mp hqueued).imp ?_
  rintro a b ⟨ha, -, hne⟩
  have hstatus : a.status = .queued := of_decide_eq_true (List.mem_filter.mp ha).2
  have hactive : a.status.isActive := by
    rw [hstatus]
    rfl
  exact (hne hactive).symm

theorem nodup_positions_queuedEntries (tasks : List QueueTask) :
    ((queuedEntries tasks).map Prod.snd).Nodup := by
  have hall : (tasks.zipIdx.map Prod.snd).Nodup := by
    rw [List.zipIdx_map_snd]
    exact List.nodup_range'
  exact hall.sublist (List.filter_sublist.map Prod.snd)

/-! ## The ready entries -/

/-- The queued entries without blockers. -/
def readyEntries (tasks : List QueueTask) : List (QueueTask × Nat) :=
  (queuedEntries tasks).filter fun item => (readinessOf tasks item).ready

/-- `ready_by_id`. -/
def readyById (tasks : List QueueTask) : List (String × TaskReadiness) :=
  dictOfPairs ((((queuedEntries tasks).map (readinessOf tasks)).filter TaskReadiness.ready).map
    fun record => (record.task.id, record))

/-- Looking an entry up by its id finds its own record, if it is ready. -/
theorem dictGet?_readyById (hlive : LiveQueue tasks) {item : QueueTask × Nat}
    (hitem : item ∈ queuedEntries tasks) : dictGet? (readyById tasks) item.1.id =
      if (readinessOf tasks item).ready then some (readinessOf tasks item) else none := by
  have hnodup := nodup_ids_queuedEntries hlive
  have hkeys : (((((queuedEntries tasks).map (readinessOf tasks)).filter
      TaskReadiness.ready).map fun record => (record.task.id, record)).map Prod.fst).Nodup := by
    rw [List.map_map, List.filter_map, List.map_map]
    exact hnodup.sublist (List.filter_sublist.map _)
  rw [readyById, dictOfPairs_of_nodup _ hkeys]
  by_cases hready : (readinessOf tasks item).ready
  · rw [if_pos hready, ← mem_iff_dictGet? hkeys]
    refine List.mem_map.mpr ⟨readinessOf tasks item, List.mem_filter.mpr ⟨?_, hready⟩, rfl⟩
    exact List.mem_map_of_mem hitem
  · rw [if_neg hready, dictGet?_eq_none_iff]
    intro hmem
    obtain ⟨pair, hpair, hid⟩ := List.mem_map.mp hmem
    -- a ready record of this id is of this very entry
    obtain ⟨record, hrecord, rfl⟩ := List.mem_map.mp hpair
    obtain ⟨hrecord, hrecordReady⟩ := List.mem_filter.mp hrecord
    obtain ⟨other, hother, rfl⟩ := List.mem_map.mp hrecord
    obtain rfl : other = item := List.inj_on_of_nodup_map hnodup hother hitem hid
    exact hready hrecordReady

/-- The ready records are those of the ready entries, sorted. -/
theorem schedule_ready (hlive : LiveQueue tasks) : (schedule tasks).ready =
    ((readyEntries tasks).insertionSort ScheduledBefore).map (readinessOf tasks) := by
  have hschedule : (schedule tasks).ready = (((queuedEntries tasks).filter fun item =>
      (dictGet? (readyById tasks) item.1.id).isSome).insertionSort ScheduledBefore).filterMap
        fun item => dictGet? (readyById tasks) item.1.id := rfl
  have hin : ((queuedEntries tasks).filter fun item =>
      (dictGet? (readyById tasks) item.1.id).isSome) = readyEntries tasks := by
    rw [readyEntries]
    apply List.filter_congr
    intro item hitem
    rw [dictGet?_readyById hlive hitem]
    cases (readinessOf tasks item).ready <;> rfl
  rw [hschedule, hin, ← List.filterMap_eq_map]
  apply List.filterMap_congr
  intro item hitem
  rw [List.mem_insertionSort] at hitem
  obtain ⟨hqueued, hready⟩ := List.mem_filter.mp hitem
  exact (dictGet?_readyById hlive hqueued).trans (if_pos hready)

/-! ## The split -/

instance : Std.Total ScheduledBefore := ⟨fun a b => by
  rw [ScheduledBefore, ScheduledBefore]
  omega⟩

instance : IsTrans (QueueTask × Nat) ScheduledBefore := ⟨fun a b c hab hbc => by
  rw [ScheduledBefore] at hab hbc ⊢
  omega⟩

/-- An entry stands before another one in the queue. -/
def Precedes (tasks : List QueueTask) (a b : QueueTask) : Prop :=
  ∃ i j : Nat, i < j ∧ tasks[i]? = some a ∧ tasks[j]? = some b

/-- `schedule` splits the queued entries exactly, in the documented order. -/
structure ScheduleExact (tasks : List QueueTask) : Prop where
  /-- No queued entry is lost or filed twice, and nothing else is filed. -/
  split : ((schedule tasks).ready.map TaskReadiness.task ++
    (schedule tasks).waiting.map TaskReadiness.task).Perm
      (tasks.filter fun task => task.status = .queued)
  ready : ∀ item ∈ (schedule tasks).ready,
    ∀ d ∈ item.task.workItem.dependsOn, latestStatus tasks d = some .done
  waiting : ∀ item ∈ (schedule tasks).waiting,
    ∃ d ∈ item.task.workItem.dependsOn, latestStatus tasks d ≠ some .done
  ordered : (schedule tasks).ready.Pairwise fun a b =>
    b.task.workItem.priority < a.task.workItem.priority ∨
      (a.task.workItem.priority = b.task.workItem.priority ∧ Precedes tasks a.task b.task)
  waitingOrder : ((schedule tasks).waiting.map TaskReadiness.task).Sublist tasks
  selected : (schedule tasks).selected = (schedule tasks).ready.head?.map TaskReadiness.task

theorem schedule_waiting (tasks : List QueueTask) : (schedule tasks).waiting =
    ((queuedEntries tasks).filter fun item => !(readinessOf tasks item).ready).map
      (readinessOf tasks) := by
  show ((queuedEntries tasks).map (readinessOf tasks)).filter _ = _
  rw [List.filter_map]
  rfl

/-- An entry is ready exactly when all its dependencies are done. -/
theorem readinessOf_ready_iff (item : QueueTask × Nat) : (readinessOf tasks item).ready ↔
    ∀ d ∈ item.1.workItem.dependsOn, latestStatus tasks d = some .done := by
  rw [readinessOf, taskReadiness, List.isEmpty_iff]
  constructor
  · exact dependencies_done
  · intro hdone
    refine List.filterMap_eq_nil_iff.mpr fun d hd => ?_
    have hstatus : dependencyStatus (latestTasksById tasks) d = "done" := by
      obtain ⟨latest, hlatest, hlatestDone⟩ := Option.map_eq_some_iff.mp (hdone d hd)
      rw [dependencyStatus, dictGet?_latestTasksById, hlatest]
      show latest.status.text = "done"
      rw [hlatestDone]
      rfl
    rw [if_pos hstatus]

theorem scheduleExact_of_live (hlive : LiveQueue tasks) : ScheduleExact tasks := by
  have htasks : ∀ items : List (QueueTask × Nat),
      (items.map (readinessOf tasks)).map TaskReadiness.task = items.map Prod.fst := by
    intro items
    rw [List.map_map]
    rfl
  constructor
  case split =>
    rw [schedule_ready hlive, schedule_waiting, htasks, htasks, ← List.map_append,
      ← map_fst_queuedEntries]
    -- The ready ones are only sorted, and every queued entry is ready or not.
    refine List.Perm.map Prod.fst ?_
    have hsorted : ((readyEntries tasks).insertionSort ScheduledBefore).Perm (readyEntries tasks) :=
      List.perm_insertionSort _ _
    exact (hsorted.append_right _).trans (List.filter_append_perm _ _)
  case ready =>
    intro item hitem
    rw [schedule_ready hlive] at hitem
    obtain ⟨entry, hentry, rfl⟩ := List.mem_map.mp hitem
    rw [List.mem_insertionSort] at hentry
    exact (readinessOf_ready_iff entry).mp (List.mem_filter.mp hentry).2
  case waiting =>
    intro item hitem
    rw [schedule_waiting] at hitem
    obtain ⟨entry, hentry, rfl⟩ := List.mem_map.mp hitem
    -- An entry that waits has a dependency that is not done, else it would be ready.
    have hnot := (List.mem_filter.mp hentry).2
    by_contra hall
    have hready : (readinessOf tasks entry).ready := by
      rw [readinessOf_ready_iff]
      intro d hd
      by_contra hne
      exact hall ⟨d, hd, hne⟩
    rw [hready] at hnot
    cases hnot
  case ordered =>
    rw [schedule_ready hlive, List.pairwise_map]
    -- The sort is stable: the positions in the queue break the ties of priority.
    have hsorted := List.pairwise_insertionSort ScheduledBefore (readyEntries tasks)
    have hpositions : ((readyEntries tasks).insertionSort ScheduledBefore).Pairwise fun a b =>
        a.2 ≠ b.2 := by
      have hperm := List.perm_insertionSort ScheduledBefore (readyEntries tasks)
      have hnodup : ((readyEntries tasks).map Prod.snd).Nodup :=
        (nodup_positions_queuedEntries tasks).sublist (List.filter_sublist.map Prod.snd)
      exact List.pairwise_map.mp ((hperm.map Prod.snd).nodup_iff.mpr hnodup)
    refine (List.Pairwise.and_mem.mp (hsorted.and hpositions)).imp ?_
    rintro ⟨a, i⟩ ⟨b, j⟩ ⟨ha, hb, hbefore, hne⟩
    rw [List.mem_insertionSort] at ha hb
    have hi := (mem_queuedEntries.mp (List.mem_filter.mp ha).1).1
    have hj := (mem_queuedEntries.mp (List.mem_filter.mp hb).1).1
    rcases hbefore with hlt | ⟨heq, hle⟩
    · exact Or.inl hlt
    · have hlt : i < j := by
        have hle' : i ≤ j := hle
        have hne' : i ≠ j := hne
        omega
      exact Or.inr ⟨heq, i, j, hlt, hi, hj⟩
  case waitingOrder =>
    rw [schedule_waiting, htasks]
    -- What waits keeps the order of the queue.
    have hsub := (List.filter_sublist (p := fun item => !(readinessOf tasks item).ready)
      (l := queuedEntries tasks)).map Prod.fst
    rw [map_fst_queuedEntries] at hsub
    exact hsub.trans List.filter_sublist
  case selected => rfl

/-- **Single live lifecycle and schedule exactness.**  After every run each id has at most one live
    entry, which is its last one, and `schedule` splits the queued entries exactly. -/
theorem scheduleExact_execute (ops : List Op) :
    SingleLiveLifecycle (execute ops).tasks ∧ ScheduleExact (execute ops).tasks :=
  ⟨singleLiveLifecycle_of_live (liveQueue_execute ops), scheduleExact_of_live (liveQueue_execute ops)⟩

end LlmHarness
