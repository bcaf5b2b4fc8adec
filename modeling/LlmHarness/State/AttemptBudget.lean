/-
  LlmHarness.State.AttemptBudget

  The attempt budget of a task entry.  An audit beside the store counts how often
  the entry at each position of the queue became running since it was enqueued or
  last requeued from escalation.  When workers start only through `claim_next`
  with one limit, and rework is confirmed with that limit only, `attempts` is that
  count and never exceeds the limit.
-/

import LlmHarness.State.ReadyQueue

namespace LlmHarness

open Python StoreM

variable {s : Store} {m : Int}

/-- A call that respects the limit: workers start through `claim_next` with it,
    rework is confirmed with it. -/
def Budgeted (m : Int) : Op → Prop
  | .claimNext maxAttempts _ => maxAttempts = some m
  | .claimBatch .. | .markRunning .. => False
  | .confirmRework _ _ _ maxAttempts _ => maxAttempts = m
  | .interrupted op _ => Budgeted m op
  | _ => True

/-! ## The audit -/

/-- The count of a position after a call, from its entry before and after: a fresh
    entry and one requeued from escalation start over, an entry that became
    running counts one more. -/
def countStart (old? new? : Option QueueTask) (count : Nat) : Nat :=
  match old?, new? with
  | some old, some new =>
    if old.status = .escalated ∧ new.status = .queued then 0
    else if old.status ≠ .running ∧ new.status = .running then count + 1
    else count
  | _, _ => 0

/-- The store, and the count of each position of its queue. -/
structure Audit where
  store : Store
  starts : Nat → Nat

/-- One call under audit. -/
def Audit.step (w : Audit) (op : Op) : Audit where
  store := w.store.step op
  starts i := countStart w.store.tasks[i]? (w.store.step op).tasks[i]? (w.starts i)

/-- A run under audit, from an empty store. -/
def Audit.run (ops : List Op) : Audit := ops.foldl Audit.step ⟨Store.empty, fun _ => 0⟩

/-- The audit does not touch the store. -/
theorem Audit.run_store (ops : List Op) : (Audit.run ops).store = execute ops := by
  induction ops using List.reverseRecOn with
  | nil => rfl
  | append_singleton ops op ih =>
      rw [Audit.run, execute, List.foldl_append, List.foldl_append]
      show (Audit.run ops).store.step op = (execute ops).step op
      rw [ih]

/-! ## What one call does to one entry -/

/-- The ways a budgeted call rewrites an entry. -/
inductive Counted (m : Int) (old new : QueueTask) : Prop where
  | reset (hold : old.status = .escalated) (hnew : new.status = .queued) (hzero : new.attempts = 0)
  | started (hold : old.status = .queued) (hnew : new.status = .running)
      (hlimit : (old.attempts : Int) < m) (hone : new.attempts = old.attempts + 1)
  | kept (hnew : new.status ≠ .running) (hreset : ¬ (old.status = .escalated ∧ new.status = .queued))
      (hsame : new.attempts = old.attempts)

/-- The other edges keep the attempts and start nothing. -/
theorem Edge.counted {kind : EdgeKind} {old new : QueueTask} (h : Edge kind old new)
    (hstarted : kind ≠ .started) (hresolved : kind ≠ .escalationResolved) : Counted m old new := by
  cases h with
  | started => exact absurd rfl hstarted
  | escalationResolved => exact absurd rfl hresolved
  | recorded hstatus hnew =>
      rcases hnew with rfl | rfl | rfl
      all_goals exact .kept (by simp) (by simp) rfl
  | reviewResolved hstatus _ hnew =>
      rcases hnew with rfl | rfl | rfl
      all_goals exact .kept (by simp) (by simp) rfl
  | retried hstatus | recovered hstatus | reworkConfirmed hstatus =>
      exact .kept (by simp) (by simp [hstatus]) rfl
  | bundleAttached hstatus | reviewFailed hstatus =>
      exact .kept (by simp [hstatus]) (by simp [hstatus]) rfl
  | failureRecorded | setupFailed | reworkLimit | attemptLimit | rolledBack =>
      exact .kept (by simp) (by simp) rfl

/-- How a call changes the entries: not at all, by fresh entries at the end, or
    by one entry rewritten. -/
inductive EntryStep (Rel : QueueTask → QueueTask → Prop) (tasks : List QueueTask) :
    List QueueTask → Prop where
  | same : EntryStep Rel tasks tasks
  | added (entries : List QueueTask)
      (hfresh : ∀ entry ∈ entries, entry.status = .queued ∧ entry.attempts = 0) :
      EntryStep Rel tasks (tasks ++ entries)
  | rewritten {pre post : List QueueTask} {old new : QueueTask} (htasks : tasks = pre ++ old :: post)
      (hrel : Rel old new) : EntryStep Rel tasks (pre ++ new :: post)

/-- The entry at a position after the call: the one before, one rewritten from it,
    or a fresh one. -/
theorem EntryStep.entry {Rel : QueueTask → QueueTask → Prop} {tasks tasks' : List QueueTask}
    (h : EntryStep Rel tasks tasks') {i : Nat} {new : QueueTask} (hnew : tasks'[i]? = some new) :
    tasks[i]? = some new ∨ (∃ old, tasks[i]? = some old ∧ Rel old new) ∨
      (tasks[i]? = none ∧ new.status = .queued ∧ new.attempts = 0) := by
  cases h with
  | same => exact Or.inl hnew
  | added entries hfresh =>
      -- an appended entry is fresh
      by_cases hi : i < tasks.length
      · rw [List.getElem?_append_left hi] at hnew
        exact Or.inl hnew
      · have hlength : tasks.length ≤ i := by omega
        rw [List.getElem?_append_right hlength] at hnew
        exact Or.inr (Or.inr ⟨List.getElem?_eq_none hlength,
          hfresh new (List.mem_of_getElem? hnew)⟩)
  | @rewritten pre post old new' htasks hrel =>
      subst htasks
      -- before, at and behind the rewritten entry
      rcases Nat.lt_trichotomy i pre.length with hi | rfl | hi
      · rw [List.getElem?_append_left hi] at hnew
        rw [List.getElem?_append_left hi]
        exact Or.inl hnew
      · have hhere : ∀ task : QueueTask, (pre ++ task :: post)[pre.length]? = some task := by
          intro task
          rw [List.getElem?_append_right (Nat.le_refl _), Nat.sub_self, List.getElem?_cons_zero]
        rw [hhere] at hnew
        obtain rfl := Option.some.inj hnew
        exact Or.inr (Or.inl ⟨old, hhere old, hrel⟩)
      · -- behind the rewritten entry nothing changes
        obtain ⟨k, hk⟩ : ∃ k, i - pre.length = k + 1 := ⟨i - pre.length - 1, by omega⟩
        have hbehind : ∀ task : QueueTask, (pre ++ task :: post)[i]? = post[k]? := by
          intro task
          rw [List.getElem?_append_right (by omega), hk, List.getElem?_cons_succ]
        rw [hbehind] at hnew
        rw [hbehind]
        exact Or.inl hnew

theorem TaskStep.entryStep {R : EdgeKind → String → Prop} {tasks tasks' : List QueueTask}
    (h : TaskStep R tasks tasks')
    (hrel : ∀ kind old new, R kind old.id → latestTask? tasks old.id = some old →
      Edge kind old new → Counted m old new) : EntryStep (Counted m) tasks tasks' := by
  cases h with
  | @enqueued items now =>
      refine .added _ fun entry hentry => ?_
      obtain ⟨item, -, rfl⟩ := List.mem_map.mp hentry
      exact ⟨rfl, rfl⟩
  | @rewritten kind pre post old new hallowed hedge htasks hlatest _ =>
      exact .rewritten htasks (hrel kind old new hallowed hlatest hedge)

/-- The selected task is the latest entry of its id. -/
theorem latest_of_selected (hlive : LiveQueue s.tasks) {selected : QueueTask}
    (h : (schedule s.tasks).selected = some selected) :
    selected.status = .queued ∧ latestTask? s.tasks selected.id = some selected := by
  obtain ⟨item, hitem, rfl⟩ := Option.map_eq_some_iff.mp h
  have hready : item.task ∈ (schedule s.tasks).ready.map TaskReadiness.task :=
    List.mem_map_of_mem (List.mem_of_mem_head? hitem)
  have hqueued := (scheduleExact_of_live hlive).split.mem_iff.mp (List.mem_append_left _ hready)
  obtain ⟨hmem, hstatus⟩ := List.mem_filter.mp hqueued
  have hstatus : item.task.status = .queued := of_decide_eq_true hstatus
  have hactive : item.task.status.isActive := by
    rw [hstatus]
    rfl
  exact ⟨hstatus, KeyedLog.LiveLast.last?_of_mem hlive hmem hactive⟩

/-- `claim_next` starts an entry below the limit only. -/
theorem entryStep_claimNext (hlive : LiveQueue s.tasks) (now : String) (n : Nat) :
    EntryStep (Counted m) s.tasks
      (s.applyAll ((claimNext (some m) now s).writes.take n)).tasks := by
  have hatomic : Atomic (fun kind id => kind = .attemptLimit ∨ kind = .started ∧
      ∀ task, latestTask? s.tasks id = some task → (task.attempts : Int) < m) s
      (claimNext (some m) now s).writes := by
    apply atomic_claimNext
    intro selected hselected
    refine ⟨fun hbelow => Or.inr ⟨rfl, fun task htask => ?_⟩, Or.inl rfl⟩
    obtain rfl := Option.some.inj ((latest_of_selected hlive hselected).2.symm.trans htask)
    exact hbelow m rfl
  rcases hatomic.taskStep_take n with heq | hstep
  · rw [heq]
    exact .same
  · apply hstep.entryStep
    intro kind old new hallowed hlatest hedge
    rcases hallowed with rfl | ⟨rfl, hbelow⟩
    · exact hedge.counted (by simp) (by simp)
    · cases hedge with
      | started hstatus => exact .started hstatus rfl (hbelow old hlatest) rfl

/-- An entry rewritten and evidence after it, cut anywhere. -/
theorem entryStep_replaced {pre post : List QueueTask} {old new : QueueTask} {rest : List Write}
    (htasks : s.tasks = pre ++ old :: post) (hrel : Counted m old new) (hkeeps : KeepsQueue rest)
    (n : Nat) : EntryStep (Counted m) s.tasks
      (s.applyAll ((Write.queue (pre ++ new :: post) :: rest).take n)).tasks := by
  rcases tasks_take_queue hkeeps s n with heq | heq
  · rw [heq]
    exact .same
  · rw [heq]
    exact .rewritten htasks hrel

/-- `resolve_escalation` requeues with a fresh budget or fails the task. -/
theorem entryStep_resolveEscalation (workItemId resolution reason now : String) (n : Nat) :
    EntryStep (Counted m) s.tasks
      (s.applyAll ((resolveEscalation workItemId resolution reason now s).writes.take n)).tasks := by
  have hnil : EntryStep (Counted m) s.tasks (s.applyAll (([] : List Write).take n)).tasks := by
    rw [List.take_nil]
    exact .same
  rw [resolveEscalation]
  -- an unknown task, a task that is not escalated, a blank reason: nothing is written
  cases htask : latestTask? s.tasks workItemId with
  | none =>
      rw [getTask_bind_none _ htask]
      exact hnil
  | some task =>
      rw [getTask_bind_some _ htask]
      by_cases hstatus : task.status = .escalated
      · rw [if_neg (not_not_intro hstatus)]
        split
        · exact hnil
        -- an unknown resolution: nothing is written
        · cases heffect : resolutionEffect resolution reason task.attempts with
          | none => exact hnil
          | some effect =>
              obtain ⟨status, attempts, error⟩ := effect
              obtain ⟨pre, post, htasks, hrun⟩ := replaceTask_run now
                (fun task => { task with
                  status := status
                  attempts := attempts
                  pendingReviewBundleId := none
                  lastError := error }) htask
              -- a retry resets the count, a closing keeps it
              have hrel : Counted m task { task with
                  status := status
                  updatedAtUtc := now
                  attempts := attempts
                  pendingReviewBundleId := none
                  lastError := error } := by
                rw [resolutionEffect] at heffect
                split at heffect
                · cases heffect
                  exact .reset hstatus rfl rfl
                · split at heffect
                  · cases heffect
                    exact .kept (by simp) (by simp) rfl
                  · cases heffect
              simp only
              rw [bind_of_ok hrun, transitionEvent_bind]
              exact entryStep_replaced htasks hrel (keepsQueue_journal [_]) n
      · rw [if_pos hstatus]
        exact hnil

/-- A call that takes no edge that starts a task or resolves an escalation. -/
theorem entryStep_of_rewrites {op : Op} (hsingle : op.isSingle)
    (hkinds : ∀ kind id, op.rewrites kind id → kind ≠ .started ∧ kind ≠ .escalationResolved)
    (n : Nat) : EntryStep (Counted m) s.tasks (s.applyAll ((opWrites op s).take n)).tasks := by
  rcases taskStep_take_of_op op hsingle s n with heq | hstep
  · rw [heq]
    exact .same
  · apply hstep.entryStep
    intro kind old new hallowed _ hedge
    obtain ⟨hstarted, hresolved⟩ := hkinds kind old.id hallowed
    exact hedge.counted hstarted hresolved

/-- **What a budgeted call does to the entries.** -/
theorem Budgeted.entryStep_take (hlive : LiveQueue s.tasks) {op : Op} (h : Budgeted m op) (n : Nat) :
    EntryStep (Counted m) s.tasks (s.applyAll ((opWrites op s).take n)).tasks := by
  induction op generalizing n with
  -- a claim checks the limit itself
  | claimNext maxAttempts now =>
      obtain rfl := h
      exact entryStep_claimNext hlive now n
  | resolveEscalation => exact entryStep_resolveEscalation _ _ _ _ n
  | claimBatch => exact h.elim
  | markRunning => exact h.elim
  -- a call that is cut makes a part of the writes
  | interrupted op written ih =>
      rw [opWrites, List.take_take]
      exact ih h (min n written)
  -- every other call rewrites by rules that keep the count
  | confirmRework =>
      apply entryStep_of_rewrites rfl
      rintro kind id ⟨rfl | rfl, -⟩
      all_goals simp
  | recordRollback | recordReviewBundle | recordReviewDecision | recordOperatorEvent
  | recordAuditReport | setTelegramUpdateOffset =>
      apply entryStep_of_rewrites rfl
      intro kind id hnone
      exact hnone.elim
  | enqueueMany | requeueFailed | recoverRunning | recordResult | recordFailure
  | attachReviewBundle | failReviewSetup | recordReviewFailure | resolveReview
  | escalateAttemptLimit | markRolledBack | completeRollback =>
      apply entryStep_of_rewrites rfl
      rintro kind id ⟨rfl, -⟩
      simp

theorem Budgeted.entryStep (hlive : LiveQueue s.tasks) {op : Op} (h : Budgeted m op) :
    EntryStep (Counted m) s.tasks (s.step op).tasks := by
  have hstep := h.entryStep_take hlive (opWrites op s).length
  rwa [List.take_length] at hstep

/-! ## The invariant -/

/-- Every entry's attempts are its count and within the limit. -/
def WithinBudget (m : Int) (w : Audit) : Prop :=
  ∀ (i : Nat) (task : QueueTask), w.store.tasks[i]? = some task →
    (task.attempts : Int) ≤ m ∧ task.attempts = w.starts i

/-- The audit counts what the entry itself counts. -/
theorem Counted.countStart {old new : QueueTask} (h : Counted m old new) :
    countStart (some old) (some new) old.attempts = new.attempts := by
  cases h with
  | reset hold hnew hzero => simp [LlmHarness.countStart, hold, hnew, hzero]
  | started hold hnew _ hone => simp [LlmHarness.countStart, hold, hnew, hone]
  | kept hnew hreset hsame =>
      simp only [LlmHarness.countStart]
      rw [if_neg hreset, if_neg fun hstart => hnew hstart.2, hsame]

theorem Counted.le {old new : QueueTask} (h : Counted m old new) (hm : 0 ≤ m)
    (hold : (old.attempts : Int) ≤ m) : (new.attempts : Int) ≤ m := by
  cases h with
  | reset _ _ hzero =>
      rw [hzero]
      exact hm
  | started _ _ hlimit hone => omega
  | kept _ _ hsame => omega

/-- An entry that is not rewritten keeps its count. -/
theorem countStart_same (task : QueueTask) (count : Nat) :
    countStart (some task) (some task) count = count := by
  have hreset : ¬ (task.status = .escalated ∧ task.status = .queued) := by
    rintro ⟨hescalated, hqueued⟩
    rw [hescalated] at hqueued
    cases hqueued
  have hstart : ¬ (task.status ≠ .running ∧ task.status = .running) := fun h => h.1 h.2
  simp only [countStart]
  rw [if_neg hreset, if_neg hstart]

/-- **One call.** -/
theorem withinBudget_step (hm : 0 ≤ m) {w : Audit} (hlive : LiveQueue w.store.tasks)
    (h : WithinBudget m w) {op : Op} (hop : Budgeted m op) : WithinBudget m (w.step op) := by
  intro i new hnew
  have hnew : (w.store.step op).tasks[i]? = some new := hnew
  have hstarts : (w.step op).starts i =
      countStart w.store.tasks[i]? (w.store.step op).tasks[i]? (w.starts i) := rfl
  rw [hstarts, hnew]
  rcases (hop.entryStep hlive).entry hnew with hsame | ⟨old, hold, hcounted⟩ | ⟨hnone, -, hzero⟩
  · obtain ⟨hle, hcount⟩ := h i new hsame
    rw [hsame, countStart_same]
    exact ⟨hle, hcount⟩
  · obtain ⟨hle, hcount⟩ := h i old hold
    rw [hold, ← hcount, hcounted.countStart]
    exact ⟨hcounted.le hm hle, rfl⟩
  · -- a fresh entry starts at zero
    rw [hnone]
    exact ⟨by omega, hzero⟩

theorem withinBudget_run (hm : 0 ≤ m) (ops : List Op) (hops : ∀ op ∈ ops, Budgeted m op) :
    WithinBudget m (Audit.run ops) := by
  induction ops using List.reverseRecOn with
  | nil =>
      intro i task htask
      cases htask
  | append_singleton ops op ih =>
      have hlive : LiveQueue (Audit.run ops).store.tasks := by
        rw [Audit.run_store]
        exact liveQueue_execute ops
      have hbefore := ih fun op' hop' => hops op' (List.mem_append_left _ hop')
      have hop := hops op (List.mem_append_right _ (List.mem_singleton.mpr rfl))
      have hrun : Audit.run (ops ++ [op]) = (Audit.run ops).step op := by
        rw [Audit.run, List.foldl_append]
        rfl
      rw [hrun]
      exact withinBudget_step hm hlive hbefore hop

/-! ## At the limit -/

/-- A queued entry at the limit is not started by any budgeted call. -/
theorem Budgeted.not_started (hlive : LiveQueue s.tasks) {op : Op} (h : Budgeted m op) {i : Nat}
    {old new : QueueTask} (hold : s.tasks[i]? = some old) (hqueued : old.status = .queued)
    (hlimit : m ≤ (old.attempts : Int)) (hnew : (s.step op).tasks[i]? = some new) :
    new.status ≠ .running := by
  intro hrunning
  rcases (h.entryStep hlive).entry hnew with hsame | ⟨before, hbefore, hcounted⟩ | ⟨hnone, -, -⟩
  · obtain rfl := Option.some.inj (hold.symm.trans hsame)
    rw [hqueued] at hrunning
    cases hrunning
  · obtain rfl := Option.some.inj (hold.symm.trans hbefore)
    cases hcounted with
    | reset hescalated => rw [hqueued] at hescalated; cases hescalated
    | started _ _ hbelow => omega
    | kept hnot => exact hnot hrunning
  · rw [hold] at hnone
    cases hnone

/-- The entry that `escalate_attempt_limit` leaves. -/
def limitTask (limit : Int) (task : QueueTask) (now : String) : QueueTask :=
  { task with
    status := .escalated
    updatedAtUtc := now
    lastError := some ("Worker attempt limit reached (" ++ toString task.attempts ++ "/"
      ++ toString limit ++ ").") }

theorem escalateAttemptLimit_run {task : QueueTask} (hlatest : latestTask? s.tasks task.id = some task)
    (hqueued : task.status = .queued) (hlimit : m ≤ (task.attempts : Int)) (now : String) :
    ∃ pre post event, s.tasks = pre ++ task :: post ∧ escalateAttemptLimit task.id m now s =
      ⟨[.queue (pre ++ limitTask m task now :: post), .journal event],
        .ok (limitTask m task now)⟩ := by
  have hnot : ¬ (task.status ≠ .queued ∨ (task.attempts : Int) < m) := by
    rintro (hne | hbelow)
    · exact hne hqueued
    · omega
  obtain ⟨pre, post, htasks, hrun⟩ := replaceTask_run now (fun task => { task with
    status := .escalated
    lastError := some ("Worker attempt limit reached (" ++ toString task.attempts ++ "/"
      ++ toString m ++ ").") }) hlatest
  rw [escalateAttemptLimit, getTask_bind_some _ hlatest, if_neg hnot, bind_of_ok hrun,
    transitionEvent_bind]
  exact ⟨pre, post, _, htasks, rfl⟩

/-- `claim_next` escalates a selected entry at the limit and raises. -/
theorem claimNext_at_limit (hlive : LiveQueue s.tasks) {selected : QueueTask}
    (hselected : (schedule s.tasks).selected = some selected)
    (hlimit : m ≤ (selected.attempts : Int)) (now : String) :
    (∃ e, (claimNext (some m) now s).value = .error e) ∧
      ∃ pre post new, s.tasks = pre ++ selected :: post ∧
        (s.step (.claimNext (some m) now)).tasks = pre ++ new :: post ∧
        new.status = .escalated ∧ new.attempts = selected.attempts := by
  obtain ⟨hqueued, hlatest⟩ := latest_of_selected hlive hselected
  obtain ⟨pre, post, event, htasks, hescalate⟩ :=
    escalateAttemptLimit_run hlatest hqueued hlimit now
  have hclaim : ∃ e, claimNext (some m) now s =
      ⟨[.queue (pre ++ limitTask m selected now :: post), .journal event], .error e⟩ := by
    rw [claimNext, read_bind, hselected]
    simp only
    rw [if_pos hlimit, bind_of_ok hescalate]
    exact ⟨_, rfl⟩
  obtain ⟨e, hclaim⟩ := hclaim
  refine ⟨⟨e, by rw [hclaim]⟩, pre, post, limitTask m selected now, htasks, ?_, rfl, rfl⟩
  show (s.applyAll (claimNext (some m) now s).writes).tasks = _
  rw [hclaim]
  rfl

/-- **Attempt budget.**  In every state of a run that respects the limit every
    entry's attempts are within it and count how often the entry became running
    since it was enqueued or last requeued from escalation; a queued entry at the
    limit is started by no such call, and escalated by the `claim_next` that
    selects it. -/
theorem attemptBudget_execute (m : Int) (hm : 1 ≤ m) (ops : List Op)
    (hops : ∀ op ∈ ops, Budgeted m op) :
    (∀ (i : Nat) (task : QueueTask), (execute ops).tasks[i]? = some task →
      (task.attempts : Int) ≤ m ∧ task.attempts = (Audit.run ops).starts i) ∧
    (∀ (i : Nat) (task : QueueTask), (execute ops).tasks[i]? = some task → task.status = .queued →
      m ≤ (task.attempts : Int) → ∀ op, Budgeted m op → ∀ new,
        ((execute ops).step op).tasks[i]? = some new → new.status ≠ .running) ∧
    ∀ selected now, (schedule (execute ops).tasks).selected = some selected →
      m ≤ (selected.attempts : Int) →
      (∃ e, (claimNext (some m) now (execute ops)).value = .error e) ∧
        ∃ pre post new, (execute ops).tasks = pre ++ selected :: post ∧
          ((execute ops).step (.claimNext (some m) now)).tasks = pre ++ new :: post ∧
          new.status = .escalated ∧ new.attempts = selected.attempts := by
  have hlive := liveQueue_execute ops
  have hbudget := withinBudget_run (by omega) ops hops
  rw [WithinBudget, Audit.run_store] at hbudget
  refine ⟨hbudget, ?_, ?_⟩
  · intro i task htask hqueued hlimit op hop new hnew
    exact hop.not_started hlive htask hqueued hlimit hnew
  · intro selected now hselected hlimit
    exact claimNext_at_limit hlive hselected hlimit now

/-- One attempt is allowed: the task is started, recovered, escalated at the
    limit, requeued by the operator and started again. -/
def oneAttemptRun : List Op :=
  [.enqueueMany [(sampleItem "a", "")] "t0", .claimNext (some 1) "t1",
    .recoverRunning "a" "lost" "t2", .claimNext (some 1) "t3",
    .resolveEscalation "a" "requeue" "fixed" "t4", .claimNext (some 1) "t5"]

theorem attemptBudget_oneAttempt :
    ∃ task, (execute oneAttemptRun).tasks[0]? = some task ∧
      (task.attempts : Int) ≤ 1 ∧ task.attempts = (Audit.run oneAttemptRun).starts 0 := by
  have hops : ∀ op ∈ oneAttemptRun, Budgeted 1 op := by
    intro op hop
    simp only [oneAttemptRun, List.mem_cons, List.not_mem_nil, or_false] at hop
    rcases hop with rfl | rfl | rfl | rfl | rfl | rfl
    all_goals first | exact trivial | exact rfl
  have hsome : (execute oneAttemptRun).tasks[0]?.isSome = true := by decide +kernel
  obtain ⟨task, htask⟩ := Option.isSome_iff_exists.mp hsome
  exact ⟨task, htask, (attemptBudget_execute 1 (by decide) oneAttemptRun hops).1 0 task htask⟩

end LlmHarness
