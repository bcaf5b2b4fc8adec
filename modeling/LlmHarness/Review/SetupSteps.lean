/-
  LlmHarness.Review.SetupSteps

  What the review setup does to the queue, wherever an exception ends it.  Export,
  attachment and critic move an entry along three edges only, so a task that was
  accepted stays one that was: waiting for its review, or decided.
-/

import LlmHarness.Review.Setup

namespace LlmHarness

open Python Durable Durable.Program

/-! ## The queue under a program -/

/-- The store write among the writes of the review code. -/
def ReviewWrite.store? : ReviewWrite → Option Write
  | .store write => some write
  | _ => none

theorem applyAll_store (w : ReviewWorld) (ws : List ReviewWrite) :
    (applyAll w ws).store = w.store.applyAll (ws.filterMap ReviewWrite.store?) := by
  induction ws generalizing w with
  | nil => rfl
  | cons write ws ih =>
      rw [Durable.applyAll_cons, ih]
      cases write <;> rfl

/-- A program that moves the queue along the edges `R`, wherever it is cut. -/
structure MovesAlong {α : Type} (R : EdgeKind → String → Prop) (m : ReviewM α) : Prop where
  taskSteps : ∀ w written, TaskSteps R w.store.tasks (m.crashed w written).store.tasks

section

variable {α β : Type} {R : EdgeKind → String → Prop} {m : ReviewM α}

theorem MovesAlong.final (h : MovesAlong R m) (w : ReviewWorld) :
    TaskSteps R w.store.tasks (m.final w).store.tasks := by
  have hall := h.taskSteps w (m w).writes.length
  rwa [crashed, List.take_length] at hall

/-- A program that leaves the queue file alone. -/
theorem movesAlong_of_keeps
    (h : ∀ w, KeepsQueue ((m w).writes.filterMap ReviewWrite.store?)) : MovesAlong R m := by
  refine ⟨fun w written => ?_⟩
  have hcut : ((m w).writes.take written).filterMap ReviewWrite.store? <+:
      (m w).writes.filterMap ReviewWrite.store? :=
    (List.take_prefix written (m w).writes).filterMap ReviewWrite.store?
  have hkeeps : KeepsQueue (((m w).writes.take written).filterMap ReviewWrite.store?) :=
    fun write hwrite => h w write (hcut.subset hwrite)
  rw [crashed, applyAll_store, hkeeps.tasks_eq]

theorem movesAlong_of_silent (h : Silent m) : MovesAlong R m := by
  refine movesAlong_of_keeps fun w write hwrite => ?_
  rw [h w] at hwrite
  cases hwrite

/-- A call of the store. -/
theorem movesAlong_onStore {call : StoreM α}
    (h : ∀ (s : Store) (written : Nat),
      TaskSteps R s.tasks (s.applyAll ((call s).writes.take written)).tasks) :
    MovesAlong R (onStore call) := by
  refine ⟨fun w written => ?_⟩
  have hwrites : (onStore call w).writes = (call w.store).writes.map ReviewWrite.store := rfl
  rw [crashed, hwrites, ← List.map_take, applyAll_map_store]
  exact h w.store written

/-- Writes of one program, then those of another on the world the first left: a cut falls into the
    first, or the first is there whole. -/
theorem taskSteps_take_append {w : ReviewWorld} {first second : List ReviewWrite}
    (hfirst : ∀ written, TaskSteps R w.store.tasks (applyAll w (first.take written)).store.tasks)
    (hsecond : ∀ written, TaskSteps R (applyAll w first).store.tasks
      (applyAll (applyAll w first) (second.take written)).store.tasks) (written : Nat) :
    TaskSteps R w.store.tasks (applyAll w ((first ++ second).take written)).store.tasks := by
  by_cases hwritten : written ≤ first.length
  · rw [List.take_append_of_le_length hwritten]
    exact hfirst written
  · obtain ⟨rest, rfl⟩ : ∃ rest, written = first.length + rest :=
      ⟨written - first.length, by omega⟩
    rw [List.take_length_add_append, Durable.applyAll_append]
    have hwhole := hfirst first.length
    rw [List.take_length] at hwhole
    exact hwhole.trans (hsecond rest)

/-- One program after another: the first runs whole before the second begins. -/
theorem MovesAlong.bind {next : α → ReviewM β} (h : MovesAlong R m)
    (hnext : ∀ a, MovesAlong R (next a)) : MovesAlong R (m >>= next) := by
  refine ⟨fun w written => ?_⟩
  rw [crashed, Durable.bind_run]
  cases hvalue : (m w).value with
  | error e => exact h.taskSteps w written
  | ok a => exact taskSteps_take_append (h.taskSteps w) ((hnext a).taskSteps _) written

/-- ... and a handler after what it handles. -/
theorem MovesAlong.tryExcept {handler : ReviewError → ReviewM α} (h : MovesAlong R m)
    (hhandler : ∀ e, MovesAlong R (handler e)) : MovesAlong R (tryExcept m handler) := by
  refine ⟨fun w written => ?_⟩
  rw [crashed, Program.tryExcept]
  cases hvalue : (m w).value with
  | ok a => exact h.taskSteps w written
  | error e => exact taskSteps_take_append (h.taskSteps w) ((hhandler e).taskSteps _) written

/-- The first writes of a program that is cut, cut again. -/
theorem MovesAlong.taskSteps_take (h : MovesAlong R m) (w : ReviewWorld) (cut written : Nat) :
    TaskSteps R w.store.tasks (applyAll w (((m w).writes.take cut).take written)).store.tasks := by
  rw [List.take_take]
  exact h.taskSteps w (min written cut)

end

/-- More edges allow more changes. -/
theorem TaskStep.mono {R R' : EdgeKind → String → Prop} {tasks tasks' : List QueueTask}
    (h : TaskStep R tasks tasks') (hedges : ∀ kind id, R kind id → R' kind id) :
    TaskStep R' tasks tasks' := by
  cases h with
  | enqueued hitems hallowed hdistinct hfree hgraph =>
      exact .enqueued hitems (fun item hitem => hedges _ _ (hallowed item hitem)) hdistinct hfree hgraph
  | rewritten hallowed hedge htasks hlatest hlast =>
      exact .rewritten (hedges _ _ hallowed) hedge htasks hlatest hlast

/-! ## The review setup -/

/-- The edges of a review setup. -/
def ReviewEdge (kind : EdgeKind) (_ : String) : Prop :=
  (∃ bundleId, kind = .bundleAttached bundleId) ∨ kind = .reviewFailed ∨
    ∃ bundleId, kind = .reviewResolved bundleId

theorem movesAlong_exportReviewBundle (runtime : Runtime) (git : GitReader)
    (threeHead : Option ThreeHeadConfig) (runId createdAt : String) :
    MovesAlong ReviewEdge (exportReviewBundle runtime git threeHead runId createdAt) := by
  refine movesAlong_of_keeps fun w => ?_
  have hrun := exportRun runtime git threeHead runId createdAt w
  generalize exportReviewBundle runtime git threeHead runId createdAt w = outcome at hrun ⊢
  cases hrun with
  | refused | reloaded => exact fun _ h => nomatch h
  | written =>
      intro write hwrite tasks hqueue
      rw [hqueue] at hwrite
      simp [exportWrites, ReviewWrite.store?] at hwrite

theorem movesAlong_attachExport (runtime : Runtime) (call : SetupCall) (workItemId runId : String) :
    MovesAlong ReviewEdge (attachExport runtime call workItemId runId) := by
  refine MovesAlong.bind (movesAlong_exportReviewBundle ..) fun exported => ?_
  have hattach : MovesAlong ReviewEdge (onStore (attachReviewBundle workItemId
      exported.record.bundleId call.attachedAt)) :=
    movesAlong_onStore fun _ written =>
      (atomic_attachReviewBundle _ _ _ (Or.inl ⟨_, rfl⟩)).taskSteps_take written
  exact hattach.bind fun _ => movesAlong_of_silent (silent_pure _)

theorem movesAlong_importDecision (runtime : Runtime) (call : CriticCall) (path : String) :
    MovesAlong ReviewEdge (importDecision runtime call path) := by
  refine ⟨fun w written => ?_⟩
  have hwrites : (importDecision runtime call path w).writes =
      (importVerifierDecision runtime (call.importCall w path) w.store).writes.map .store := rfl
  rw [crashed, hwrites, ← List.map_take, applyAll_map_store]
  exact Relation.ReflTransGen.mono (fun _ _ hstep => hstep.mono fun _ _ h => Or.inr (Or.inr h)) _ _
    (import_taskSteps runtime (call.importCall w path) w.store written)

theorem movesAlong_recordReviewFailure (workItemId message now : String) :
    MovesAlong ReviewEdge (onStore (recordReviewFailure workItemId message now)) :=
  movesAlong_onStore fun _ written =>
    (atomic_recordReviewFailure _ _ _ (Or.inr (Or.inl rfl))).taskSteps_take written

/-- The attempt of a review, and what its handler adds. -/
theorem movesAlong_conductReview (runtime : Runtime) (call : CriticCall)
    (bundle : List (String × Json)) (workItemId : String) :
    MovesAlong ReviewEdge (conductReview runtime call bundle workItemId) := by
  have hwrite : ∀ write : ReviewWrite, write.store? = none →
      MovesAlong ReviewEdge (Program.write write : ReviewM Unit) := by
    intro write hnone
    refine movesAlong_of_keeps fun w => ?_
    simp [KeepsQueue, hnone]
  have hattempt : MovesAlong ReviewEdge (attemptReview runtime call bundle) := by
    refine (hwrite _ rfl).bind fun _ => (movesAlong_of_silent (silent_lift _)).bind fun judgment => ?_
    refine (movesAlong_of_silent (silent_lift _)).bind fun document => (hwrite _ rfl).bind fun _ => ?_
    exact MovesAlong.bind (movesAlong_importDecision ..) fun _ =>
      movesAlong_of_silent (silent_pure _)
  have hfailed : ∀ e, MovesAlong ReviewEdge (reviewFailed call workItemId e) := by
    intro e
    rw [reviewFailed]
    cases caughtError e with
    | none => exact movesAlong_of_silent (silent_raise _)
    | some caught =>
        exact (movesAlong_recordReviewFailure ..).bind fun _ => movesAlong_of_silent (silent_raise _)
  refine (hattempt.tryExcept hfailed).bind fun reviewed => ?_
  refine movesAlong_of_silent ((silent_read _).bind fun tasks => ?_)
  split
  · exact silent_pure _
  · exact silent_raise _

theorem movesAlong_runCriticReview (runtime : Runtime) (call : CriticCall) :
    MovesAlong ReviewEdge (runCriticReview runtime call) := by
  refine (movesAlong_of_silent (silent_lift _)).bind fun _ => ?_
  refine (movesAlong_of_silent (silent_selectedBundle runtime call)).bind fun bundle => ?_
  refine (movesAlong_of_silent (silent_pendingWorkItemId _)).bind fun workItemId => ?_
  exact MovesAlong.bind (movesAlong_of_silent (silent_lift _)) fun _ =>
    movesAlong_conductReview ..

/-- **The guarded part of a setup** only attaches, notes a failed review and resolves. -/
theorem movesAlong_attemptSetup (runtime : Runtime) (call : SetupCall) (workItemId runId : String) :
    MovesAlong ReviewEdge (attemptSetup runtime call workItemId runId) := by
  refine MovesAlong.bind (movesAlong_attachExport ..) fun exported => ?_
  split
  · exact MovesAlong.bind (movesAlong_runCriticReview ..) fun _ =>
      movesAlong_of_silent (silent_pure _)
  · exact movesAlong_of_silent (silent_pure _)

/-- ... and so does one that an exception ends, with the error its critic run noted. -/
theorem movesAlong_attemptWithFault (runtime : Runtime) (call : SetupCall)
    (workItemId runId : String) (fault : Option SetupFault) :
    MovesAlong ReviewEdge (attemptWithFault runtime call workItemId runId fault) := by
  have hattempt := movesAlong_attemptSetup runtime call workItemId runId
  cases fault with
  | none => exact ⟨hattempt.taskSteps⟩
  | some fault =>
      have hnote : MovesAlong ReviewEdge (fault.note call workItemId) := by
        rw [SetupFault.note]
        cases fault.noted with
        | none => exact movesAlong_of_silent (silent_pure _)
        | some message =>
            exact (movesAlong_recordReviewFailure ..).bind fun _ =>
              movesAlong_of_silent (silent_pure _)
      exact ⟨fun w written => taskSteps_take_append
        (hattempt.taskSteps_take w fault.written) (hnote.taskSteps _) written⟩

/-! ## The task under review -/

/-- The work of the task was accepted: it waits for its review, or a decision was applied. -/
def TaskStatus.Accepted (status : TaskStatus) : Prop :=
  status = .reviewPending ∨ status = .done ∨ status = .reworkRequired ∨ status = .escalated

/-- The latest entry of the task. -/
structure AcceptedTask (tasks : List QueueTask) (id : String) : Prop where
  live : LiveQueue tasks
  accepted : ∃ task, latestTask? tasks id = some task ∧ task.status.Accepted

/-- No edge of a review setup takes an accepted task back. -/
theorem AcceptedTask.step {tasks tasks' : List QueueTask} {id : String} (h : AcceptedTask tasks id)
    (hstep : TaskStep ReviewEdge tasks tasks') : AcceptedTask tasks' id := by
  obtain ⟨task, hlatest, haccepted⟩ := h.accepted
  refine ⟨liveQueue_step h.live hstep, ?_⟩
  rcases hstep.latest h.live id with hsame | ⟨henqueued, -⟩ | ⟨kind, old, new, hkind, hedge, hold, hnew⟩
  · exact ⟨task, hsame.trans hlatest, haccepted⟩
  · rcases henqueued with ⟨_, h⟩ | h | ⟨_, h⟩ <;> cases h
  · obtain rfl := Option.some.inj (hlatest.symm.trans hold)
    refine ⟨new, hnew, ?_⟩
    rcases hkind with ⟨_, rfl⟩ | rfl | ⟨_, rfl⟩
    · cases hedge
      exact haccepted
    · cases hedge
      exact haccepted
    · cases hedge with
      | reviewResolved _ _ hdecided => exact Or.inr hdecided

theorem AcceptedTask.steps {tasks tasks' : List QueueTask} {id : String} (h : AcceptedTask tasks id)
    (hsteps : TaskSteps ReviewEdge tasks tasks') : AcceptedTask tasks' id := by
  induction hsteps with
  | refl => exact h
  | tail _ hstep hbefore => exact hbefore.step hstep

/-! ## The handler -/

/-- The task waits for its review, and the first entry of its id, the one the handler looks at, holds
    no bundle. -/
structure WaitsUnattached (tasks : List QueueTask) (id : String) : Prop where
  waiting : latestStatus tasks id = some .reviewPending
  unattached : ¬ FirstHoldsBundle tasks id

/-- The handler of a failed setup fails the task exactly where it waits without a bundle; otherwise
    the queue stays. -/
theorem setupFailed_tasks {w : ReviewWorld} {workItemId : String} (call : SetupCall) (e : ReviewError)
    (h : AcceptedTask w.store.tasks workItemId) :
    (WaitsUnattached w.store.tasks workItemId ∧
        latestStatus ((setupFailed call workItemId e).final w).store.tasks workItemId =
          some .failed) ∨
      (¬ WaitsUnattached w.store.tasks workItemId ∧
        ((setupFailed call workItemId e).final w).store.tasks = w.store.tasks) := by
  obtain ⟨latest, hlatest, haccepted⟩ := h.accepted
  obtain ⟨hmem, hid⟩ := KeyedLog.mem_of_last? hlatest
  -- The handler looks up the first entry of the id, which is there because a latest one is.
  obtain ⟨first, hfirst⟩ : ∃ first, firstTask? w.store.tasks workItemId = some first := by
    cases hnone : firstTask? w.store.tasks workItemId with
    | none => exact absurd (decide_eq_true hid) (List.find?_eq_none.mp hnone latest hmem)
    | some first => exact ⟨first, rfl⟩
  have hstatus : latestStatus w.store.tasks workItemId = some latest.status := by
    rw [latestStatus, hlatest]
    rfl
  have hholds : FirstHoldsBundle w.store.tasks workItemId ↔ first.pendingReviewBundleId ≠ none := by
    rw [FirstHoldsBundle, hfirst]
    simp
  -- Both conditions in terms of the two entries.
  have hwaits : WaitsUnattached w.store.tasks workItemId ↔
      latest.status = .reviewPending ∧ first.pendingReviewBundleId = none := by
    constructor
    · intro h
      exact ⟨Option.some.inj (hstatus.symm.trans h.waiting), not_not.mp (hholds.not.mp h.unattached)⟩
    · rintro ⟨hpending, hnone⟩
      exact ⟨hstatus.trans (congrArg some hpending), hholds.not.mpr (not_not.mpr hnone)⟩
  rw [hwaits, final, setupFailed, Durable.read_bind, hfirst]
  dsimp only
  by_cases hunattached : first.pendingReviewBundleId = none
  · rw [if_pos hunattached, bind_silent_writes (fun _ => silent_pure _)]
    dsimp only [onStore]
    rw [applyAll_map_store]
    by_cases hpending : latest.status = .reviewPending
    · refine Or.inl ⟨⟨hpending, hunattached⟩, ?_⟩
      -- `fail_review_setup` rewrites the latest entry, which is then the failed one.
      obtain ⟨pre, post, failed, event, hsplit, hfailedId, hfailed, hrun⟩ := failReviewSetup_run
        ("Review bundle setup failed: " ++ e.message) call.setupFailedAt hlatest hpending
      have hactive : latest.status.isActive := by
        rw [hpending]
        rfl
      have hlast := KeyedLog.LiveLast.isLast h.live hsplit hactive
      have hnew : latestTask? (pre ++ failed :: post) workItemId = some failed := by
        rw [latestTask?_rewritten hlast hfailedId, if_pos (latestTask?_id hlatest).symm]
      rw [hrun]
      show latestStatus (pre ++ failed :: post) workItemId = some .failed
      rw [latestStatus, hnew, ← hfailed]
      rfl
    -- The latest entry is not waiting, so `fail_review_setup` refuses and writes nothing.
    · refine Or.inr ⟨fun hfails => hpending hfails.1, ?_⟩
      rw [failReviewSetup, getTask_bind_some _ hlatest, if_pos hpending]
      rfl
  · rw [if_neg hunattached]
    exact Or.inr ⟨fun hfails => hunattached hfails.2, rfl⟩

end LlmHarness
