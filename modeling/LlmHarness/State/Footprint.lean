/-
  LlmHarness.State.Footprint

  Which durable logs a store operation writes to: `WritesOnly p m` says that all
  writes of `m`, on every store, satisfy `p`.  Only `record_review_decision`
  appends a decision.
-/

import LlmHarness.State.Transitions

namespace LlmHarness

open Python StoreM

/-- Every write of an operation, on every store, satisfies `p`. -/
structure WritesOnly (p : Write → Prop) {α : Type} (m : StoreM α) : Prop where
  each : ∀ s, ∀ w ∈ (m s).writes, p w

variable {p : Write → Prop} {α β : Type}

/-- An answer writes nothing. -/
theorem writesOnly_pure (a : α) : WritesOnly p (pure a : StoreM α) := by
  exact ⟨fun s w hw => by cases hw⟩

/-- A refusal writes nothing. -/
theorem writesOnly_refuse (message : String) : WritesOnly p (refuse message : StoreM α) := by
  exact ⟨fun s w hw => by cases hw⟩

/-- Reading the files writes nothing. -/
theorem writesOnly_read (f : Store → α) : WritesOnly p (read f) := by
  exact ⟨fun s w hw => by cases hw⟩

/-- A pure check writes nothing. -/
theorem writesOnly_lift (result : Except StateStoreError α) : WritesOnly p (lift result) := by
  exact ⟨fun s w hw => by cases hw⟩

/-- One write is what it is. -/
theorem writesOnly_write {w : Write} (h : p w) : WritesOnly p (write w) := by
  refine ⟨fun s w' hw => ?_⟩
  rw [write_run, List.mem_singleton] at hw
  rwa [hw]

/-- A sequence writes what its parts write. -/
theorem WritesOnly.bind {m : StoreM α} {next : α → StoreM β} (hm : WritesOnly p m)
    (hnext : ∀ a, WritesOnly p (next a)) : WritesOnly p (m >>= next) := by
  refine ⟨fun s w hw => ?_⟩
  rw [bind_run] at hw
  cases hvalue : (m s).value with
  | error e =>
      rw [hvalue] at hw
      exact hm.each s w hw
  | ok a =>
      rw [hvalue] at hw
      rcases List.mem_append.mp hw with hw | hw
      · exact hm.each s w hw
      · exact (hnext a).each _ w hw

/-- A branch writes what its two sides write. -/
theorem writesOnly_ite {c : Prop} [Decidable c] {m m' : StoreM α} (hm : WritesOnly p m)
    (hm' : WritesOnly p m') : WritesOnly p (if c then m else m') := by
  split
  · exact hm
  · exact hm'

/-- `_get_task` reads the queue, and answers or refuses. -/
theorem writesOnly_getTask (id : String) : WritesOnly p (getTask id) := by
  refine (writesOnly_read _).bind fun tasks => ?_
  split
  · exact writesOnly_pure _
  · exact writesOnly_refuse _

/-- A transition that rewrites an entry and announces it. -/
theorem writesOnly_transition {m : StoreM QueueTask} (hm : WritesOnly p m)
    {event : QueueTask → StoreM Unit} (hevent : ∀ task, WritesOnly p (event task))
    {result : QueueTask → α} :
    WritesOnly p (m >>= fun updated => event updated >>= fun _ => pure (result updated)) :=
  hm.bind fun updated => (hevent updated).bind fun _ => writesOnly_pure _

/-! ## The lifecycle calls -/

/-- The writes of a lifecycle call: the queue, the history and the journal. -/
structure Allows (p : Write → Prop) : Prop where
  queue : ∀ tasks, p (.queue tasks)
  history : ∀ record, p (.history record)
  journal : ∀ event, p (.journal event)

variable (h : Allows p)

include h

/-- `_update_task` rewrites the queue. -/
theorem writesOnly_updateTask (id : String) (status : TaskStatus) (now : String) (delta : Nat)
    (lastCommit lastError : Option String) :
    WritesOnly p (updateTask id status now delta lastCommit lastError) := by
  refine (writesOnly_read _).bind fun tasks => ?_
  simp only
  split
  · exact (writesOnly_write (h.queue _)).bind fun _ => writesOnly_pure _
  · exact writesOnly_refuse _

/-- `_replace_task` rewrites the queue. -/
theorem writesOnly_replaceTask (current : QueueTask) (now : String) (changes : QueueTask → QueueTask) :
    WritesOnly p (replaceTask current now changes) := by
  refine (writesOnly_read _).bind fun tasks => ?_
  simp only
  split
  · exact (writesOnly_write (h.queue _)).bind fun _ => writesOnly_pure _
  · exact writesOnly_refuse _

/-- The event of a transition goes to the journal. -/
theorem writesOnly_transitionEvent (task : QueueTask) (previous current : TaskStatus)
    (action : String) (details : Json) (runId : Option String) :
    WritesOnly p (transitionEvent task previous current action details runId) :=
  writesOnly_write (h.journal _)

/-- The events of a batch go to the journal one by one. -/
theorem writesOnly_recordEvents (events : List JournalEvent) : WritesOnly p (recordEvents events) := by
  induction events with
  | nil => exact writesOnly_pure _
  | cons event events ih => exact (writesOnly_write (h.journal _)).bind fun _ => ih

/-- A batch rewrites the queue once and announces each new entry. -/
theorem writesOnly_enqueueMany (items : List (WorkItem × String)) (now : String) :
    WritesOnly p (enqueueMany items now) := by
  rw [enqueueMany]
  refine writesOnly_ite (writesOnly_pure _) ((writesOnly_read _).bind fun tasks => ?_)
  refine writesOnly_ite (writesOnly_refuse _) ?_
  split
  · exact writesOnly_refuse _
  · refine (writesOnly_lift _).bind fun _ => (writesOnly_write (h.queue _)).bind fun _ => ?_
    exact (writesOnly_recordEvents h _).bind fun _ => writesOnly_pure _

/-- A claim moves one entry and announces it. -/
theorem writesOnly_markRunning (id now : String) : WritesOnly p (markRunning id now) := by
  refine (writesOnly_getTask id).bind fun task => writesOnly_ite (writesOnly_refuse _) ?_
  refine (writesOnly_read _).bind fun schedule => ?_
  simp only
  split
  · exact writesOnly_refuse _
  · exact writesOnly_transition (writesOnly_updateTask h ..) fun _ => writesOnly_transitionEvent h ..

/-- A task over its budget moves to the escalation. -/
theorem writesOnly_escalateAttemptLimit (id : String) (maxAttempts : Int) (now : String) :
    WritesOnly p (escalateAttemptLimit id maxAttempts now) := by
  refine (writesOnly_getTask id).bind fun task => writesOnly_ite (writesOnly_pure _) ?_
  exact writesOnly_transition (writesOnly_replaceTask h ..) fun _ => writesOnly_transitionEvent h ..

/-- A claim of the next task is a claim, or an escalation that refuses. -/
theorem writesOnly_claimNext (maxAttempts : Option Int) (now : String) :
    WritesOnly p (claimNext maxAttempts now) := by
  refine (writesOnly_read _).bind fun schedule => ?_
  split
  · exact writesOnly_pure _
  · split
    · exact (writesOnly_markRunning h ..).bind fun _ => writesOnly_pure _
    · refine writesOnly_ite ?_ ((writesOnly_markRunning h ..).bind fun _ => writesOnly_pure _)
      exact (writesOnly_escalateAttemptLimit h ..).bind fun _ => writesOnly_refuse _

/-- The claims of a batch are made one after the other. -/
theorem writesOnly_markAllRunning (now : Nat → String) (index : Nat) (tasks : List QueueTask) :
    WritesOnly p (markAllRunning now index tasks) := by
  induction tasks generalizing index with
  | nil => exact writesOnly_pure _
  | cons task tasks ih =>
      exact (writesOnly_markRunning h ..).bind fun _ => (ih _).bind fun _ => writesOnly_pure _

/-- A batch reads the schedule and claims what it selects. -/
theorem writesOnly_claimBatch (limit : Int) (now : Nat → String) :
    WritesOnly p (claimBatch limit now) :=
  (writesOnly_read _).bind fun _ => (writesOnly_lift _).bind fun _ => writesOnly_markAllRunning h ..

/-- A failed task goes back into the queue. -/
theorem writesOnly_requeueFailed (id now : String) : WritesOnly p (requeueFailed id now) := by
  refine (writesOnly_getTask id).bind fun task => writesOnly_ite (writesOnly_refuse _) ?_
  exact writesOnly_transition (writesOnly_updateTask h ..) fun _ => writesOnly_transitionEvent h ..

/-- A running task is given up by an operator. -/
theorem writesOnly_recoverRunning (id reason now : String) :
    WritesOnly p (recoverRunning id reason now) := by
  refine (writesOnly_getTask id).bind fun task => writesOnly_ite (writesOnly_refuse _) ?_
  exact writesOnly_transition (writesOnly_updateTask h ..) fun _ => writesOnly_transitionEvent h ..

/-- A result goes to the history; the queue moves unless the task is decided already. -/
theorem writesOnly_recordResult (report : ResultReport) : WritesOnly p (recordResult report) := by
  refine (writesOnly_read _).bind fun history => ?_
  simp only
  split
  · exact writesOnly_ite (writesOnly_pure _) (writesOnly_refuse _)
  · refine (writesOnly_getTask _).bind fun current => writesOnly_ite ?_ ?_
    · refine (writesOnly_write (h.history _)).bind fun _ => writesOnly_ite ?_ (writesOnly_pure _)
      exact (writesOnly_transitionEvent h ..).bind fun _ => writesOnly_pure _
    · refine writesOnly_ite (writesOnly_refuse _) ((writesOnly_updateTask h ..).bind fun task => ?_)
      refine (writesOnly_write (h.history _)).bind fun _ => ?_
      exact (writesOnly_transitionEvent h ..).bind fun _ => writesOnly_pure _

/-- A failure moves the task without asking for its status, and goes to the history. -/
theorem writesOnly_recordFailure (id startedAtUtc error updatedAt finishedAt freshRunId : String) :
    WritesOnly p (recordFailure id startedAtUtc error updatedAt finishedAt freshRunId) := by
  refine (writesOnly_updateTask h ..).bind fun task => ?_
  refine (writesOnly_write (h.history _)).bind fun _ => ?_
  exact (writesOnly_transitionEvent h ..).bind fun _ => writesOnly_pure _

/-- A bundle is attached to the entry, and announced. -/
theorem writesOnly_attachReviewBundle (id bundleId now : String) :
    WritesOnly p (attachReviewBundle id bundleId now) := by
  refine (writesOnly_getTask id).bind fun task => writesOnly_ite (writesOnly_refuse _) ?_
  exact writesOnly_transition (writesOnly_replaceTask h ..) fun _ => writesOnly_write (h.journal _)

/-- A failed setup moves the task. -/
theorem writesOnly_failReviewSetup (id error now : String) :
    WritesOnly p (failReviewSetup id error now) := by
  refine (writesOnly_getTask id).bind fun task => writesOnly_ite (writesOnly_refuse _) ?_
  exact writesOnly_transition (writesOnly_replaceTask h ..) fun _ => writesOnly_transitionEvent h ..

/-- A failed review leaves its error on the entry. -/
theorem writesOnly_recordReviewFailure (id error now : String) :
    WritesOnly p (recordReviewFailure id error now) := by
  refine (writesOnly_getTask id).bind fun task => writesOnly_ite (writesOnly_refuse _) ?_
  exact writesOnly_transition (writesOnly_replaceTask h ..) fun _ => writesOnly_write (h.journal _)

/-- A decision moves the task that waits for it. -/
theorem writesOnly_resolveReview (id bundleId decisionId decision summary now : String) :
    WritesOnly p (resolveReview id bundleId decisionId decision summary now) := by
  refine (writesOnly_getTask id).bind fun task => writesOnly_ite (writesOnly_refuse _) ?_
  refine writesOnly_ite (writesOnly_refuse _) ?_
  split
  · exact writesOnly_refuse _
  · exact writesOnly_transition (writesOnly_replaceTask h ..) fun _ =>
      writesOnly_transitionEvent h ..

/-- A rework requeues the task, or escalates it at its budget. -/
theorem writesOnly_confirmRework (id decisionId : String) (instructions : List String)
    (maxAttempts : Int) (now : String) :
    WritesOnly p (confirmRework id decisionId instructions maxAttempts now) := by
  have hmoves : ∀ {task : QueueTask} {changes : QueueTask → QueueTask} {event : QueueTask → StoreM Unit},
      (∀ task, WritesOnly p (event task)) → WritesOnly p (replaceTask task now changes >>=
        fun updated => event updated >>= fun _ => pure updated) := fun hevent =>
    writesOnly_transition (writesOnly_replaceTask h ..) hevent
  refine (writesOnly_getTask id).bind fun task => writesOnly_ite (writesOnly_refuse _) ?_
  refine writesOnly_ite (writesOnly_refuse _) (writesOnly_ite (writesOnly_refuse _) ?_)
  refine writesOnly_ite (writesOnly_refuse _) (writesOnly_ite ?_ ?_)
  · exact hmoves fun _ => writesOnly_transitionEvent h ..
  · exact hmoves fun _ => writesOnly_transitionEvent h ..

/-- A resolved escalation moves the task on. -/
theorem writesOnly_resolveEscalation (id resolution reason now : String) :
    WritesOnly p (resolveEscalation id resolution reason now) := by
  refine (writesOnly_getTask id).bind fun task => writesOnly_ite (writesOnly_refuse _) ?_
  refine writesOnly_ite (writesOnly_refuse _) ?_
  split
  · exact writesOnly_refuse _
  · exact writesOnly_transition (writesOnly_replaceTask h ..) fun _ =>
      writesOnly_transitionEvent h ..

/-- A task that is done is marked rolled back. -/
theorem writesOnly_markRolledBack (id targetCommit rollbackCommit now : String) :
    WritesOnly p (markRolledBack id targetCommit rollbackCommit now) := by
  refine (writesOnly_getTask id).bind fun task => writesOnly_ite (writesOnly_pure _) ?_
  refine writesOnly_ite (writesOnly_refuse _) ?_
  exact writesOnly_transition (writesOnly_replaceTask h ..) fun _ => writesOnly_transitionEvent h ..

/-- A rollback is recorded once; the same record again writes nothing. -/
theorem writesOnly_recordRollback {record : RollbackRecord} (hrecord : p (.rollbackRecord record)) :
    WritesOnly p (recordRollback record) := by
  refine (writesOnly_read _).bind fun records => ?_
  split
  · exact writesOnly_ite (writesOnly_pure _) (writesOnly_refuse _)
  · refine (writesOnly_write hrecord).bind fun _ => ?_
    exact (writesOnly_write (h.journal _)).bind fun _ => writesOnly_pure _

/-- A completed rollback marks the task first and is then recorded. -/
theorem writesOnly_completeRollback {record : RollbackRecord} (hrecord : p (.rollbackRecord record))
    (now : String) : WritesOnly p (completeRollback record now) := by
  rw [completeRollback]
  split
  · exact (writesOnly_markRolledBack h ..).bind fun _ => writesOnly_recordRollback h hrecord
  · exact writesOnly_refuse _

/-- ... and so is a bundle. -/
theorem writesOnly_recordReviewBundle {record : ReviewBundleRecord} (hrecord : p (.reviewBundle record)) :
    WritesOnly p (recordReviewBundle record) := by
  refine (writesOnly_read _).bind fun records => ?_
  split
  · exact writesOnly_ite (writesOnly_pure _) (writesOnly_refuse _)
  · refine (writesOnly_write hrecord).bind fun _ => ?_
    exact (writesOnly_write (h.journal _)).bind fun _ => writesOnly_pure _

omit h

/-- The offset is written unless it would go back. -/
theorem writesOnly_setTelegramUpdateOffset {offset : Int} (hoffset : p (.telegramOffset offset)) :
    WritesOnly p (setTelegramUpdateOffset offset) := by
  refine (writesOnly_read _).bind fun current => ?_
  split
  · exact writesOnly_ite (writesOnly_pure _) (writesOnly_write hoffset)
  · exact writesOnly_write hoffset

/-! ## Decisions -/

/-- The decision a write appends. -/
def Write.reviewDecision? : Write → Option ReviewDecisionRecord
  | .reviewDecision record => some record
  | _ => none

/-- The bundle a write appends. -/
def Write.reviewBundle? : Write → Option ReviewBundleRecord
  | .reviewBundle record => some record
  | _ => none

/-- A list of writes appends the decisions in it, in its order. -/
theorem applyAll_reviewDecisions (s : Store) (ws : List Write) :
    (s.applyAll ws).reviewDecisions = s.reviewDecisions ++ ws.filterMap Write.reviewDecision? := by
  induction ws generalizing s with
  | nil => simp [Store.applyAll]
  | cons w ws ih =>
      rw [show s.applyAll (w :: ws) = (s.apply w).applyAll ws from rfl, ih]
      cases w <;> simp [Store.apply, Write.reviewDecision?, List.filterMap_cons]

/-- ... and the bundles. -/
theorem applyAll_reviewBundles (s : Store) (ws : List Write) :
    (s.applyAll ws).reviewBundles = s.reviewBundles ++ ws.filterMap Write.reviewBundle? := by
  induction ws generalizing s with
  | nil => simp [Store.applyAll]
  | cons w ws ih =>
      rw [show s.applyAll (w :: ws) = (s.apply w).applyAll ws from rfl, ih]
      cases w <;> simp [Store.apply, Write.reviewBundle?, List.filterMap_cons]

/-- The call that appends a decision. -/
def Op.recordsDecision : Op → Bool
  | .recordReviewDecision _ => true
  | .interrupted op _ => op.recordsDecision
  | _ => false

/-- A write that appends no decision. -/
def NoDecision (w : Write) : Prop := w.reviewDecision? = none

/-- The writes of a lifecycle call append no decision. -/
theorem allows_noDecision : Allows NoDecision := ⟨fun _ => rfl, fun _ => rfl, fun _ => rfl⟩

/-- **Only `record_review_decision` appends a decision.** -/
theorem noDecision_of_op (op : Op) (hop : op.recordsDecision = false) (s : Store) :
    ∀ w ∈ opWrites op s, NoDecision w := by
  have hallows := allows_noDecision
  induction op generalizing s with
  | enqueueMany => exact (writesOnly_enqueueMany hallows _ _).each s
  | claimNext => exact (writesOnly_claimNext hallows _ _).each s
  | claimBatch => exact (writesOnly_claimBatch hallows _ _).each s
  | markRunning => exact (writesOnly_markRunning hallows _ _).each s
  | requeueFailed => exact (writesOnly_requeueFailed hallows _ _).each s
  | recoverRunning => exact (writesOnly_recoverRunning hallows _ _ _).each s
  | recordResult => exact (writesOnly_recordResult hallows _).each s
  | recordFailure => exact (writesOnly_recordFailure hallows _ _ _ _ _ _).each s
  | attachReviewBundle => exact (writesOnly_attachReviewBundle hallows _ _ _).each s
  | failReviewSetup => exact (writesOnly_failReviewSetup hallows _ _ _).each s
  | recordReviewFailure => exact (writesOnly_recordReviewFailure hallows _ _ _).each s
  | resolveReview => exact (writesOnly_resolveReview hallows _ _ _ _ _ _).each s
  | confirmRework => exact (writesOnly_confirmRework hallows _ _ _ _ _).each s
  | escalateAttemptLimit => exact (writesOnly_escalateAttemptLimit hallows _ _ _).each s
  | resolveEscalation => exact (writesOnly_resolveEscalation hallows _ _ _ _).each s
  | markRolledBack => exact (writesOnly_markRolledBack hallows _ _ _ _).each s
  | completeRollback => exact (writesOnly_completeRollback hallows rfl _).each s
  | recordRollback => exact (writesOnly_recordRollback hallows rfl).each s
  | recordReviewBundle => exact (writesOnly_recordReviewBundle hallows rfl).each s
  | recordReviewDecision => cases hop
  | recordOperatorEvent event => simp [opWrites, recordOperatorEvent, NoDecision, Write.reviewDecision?]
  | recordAuditReport record => simp [opWrites, recordAuditReport, NoDecision, Write.reviewDecision?]
  | setTelegramUpdateOffset => exact (writesOnly_setTelegramUpdateOffset (p := NoDecision) rfl).each s
  | interrupted op written ih => exact fun w hw => ih hop s w (List.mem_of_mem_take hw)

end LlmHarness
