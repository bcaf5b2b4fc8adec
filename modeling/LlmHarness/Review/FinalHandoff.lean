/-
  LlmHarness.Review.FinalHandoff

  `build_supervisor_status` and the gate of `_final_audit_handoff`.  The gate
  counts what it knows to block: queue entries by status, bundles without a
  decision, rejected bundles, unfinished operations.  A bundle whose critic
  escalated is in none of these counts, so the gate is sound exactly where no
  current bundle is escalated.
-/

import LlmHarness.Lib.Guards
import LlmHarness.Operations.SelfValid
import LlmHarness.Operator.Commands

namespace LlmHarness

open Python Durable Guards

/-! ## The status report -/

/-- What `build_supervisor_status` reads outside the store. -/
structure StatusView where
  runtime : LedgerRuntime
  ledger : Ledger
  views : Nat → ReconcileView × ReconcileView
  /-- `_parse_utc_timestamp(value) <= cutoff`. -/
  isStale : String → Except StateStoreError Bool

/-- `SupervisorStatusReport`. -/
structure SupervisorStatusReport where
  queued : Nat
  ready : Nat
  waiting : Nat
  running : Nat
  done : Nat
  failed : Nat
  rolledBack : Nat
  reviewPending : Nat
  reworkRequired : Nat
  escalated : Nat
  stale : Nat
  staleTaskIds : List String
  latestRun : Option RunRecord
  latestAudit : Option AuditRecord
  latestOperatorEvent : Option OperatorEvent
  reviewBundles : Nat
  pendingReviews : Nat
  approvedReviews : Nat
  rejectedReviews : Nat
  latestReview : Option ReviewDecisionRecord
  rollbackRecords : Nat
  latestRollback : Option RollbackRecord
  reconciliationPending : Nat
  reconciliationItems : List ReconciliationItem

/-- `_latest_tasks`. -/
def latestTasks (tasks : List QueueTask) : List QueueTask := (latestTasksById tasks).map Prod.snd

/-- One entry of `_task_counts`. -/
def taskCount (tasks : List QueueTask) (status : TaskStatus) : Nat :=
  tasks.countP fun task => task.status = status

/-- `latest_bundles_by_task.values()`. -/
def latestBundles (bundles : List ReviewBundleRecord) : List ReviewBundleRecord :=
  (dictOfPairs (bundles.map fun bundle => (bundle.workItemId, bundle))).map Prod.snd

/-- `decisions_by_bundle.get(bundle_id)`. -/
def decisionOn (decisions : List ReviewDecisionRecord) (bundleId : String) :
    Option ReviewDecisionRecord :=
  dictGet? (dictOfPairs (decisions.map fun decision => (decision.bundleId, decision))) bundleId

/-- `current_decisions`. -/
def currentDecisions (s : Store) : List (Option ReviewDecisionRecord) :=
  (latestBundles s.reviewBundles).map fun bundle => decisionOn s.reviewDecisions bundle.bundleId

/-- `decision is not None and decision.decision == verdict`. -/
def hasVerdict (verdict : ReviewDecision) (decision : Option ReviewDecisionRecord) : Bool :=
  decision.map ReviewDecisionRecord.decision = some verdict

/-- The report, with the stale tasks and the items of the reconciliation. -/
def supervisorStatus (s : Store) (staleTasks : List QueueTask) (items : List ReconciliationItem) :
    SupervisorStatusReport :=
  let latest := latestTasks s.tasks
  let decisions := currentDecisions s
  { queued := taskCount latest .queued
    ready := (schedule s.tasks).ready.length
    waiting := (schedule s.tasks).waiting.length
    running := taskCount latest .running
    done := taskCount latest .done
    failed := taskCount latest .failed
    rolledBack := taskCount latest .rolledBack
    reviewPending := taskCount latest .reviewPending
    reworkRequired := taskCount latest .reworkRequired
    escalated := taskCount latest .escalated
    stale := staleTasks.length
    staleTaskIds := staleTasks.map QueueTask.id
    latestRun := s.history.getLast?
    latestAudit := s.auditReports.getLast?
    latestOperatorEvent := s.operatorEvents.getLast?
    reviewBundles := s.reviewBundles.length
    pendingReviews := decisions.countP Option.isNone
    approvedReviews := decisions.countP (hasVerdict .approve)
    rejectedReviews := decisions.countP (hasVerdict .reject)
    latestReview := s.reviewDecisions.getLast?
    rollbackRecords := s.rollbackRecords.length
    latestRollback := s.rollbackRecords.getLast?
    reconciliationPending := (items.filter fun item => !item.terminal).length
    reconciliationItems := items }

/-- `build_supervisor_status`. -/
def buildSupervisorStatus (view : StatusView) (s : Store) :
    Except OperationError SupervisorStatusReport := do
  let staleTasks ← (staleRunningTasks (some view.isStale) s.tasks).mapError fun e => .state e.message
  let items ← (reconcile view.runtime false view.views view.ledger).value
  return supervisorStatus s staleTasks items

/-! ## The handoff -/

/-- How a handoff ends. -/
inductive HandoffStatus where
  | rollbackBlocked (rolledBack : Nat)
  | reviewBlocked (pendingReviews rejectedReviews : Nat)
  | taskStateBlocked (blockingStates : List (String × Nat))
  | ready
  | auditFailed
deriving DecidableEq, Repr

/-- The status, the exit code and the text for the user. -/
structure Handoff where
  status : HandoffStatus
  exitCode : Nat
  message : Option String := none
deriving DecidableEq, Repr

/-- `blocking_states`. -/
def blockingStates (report : SupervisorStatusReport) : List (String × Nat) :=
  [("queued", report.queued), ("running", report.running), ("failed", report.failed),
    ("review_pending", report.reviewPending), ("rework_required", report.reworkRequired),
    ("escalated", report.escalated), ("stale", report.stale),
    ("reconciliation_pending", report.reconciliationPending)].filter fun state => state.2 ≠ 0

/-- The checks before the audit: the refusal, if there is one. -/
def handoffRefusal (report : SupervisorStatusReport) : Option Handoff :=
  if report.rolledBack ≠ 0 then
    some ⟨.rollbackBlocked report.rolledBack, 1, some ("HoH final handoff blocked by rolled-back " ++
      "task state.\nRolled-back tasks: " ++ toString report.rolledBack ++ "\nQueue a corrected " ++
      "replacement lifecycle for the same task id and complete its verification before final " ++
      "handoff.")⟩
  else if report.pendingReviews ≠ 0 ∨ report.rejectedReviews ≠ 0 then
    some ⟨.reviewBlocked report.pendingReviews report.rejectedReviews, 1, some ("HoH final handoff " ++
      "blocked by external review evidence.\nPending reviews: " ++ toString report.pendingReviews ++
      "\nRejected reviews: " ++ toString report.rejectedReviews ++ "\nResolve it with one of:\n" ++
      "- review: import a conforming verifier decision, or create a new reviewed run.\n" ++
      "- stop: change nothing and inspect the state yourself.\n" ++
      "HoH does not choose for you; free-form replies are only recorded as operator notes.")⟩
  else if blockingStates report ≠ [] then
    let summary := ", ".intercalate ((blockingStates report).map fun state =>
      state.1 ++ "=" ++ toString state.2)
    some ⟨.taskStateBlocked (blockingStates report), 1, some ("HoH final handoff blocked by " ++
      "unresolved supervisor state.\nBlocking state: " ++ summary ++ "\nInspect queue-list and " ++
      "supervisor-status. Retry reviewed failed tasks, recover only confirmed interrupted tasks, " ++
      "and resolve review, escalation, or reconciliation blockers before final handoff.")⟩
  else none

/-- `_final_audit_handoff`, with the audit it comes to, if it comes to one. -/
def finalAuditHandoff (view : StatusView) (audit : AuditRecord) (s : Store) :
    Except OperationError (Handoff × List Write) := do
  let report ← buildSupervisorStatus view s
  match handoffRefusal report with
  | some refusal => return (refusal, [])
  | none =>
    return (⟨if audit.ok then .ready else .auditFailed, if audit.ok then 0 else 1, none⟩,
      (recordAuditReport audit s).writes)

/-- The handoff went on to the project audit. -/
def HandoffStatus.audited : HandoffStatus → Bool
  | .ready | .auditFailed => true
  | _ => false

/-! ## Operations that block -/

/-- An operation that no longer blocks canonical work. -/
def LedgerEntry.Ended : LedgerEntry → Prop
  | .valid record => isNull (field record "terminal_outcome") = false
  | .corrupted _ _ => False

section

variable {runtime : LedgerRuntime} {view : ReconcileView}

/-- An ended operation is classified as terminal. -/
theorem classification_of_ended {entry : LedgerEntry} (h : entry.Ended) :
    ∃ item, classification runtime view entry = .ok (item, none) ∧ item.terminal = true := by
  cases entry with
  | corrupted operationId message => exact h.elim
  | valid record =>
      have hended : (!isNull (field record "terminal_outcome")) = true := by
        have hfalse : isNull (field record "terminal_outcome") = false := h
        rw [hfalse]
        rfl
      rw [classification, if_pos hended]
      exact ⟨_, rfl, rfl⟩

/-- A branch of two results. -/
theorem ite_cases {ε α : Type} {condition : Prop} [Decidable condition] {x y z : Except ε α}
    (h : (if condition then x else y) = z) : x = z ∨ y = z := by
  by_cases hcondition : condition
  · exact Or.inl ((if_pos hcondition).symm.trans h)
  · exact Or.inr ((if_neg hcondition).symm.trans h)

/-- The worktree alone ends no operation. -/
theorem terminal_of_classifyWorktree {record : OperationRecord}
    {report : String → Option String → String → ReconciliationItem} {head : String} {clean : Bool}
    {item : ReconciliationItem} (hreport : ∀ a b c, (report a b c).terminal = false)
    (h : classifyWorktree runtime view record report head clean = .ok item) :
    item.terminal = false := by
  have hok : ∀ {a b c}, (Except.ok (report a b c) : Except OperationError _) = .ok item →
      item.terminal = false := by
    intro a b c heq
    rw [← Except.ok.inj heq]
    exact hreport a b c
  rw [classifyWorktree] at h
  by_cases hhead : isText (field record "baseline_head") head = true
  · rw [if_pos hhead] at h
    by_cases hclean : clean = true
    · rw [if_pos hclean] at h
      exact hok h
    · rw [if_neg hclean] at h
      obtain h | h := ite_cases h
      · obtain ⟨actual, -, hitem⟩ := bind_eq_ok.mp h
        obtain h | h := ite_cases hitem
        · exact hok h
        · exact hok h
      · exact hok h
  · rw [if_neg hhead] at h
    exact hok h

/-- Any other operation is not. -/
theorem classification_of_not_ended {entry : LedgerEntry} {item : ReconciliationItem}
    {rewritten : Option OperationRecord} (hended : ¬ entry.Ended)
    (h : classification runtime view entry = .ok (item, rewritten)) : item.terminal = false := by
  -- the branches of the source: each item it makes for an open record is not terminal
  cases entry with
  | corrupted operationId message =>
      obtain ⟨rfl, -⟩ := Prod.mk.inj (Except.ok.inj h)
      rfl
  | valid record =>
      have hopen : ¬ (!isNull (field record "terminal_outcome")) = true := by
        intro hnot
        apply hended
        show isNull (field record "terminal_outcome") = false
        simpa using hnot
      -- the record has no terminal outcome, so the evidence is read
      rw [classification, if_neg hopen] at h
      cases hevidence : view.evidence record with
      | error e =>
          simp only [hevidence] at h
          obtain ⟨rfl, -⟩ := Prod.mk.inj (Except.ok.inj h)
          rfl
      | ok evidence =>
          obtain ⟨stateComplete, commit, head, clean⟩ := evidence
          simp only [hevidence] at h
          -- the state knows the run: the operation completed
          cases stateComplete with
          | true =>
              obtain ⟨rfl, -⟩ := Prod.mk.inj (Except.ok.inj h)
              rfl
          | false =>
              cases commit with
              -- no commit: the worktree decides
              | none =>
                  obtain ⟨left, hleft, hitem⟩ := bind_eq_ok.mp h
                  obtain ⟨rfl, -⟩ := Prod.mk.inj (Except.ok.inj hitem)
                  exact terminal_of_classifyWorktree (fun _ _ _ => rfl) hleft
              -- a commit that can be read, or not
              | some commit =>
                  cases hcommit : view.commitEvidence commit with
                  | error e =>
                      simp only [hcommit] at h
                      obtain ⟨rfl, -⟩ := Prod.mk.inj (Except.ok.inj h)
                      rfl
                  | ok carried =>
                      obtain ⟨full, parents, changed⟩ := carried
                      simp only [hcommit] at h
                      obtain h | h := ite_cases h
                      · obtain ⟨rfl, -⟩ := Prod.mk.inj (Except.ok.inj h)
                        rfl
                      · obtain ⟨rfl, -⟩ := Prod.mk.inj (Except.ok.inj h)
                        rfl

/-- `_classify` reports what it finds, whether or not it writes the record back. -/
theorem classify_value (entry : LedgerEntry) (ledger : Ledger) :
    (classify runtime view entry ledger).value.map Prod.fst =
      (classification runtime view entry).map Prod.fst := by
  rw [classify]
  cases hfound : classification runtime view entry with
  | error e => rfl
  | ok found =>
      obtain ⟨item, rewritten⟩ := found
      cases rewritten with
      | none => rfl
      | some record => rfl

/-- Without completion an entry is reported as it is classified. -/
theorem reconcileEntry_value (after : ReconcileView) (entry : LedgerEntry) (ledger : Ledger) :
    (reconcileEntry runtime false view after entry ledger).value =
      (classification runtime view entry).map Prod.fst := by
  rw [← classify_value entry ledger, reconcileEntry, Durable.bind_run]
  cases hvalue : (classify runtime view entry ledger).value with
  | error e => rfl
  | ok found => rfl

end

/-- A reconciliation without completion blocks on nothing exactly when every operation
    ended. -/
theorem reconcileLoop_blocking (runtime : LedgerRuntime)
    (views : Nat → ReconcileView × ReconcileView) (entries : List LedgerEntry) (index : Nat)
    (ledger : Ledger) :
    (∃ items, (reconcileLoop runtime false views index entries ledger).value = .ok items ∧
      ∀ item ∈ items, item.terminal = true) ↔ ∀ entry ∈ entries, entry.Ended := by
  -- the induction is on the entries, with the index and the ledger free
  induction entries generalizing index ledger with
  | nil => exact iff_of_true ⟨[], rfl, List.forall_mem_nil _⟩ (List.forall_mem_nil _)
  | cons entry entries ih =>
      have hentry : (reconcileEntry runtime false (views index).1 (views index).2 entry ledger).value =
          (classification runtime (views index).1 entry).map Prod.fst :=
        reconcileEntry_value (views index).2 entry ledger
      have hended : entry.Ended → ∃ item,
          classification runtime (views index).1 entry = .ok (item, none) ∧ item.terminal = true :=
        classification_of_ended
      rw [reconcileLoop, Durable.bind_run, List.forall_mem_cons]
      cases hfound : classification runtime (views index).1 entry with
      -- an open entry whose classification raises ends the loop
      | error e =>
          rw [hfound] at hentry
          have hopen : ¬ entry.Ended := by
            intro h
            obtain ⟨item, hitem, -⟩ := hended h
            cases hfound.symm.trans hitem
          rw [hentry]
          refine iff_of_false ?_ fun h => hopen h.1
          rintro ⟨items, h, -⟩
          cases h
      | ok found =>
          obtain ⟨item, rewritten⟩ := found
          rw [hfound] at hentry
          rw [hentry, ← ih (index + 1) (applyAll ledger
            (reconcileEntry runtime false (views index).1 (views index).2 entry ledger).writes)]
          -- the item is terminal exactly when the entry has ended
          have hterminal : item.terminal = true ↔ entry.Ended := by
            constructor
            · intro hitem
              by_contra hopen
              rw [classification_of_not_ended hopen hfound] at hitem
              cases hitem
            · intro h
              obtain ⟨ended, hitem, hterminal⟩ := hended h
              obtain ⟨rfl, -⟩ := Prod.mk.inj (Except.ok.inj (hfound.symm.trans hitem))
              exact hterminal
          -- the items of the rest are added to the item of the entry
          have hrest : ∀ rest : LedgerM (List ReconciliationItem), ∀ left,
              ((rest >>= fun items => pure (item :: items)) left).value =
                (rest left).value.map fun items => item :: items := by
            intro rest left
            rw [Durable.bind_run]
            cases (rest left).value with
            | error e => rfl
            | ok items => rfl
          constructor
          · rintro ⟨items, hvalue, hall⟩
            have hvalue' := (hrest _ _).symm.trans hvalue
            cases hloop : (reconcileLoop runtime false views (index + 1) entries (applyAll ledger
                (reconcileEntry runtime false (views index).1 (views index).2 entry
                  ledger).writes)).value with
            | error e =>
                rw [hloop] at hvalue'
                cases hvalue'
            | ok rest =>
                rw [hloop] at hvalue'
                obtain rfl : item :: rest = items := Except.ok.inj hvalue'
                obtain ⟨hitem, hall⟩ := List.forall_mem_cons.mp hall
                exact ⟨hterminal.mp hitem, rest, rfl, hall⟩
          · rintro ⟨hended, rest, hloop, hall⟩
            refine ⟨item :: rest, ?_, List.forall_mem_cons.mpr ⟨hterminal.mpr hended, hall⟩⟩
            refine (hrest _ _).trans ?_
            rw [hloop]
            rfl

/-! ## The gate -/

/-- The critic's last word on the last bundle of a work item. -/
def currentVerdict (s : Store) (workItemId : String) : Option (Option ReviewDecision) :=
  (KeyedLog.last? ReviewBundleRecord.workItemId s.reviewBundles workItemId).map fun bundle =>
    (KeyedLog.last? ReviewDecisionRecord.bundleId s.reviewDecisions bundle.bundleId).map
      ReviewDecisionRecord.decision

/-- Every task is done, no operation is open, and the last bundle of each work item that has
    bundles is approved. -/
structure ReadyForAudit (view : StatusView) (s : Store) : Prop where
  done : ∀ id task, latestTask? s.tasks id = some task → task.status = .done
  ended : ∀ entry ∈ ledgerRecords view.runtime view.ledger, entry.Ended
  approved : ∀ id verdict, currentVerdict s id = some verdict → verdict = some .approve

/-- Nothing the gate counts is there. -/
structure NothingCounted (view : StatusView) (s : Store) : Prop where
  done : ∀ id task, latestTask? s.tasks id = some task → task.status = .done
  fresh : staleRunningTasks (some view.isStale) s.tasks = .ok []
  ended : ∀ entry ∈ ledgerRecords view.runtime view.ledger, entry.Ended
  decided : ∀ id verdict, currentVerdict s id = some verdict →
    verdict ≠ none ∧ verdict ≠ some .reject

/-- The handoff goes on to the audit only when everything is ready. -/
def GateSound (view : StatusView) (audit : AuditRecord) (s : Store) : Prop :=
  ∀ handoff writes, finalAuditHandoff view audit s = .ok (handoff, writes) →
    handoff.status.audited = true → ReadyForAudit view s

/-- A dictionary of entries under their keys keeps the last entry of each key. -/
theorem dictGet?_dictOfPairs_last {α : Type} (key : α → String) (xs : List α) (k : String) :
    dictGet? (dictOfPairs (xs.map fun x => (key x, x))) k = KeyedLog.last? key xs k := by
  rw [dictGet?_dictOfPairs, ← List.map_reverse, dictGet?, List.find?_map, Option.map_map,
    KeyedLog.last?]
  exact Option.map_id'

theorem mem_values_dictOfPairs {α : Type} (key : α → String) (xs : List α) (a : α) :
    a ∈ (dictOfPairs (xs.map fun x => (key x, x))).map Prod.snd ↔
      ∃ k, KeyedLog.last? key xs k = some a := by
  have hnodup := nodup_keys_dictOfPairs (xs.map fun x => (key x, x))
  constructor
  · intro hmem
    obtain ⟨⟨k, b⟩, hentry, rfl⟩ := List.mem_map.mp hmem
    have hget := (mem_iff_dictGet? hnodup k b).mp hentry
    rw [dictGet?_dictOfPairs_last] at hget
    exact ⟨k, hget⟩
  · rintro ⟨k, hlast⟩
    rw [← dictGet?_dictOfPairs_last] at hlast
    exact List.mem_map.mpr ⟨(k, a), (mem_iff_dictGet? hnodup k a).mpr hlast, rfl⟩

/-- The verdicts the gate counts are the current ones. -/
theorem mem_currentDecisions (s : Store) (verdict : Option ReviewDecision) :
    (∃ decision ∈ currentDecisions s, decision.map ReviewDecisionRecord.decision = verdict) ↔
      ∃ id, currentVerdict s id = some verdict := by
  simp only [currentDecisions, List.mem_map, currentVerdict, Option.map_eq_some_iff]
  constructor
  · rintro ⟨decision, ⟨bundle, hbundle, rfl⟩, rfl⟩
    obtain ⟨id, hlast⟩ := (mem_values_dictOfPairs _ _ _).mp hbundle
    refine ⟨id, bundle, hlast, ?_⟩
    rw [decisionOn, dictGet?_dictOfPairs_last]
  · rintro ⟨id, bundle, hlast, rfl⟩
    refine ⟨_, ⟨bundle, (mem_values_dictOfPairs _ _ _).mpr ⟨id, hlast⟩, rfl⟩, ?_⟩
    rw [decisionOn, dictGet?_dictOfPairs_last]

/-- No entry has a status other than `done` exactly when the seven counts are zero. -/
theorem forall_done_iff (tasks : List QueueTask) :
    (∀ id task, latestTask? tasks id = some task → task.status = .done) ↔
      ∀ status ≠ TaskStatus.done, taskCount (latestTasks tasks) status = 0 := by
  have hcount : ∀ status, taskCount (latestTasks tasks) status = 0 ↔
      ∀ id task, latestTask? tasks id = some task → task.status ≠ status := by
    intro status
    rw [taskCount, List.countP_eq_zero]
    constructor
    · intro h id task htask
      have hmem := (mem_values_dictOfPairs QueueTask.id tasks task).mpr ⟨id, htask⟩
      simpa using h task hmem
    · intro h task hmem
      obtain ⟨id, htask⟩ := (mem_values_dictOfPairs QueueTask.id tasks task).mp hmem
      simpa using h id task htask
  simp only [hcount]
  constructor
  · intro h status hstatus id task htask heq
    exact hstatus (heq.symm.trans (h id task htask))
  · intro h id task htask
    by_contra hnot
    exact h task.status hnot id task htask rfl

theorem handoffRefusal_eq_none {report : SupervisorStatusReport} :
    handoffRefusal report = none ↔ report.rolledBack = 0 ∧ report.pendingReviews = 0 ∧
      report.rejectedReviews = 0 ∧ blockingStates report = [] := by
  rw [handoffRefusal]
  by_cases hrolled : report.rolledBack = 0
  · by_cases hreviews : report.pendingReviews = 0 ∧ report.rejectedReviews = 0
    · by_cases hblocking : blockingStates report = []
      · simp [hrolled, hreviews.1, hreviews.2, hblocking]
      · simp [hrolled, hreviews.1, hreviews.2, hblocking]
    · have hblocked : report.pendingReviews ≠ 0 ∨ report.rejectedReviews ≠ 0 := by omega
      rw [if_neg (by simp [hrolled]), if_pos hblocked]
      exact iff_of_false (by simp) fun h => hreviews ⟨h.2.1, h.2.2.1⟩
  · rw [if_pos hrolled]
    exact iff_of_false (by simp) fun h => hrolled h.1

/-- No refusal is an audit. -/
theorem not_audited_of_refusal {report : SupervisorStatusReport} {refusal : Handoff}
    (h : handoffRefusal report = some refusal) : refusal.status.audited = false := by
  rw [handoffRefusal] at h
  by_cases hrolled : report.rolledBack ≠ 0
  · rw [if_pos hrolled] at h
    obtain rfl := Option.some.inj h
    rfl
  · rw [if_neg hrolled] at h
    by_cases hreviews : report.pendingReviews ≠ 0 ∨ report.rejectedReviews ≠ 0
    · rw [if_pos hreviews] at h
      obtain rfl := Option.some.inj h
      rfl
    · rw [if_neg hreviews] at h
      by_cases hblocking : blockingStates report ≠ []
      · rw [if_pos hblocking] at h
        obtain rfl := Option.some.inj h
        rfl
      · rw [if_neg hblocking] at h
        cases h

theorem blockingStates_eq_nil {report : SupervisorStatusReport} :
    blockingStates report = [] ↔ report.queued = 0 ∧ report.running = 0 ∧ report.failed = 0 ∧
      report.reviewPending = 0 ∧ report.reworkRequired = 0 ∧ report.escalated = 0 ∧
      report.stale = 0 ∧ report.reconciliationPending = 0 := by
  simp [blockingStates]

/-- The counts that are zero where the report blocks nothing. -/
theorem handoffRefusal_supervisorStatus (s : Store) (staleTasks : List QueueTask)
    (items : List ReconciliationItem) :
    handoffRefusal (supervisorStatus s staleTasks items) = none ↔
      (∀ id task, latestTask? s.tasks id = some task → task.status = .done) ∧ staleTasks = [] ∧
        (∀ item ∈ items, item.terminal = true) ∧
        ∀ id verdict, currentVerdict s id = some verdict → verdict ≠ none ∧ verdict ≠ some .reject := by
  -- a count is zero when no current decision has the verdict
  have hcount : ∀ (verdict : Option ReviewDecision) (p : Option ReviewDecisionRecord → Bool),
      (∀ decision, p decision = true ↔ decision.map ReviewDecisionRecord.decision = verdict) →
        ((currentDecisions s).countP p = 0 ↔ ∀ id, currentVerdict s id ≠ some verdict) := by
    intro verdict p hp
    rw [List.countP_eq_zero]
    constructor
    · intro hnone id hverdict
      obtain ⟨decision, hmem, hdecision⟩ := (mem_currentDecisions s verdict).mpr ⟨id, hverdict⟩
      exact hnone decision hmem ((hp decision).mpr hdecision)
    · intro hnone decision hmem hdecision
      obtain ⟨id, hverdict⟩ := (mem_currentDecisions s verdict).mp
        ⟨decision, hmem, (hp decision).mp hdecision⟩
      exact hnone id hverdict
  have hpending : (supervisorStatus s staleTasks items).pendingReviews = 0 ↔
      ∀ id, currentVerdict s id ≠ some none := hcount none _ (by simp)
  have hrejected : (supervisorStatus s staleTasks items).rejectedReviews = 0 ↔
      ∀ id, currentVerdict s id ≠ some (some .reject) :=
    hcount (some .reject) _ (by simp [hasVerdict])
  have hitems : (supervisorStatus s staleTasks items).reconciliationPending = 0 ↔
      ∀ item ∈ items, item.terminal = true := by
    have hlength : (supervisorStatus s staleTasks items).reconciliationPending =
        (items.filter fun item => !item.terminal).length := rfl
    rw [hlength, List.length_eq_zero_iff, List.filter_eq_nil_iff]
    simp
  have hstale : (supervisorStatus s staleTasks items).stale = 0 ↔ staleTasks = [] :=
    List.length_eq_zero_iff
  rw [handoffRefusal_eq_none, blockingStates_eq_nil, hpending, hrejected, hitems, hstale,
    forall_done_iff]
  -- the blocking list is empty when all its counts are zero
  constructor
  · rintro ⟨hrolled, hundecided, hunrejected, hqueued, hrunning, hfailed, hreview, hrework,
      hescalated, hfresh, hended⟩
    refine ⟨fun status hstatus => ?_, hfresh, hended, fun id verdict hverdict => ?_⟩
    · cases status with
      | queued => exact hqueued
      | running => exact hrunning
      | reviewPending => exact hreview
      | reworkRequired => exact hrework
      | escalated => exact hescalated
      | done => exact absurd rfl hstatus
      | failed => exact hfailed
      | rolledBack => exact hrolled
    · refine ⟨?_, ?_⟩
      · rintro rfl
        exact hundecided id hverdict
      · rintro rfl
        exact hunrejected id hverdict
  · rintro ⟨hzero, hfresh, hended, hdecided⟩
    -- the other direction reads the counts back from the latest tasks
    have hstatus : ∀ status, status ≠ TaskStatus.done → taskCount (latestTasks s.tasks) status = 0 :=
      hzero
    exact ⟨hstatus .rolledBack (by decide), fun id h => (hdecided id _ h).1 rfl,
      fun id h => (hdecided id _ h).2 rfl, hstatus .queued (by decide), hstatus .running (by decide),
      hstatus .failed (by decide), hstatus .reviewPending (by decide),
      hstatus .reworkRequired (by decide), hstatus .escalated (by decide), hfresh, hended⟩

/-- The handoff goes on to the audit exactly when nothing it counts is there. -/
theorem audited_iff (view : StatusView) (audit : AuditRecord) (s : Store) :
    (∃ handoff writes, finalAuditHandoff view audit s = .ok (handoff, writes) ∧
      handoff.status.audited = true) ↔ NothingCounted view s := by
  have hblocking := reconcileLoop_blocking view.runtime view.views
    (ledgerRecords view.runtime view.ledger) 0 view.ledger
  have hreconcile : (reconcile view.runtime false view.views view.ledger).value =
      (reconcileLoop view.runtime false view.views 0 (ledgerRecords view.runtime view.ledger)
        view.ledger).value := rfl
  -- the status is built, or one of its two inputs raises
  cases hstale : staleRunningTasks (some view.isStale) s.tasks with
  | error e =>
      refine iff_of_false ?_ fun hcounted => (nomatch hstale.symm.trans hcounted.fresh)
      rintro ⟨handoff, writes, hhandoff, -⟩
      rw [finalAuditHandoff, buildSupervisorStatus, hstale] at hhandoff
      cases hhandoff
  | ok staleTasks =>
      cases hitems : (reconcile view.runtime false view.views view.ledger).value with
      | error e =>
          refine iff_of_false ?_ fun hcounted => ?_
          · rintro ⟨handoff, writes, hhandoff, -⟩
            rw [finalAuditHandoff, buildSupervisorStatus, hstale, hitems] at hhandoff
            cases hhandoff
          · obtain ⟨items, hvalue, -⟩ := hblocking.mpr hcounted.ended
            cases hitems.symm.trans (hreconcile.trans hvalue)
      | ok items =>
          -- no item is open exactly when every record of the ledger has ended
          have hended : (∀ item ∈ items, item.terminal = true) ↔
              ∀ entry ∈ ledgerRecords view.runtime view.ledger, entry.Ended := by
            rw [← hblocking, ← hreconcile, hitems]
            constructor
            · exact fun hall => ⟨items, rfl, hall⟩
            · rintro ⟨items', hvalue, hall⟩
              obtain rfl := Except.ok.inj hvalue
              exact hall
          have hfresh : staleTasks = [] ↔ staleRunningTasks (some view.isStale) s.tasks = .ok [] := by
            rw [hstale, Except.ok.injEq]
          have hrefusal := handoffRefusal_supervisorStatus s staleTasks items
          rw [hended, hfresh] at hrefusal
          -- with both inputs read, the handoff refuses or records the audit
          have hhandoff : finalAuditHandoff view audit s =
              (match handoffRefusal (supervisorStatus s staleTasks items) with
                | some refusal => .ok (refusal, [])
                | none => .ok (⟨if audit.ok then .ready else .auditFailed,
                    if audit.ok then 0 else 1, none⟩, (recordAuditReport audit s).writes)) := by
            have hreport : buildSupervisorStatus view s =
                .ok (supervisorStatus s staleTasks items) := by
              rw [buildSupervisorStatus, hstale, hitems]
              rfl
            rw [finalAuditHandoff, hreport]
            rfl
          rw [hhandoff]
          cases hresult : handoffRefusal (supervisorStatus s staleTasks items) with
          | none =>
              obtain ⟨hdone, hfresh, hended, hdecided⟩ := hrefusal.mp hresult
              refine iff_of_true ⟨_, _, rfl, ?_⟩ ⟨hdone, hfresh, hended, hdecided⟩
              cases audit.ok with
              | true => rfl
              | false => rfl
          | some refusal =>
              refine iff_of_false ?_ fun hcounted => ?_
              · rintro ⟨handoff, writes, heq, haudited⟩
                obtain ⟨rfl, -⟩ := Prod.mk.inj (Except.ok.inj heq)
                rw [not_audited_of_refusal hresult] at haudited
                cases haudited
              · have hnone := hrefusal.mpr
                  ⟨hcounted.done, hcounted.fresh, hcounted.ended, hcounted.decided⟩
                cases hresult.symm.trans hnone

/-- **The gate is sound exactly where no current bundle is escalated**, or where it blocks
    for another reason. -/
theorem gateSound_iff (view : StatusView) (audit : AuditRecord) (ops : List Op) :
    GateSound view audit (execute ops) ↔ (NothingCounted view (execute ops) →
      ∀ id, currentVerdict (execute ops) id ≠ some (some .escalate)) := by
  constructor
  · intro hsound hcounted id hescalated
    obtain ⟨handoff, writes, hhandoff, haudited⟩ := (audited_iff view audit _).mpr hcounted
    have happroved := (hsound handoff writes hhandoff haudited).approved id _ hescalated
    cases happroved
  · intro hclear handoff writes hhandoff haudited
    have hcounted := (audited_iff view audit _).mp ⟨handoff, writes, hhandoff, haudited⟩
    refine ⟨hcounted.done, hcounted.ended, fun id verdict hverdict => ?_⟩
    obtain ⟨hdecided, haccepted⟩ := hcounted.decided id verdict hverdict
    cases verdict with
    | none => exact absurd rfl hdecided
    | some verdict =>
        cases verdict with
        | approve => rfl
        | reject => exact absurd rfl haccepted
        | escalate => exact absurd hverdict (hclear hcounted id)

/-! ## An escalated bundle that nothing counts -/

/-- The bundle of the first result. -/
def escalatedBundle : ReviewBundleRecord :=
  ⟨"b1", "t2", "r1", "a", "c1", "digest", "review-bundles/b1.json"⟩

/-- The critic escalates it. -/
def escalateDecision : ReviewDecisionRecord :=
  { decisionId := "d1"
    bundleId := "b1"
    bundleSha256 := "digest"
    runId := "r1"
    workItemId := "a"
    commit := "c1"
    reviewerId := "critic"
    reviewerKind := "model"
    decision := .escalate
    summary := "unclear"
    findings := []
    createdAtUtc := "t3"
    importedAtUtc := "t3"
    protocolVersion := "2.0" }

/-- The operator requeues the escalated task, and its second result needs no review. -/
def escalatedRun : List Op :=
  [.enqueueMany [(sampleItem "a", "")] "t0", .claimNext none "t1", recordAccepted "a" "c1" "r1" true,
    .recordReviewBundle escalatedBundle, .attachReviewBundle "a" "b1" "t2",
    .recordReviewDecision escalateDecision,
    .resolveReview "a" "b1" "d1" "escalate" "unclear" "t3",
    .resolveEscalation "a" "requeue" "answered" "t4", .claimNext none "t5",
    recordAccepted "a" "c2" "r2"]

/-- A reconciliation that finds nothing to read. -/
def idleReconcileView : ReconcileView where
  stateComplete _ := .ok false
  findCommit _ := .ok none
  head := .ok "c2"
  clean := .ok true
  resolveCommit := .ok
  commitParents _ := .ok []
  commitChangedFiles _ := .ok []
  workingChangedFiles := .ok []
  tree _ := .absent
  completeStore _ := .ok ()
  now := "t6"

/-- No operation is recorded, and nothing is stale. -/
def idleStatusView : StatusView where
  runtime := oneFileRuntime
  ledger := {}
  views _ := (idleReconcileView, idleReconcileView)
  isStale _ := .ok false

theorem nothingCounted_escalatedRun : NothingCounted idleStatusView (execute escalatedRun) where
  done := by
    intro id task htask
    have hall : ∀ task ∈ (execute escalatedRun).tasks, task.status = .done := by decide +kernel
    exact hall task (KeyedLog.mem_of_last? htask).1
  fresh := rfl
  ended := fun _ h => (nomatch h)
  decided := by
    intro id verdict hverdict
    rw [currentVerdict, Option.map_eq_some_iff] at hverdict
    obtain ⟨bundle, hbundle, rfl⟩ := hverdict
    have hall : ∀ bundle ∈ (execute escalatedRun).reviewBundles, bundle = escalatedBundle := by
      decide +kernel
    rw [hall bundle (KeyedLog.mem_of_last? hbundle).1]
    decide +kernel

/-- The gate goes on to the audit over an escalated bundle. -/
theorem not_gateSound_escalatedRun :
    ¬ GateSound idleStatusView ⟨"audit-1", "t6", true, "audit.md", 0, 1⟩ (execute escalatedRun) := by
  intro hsound
  obtain ⟨handoff, writes, hhandoff, haudited⟩ :=
    (audited_iff idleStatusView ⟨"audit-1", "t6", true, "audit.md", 0, 1⟩ _).mpr
      nothingCounted_escalatedRun
  have hescalated : currentVerdict (execute escalatedRun) "a" = some (some .escalate) := by
    decide +kernel
  have happroved := (hsound handoff writes hhandoff haudited).approved "a" _ hescalated
  cases happroved

end LlmHarness
