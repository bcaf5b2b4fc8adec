/-
  LlmHarness.Review.Retry

  A critic run that a crash cuts short after its decision was recorded, and the
  next critic run on the bundle.  Once the queue was rewritten nothing waits for
  the bundle any more; before that the retry asks the critic again, and its new
  document meets the recorded decision as a stranger.
-/

import LlmHarness.Review.Critic

namespace LlmHarness

open Python Durable Durable.Program

variable {runtime : Runtime} {call : CriticCall} {w : ReviewWorld}

/-! ## The writes of a review -/

/-- A review that is conducted asks the critic. -/
theorem criticCall_mem_conductReview (bundle : List (String × Json)) (workItemId : String)
    (w : ReviewWorld) :
    ReviewWrite.criticCall ∈ (conductReview runtime call bundle workItemId w).writes := by
  rcases attemptReview_cases runtime call bundle w with ⟨e, h⟩ | ⟨_, _, outcome, -, -, -, h⟩
  · obtain ⟨handled, e', hconduct, -⟩ := conductReview_of_error workItemId h
    simp [hconduct]
  · cases hvalue : outcome.value with
    | error e =>
        rw [hvalue] at h
        obtain ⟨handled, e', hconduct, -⟩ := conductReview_of_error workItemId h
        simp [hconduct]
    | ok decision =>
        rw [hvalue] at h
        simp [conductReview_of_ok workItemId h]

/-- A review that records a decision on a pending bundle: all it writes. -/
structure RecordedReview (call : CriticCall) (record : ReviewDecisionRecord) (w : ReviewWorld)
    (task new : QueueTask) (pre post : List QueueTask) (writes : List ReviewWrite) : Prop where
  writes : ∃ path document e e' event, writes =
    [.criticCall, .file path document, .store (.reviewDecision record), .store (.journal e),
      .store (.journal e'), .store (.queue (pre ++ new :: post)), .store (.journal event)]
  split : w.store.tasks = pre ++ task :: post
  waiting : w.store.tasks.filter (QueueTask.awaits call.bundleId) = [task]
  item : record.workItemId = task.id
  resolved : Resolved task new record.decision record.decisionId

theorem recordedReview_of_mem {record : ReviewDecisionRecord} (hw : ReachableWorld runtime w)
    (hpending : PendingBundle runtime call w)
    (hmem : ReviewWrite.store (.reviewDecision record) ∈ (runCriticReview runtime call w).writes) :
    ∃ task new pre post,
      RecordedReview call record w task new pre post (runCriticReview runtime call w).writes := by
  -- an attempt that raised recorded nothing, and neither does the handler
  have hraised : ∀ {bundle : List (String × Json)} {workItemId : String} {ws : List ReviewWrite}
      {e : ReviewError}, attemptReview runtime call bundle w = ⟨ws, .error e⟩ →
      ReviewWrite.store (.reviewDecision record) ∉ ws →
      ReviewWrite.store (.reviewDecision record) ∉
        (conductReview runtime call bundle workItemId w).writes := by
    intro bundle workItemId ws e hattempt hnot h
    obtain ⟨handled, e', hconduct, hhandled⟩ :=
      conductReview_of_error workItemId hattempt
    rw [hconduct] at h
    rcases List.mem_append.mp h with h | h
    · exact hnot h
    · obtain ⟨write, hwrite, heq⟩ := List.mem_map.mp h
      obtain rfl := ReviewWrite.store.inj heq
      rcases hhandled with rfl | ⟨message, rfl⟩
      · exact absurd hwrite List.not_mem_nil
      · cases (writesOnly_recordReviewFailure allows_noDecision ..).each _ _ hwrite
  rcases runCriticReview_cases runtime call w with ⟨e, h⟩ | ⟨bundle, task, hbundle, hfilter, -, h⟩
  · simp [h] at hmem
  · rw [h] at hmem ⊢
    rcases attemptReview_cases runtime call bundle w with
      ⟨e, hattempt⟩ | ⟨judgment, document, outcome, -, hbuild, houtcome, hattempt⟩
    · exact absurd hmem (hraised hattempt (by simp))
    · have himport := pendingImport hw hpending hbundle hfilter hbuild
      rw [← houtcome] at himport
      cases himport with
      | refused e => exact absurd hmem (hraised hattempt (by simp))
      | @applied recorded d pre post new event records bundle item verdict split resolved =>
          rw [conductReview_of_ok task.id hattempt] at hmem ⊢
          rcases records with rfl | ⟨e, e', rfl⟩
          · simp at hmem
          · obtain rfl : record = d := by simpa using hmem
            exact ⟨task, new, pre, post, ⟨_, _, e, e', event, rfl⟩, split, hfilter, item, resolved⟩

/-- Replacing the one entry that passes a test by one that does not leaves none. -/
theorem filter_replaced {α : Type} {p : α → Bool} {pre post : List α} {a b : α}
    (h : (pre ++ a :: post).filter p = [a]) (ha : p a) (hb : p b = false) :
    (pre ++ b :: post).filter p = [] := by
  rw [List.filter_append, List.filter_cons_of_pos ha] at h
  rw [List.filter_append, List.filter_cons_of_neg (by simp [hb])]
  cases hpre : pre.filter p with
  | nil => simpa [hpre] using h
  | cons c rest => simp [hpre] at h

/-! ## The retry -/

/-- A later critic run asks no critic and leaves its task with the recorded decision. -/
structure RetryApplies (runtime : Runtime) (again : CriticCall) (record : ReviewDecisionRecord)
    (w : ReviewWorld) : Prop where
  uninvoked : ReviewWrite.criticCall ∉ (runCriticReview runtime again w).writes
  applied : ∃ task, latestTask? ((runCriticReview runtime again).final w).store.tasks
    record.workItemId = some task ∧ task.status = record.decision.status ∧
      task.lastReviewDecisionId = some record.decisionId ∧ task.pendingReviewBundleId = none

/-- The queue file a write leaves. -/
def ReviewWrite.queue? : ReviewWrite → Option (List QueueTask)
  | .store (.queue tasks) => some tasks
  | _ => none

/-- The decision a write appends. -/
def ReviewWrite.decision? : ReviewWrite → Option ReviewDecisionRecord
  | .store (.reviewDecision record) => some record
  | _ => none

/-- The writes hold a new queue file. -/
def RewritesQueue (writes : List ReviewWrite) : Prop :=
  ∃ tasks, ReviewWrite.store (.queue tasks) ∈ writes

theorem rewritesQueue_of_queue? {writes : List ReviewWrite}
    (h : (writes.findSome? ReviewWrite.queue?).isSome) : RewritesQueue writes := by
  obtain ⟨write, hwrite, hqueue⟩ := List.findSome?_isSome_iff.mp h
  cases write with
  | store w =>
      cases w with
      | queue tasks => exact ⟨tasks, hwrite⟩
      | _ => cases hqueue
  | _ => cases hqueue

theorem mem_of_decision? {writes : List ReviewWrite} {record : ReviewDecisionRecord}
    (h : writes.findSome? ReviewWrite.decision? = some record) :
    ReviewWrite.store (.reviewDecision record) ∈ writes := by
  obtain ⟨write, hwrite, hdecision⟩ := List.exists_of_findSome?_eq_some h
  cases write with
  | store w =>
      cases w with
      | reviewDecision d => exact Option.some.inj hdecision ▸ hwrite
      | _ => cases hdecision
  | _ => cases hdecision

/-- A critic run that asks no critic writes nothing. -/
theorem runCriticReview_uninvoked
    (h : ReviewWrite.criticCall ∉ (runCriticReview runtime call w).writes) :
    (runCriticReview runtime call).final w = w := by
  rcases runCriticReview_cases runtime call w with ⟨e, hrun⟩ | ⟨bundle, task, -, -, -, hrun⟩
  · rw [final, hrun]
    rfl
  · rw [hrun] at h
    exact absurd (criticCall_mem_conductReview bundle task.id w) h

/-- While the entry waits, a retry does not leave it decided without the critic. -/
theorem not_retryApplies_waiting {again : CriticCall} {record : ReviewDecisionRecord}
    {task : QueueTask} (hlatest : latestTask? w.store.tasks record.workItemId = some task)
    (hawaits : task.awaits call.bundleId) : ¬ RetryApplies runtime again record w := by
  intro h
  obtain ⟨decided, hdecided, hstatus, -, -⟩ := h.applied
  rw [runCriticReview_uninvoked h.uninvoked, hlatest] at hdecided
  obtain rfl := Option.some.inj hdecided
  have hpending := ((awaits_iff _ _).mp hawaits).1
  exact record.decision.status_ne_reviewPending (hstatus.symm.trans hpending)

/-- Once the decision is applied, a retry finds nothing to review. -/
theorem retryApplies_resolved {again : CriticCall} {record : ReviewDecisionRecord}
    {task : QueueTask} (hnone : w.store.tasks.filter (QueueTask.awaits again.bundleId) = [])
    (hlatest : latestTask? w.store.tasks record.workItemId = some task)
    (hstatus : task.status = record.decision.status)
    (hdecision : task.lastReviewDecisionId = some record.decisionId)
    (hreleased : task.pendingReviewBundleId = none) : RetryApplies runtime again record w := by
  have hrun : ∃ e, runCriticReview runtime again w = ⟨[], .error e⟩ := by
    rcases runCriticReview_cases runtime again w with hrun | ⟨bundle, task, -, hfilter, -, -⟩
    · exact hrun
    · rw [hnone] at hfilter
      cases hfilter
  obtain ⟨e, hrun⟩ := hrun
  refine ⟨by simp [hrun], task, ?_, hstatus, hdecision, hreleased⟩
  rw [final, hrun]
  exact hlatest

/-- **Critic retry after a crash.**  On a pending bundle, a critic run that a crash cuts short after
    its decision was appended is completed by a later run without asking the critic exactly when
    the crash came after the queue was rewritten. -/
theorem retryApplies_iff {record : ReviewDecisionRecord} (hw : ReachableWorld runtime w)
    (hpending : PendingBundle runtime call w) (again : CriticCall)
    (hagain : again.bundleId = call.bundleId) (written : Nat)
    (happended : ReviewWrite.store (.reviewDecision record) ∈
      (runCriticReview runtime call w).writes.take written) :
    RetryApplies runtime again record ((runCriticReview runtime call).crashed w written) ↔
      RewritesQueue ((runCriticReview runtime call w).writes.take written) := by
  obtain ⟨task, new, pre, post, hreview⟩ :=
    recordedReview_of_mem hw hpending (List.mem_of_mem_take happended)
  obtain ⟨htask, hawaits⟩ := List.mem_filter.mp (hreview.waiting ▸ List.mem_singleton.mpr rfl)
  have hlatest := latestTask?_of_awaits hw.liveQueue htask hawaits
  -- The run writes seven times, the queue file last but one.
  obtain ⟨path, document, e, e', event, hwrites⟩ := hreview.writes
  rw [crashed, hwrites]
  by_cases hqueue : 6 ≤ written
  · -- the crash came after the queue file: nothing waits for the bundle any more
    obtain ⟨rest, rfl⟩ : ∃ rest, written = rest + 6 := ⟨written - 6, by omega⟩
    refine iff_of_true ?_ ⟨pre ++ new :: post, by simp⟩
    have htasks : (applyAll w (List.take (rest + 6) [ReviewWrite.criticCall, .file path document,
        .store (.reviewDecision record), .store (.journal e), .store (.journal e'),
        .store (.queue (pre ++ new :: post)), .store (.journal event)])).store.tasks =
        pre ++ new :: post := by
      cases rest with
      | zero => rfl
      | succ rest => simp [applyAll, World.apply, ReviewWorld.apply, Store.apply]
    have hlive : (pre ++ task :: post).filter (QueueTask.awaits call.bundleId) = [task] :=
      hreview.split ▸ hreview.waiting
    have hnone : (pre ++ new :: post).filter (QueueTask.awaits again.bundleId) = [] := by
      rw [hagain]
      exact filter_replaced hlive hawaits (by simp [QueueTask.awaits, hreview.resolved.released])
    have hlast := KeyedLog.LiveLast.isLast hw.liveQueue hreview.split
      (by rw [((awaits_iff _ _).mp hawaits).1]; rfl)
    have hnew : latestTask? (pre ++ new :: post) record.workItemId = some new := by
      rw [latestTask?_rewritten hlast hreview.resolved.id, if_pos hreview.item]
    rw [← htasks] at hnone hnew
    exact retryApplies_resolved hnone hnew hreview.resolved.status hreview.resolved.decisionId
      hreview.resolved.released
  · -- the crash came before it: the entry still waits
    have htasks : (applyAll w (List.take written [ReviewWrite.criticCall, .file path document,
        .store (.reviewDecision record), .store (.journal e), .store (.journal e'),
        .store (.queue (pre ++ new :: post)), .store (.journal event)])).store.tasks =
        w.store.tasks := by
      have hle : written ≤ 5 := by omega
      interval_cases written <;> rfl
    have hwaits : latestTask? (applyAll w (List.take written [ReviewWrite.criticCall,
        .file path document, .store (.reviewDecision record), .store (.journal e),
        .store (.journal e'), .store (.queue (pre ++ new :: post)),
        .store (.journal event)])).store.tasks record.workItemId = some task := by
      rw [htasks, hreview.item]
      exact hlatest
    refine iff_of_false (not_retryApplies_waiting hwaits hawaits) ?_
    rintro ⟨tasks, hmem⟩
    have hle : written ≤ 5 := by omega
    interval_cases written <;> simp at hmem

/-! ## Small runs -/

/-- The sample bundle, exported and attached. -/
def pendingWorld : ReviewWorld :=
  ⟨reviewRun (sampleRuntime sampleContentSha256) attachedRun, (sampleExport.final acceptedWorld).files⟩

/-- A judgment that approves. -/
def sampleJudgment : Judgment :=
  ⟨[("decision", .str "approve"), ("summary", .str "Reviewed."), ("findings", .arr []),
    ("correction_brief", .null), ("escalation", .null)], by
    simp [Json.DistinctKeys, Json.DistinctMembers, Json.DistinctItems]⟩

/-- A review of the sample bundle at a time. -/
def sampleReview (createdAt : String) : CriticCall where
  threeHead := sampleRoles
  automatic := true
  bundle := .recorded "three-head-r1"
  createAdapter := .ok ()
  judge _ := .ok sampleJudgment
  resolveCommit _ := .ok sampleCommit
  createdAt := createdAt
  importedAt := "t"
  appliedAt := "t"
  failedAt := "t"

/-- The record of the decision of that review. -/
def sampleReviewRecord : ReviewDecisionRecord :=
  { sampleApprovalRecord with decisionId := "critic-92498fffc51562815ea105b4" }

theorem reachableWorld_pendingWorld :
    ReachableWorld (sampleRuntime sampleContentSha256) pendingWorld := reachableWorld_reviewRun _ _

/-- A review of the recorded sample bundle, where every entry is of its item. -/
theorem pendingBundle_sample {call : CriticCall} {w : ReviewWorld}
    (hcall : call.bundle = .recorded "three-head-r1")
    (hfield : (loadReviewBundle (sampleRuntime sampleContentSha256) "three-head-r1" w).value.map
      (fun bundle => isText (field bundle "bundle_id") "three-head-r1") = .ok true)
    (hindex : w.store.reviewBundles.find? (fun item => item.bundleId = "three-head-r1") =
      some sampleBundleRecord)
    (hids : ∀ task ∈ w.store.tasks, task.id = "a") :
    PendingBundle (sampleRuntime sampleContentSha256) call w where
  document bundle hbundle := by
    rw [selectedBundle, hcall] at hbundle
    dsimp only at hbundle
    rw [hbundle] at hfield
    rw [CriticCall.bundleId, hcall]
    exact (isText_iff _ _).mp (Except.ok.inj hfield)
  indexed record hrecord task htask hawaits := by
    rw [CriticCall.bundleId, hcall] at hrecord
    obtain rfl := Option.some.inj (hindex.symm.trans hrecord)
    exact hids task htask

theorem pendingBundle_sampleReview (createdAt : String) :
    PendingBundle (sampleRuntime sampleContentSha256) (sampleReview createdAt) pendingWorld :=
  pendingBundle_sample rfl (by decide +kernel) (by decide +kernel) (by decide +kernel)

/-- The sample review, cut short. -/
def sampleWrites (written : Nat) : List ReviewWrite :=
  (runCriticReview (sampleRuntime sampleContentSha256) (sampleReview "2026-01-01T00:05:00Z")
    pendingWorld).writes.take written

theorem decision_mem_sampleWrites :
    ReviewWrite.store (.reviewDecision sampleReviewRecord) ∈ sampleWrites 3 :=
  mem_of_decision? (by decide +kernel)

/-- A crash right after the queue file: the retry asks nobody. -/
theorem retryApplies_afterQueue :
    RetryApplies (sampleRuntime sampleContentSha256) (sampleReview "2026-01-01T00:06:00Z")
      sampleReviewRecord ((runCriticReview (sampleRuntime sampleContentSha256)
        (sampleReview "2026-01-01T00:05:00Z")).crashed pendingWorld 6) := by
  have happended : ReviewWrite.store (.reviewDecision sampleReviewRecord) ∈ sampleWrites 6 := by
    have hfirst := decision_mem_sampleWrites
    rw [sampleWrites, show 3 = min 3 6 from rfl, ← List.take_take] at hfirst
    exact List.mem_of_mem_take hfirst
  have hqueue : RewritesQueue (sampleWrites 6) := rewritesQueue_of_queue? (by decide +kernel)
  rw [sampleWrites] at happended hqueue
  have hiff := retryApplies_iff reachableWorld_pendingWorld
    (pendingBundle_sampleReview "2026-01-01T00:05:00Z") (sampleReview "2026-01-01T00:06:00Z") rfl 6
    happended
  exact hiff.mpr hqueue

/-- A crash right after the decision was appended: the retry asks the critic again. -/
theorem not_retryApplies_afterAppend :
    ¬ ∀ (runtime : Runtime) (w : ReviewWorld) (call again : CriticCall)
        (record : ReviewDecisionRecord) (written : Nat),
        ReachableWorld runtime w → PendingBundle runtime call w → again.bundleId = call.bundleId →
        ReviewWrite.store (.reviewDecision record) ∈
          (runCriticReview runtime call w).writes.take written →
        RetryApplies runtime again record ((runCriticReview runtime call).crashed w written) := by
  intro h
  have happended := decision_mem_sampleWrites
  rw [sampleWrites] at happended
  have hretry := h (sampleRuntime sampleContentSha256) pendingWorld
    (sampleReview "2026-01-01T00:05:00Z") (sampleReview "2026-01-01T00:06:00Z") sampleReviewRecord 3
    reachableWorld_pendingWorld (pendingBundle_sampleReview _) rfl happended
  obtain ⟨task, htask, hstatus, -⟩ := hretry.applied
  have hpending : latestStatus ((runCriticReview (sampleRuntime sampleContentSha256)
      (sampleReview "2026-01-01T00:06:00Z")).final
      ((runCriticReview (sampleRuntime sampleContentSha256)
        (sampleReview "2026-01-01T00:05:00Z")).crashed pendingWorld 3)).store.tasks
      sampleReviewRecord.workItemId = some .reviewPending := by decide +kernel
  rw [latestStatus, htask, Option.map_some, hstatus] at hpending
  cases hpending

end LlmHarness
