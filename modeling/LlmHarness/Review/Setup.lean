/-
  LlmHarness.Review.Setup

  The review part of `_record_worker_result`: export, attachment, critic, and the
  handler of whatever they raise.  The store finds a task by its last entry; the
  critic run and the handler search the list themselves and find the first.
-/

import LlmHarness.Review.Retry

namespace LlmHarness

open Python Guards Durable Durable.Program

/-- `str(exc)`. -/
def ReviewError.message : ReviewError → String
  | .protocol message | .state message | .adapter message | .blocked message => message
  | .unhashable => "unhashable type"
  | .missing key => key

/-- What the review setup of a worker result finds outside the store. -/
structure SetupCall where
  threeHead : ThreeHeadConfig
  /-- `config.critic.automatic`. -/
  automatic : Bool
  git : GitReader
  createAdapter : Check Unit
  judge : List (String × Json) → Check Judgment
  exportedAt : String
  attachedAt : String
  createdAt : String
  importedAt : String
  appliedAt : String
  reviewFailedAt : String
  setupFailedAt : String

/-- The critic run of a setup. -/
def SetupCall.criticCall (call : SetupCall) (exported : ReviewBundleExport) : CriticCall where
  threeHead := call.threeHead
  automatic := call.automatic
  bundle := .exported exported
  createAdapter := call.createAdapter
  judge := call.judge
  resolveCommit := call.git.resolveCommit
  createdAt := call.createdAt
  importedAt := call.importedAt
  appliedAt := call.appliedAt
  failedAt := call.reviewFailedAt

/-- What `_record_worker_result` returns about the review. -/
structure SetupOutcome where
  error : Option ReviewError := none
  exported : Option ReviewBundleExport := none
  review : Option CriticReviewResult := none
  lifecycleStatus : TaskStatus

/-- `export_review_bundle` and `attach_review_bundle`. -/
def attachExport (runtime : Runtime) (call : SetupCall) (workItemId runId : String) :
    ReviewM ReviewBundleExport := do
  let exported ← exportReviewBundle runtime call.git (some call.threeHead) runId call.exportedAt
  let _ ← onStore (attachReviewBundle workItemId exported.record.bundleId call.attachedAt)
  return exported

/-- The guarded part of the setup. -/
def attemptSetup (runtime : Runtime) (call : SetupCall) (workItemId runId : String) :
    ReviewM SetupOutcome := do
  let exported ← attachExport runtime call workItemId runId
  if call.automatic then do
    let review ← runCriticReview runtime (call.criticCall exported)
    return { exported := some exported, review := some review, lifecycleStatus := review.taskStatus }
  else return { exported := some exported, lifecycleStatus := .reviewPending }

/-- The handler of a failed setup. -/
def setupFailed (call : SetupCall) (workItemId : String) (e : ReviewError) : ReviewM SetupOutcome := do
  match firstTask? (← read fun w => w.store.tasks) workItemId with
  | none => raise (.missing workItemId)
  | some current =>
    if current.pendingReviewBundleId = none then do
      let failed ← onStore (failReviewSetup workItemId
        ("Review bundle setup failed: " ++ e.message) call.setupFailedAt)
      return { error := some e, lifecycleStatus := failed.status }
    else return { error := some e, lifecycleStatus := current.status }

/-- An exception in the guarded part: after how many writes, and the error a critic run noted of it
    before it raised on. -/
structure SetupFault where
  written : Nat
  noted : Option String := none
  error : ReviewError

/-- What a critic run notes of an exception. -/
def SetupFault.note (fault : SetupFault) (call : SetupCall) (workItemId : String) : ReviewM Unit :=
  match fault.noted with
  | none => pure ()
  | some message => do
    let _ ← onStore (recordReviewFailure workItemId message call.reviewFailedAt)

/-- The guarded part, with the exception that ends it, if there is one. -/
def attemptWithFault (runtime : Runtime) (call : SetupCall) (workItemId runId : String)
    (fault : Option SetupFault) : ReviewM SetupOutcome := fun w =>
  match fault with
  | none => attemptSetup runtime call workItemId runId w
  | some fault =>
    let written := (attemptSetup runtime call workItemId runId w).writes.take fault.written
    let noted := fault.note call workItemId (applyAll w written)
    ⟨written ++ noted.writes, .error fault.error⟩

/-- `_record_worker_result`, from the recorded result on. -/
def setUpReview (runtime : Runtime) (call : SetupCall) (workItemId runId : String) (ok : Bool)
    (fault : Option SetupFault := none) : ReviewM SetupOutcome :=
  if call.threeHead.mode = .required ∧ ok then
    tryExcept (attemptWithFault runtime call workItemId runId fault) (setupFailed call workItemId)
  else return { lifecycleStatus := if ok then .done else .failed }

theorem attemptWithFault_none (runtime : Runtime) (call : SetupCall) (workItemId runId : String)
    (w : ReviewWorld) : attemptWithFault runtime call workItemId runId none w =
      attemptSetup runtime call workItemId runId w :=
  rfl

/-! ## A review that succeeds -/

variable {runtime : Runtime} {call : CriticCall} {w : ReviewWorld}

/-- What a review that succeeds did, on a pending bundle. -/
structure SucceededReview (runtime : Runtime) (call : CriticCall) (w : ReviewWorld)
    (result : CriticReviewResult) (bundle : List (String × Json)) (judgment : Judgment)
    (task new : QueueTask) (pre post : List QueueTask) : Prop where
  selected : (selectedBundle runtime call w).value = .ok bundle
  judged : call.judge bundle = .ok judgment
  verdict : field judgment.val "decision" = .str result.decision.decision.text
  waiting : w.store.tasks.filter (QueueTask.awaits call.bundleId) = [task]
  split : w.store.tasks = pre ++ task :: post
  item : result.decision.workItemId = task.id
  resolved : Resolved task new result.decision.decision result.decision.decisionId
  tasks : ((runCriticReview runtime call).final w).store.tasks = pre ++ new :: post
  reported : (firstTask? (pre ++ new :: post) task.id).map QueueTask.status = some result.taskStatus

theorem succeededReview {result : CriticReviewResult} (hw : ReachableWorld runtime w)
    (hpending : PendingBundle runtime call w)
    (hrun : (runCriticReview runtime call w).value = .ok result) :
    ∃ bundle judgment task new pre post,
      SucceededReview runtime call w result bundle judgment task new pre post := by
  -- a selection that raises wrote nothing and returned nothing
  rcases runCriticReview_cases runtime call w with ⟨e, h⟩ | ⟨bundle, task, hbundle, hfilter, -, h⟩
  · rw [h] at hrun
    cases hrun
  · rw [h] at hrun
    -- an attempt that raised ends in the handler, which raises
    have hraised : ∀ {ws : List ReviewWrite} {e : ReviewError},
        attemptReview runtime call bundle w ≠ ⟨ws, .error e⟩ := by
      intro ws e hattempt
      obtain ⟨handled, e', hconduct, -⟩ := conductReview_of_error task.id hattempt
      rw [hconduct] at hrun
      cases hrun
    rcases attemptReview_cases runtime call bundle w with
      ⟨e, hattempt⟩ | ⟨judgment, document, outcome, hjudge, hbuild, houtcome, hattempt⟩
    · exact absurd hattempt hraised
    · have himport := pendingImport hw hpending hbundle hfilter hbuild
      rw [← houtcome] at himport
      -- the import is refused, or the decision is recorded and the entry rewritten
      cases himport with
      | refused e => exact absurd hattempt hraised
      | @applied recorded d pre post new event records hid item verdict split resolved =>
          have htasks : ∀ (document : Payload), (applyAll w (.criticCall ::
              .file (decisionPath document) document :: (recorded ++
                [Write.queue (pre ++ new :: post), .journal event]).map .store)).store.tasks =
              pre ++ new :: post := by
            intro document
            rcases records with rfl | ⟨e, e', rfl⟩ <;> rfl
          have hconduct := conductReview_of_ok task.id hattempt
          rw [htasks] at hconduct
          rw [hconduct] at hrun
          -- what the call reports is the first entry of the task's id
          cases hfirst : firstTask? (pre ++ new :: post) task.id with
          | none => simp [hfirst] at hrun
          | some first =>
              obtain rfl : (⟨d, decisionPath document, first.status⟩ : CriticReviewResult) = result := by
                simpa [hfirst] using hrun
              refine ⟨bundle, judgment, task, new, pre, post, hbundle, hjudge, verdict, hfilter, split,
                item, resolved, ?_, ?_⟩
              · rw [final, h, hconduct]
                exact htasks document
              · rw [hfirst]
                rfl

/-! ## The status a review returns -/

/-- The returned status is the one the decision gave the latest entry of its id. -/
def CriticAgrees (runtime : Runtime) (call : CriticCall) (w : ReviewWorld)
    (result : CriticReviewResult) : Prop :=
  ∃ latest, latestTask? ((runCriticReview runtime call).final w).store.tasks
      result.decision.workItemId = some latest ∧
    latest.status = result.decision.decision.status ∧ result.taskStatus = latest.status

/-- The first entry of an id is its last. -/
def SingleLifecycle (tasks : List QueueTask) (id : String) : Prop :=
  firstTask? tasks id = latestTask? tasks id

instance (tasks : List QueueTask) (id : String) : Decidable (SingleLifecycle tasks id) :=
  inferInstanceAs (Decidable (_ = _))

/-- The critic approves the bundle, and the first lifecycle of the id ended as done. -/
structure ApprovesAfterDone (runtime : Runtime) (call : CriticCall) (w : ReviewWorld) (id : String) :
    Prop where
  approves : ∃ bundle judgment, (selectedBundle runtime call w).value = .ok bundle ∧
    call.judge bundle = .ok judgment ∧ field judgment.val "decision" = .str "approve"
  done : ∃ first, firstTask? w.store.tasks id = some first ∧ first.status = .done

theorem firstTask?_append (tasks more : List QueueTask) (id : String) :
    firstTask? (tasks ++ more) id = (firstTask? tasks id).or (firstTask? more id) :=
  List.find?_append

theorem firstTask?_self (task : QueueTask) (more : List QueueTask) :
    firstTask? (task :: more) task.id = some task := by
  simp [firstTask?]

/-- An earlier entry of the id of a live one has ended. -/
theorem ended_of_earlier {pre post : List QueueTask} {task first : QueueTask}
    (hlive : LiveQueue (pre ++ task :: post)) (hfirst : firstTask? pre task.id = some first) :
    first.status.isActive = false := by
  have hmem : first ∈ pre := List.mem_of_find?_eq_some hfirst
  have hid : first.id = task.id := by simpa using List.find?_some hfirst
  by_contra hactive
  rw [Bool.not_eq_false] at hactive
  have hpairs := (List.pairwise_append.mp hlive).2.2
  exact hpairs first hmem task List.mem_cons_self hactive hid.symm

/-- Only an approval gives an entry a status in which its lifecycle has ended. -/
theorem ReviewDecision.ended_iff (decision : ReviewDecision) (status : TaskStatus)
    (hended : status.isActive = false) :
    status = decision.status ↔ decision = .approve ∧ status = .done := by
  cases decision <;> cases status <;> simp_all [ReviewDecision.status, TaskStatus.isActive]

/-- **The status of a successful review** is that of the latest entry exactly when the id has one
    lifecycle, or the critic approves and the first lifecycle ended as done. -/
theorem criticAgrees_of_succeeded {result : CriticReviewResult} {task : QueueTask}
    (hw : ReachableWorld runtime w) (hpending : PendingBundle runtime call w)
    (htask : task ∈ w.store.tasks) (hawaits : task.awaits call.bundleId)
    (hrun : (runCriticReview runtime call w).value = .ok result) :
    CriticAgrees runtime call w result ↔
      SingleLifecycle w.store.tasks task.id ∨ ApprovesAfterDone runtime call w task.id := by
  obtain ⟨bundle, judgment, found, new, pre, post, hreview⟩ := succeededReview hw hpending hrun
  -- one entry only waits for the bundle
  obtain rfl : task = found := by
    have hmem : task ∈ w.store.tasks.filter (QueueTask.awaits call.bundleId) :=
      List.mem_filter.mpr ⟨htask, hawaits⟩
    rw [hreview.waiting] at hmem
    exact List.mem_singleton.mp hmem
  -- the entry that waits is active, so it is the last of its id
  have hlive : LiveQueue (pre ++ task :: post) := hreview.split ▸ hw.liveQueue
  have hactive : task.status.isActive := by
    rw [((awaits_iff _ _).mp hawaits).1]
    rfl
  have hlast := KeyedLog.LiveLast.isLast hlive rfl hactive
  have hlatest : latestTask? (pre ++ new :: post) task.id = some new := by
    rw [latestTask?_rewritten hlast hreview.resolved.id, if_pos rfl]
  have hagrees : CriticAgrees runtime call w result ↔
      result.taskStatus = result.decision.decision.status := by
    rw [CriticAgrees, hreview.tasks, hreview.item, hlatest]
    simp only [Option.some.injEq, exists_eq_left', hreview.resolved.status, true_and]
  have hreported := hreview.reported
  -- the status reported is that of the first entry, the truth that of the last
  rw [firstTask?_append] at hreported
  have hbefore : firstTask? w.store.tasks task.id = (firstTask? pre task.id).or (some task) := by
    rw [hreview.split, firstTask?_append, firstTask?_self]
  have hnow : latestTask? w.store.tasks task.id = some task :=
    latestTask?_of_awaits hw.liveQueue htask hawaits
  rw [hagrees, SingleLifecycle, hbefore, hnow]
  cases hpre : firstTask? pre task.id with
  | none =>
      -- the rewritten entry is the first
      have hself : firstTask? (new :: post) task.id = some new := by
        rw [← hreview.resolved.id]
        exact firstTask?_self new post
      rw [hpre, Option.none_or, hself] at hreported
      have hstatus : new.status = result.taskStatus := Option.some.inj hreported
      refine iff_of_true ?_ (Or.inl rfl)
      rw [← hstatus, hreview.resolved.status]
  | some first =>
      -- an entry that has ended is the first
      have hended := ended_of_earlier hlive hpre
      rw [hpre, Option.some_or] at hreported
      have hstatus : first.status = result.taskStatus := Option.some.inj hreported
      have hother : (some first).or (some task) ≠ some task := by
        intro h
        obtain rfl := Option.some.inj h
        rw [hactive] at hended
        cases hended
      rw [← hstatus, ReviewDecision.ended_iff _ _ hended, or_iff_right hother]
      constructor
      -- the two statuses agree exactly on an approval of a task that is done
      · rintro ⟨hverdict, hdone⟩
        refine ⟨⟨bundle, judgment, hreview.selected, hreview.judged, ?_⟩, first, ?_, hdone⟩
        · rw [hreview.verdict, hverdict]
          rfl
        · rw [hbefore, hpre, Option.some_or]
      · rintro ⟨⟨bundle', judgment', hbundle', hjudgment', happrove⟩, first', hfirst', hdone⟩
        obtain rfl := Except.ok.inj (hreview.selected.symm.trans hbundle')
        obtain rfl := Except.ok.inj (hreview.judged.symm.trans hjudgment')
        rw [hbefore, hpre, Option.some_or] at hfirst'
        obtain rfl := Option.some.inj hfirst'
        refine ⟨ReviewDecision.text_injective ?_, hdone⟩
        exact Json.str.inj (hreview.verdict.symm.trans happrove)

/-! ## What a failed review leaves -/

/-- What the searches for a pending bundle read of an entry. -/
def QueueTask.pendingView (task : QueueTask) : String × TaskStatus × Option String :=
  (task.id, task.status, task.pendingReviewBundleId)

theorem firstTask?_view (tasks : List QueueTask) (id : String) :
    (firstTask? tasks id).map QueueTask.pendingView =
      (tasks.map QueueTask.pendingView).find? fun view => view.1 = id := by
  rw [List.find?_map]
  rfl

theorem latestTask?_view (tasks : List QueueTask) (id : String) :
    (latestTask? tasks id).map QueueTask.pendingView =
      KeyedLog.last? Prod.fst (tasks.map QueueTask.pendingView) id := by
  rw [latestTask?, KeyedLog.last?, KeyedLog.last?, ← List.map_reverse, List.find?_map]
  rfl

/-- `record_review_failure` only notes the error. -/
theorem recordReviewFailure_views (id message now : String) (s : Store) :
    (s.applyAll (recordReviewFailure id message now s).writes).tasks.map QueueTask.pendingView =
      s.tasks.map QueueTask.pendingView := by
  cases hlatest : latestTask? s.tasks id with
  | none =>
      rw [recordReviewFailure, getTask_bind_none _ hlatest]
      rfl
  | some task =>
      rw [recordReviewFailure, getTask_bind_some _ hlatest]
      split
      · rfl
      · obtain ⟨pre, post, htasks, hrun⟩ := replaceTask_run now
          (fun task => { task with lastError := some message }) hlatest
        rw [bind_of_ok hrun, write_bind, htasks]
        simp [Store.applyAll, Store.apply, QueueTask.pendingView, QueueTask.id]

/-- A review that raises leaves every entry waiting as it was. -/
theorem runCriticReview_error_views {e : ReviewError}
    (h : (runCriticReview runtime call w).value = .error e) :
    ((runCriticReview runtime call).final w).store.tasks.map QueueTask.pendingView =
      w.store.tasks.map QueueTask.pendingView := by
  rcases runCriticReview_cases runtime call w with ⟨e', hrun⟩ | ⟨bundle, task, -, hfilter, -, hrun⟩
  · rw [final, hrun]
    rfl
  · rw [final, hrun]
    rw [hrun] at h
    -- the handler sees the queue the attempt left
    have hraised : ∀ {ws : List ReviewWrite} {e : ReviewError},
        attemptReview runtime call bundle w = ⟨ws, .error e⟩ →
        (applyAll w ws).store.tasks = w.store.tasks →
        (applyAll w (conductReview runtime call bundle task.id w).writes).store.tasks.map
          QueueTask.pendingView = w.store.tasks.map QueueTask.pendingView := by
      intro ws e hattempt hsame
      obtain ⟨handled, e', hconduct, hhandled⟩ := conductReview_of_error task.id hattempt
      rw [hconduct, Durable.applyAll_append, applyAll_map_store]
      -- the handler only records the failure, which no view shows
      rcases hhandled with rfl | ⟨message, rfl⟩
      · exact congrArg _ hsame
      · rw [recordReviewFailure_views, hsame]
    rcases attemptReview_cases runtime call bundle w with
      ⟨e', hattempt⟩ | ⟨judgment, document, outcome, -, -, houtcome, hattempt⟩
    · exact hraised hattempt rfl
    -- the decision was written, and the import may have raised behind it
    · cases hvalue : outcome.value with
      | error e' =>
          rw [hvalue] at hattempt
          apply hraised hattempt
          rw [Durable.applyAll_cons, Durable.applyAll_cons, applyAll_map_store]
          subst houtcome
          exact import_error_tasks hvalue
      | ok decision =>
          -- the entry that waited is still there, so the review returns
          rw [hvalue] at hattempt
          rw [conductReview_of_ok task.id hattempt] at h
          exfalso
          have hmem : task.id ∈ (applyAll w (.criticCall :: .file (decisionPath document) document ::
              outcome.writes.map .store)).store.tasks.map QueueTask.id := by
            rw [Durable.applyAll_cons, Durable.applyAll_cons, applyAll_map_store, houtcome]
            have htask : task ∈ w.store.tasks :=
              (List.mem_filter.mp (hfilter ▸ List.mem_singleton.mpr rfl)).1
            have hkeep : task.id ∈ (reviewStep runtime w.store (.importDecision (call.importCall
                (w.apply (.file (decisionPath document) document))
                (decisionPath document)))).tasks.map QueueTask.id :=
              reviewStep_induction (P := fun tasks => task.id ∈ tasks.map QueueTask.id)
                (fun h hstep => ids_step hstep h) (List.mem_map_of_mem htask) _
            exact hkeep
          -- the task still has an entry, so the report finds one
          obtain ⟨other, hother, hid⟩ := List.mem_map.mp hmem
          cases hfirst : firstTask? (applyAll w (.criticCall ::
              .file (decisionPath document) document :: outcome.writes.map .store)).store.tasks
              task.id with
          | none => exact absurd (decide_eq_true hid) (List.find?_eq_none.mp hfirst other hother)
          | some first =>
              rw [hfirst] at h
              cases h

/-! ## A setup whose critic failed -/

theorem exportReviewBundle_tasks (runtime : Runtime) (git : GitReader) (threeHead : Option ThreeHeadConfig)
    (runId createdAt : String) (w : ReviewWorld) :
    ((exportReviewBundle runtime git threeHead runId createdAt).final w).store.tasks = w.store.tasks := by
  have hrun := exportRun runtime git threeHead runId createdAt w
  rw [final]
  generalize exportReviewBundle runtime git threeHead runId createdAt w = outcome at hrun ⊢
  cases hrun <;> rfl

/-- `attach_review_bundle` on a waiting entry. -/
theorem attachReviewBundle_run {id : String} (bundleId now : String) {s : Store} {task : QueueTask}
    (hlatest : latestTask? s.tasks id = some task) (hstatus : task.status = .reviewPending) :
    ∃ pre post event, s.tasks = pre ++ task :: post ∧ attachReviewBundle id bundleId now s =
      ⟨[.queue (pre ++ { task with
          updatedAtUtc := now, pendingReviewBundleId := some bundleId, lastError := none } :: post),
        .journal event],
        .ok { task with
          updatedAtUtc := now, pendingReviewBundleId := some bundleId, lastError := none }⟩ := by
  obtain ⟨pre, post, htasks, hrun⟩ := replaceTask_run now (fun task => { task with
    pendingReviewBundleId := some bundleId
    lastError := none }) hlatest
  rw [attachReviewBundle, getTask_bind_some _ hlatest, if_neg (not_not.mpr hstatus),
    bind_of_ok hrun, write_bind]
  exact ⟨pre, post, _, htasks, rfl⟩

/-- What `attach_review_bundle` does when it succeeds: it rewrites the latest entry. -/
theorem attachReviewBundle_ok {id bundleId now : String} {s : Store} {updated : QueueTask}
    (h : (attachReviewBundle id bundleId now s).value = .ok updated) :
    ∃ pre old post, s.tasks = pre ++ old :: post ∧ latestTask? s.tasks id = some old ∧
      old.status = .reviewPending ∧ updated = { old with
        updatedAtUtc := now, pendingReviewBundleId := some bundleId, lastError := none } ∧
      ∃ event, attachReviewBundle id bundleId now s =
        ⟨[.queue (pre ++ updated :: post), .journal event], .ok updated⟩ := by
  cases hlatest : latestTask? s.tasks id with
  | none =>
      rw [attachReviewBundle, getTask_bind_none _ hlatest] at h
      cases h
  | some old =>
      by_cases hstatus : old.status = .reviewPending
      · obtain ⟨pre, post, event, htasks, hrun⟩ := attachReviewBundle_run bundleId now hlatest hstatus
        rw [hrun] at h
        obtain rfl := Except.ok.inj h
        exact ⟨pre, old, post, htasks, rfl, hstatus, rfl, event, hrun⟩
      · rw [attachReviewBundle, getTask_bind_some _ hlatest, if_pos hstatus] at h
        cases h

/-- A setup whose bundle was exported and attached, and whose critic run then raised. -/
structure CriticFailed (runtime : Runtime) (call : SetupCall) (workItemId runId : String)
    (w : ReviewWorld) (exported : ReviewBundleExport) : Prop where
  required : call.threeHead.mode = .required
  automatic : call.automatic
  attached : (attachExport runtime call workItemId runId w).value = .ok exported
  raised : ∃ e, (runCriticReview runtime (call.criticCall exported)
    ((attachExport runtime call workItemId runId).final w)).value = .error e

/-- The latest entry still waits for the bundle. -/
def StaysPending (runtime : Runtime) (call : SetupCall) (workItemId runId : String) (w : ReviewWorld)
    (exported : ReviewBundleExport) : Prop :=
  ∃ latest, latestTask? ((setUpReview runtime call workItemId runId true).final w).store.tasks
    workItemId = some latest ∧ latest.awaits exported.record.bundleId

/-- The first entry of an id holds a bundle id. -/
def FirstHoldsBundle (tasks : List QueueTask) (id : String) : Prop :=
  ∃ first, firstTask? tasks id = some first ∧ first.pendingReviewBundleId ≠ none

/-- `attachExport` on an export that succeeds and a task that waits: the latest entry waits for the
    bundle, and no other entry changed. -/
theorem attachExport_run {call : SetupCall} {workItemId runId : String}
    {exported : ReviewBundleExport} {old : QueueTask}
    (hexport : (exportReviewBundle runtime call.git (some call.threeHead) runId call.exportedAt
      w).value = .ok exported)
    (hlatest : latestTask? w.store.tasks workItemId = some old)
    (hstatus : old.status = .reviewPending) :
    ∃ pre new post event, w.store.tasks = pre ++ old :: post ∧
      new.id = old.id ∧ new.awaits exported.record.bundleId ∧
      (attachExport runtime call workItemId runId w).value = .ok exported ∧
      (attachExport runtime call workItemId runId).final w =
        applyAll ((exportReviewBundle runtime call.git (some call.threeHead) runId
          call.exportedAt).final w) [.store (.queue (pre ++ new :: post)), .store (.journal event)] := by
  have htasks := exportReviewBundle_tasks runtime call.git (some call.threeHead) runId
    call.exportedAt w
  rw [final] at htasks ⊢
  -- the export returned, and the attachment runs on the store it left
  rw [final, attachExport, Durable.bind_run, hexport]
  dsimp only
  obtain ⟨pre, post, event, hsplit, hrun⟩ := attachReviewBundle_run exported.record.bundleId
    call.attachedAt (htasks ▸ hlatest) hstatus
  rw [htasks] at hsplit
  refine ⟨pre, { old with
    updatedAtUtc := call.attachedAt, pendingReviewBundleId := some exported.record.bundleId
    lastError := none }, post, event, hsplit, rfl, (awaits_iff _ _).mpr ⟨hstatus, rfl⟩, ?_, ?_⟩
  · rw [Durable.bind_run]
    dsimp only [onStore]
    rw [hrun]
    rfl
  · rw [Durable.bind_run]
    dsimp only [onStore]
    rw [hrun, Durable.applyAll_append]
    rfl

/-- `attachExport` succeeds exactly when the export does and the task waits. -/
theorem attachExport_eq_ok {call : SetupCall} {workItemId runId : String}
    {exported : ReviewBundleExport} :
    (attachExport runtime call workItemId runId w).value = .ok exported ↔
      (exportReviewBundle runtime call.git (some call.threeHead) runId call.exportedAt w).value =
        .ok exported ∧
      ∃ task, latestTask? w.store.tasks workItemId = some task ∧ task.status = .reviewPending := by
  constructor
  · intro h
    have htasks := exportReviewBundle_tasks runtime call.git (some call.threeHead) runId
      call.exportedAt w
    rw [final] at htasks
    rw [attachExport, Durable.bind_run] at h
    -- the export raises, the attachment raises, or both returned
    cases hexport : (exportReviewBundle runtime call.git (some call.threeHead) runId call.exportedAt
        w).value with
    | error e =>
        rw [hexport] at h
        cases h
    | ok found =>
        rw [hexport] at h
        dsimp only at h
        rw [Durable.bind_run] at h
        dsimp only [onStore] at h
        cases hattach : (attachReviewBundle workItemId found.record.bundleId call.attachedAt
            (applyAll w (exportReviewBundle runtime call.git (some call.threeHead) runId
              call.exportedAt w).writes).store).value with
        | error e =>
            rw [hattach] at h
            cases h
        | ok updated =>
            rw [hattach] at h
            obtain rfl : found = exported := Except.ok.inj h
            obtain ⟨pre, old, post, -, hlatest, hstatus, -⟩ := attachReviewBundle_ok hattach
            exact ⟨rfl, old, htasks ▸ hlatest, hstatus⟩
  · rintro ⟨hexport, task, hlatest, hstatus⟩
    obtain ⟨_, _, _, _, -, -, -, hvalue, -⟩ := attachExport_run hexport hlatest hstatus
    exact hvalue

/-- `fail_review_setup` on a waiting entry. -/
theorem failReviewSetup_run {id : String} (message now : String) {s : Store} {task : QueueTask}
    (hlatest : latestTask? s.tasks id = some task) (hstatus : task.status = .reviewPending) :
    ∃ pre post failed event, s.tasks = pre ++ task :: post ∧ failed.id = task.id ∧
      failed.status = .failed ∧
      failReviewSetup id message now s = ⟨[.queue (pre ++ failed :: post), .journal event], .ok failed⟩ := by
  obtain ⟨pre, post, htasks, hrun⟩ := replaceTask_run now
    (fun task => { task with status := .failed, lastError := some message }) hlatest
  rw [failReviewSetup, getTask_bind_some _ hlatest, if_neg (not_not.mpr hstatus), bind_of_ok hrun,
    transitionEvent_bind, write_bind]
  exact ⟨pre, post, { task with
    status := .failed, updatedAtUtc := now, lastError := some message }, _, htasks, rfl, rfl, rfl⟩

/-- What the handler of a failed setup leaves of a waiting entry. -/
theorem setupFailed_staysPending {call : SetupCall} {workItemId bundleId : String} {e : ReviewError}
    {first latest : QueueTask} (hlive : LiveQueue w.store.tasks)
    (hfirst : firstTask? w.store.tasks workItemId = some first)
    (hlatest : latestTask? w.store.tasks workItemId = some latest)
    (hawaits : latest.awaits bundleId) :
    (∃ task, latestTask? ((setupFailed call workItemId e).final w).store.tasks workItemId = some task ∧
      task.awaits bundleId) ↔ first.pendingReviewBundleId ≠ none := by
  have hstatus := ((awaits_iff _ _).mp hawaits).1
  rw [final, setupFailed, Durable.read_bind, hfirst]
  dsimp only
  -- the handler looks at the first entry, and fails the task only without a bundle there
  by_cases hpending : first.pendingReviewBundleId = none
  · rw [if_pos hpending, bind_silent_writes (fun _ => silent_pure _)]
    refine iff_of_false ?_ (not_not.mpr hpending)
    obtain ⟨pre, post, failed, event, hsplit, hid, hfailed, hrun⟩ := failReviewSetup_run
      ("Review bundle setup failed: " ++ e.message) call.setupFailedAt hlatest hstatus
    have hactive : latest.status.isActive := by
      rw [hstatus]
      rfl
    have hlast := KeyedLog.LiveLast.isLast hlive hsplit hactive
    rintro ⟨task, htask, hwaits⟩
    dsimp only [onStore] at htask
    rw [hrun, applyAll_map_store] at htask
    have hnew : latestTask? (pre ++ failed :: post) workItemId = some failed := by
      rw [latestTask?_rewritten hlast hid, if_pos (latestTask?_id hlatest).symm]
    obtain rfl := Option.some.inj (hnew.symm.trans htask)
    rw [((awaits_iff _ _).mp hwaits).1] at hfailed
    cases hfailed
  -- the first entry has a bundle, so the handler leaves the task waiting
  · rw [if_neg hpending]
    exact iff_of_true ⟨latest, hlatest, hawaits⟩ hpending

/-- A setup whose critic failed ends in the handler, on the queue the critic left. -/
theorem setUpReview_criticFailed {call : SetupCall} {workItemId runId : String}
    {exported : ReviewBundleExport} (h : CriticFailed runtime call workItemId runId w exported) :
    ∃ w' e, (setUpReview runtime call workItemId runId true).final w =
        (setupFailed call workItemId e).final w' ∧
      w'.store.tasks.map QueueTask.pendingView =
        ((attachExport runtime call workItemId runId).final w).store.tasks.map QueueTask.pendingView := by
  -- the critic's review raised on the world the attachment left
  obtain ⟨e, hraised⟩ := h.raised
  refine ⟨(runCriticReview runtime (call.criticCall exported)).final
    ((attachExport runtime call workItemId runId).final w), e, ?_, runCriticReview_error_views hraised⟩
  have hattempt : attemptSetup runtime call workItemId runId w =
      ⟨(attachExport runtime call workItemId runId w).writes ++
        (runCriticReview runtime (call.criticCall exported)
          ((attachExport runtime call workItemId runId).final w)).writes, .error e⟩ := by
    rw [attemptSetup, Durable.bind_run, h.attached]
    dsimp only
    rw [if_pos h.automatic, Durable.bind_run]
    rw [final] at hraised ⊢
    rw [hraised]
  rw [final, setUpReview, if_pos ⟨h.required, rfl⟩,
    tryExcept_of_error ((attemptWithFault_none runtime call workItemId runId w).trans hattempt)]
  dsimp only
  rw [Durable.applyAll_append, Durable.applyAll_append]
  rfl

/-- Queues that look alike find entries that look alike. -/
theorem firstTask?_of_views {tasks tasks' : List QueueTask} {id : String} {task : QueueTask}
    (h : tasks'.map QueueTask.pendingView = tasks.map QueueTask.pendingView)
    (hfirst : firstTask? tasks id = some task) :
    ∃ task', firstTask? tasks' id = some task' ∧ task'.pendingView = task.pendingView := by
  have hview := firstTask?_view tasks' id
  rw [h, ← firstTask?_view, hfirst] at hview
  exact Option.map_eq_some_iff.mp hview

theorem latestTask?_of_views {tasks tasks' : List QueueTask} {id : String} {task : QueueTask}
    (h : tasks'.map QueueTask.pendingView = tasks.map QueueTask.pendingView)
    (hlatest : latestTask? tasks id = some task) :
    ∃ task', latestTask? tasks' id = some task' ∧ task'.pendingView = task.pendingView := by
  have hview := latestTask?_view tasks' id
  rw [h, ← latestTask?_view, hlatest] at hview
  exact Option.map_eq_some_iff.mp hview

theorem liveQueue_of_views {tasks tasks' : List QueueTask}
    (h : tasks'.map QueueTask.pendingView = tasks.map QueueTask.pendingView)
    (hlive : LiveQueue tasks) : LiveQueue tasks' := by
  have hviews : ∀ {queue : List QueueTask}, LiveQueue queue ↔
      (queue.map QueueTask.pendingView).Pairwise fun a b => a.2.1.isActive → b.1 ≠ a.1 := fun {queue} =>
    (List.pairwise_map (f := QueueTask.pendingView) (l := queue)
      (R := fun a b => a.2.1.isActive → b.1 ≠ a.1)).symm
  rw [hviews, h, ← hviews]
  exact hlive

/-- **A setup whose critic failed** leaves the latest entry waiting for its bundle exactly when the
    id has one lifecycle, or its first entry still holds a bundle id. -/
theorem staysPending_of_criticFailed {call : SetupCall} {workItemId runId : String}
    {exported : ReviewBundleExport} (hw : ReachableWorld runtime w)
    (h : CriticFailed runtime call workItemId runId w exported) :
    StaysPending runtime call workItemId runId w exported ↔
      SingleLifecycle w.store.tasks workItemId ∨ FirstHoldsBundle w.store.tasks workItemId := by
  -- the run exported a bundle for the latest entry, which waits for review
  obtain ⟨hexport, old, hlatest, hstatus⟩ := attachExport_eq_ok.mp h.attached
  obtain ⟨pre, new, post, event, hsplit, hid, hawaits, -, hattached⟩ :=
    attachExport_run hexport hlatest hstatus
  obtain rfl : old.id = workItemId := latestTask?_id hlatest
  obtain ⟨w', e, hfinal, hviews⟩ := setUpReview_criticFailed h
  have hactive : old.status.isActive := by
    rw [hstatus]
    rfl
  have hnewActive : new.status.isActive := by
    rw [((awaits_iff _ _).mp hawaits).1]
    rfl
  -- the entry is active, so it is the last of its id, before and after the attachment
  have hlive : LiveQueue (pre ++ old :: post) := hsplit ▸ hw.liveQueue
  have hlast := KeyedLog.LiveLast.isLast hlive rfl hactive
  -- the queue with the bundle attached
  have hliveNew : LiveQueue (pre ++ new :: post) :=
    KeyedLog.LiveLast.replace hlive hid fun _ => hlast.fresh
  have hlatestNew : latestTask? (pre ++ new :: post) old.id = some new := by
    rw [latestTask?_rewritten hlast hid, if_pos rfl]
  have hfirstOld : firstTask? w.store.tasks old.id = (firstTask? pre old.id).or (some old) := by
    rw [hsplit, firstTask?_append, firstTask?_self]
  have hfirstNew : firstTask? (pre ++ new :: post) old.id = (firstTask? pre old.id).or (some new) := by
    rw [firstTask?_append, ← hid, firstTask?_self]
  have hattachedTasks : ((attachExport runtime call old.id runId).final w).store.tasks =
      pre ++ new :: post := by
    rw [hattached]
    rfl
  rw [hattachedTasks] at hviews
  -- the critic changed no view, so its handler meets the attached queue
  obtain ⟨latest, hlatest', hlatestView⟩ := latestTask?_of_views hviews hlatestNew
  have hawaits' : latest.awaits exported.record.bundleId := by
    have hview := congrArg Prod.snd hlatestView
    have hstatus' : latest.status = new.status := congrArg Prod.fst hview
    have hbundle' : latest.pendingReviewBundleId = new.pendingReviewBundleId := congrArg Prod.snd hview
    rw [awaits_iff, hstatus', hbundle', ← awaits_iff]
    exact hawaits
  -- what is left is the handler's look at the first entry
  have hstays : ∀ {first : QueueTask}, firstTask? (pre ++ new :: post) old.id = some first →
      (StaysPending runtime call old.id runId w exported ↔ first.pendingReviewBundleId ≠ none) := by
    intro first hfirst
    obtain ⟨first', hfirst', hfirstView⟩ := firstTask?_of_views hviews hfirst
    have hbundle : first'.pendingReviewBundleId = first.pendingReviewBundleId :=
      congrArg (fun view => view.2.2) hfirstView
    rw [StaysPending, hfinal, ← hbundle]
    exact setupFailed_staysPending (liveQueue_of_views hviews hliveNew) hfirst' hlatest' hawaits'
  -- the first entry of the id is the attached one or one that has ended
  rw [SingleLifecycle, FirstHoldsBundle, hfirstOld, hlatest]
  cases hpre : firstTask? pre old.id with
  | none =>
      -- the attached entry is the first
      rw [hpre, Option.none_or] at hfirstNew
      refine iff_of_true ((hstays hfirstNew).mpr ?_) (Or.inl rfl)
      rw [((awaits_iff _ _).mp hawaits).2]
      exact Option.some_ne_none _
  | some first =>
      -- an entry that has ended is the first
      have hended := ended_of_earlier hlive hpre
      rw [hpre, Option.some_or] at hfirstNew
      have hother : (some first).or (some old) ≠ some old := by
        intro heq
        obtain rfl := Option.some.inj heq
        rw [hactive] at hended
        cases hended
      rw [hstays hfirstNew, or_iff_right hother, Option.some_or]
      simp

/-- **Critic outcome agreement.**  In every reachable world, a critic run that succeeds returns the
    status its decision gave the latest entry exactly when the id has one lifecycle, or the critic
    approves and the first lifecycle ended as done; and a setup whose critic failed leaves the
    latest entry waiting for its bundle exactly when the id has one lifecycle, or its first entry
    still holds a bundle id. -/
theorem criticOutcome_iff (hw : ReachableWorld runtime w) :
    (∀ (call : CriticCall) (task : QueueTask) (result : CriticReviewResult),
        PendingBundle runtime call w → task ∈ w.store.tasks → task.awaits call.bundleId →
        (runCriticReview runtime call w).value = .ok result →
        (CriticAgrees runtime call w result ↔
          SingleLifecycle w.store.tasks task.id ∨ ApprovesAfterDone runtime call w task.id)) ∧
      ∀ (call : SetupCall) (workItemId runId : String) (exported : ReviewBundleExport),
        CriticFailed runtime call workItemId runId w exported →
        (StaysPending runtime call workItemId runId w exported ↔
          SingleLifecycle w.store.tasks workItemId ∨ FirstHoldsBundle w.store.tasks workItemId) :=
  ⟨fun _ _ _ hpending htask hawaits hrun => criticAgrees_of_succeeded hw hpending htask hawaits hrun,
    fun _ _ _ _ h => staysPending_of_criticFailed hw h⟩

/-! ## Small runs -/

theorem reachableWorld_acceptedWorld :
    ReachableWorld (sampleRuntime sampleContentSha256) acceptedWorld :=
  reachableWorld_reviewRun [.other (.enqueueMany [(sampleItem "a", "cli")] "t") rfl,
    .other (.claimNext none "t") rfl, .other (recordAccepted "a" "3f5c1a9" "r1" true) rfl] _

/-- A setup whose critic adapter cannot be created. -/
def sampleSetup : SetupCall where
  threeHead := sampleRoles
  automatic := true
  git := sampleGit
  createAdapter := refuseCritic "Critic driver is not automatic: manual"
  judge _ := .ok sampleJudgment
  exportedAt := "2026-01-01T00:00:00+00:00"
  attachedAt := "t"
  createdAt := "2026-01-01T00:05:00Z"
  importedAt := "t"
  appliedAt := "t"
  reviewFailedAt := "t"
  setupFailedAt := "t"

/-- One lifecycle: an approval is reported as done, and a critic that fails leaves the task waiting. -/
theorem criticOutcome_single :
    (∃ result, (runCriticReview (sampleRuntime sampleContentSha256)
        (sampleReview "2026-01-01T00:05:00Z") pendingWorld).value = .ok result ∧
      CriticAgrees (sampleRuntime sampleContentSha256) (sampleReview "2026-01-01T00:05:00Z")
        pendingWorld result) ∧
      ∃ exported, StaysPending (sampleRuntime sampleContentSha256) sampleSetup "a" "r1" acceptedWorld
        exported := by
  constructor
  · have hpasses : passes (runCriticReview (sampleRuntime sampleContentSha256)
        (sampleReview "2026-01-01T00:05:00Z") pendingWorld).value := by decide +kernel
    obtain ⟨result, hresult⟩ := (passes_iff _).mp hpasses
    obtain ⟨task, htask, hawaits, hid⟩ : ∃ task ∈ pendingWorld.store.tasks,
        task.awaits "three-head-r1" ∧ task.id = "a" := by decide +kernel
    have hsingle : SingleLifecycle pendingWorld.store.tasks "a" := by decide +kernel
    have hiff := (criticOutcome_iff reachableWorld_pendingWorld).1
      (sampleReview "2026-01-01T00:05:00Z") task result (pendingBundle_sampleReview _) htask hawaits
      hresult
    exact ⟨result, hresult, hiff.mpr (Or.inl (hid ▸ hsingle))⟩
  · have hpasses : passes (attachExport (sampleRuntime sampleContentSha256) sampleSetup "a" "r1"
        acceptedWorld).value := by decide +kernel
    obtain ⟨exported, hexported⟩ := (passes_iff _).mp hpasses
    have hfailed : CriticFailed (sampleRuntime sampleContentSha256) sampleSetup "a" "r1" acceptedWorld
        exported := by
      refine ⟨rfl, rfl, hexported, ?_⟩
      rcases runCriticReview_cases (sampleRuntime sampleContentSha256)
        (sampleSetup.criticCall exported) ((attachExport (sampleRuntime sampleContentSha256) sampleSetup
          "a" "r1").final acceptedWorld) with ⟨e, hrun⟩ | ⟨_, _, -, -, hcreate, -⟩
      · exact ⟨e, congrArg Durable.Outcome.value hrun⟩
      · cases hcreate
    have hsingle : SingleLifecycle acceptedWorld.store.tasks "a" := by decide +kernel
    have hiff := (criticOutcome_iff reachableWorld_acceptedWorld).2 sampleSetup "a" "r1" exported hfailed
    exact ⟨exported, hiff.mpr (Or.inl hsingle)⟩

theorem records_no_decision : false = false := rfl

/-- Two lifecycles of one id: the first ended as done, the second waits for its review. -/
def repeatedRun : List ReviewEvent :=
  [.other (.enqueueMany [(sampleItem "a", "cli")] "t") records_no_decision,
    .other (.claimNext none "t") records_no_decision,
    .other (recordAccepted "a" "9e0f8d7" "r0") records_no_decision] ++ attachedRun

/-- The world after it, with the sample bundle. -/
def repeatedWorld : ReviewWorld :=
  ⟨reviewRun (sampleRuntime sampleContentSha256) repeatedRun, (sampleExport.final acceptedWorld).files⟩

/-- A judgment that rejects. -/
def sampleRefusal : Judgment :=
  ⟨[("decision", .str "reject"), ("summary", .str "Reviewed."),
    ("findings", .arr [.obj [("code", .str "TESTS"), ("severity", .str "error"),
      ("message", .str "No test.")]]),
    ("correction_brief", .obj [("rationale", .str "No test covers the change."),
      ("instructions", .arr [.str "Add a test."]), ("validation_focus", .arr [])]),
    ("escalation", .null)], by
    simp [Json.DistinctKeys, Json.DistinctMembers, Json.DistinctItems]⟩

/-- A review that rejects. -/
def sampleRefusedReview : CriticCall :=
  { sampleReview "2026-01-01T00:05:00Z" with judge := fun _ => .ok sampleRefusal }

/-- A rejection of the second lifecycle is reported as done. -/
theorem not_criticOutcome_repeated :
    ¬ ∀ (runtime : Runtime) (w : ReviewWorld), ReachableWorld runtime w →
      (∀ (call : CriticCall) (result : CriticReviewResult), PendingBundle runtime call w →
          (runCriticReview runtime call w).value = .ok result → CriticAgrees runtime call w result) ∧
        ∀ (call : SetupCall) (workItemId runId : String) (exported : ReviewBundleExport),
          CriticFailed runtime call workItemId runId w exported →
          StaysPending runtime call workItemId runId w exported := by
  intro h
  have hpending : PendingBundle (sampleRuntime sampleContentSha256) sampleRefusedReview repeatedWorld :=
    pendingBundle_sample rfl (by decide +kernel) (by decide +kernel) (by decide +kernel)
  have hreported : (runCriticReview (sampleRuntime sampleContentSha256) sampleRefusedReview
      repeatedWorld).value.map (fun result => (result.taskStatus, result.decision.decision.status)) =
      .ok (.done, .reworkRequired) := by decide +kernel
  cases hvalue : (runCriticReview (sampleRuntime sampleContentSha256) sampleRefusedReview
      repeatedWorld).value with
  | error e =>
      rw [hvalue] at hreported
      cases hreported
  | ok result =>
      obtain ⟨latest, -, hlatest, hstatus⟩ := (h (sampleRuntime sampleContentSha256) repeatedWorld
        (reachableWorld_reviewRun _ _)).1 sampleRefusedReview result hpending hvalue
      rw [hvalue] at hreported
      obtain ⟨hdone, hrework⟩ := Prod.mk.inj (Except.ok.inj hreported)
      rw [hdone, hlatest, hrework] at hstatus
      cases hstatus

end LlmHarness
