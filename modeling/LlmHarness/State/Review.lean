/-
  LlmHarness.State.Review

  Approval binding: a bundle is attached to a result that is already recorded,
  and stays attached only while that result awaits review.  Two calls take an
  entry out of `review_pending` and keep its bundle, `fail_review_setup` and
  `record_failure`; in runs that never make them on an entry with a bundle, an
  approval closes the very result its bundle was attached to.
-/

import LlmHarness.State.Invariants

namespace LlmHarness

/-- The entry at a queue position awaits review of a commit. -/
def AwaitsReview (s : Store) (index : Nat) (commit : Option String) : Prop :=
  ∃ task, s.tasks[index]? = some task ∧ task.status = .reviewPending ∧ task.lastCommit = commit

/-- ... and has a bundle attached. -/
def HasBundle (s : Store) (index : Nat) (commit : Option String) (bundleId : String) : Prop :=
  ∃ task, s.tasks[index]? = some task ∧ task.status = .reviewPending ∧
    task.lastCommit = commit ∧ task.pendingReviewBundleId = some bundleId

/-- Some call of the run attached the bundle to the entry when its result was
    already recorded, and the entry has awaited review of it ever since. -/
def AttachedAfterResult (ops : List Op) (index : Nat) (id bundleId : String)
    (commit : Option String) : Prop :=
  ∃ first op later, ops = first ++ op :: later ∧ op.rewrites (.bundleAttached bundleId) id ∧
    AwaitsReview (execute first) index commit ∧
    ∀ middle, middle <+: later → HasBundle (execute (first ++ op :: middle)) index commit bundleId

/-- The law of approvals in the store a run reaches. -/
structure ReviewBinding (ops : List Op) : Prop where
  /-- A bundle is pending only under review, and was attached after the result. -/
  pending : ∀ index task bundleId, (execute ops).tasks[index]? = some task →
    task.pendingReviewBundleId = some bundleId → task.status = .reviewPending ∧
      AttachedAfterResult ops index task.id bundleId task.lastCommit
  /-- An approval moves to done only a result its bundle was attached to. -/
  approved : ∀ before id bundleId decisionId summary now,
    ops = before ++ [.resolveReview id bundleId decisionId "approve" summary now] →
    ∀ index task, (execute ops).tasks[index]? = some task → task.status = .done →
      (execute before).tasks[index]? ≠ some task →
      AttachedAfterResult before index task.id bundleId task.lastCommit

/-- The id whose entry a call may take out of review without clearing its bundle. -/
def Op.keepsBundle : Op → Option String
  | .failReviewSetup workItemId _ _ => some workItemId
  | .recordFailure workItemId _ _ _ _ _ => some workItemId
  | .interrupted _ 0 => none
  | .interrupted op (_ + 1) => op.keepsBundle
  | _ => none

/-- The call is not one of them, or finds no bundle attached. -/
def ReleasesBundle (s : Store) (op : Op) : Prop :=
  ∀ id task, op.keepsBundle = some id → latestTask? s.tasks id = some task →
    task.pendingReviewBundleId = none

theorem Op.keepsBundle_of_rewrites {op : Op} {kind : EdgeKind} {id : String}
    (h : op.rewrites kind id) (hkind : kind = .setupFailed ∨ kind = .failureRecorded) :
    op.keepsBundle = some id := by
  induction op with
  | failReviewSetup | recordFailure => rw [h.2]; rfl
  | interrupted op written ih =>
      cases written with
      | zero => exact h.elim
      | succ written => exact ih h
  | recordRollback | recordReviewBundle | recordReviewDecision
  | recordOperatorEvent | recordAuditReport | setTelegramUpdateOffset => exact h.elim
  | claimNext => rcases h with rfl | rfl <;> simp at hkind
  | claimBatch => subst h; simp at hkind
  | confirmRework => rcases h.1 with rfl | rfl <;> simp at hkind
  | enqueueMany | markRunning | requeueFailed | recoverRunning | recordResult | attachReviewBundle
  | recordReviewFailure | resolveReview | escalateAttemptLimit | resolveEscalation
  | markRolledBack | completeRollback => rw [h.1] at hkind; simp at hkind

/-! ## One position across a change -/

/-- What an edge does with a pending bundle, in a queue where only entries under
    review have one. -/
theorem Edge.pending_cases {kind : EdgeKind} {old new : QueueTask} (h : Edge kind old new)
    (hold : ∀ b, old.pendingReviewBundleId = some b → old.status = .reviewPending)
    (hreleases : kind = .setupFailed ∨ kind = .failureRecorded → old.pendingReviewBundleId = none)
    {bundleId : String} (hnew : new.pendingReviewBundleId = some bundleId) :
    old.status = .reviewPending ∧ new.status = .reviewPending ∧ new.lastCommit = old.lastCommit ∧
      (old.pendingReviewBundleId = some bundleId ∨ kind = .bundleAttached bundleId) := by
  have hnot : ∀ {status}, old.status = status → status ≠ .reviewPending →
      old.pendingReviewBundleId ≠ some bundleId := by
    rintro status rfl hne hpending
    exact hne (hold _ hpending)
  cases h with
  | bundleAttached hstatus =>
      cases hnew
      exact ⟨hstatus, hstatus, rfl, Or.inr rfl⟩
  | reviewFailed hstatus => exact ⟨hstatus, hstatus, rfl, Or.inl hnew⟩
  | setupFailed =>
      have hnone := hreleases (Or.inl rfl)
      exact absurd (hnone.symm.trans hnew) (by simp)
  | failureRecorded =>
      have hnone := hreleases (Or.inr rfl)
      exact absurd (hnone.symm.trans hnew) (by simp)
  | reviewResolved | reworkConfirmed | escalationResolved => cases hnew
  | started hstatus | retried hstatus | recovered hstatus | recorded hstatus
  | reworkLimit hstatus | attemptLimit hstatus | rolledBack hstatus =>
      exact absurd hnew (hnot hstatus (by simp))

/-- Batches leave every position that is not queued as it is. -/
theorem entry_of_started {R : EdgeKind → String → Prop} {tasks tasks' : List QueueTask}
    (h : TaskSteps R tasks tasks') (hR : ∀ kind id, R kind id → kind = .started) (index : Nat) :
    tasks'[index]? = tasks[index]? ∨ ∃ old new, tasks[index]? = some old ∧
      tasks'[index]? = some new ∧ old.status = .queued ∧ new.status = .running ∧
      new.pendingReviewBundleId = old.pendingReviewBundleId := by
  -- the induction is on the steps of the batch
  induction h with
  | refl => exact Or.inl rfl
  | @tail middle after _ hstep ih =>
      have hone : after[index]? = middle[index]? ∨ ∃ old new, middle[index]? = some old ∧
          after[index]? = some new ∧ old.status = .queued ∧ new.status = .running ∧
          new.pendingReviewBundleId = old.pendingReviewBundleId := by
        -- one step: the entry is as before, new, or rewritten
        rcases hstep.entry index with heq | ⟨hnone, item, now, hitem⟩ |
          ⟨kind, old, new, hkind, hedge, -, hold, hnew⟩
        · exact Or.inl heq
        -- no claim appends an entry
        · cases hstep with
          | enqueued hitems hallowed =>
              obtain ⟨item, hitem⟩ := List.exists_mem_of_ne_nil _ hitems
              cases hR _ _ (hallowed item hitem)
          | rewritten hallowed hedge htasks =>
              exfalso
              subst htasks
              have hlength := List.getElem?_eq_none_iff.mp hnone
              have hlt := (List.getElem?_eq_some_iff.mp hitem).1
              simp only [List.length_append, List.length_cons] at hlength hlt
              omega
        -- a rewritten entry was started
        · obtain rfl := hR _ _ hkind
          cases hedge with
          | started hstatus => exact Or.inr ⟨old, _, hold, hnew, hstatus, rfl, rfl⟩
      rcases ih with heq | ⟨old, new, hold, hnew, hqueued, hrunning, hpending⟩
      · rwa [heq] at hone
      · right
        -- an entry that runs is not started again
        rcases hone with heq | ⟨old', new', hold', hnew', hqueued', -, -⟩
        · exact ⟨old, new, hold, heq.trans hnew, hqueued, hrunning, hpending⟩
        · obtain rfl := Option.some.inj (hnew.symm.trans hold')
          rw [hrunning] at hqueued'
          cases hqueued'

/-! ## One call -/

theorem AttachedAfterResult.concat {ops : List Op} {index : Nat} {id bundleId : String}
    {commit : Option String} (h : AttachedAfterResult ops index id bundleId commit) (op : Op)
    (hnow : HasBundle (execute (ops ++ [op])) index commit bundleId) :
    AttachedAfterResult (ops ++ [op]) index id bundleId commit := by
  obtain ⟨first, attach, later, rfl, hattach, hawaits, hsince⟩ := h
  refine ⟨first, attach, later ++ [op], by simp, hattach, hawaits, fun middle hmiddle => ?_⟩
  rcases List.prefix_concat_iff.mp hmiddle with rfl | hmiddle
  · simpa using hnow
  · exact hsince middle hmiddle

/-- The pending clause of `ReviewBinding`. -/
def PendingBound (ops : List Op) : Prop :=
  ∀ index task bundleId, (execute ops).tasks[index]? = some task →
    task.pendingReviewBundleId = some bundleId → task.status = .reviewPending ∧
      AttachedAfterResult ops index task.id bundleId task.lastCommit

/-- **Step lemma.** -/
theorem pendingBound_concat {ops : List Op} {op : Op} (h : PendingBound ops)
    (hreleases : ReleasesBundle (execute ops) op) : PendingBound (ops ++ [op]) := by
  intro index task bundleId htask hpending
  have htask' := htask
  rw [execute_concat] at htask
  -- an entry that is as before keeps its bundle
  have hsame : (execute ops).tasks[index]? = some task → task.status = .reviewPending ∧
      AttachedAfterResult (ops ++ [op]) index task.id bundleId task.lastCommit := by
    intro hbefore
    obtain ⟨hstatus, hattached⟩ := h index task bundleId hbefore hpending
    exact ⟨hstatus, hattached.concat op ⟨task, htask', hstatus, rfl, hpending⟩⟩
  -- a batch of claims: a started entry had no bundle to keep
  cases hsingle : op.isSingle with
  | false =>
      rcases entry_of_started (taskSteps_of_op op (execute ops))
        (fun _ _ => Op.started_of_not_isSingle hsingle) index with
        heq | ⟨old, new, hold, hnew, hqueued, -, hkept⟩
      · exact hsame (heq.symm.trans htask)
      · obtain rfl := Option.some.inj (hnew.symm.trans htask)
        obtain ⟨hstatus, -⟩ := h index old bundleId hold (hkept ▸ hpending)
        rw [hqueued] at hstatus
        cases hstatus
  | true =>
      -- one transition
      rcases taskStep_of_op op hsingle (execute ops) with heq | hstep
      · exact hsame (heq ▸ htask)
      · rcases hstep.entry index with heq | ⟨-, item, now, hitem⟩ |
          ⟨kind, old, new, hkind, hedge, hlatest, hold, hnew⟩
        · exact hsame (heq.symm.trans htask)
        -- a new entry has no bundle
        · obtain rfl := Option.some.inj (hitem.symm.trans htask)
          cases hpending
        -- the entry was rewritten: it kept its bundle, or got it now
        · obtain rfl := Option.some.inj (hnew.symm.trans htask)
          obtain ⟨holdStatus, hstatus, hcommit, hcases⟩ := hedge.pending_cases
            (fun b hb => (h index old b hold hb).1)
            (fun hkept => hreleases _ _ (Op.keepsBundle_of_rewrites hkind hkept) hlatest) hpending
          have hnow : HasBundle (execute (ops ++ [op])) index old.lastCommit bundleId :=
            ⟨new, htask', hstatus, hcommit, hpending⟩
          rw [hedge.id_eq, hcommit]
          refine ⟨hstatus, ?_⟩
          rcases hcases with hkept | rfl
          · exact (h index old bundleId hold hkept).2.concat op hnow
          · -- the bundle was attached by this very call
            refine ⟨ops, op, [], rfl, hkind, ⟨old, hold, holdStatus, rfl⟩, fun middle hmiddle => ?_⟩
            obtain rfl := List.prefix_nil.mp hmiddle
            exact hnow

theorem pendingBound_execute (ops : List Op) (h : EachStep ReleasesBundle Store.empty ops) :
    PendingBound ops := by
  induction ops using List.reverseRecOn with
  | nil =>
      intro index task bundleId htask
      simp [execute, Store.empty] at htask
  | append_singleton ops op ih =>
      obtain ⟨hops, hop⟩ := (Run.each_concat _ ops op).mp h
      exact pendingBound_concat (ih hops) hop

/-- **Approval binding.**  In every run whose calls take no entry with a bundle
    out of review unless they clear it, every store reached binds approvals. -/
theorem reviewBinding_execute (ops : List Op) (h : EachStep ReleasesBundle Store.empty ops)
    (before : List Op) (hbefore : before <+: ops) : ReviewBinding before where
  pending := pendingBound_execute before (h.of_earlier hbefore)
  approved := by
    rintro first id bundleId decisionId summary now rfl index task htask hdone hmoved
    have hfirst := pendingBound_execute first
      ((h.of_earlier hbefore).of_earlier (List.prefix_append _ _))
    rw [execute_concat] at htask
    rcases taskStep_of_op (.resolveReview id bundleId decisionId "approve" summary now) rfl
      (execute first) with heq | hstep
    · rw [heq] at htask
      exact absurd htask hmoved
    · rcases hstep.entry index with heq | ⟨-, item, now, hitem⟩ |
        ⟨kind, old, new, hkind, hedge, hlatest, hold, hnew⟩
      · exact absurd (heq.symm.trans htask) hmoved
      · obtain rfl := Option.some.inj (hitem.symm.trans htask)
        cases hdone
      · obtain rfl := Option.some.inj (hnew.symm.trans htask)
        obtain ⟨rfl, -⟩ := hkind
        cases hedge with
        | reviewResolved hstatus hbundle => exact (hfirst index old bundleId hold hbundle).2

/-- A first review cannot be set up; after the retry a bundle is attached and
    approved. -/
def approvedRun : List Op :=
  [.enqueueMany [(sampleItem "a", "")] "t0", .claimNext none "t1", recordAccepted "a" "c1" "r1" true] ++
    [.failReviewSetup "a" "no critic" "t2"] ++
    [.requeueFailed "a" "t3", .claimNext none "t4", recordAccepted "a" "c2" "r2" true,
      .attachReviewBundle "a" "b1" "t5", .resolveReview "a" "b1" "d1" "approve" "fine" "t6"]

theorem reviewBinding_approvedRun : ReviewBinding approvedRun := by
  refine reviewBinding_execute approvedRun ?_ approvedRun List.prefix_rfl
  refine ⟨?_, ?_, ?_, ?_, ?_, ?_, ?_, ?_, ?_, trivial⟩
  case refine_4 =>
    intro id task hid htask
    obtain rfl := Option.some.inj hid
    have hnone : (latestTask? (execute (approvedRun.take 3)).tasks "a").map
        QueueTask.pendingReviewBundleId = some none := by decide +kernel
    exact Option.some.inj ((congrArg (Option.map _) htask).symm.trans hnone)
  all_goals exact fun _ _ h => nomatch h

/-! ## The defect -/

/-- The review of "c1" fails with its bundle attached; after a retry the old
    bundle approves "c2". -/
def staleApprovalRun : List Op :=
  [.enqueueMany [(sampleItem "a", "")] "t0", .claimNext none "t1",
    recordAccepted "a" "c1" "r1" true, .attachReviewBundle "a" "b1" "t2",
    .failReviewSetup "a" "critic crashed" "t3", .requeueFailed "a" "t4", .claimNext none "t5",
    recordAccepted "a" "c2" "r2" true, .resolveReview "a" "b1" "d1" "approve" "fine" "t6"]

/-- A failed entry keeps its bundle, and the later approval closes a commit no
    bundle was attached to. -/
theorem not_reviewBinding_staleApproval :
    ¬ ReviewBinding (staleApprovalRun.take 5) ∧ ¬ ReviewBinding staleApprovalRun := by
  constructor
  -- the stale entry keeps the bundle it was failed with
  · intro h
    have hentry : ∃ task, (execute (staleApprovalRun.take 5)).tasks[0]? = some task ∧
        task.pendingReviewBundleId = some "b1" ∧ task.status = .failed :=
      ⟨_, rfl, rfl, rfl⟩
    obtain ⟨task, htask, hpending, hfailed⟩ := hentry
    have hstatus := (h.pending 0 task "b1" htask hpending).1
    rw [hfailed] at hstatus
    cases hstatus
  · intro h
    have hentry : ∃ task, (execute staleApprovalRun).tasks[0]? = some task ∧
        task.status = .done ∧ task.lastCommit = some "c2" := ⟨_, rfl, rfl, rfl⟩
    obtain ⟨task, htask, hdone, hcommit⟩ := hentry
    -- the approval moved the entry to done, with the commit of the second run
    have hmoved : (execute (staleApprovalRun.take 8)).tasks[0]? ≠ some task := by
      intro hsame
      have hbefore : (execute (staleApprovalRun.take 8)).tasks[0]?.map QueueTask.status =
          some .reviewPending := by decide +kernel
      rw [hsame, Option.map_some, hdone] at hbefore
      cases hbefore
    obtain ⟨first, op, later, hsplit, -, ⟨old, hold, hstatus, hold'⟩, -⟩ :=
      h.approved (staleApprovalRun.take 8) "a" "b1" "d1" "fine" "t6" rfl 0 task htask hdone hmoved
    -- no earlier state awaits review of "c2"
    have hnone : ∀ k < 8, (execute ((staleApprovalRun.take 8).take k)).tasks[0]?.map
        (fun task => (task.status, task.lastCommit)) ≠ some (.reviewPending, some "c2") := by
      decide +kernel
    have hlength := congrArg List.length hsplit
    have hfirst : (staleApprovalRun.take 8).take first.length = first := by
      rw [hsplit, List.take_left]
    apply hnone first.length
    · simp only [List.length_append, List.length_cons] at hlength
      have height : (staleApprovalRun.take 8).length = 8 := rfl
      omega
    · rw [hfirst, hold, Option.map_some, hstatus, hold', hcommit]

end LlmHarness
