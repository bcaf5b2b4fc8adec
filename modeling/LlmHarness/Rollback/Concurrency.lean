/-
  LlmHarness.Rollback.Concurrency

  A rollback and the claims of other processes.  The second plan finds no task
  in the way: everything that transitively depends on the target is queued,
  failed or rolled back.  `complete_rollback` checks the target only, so a claim
  in between can start a dependent of a commit that is being reverted; when no
  claim in between goes for one, no task stands on a rolled back one.
-/

import LlmHarness.Rollback.Apply
import LlmHarness.State.Downstream
import LlmHarness.State.Readiness

namespace LlmHarness

open Python Relation

/-- The store, where the rollback stands, and when each id last became running
    and last was rolled back. -/
structure RollbackWorld where
  store : Store
  phase : RollbackPhase := .idle
  moment : Nat := 0
  startedAt : String → Option Nat := fun _ => none
  rolledBackAt : String → Option Nat := fun _ => none

/-- A claim of another process, or a move of the rollback. -/
inductive RollbackEvent where
  | claim (call : ClaimCall)
  | move (move : RollbackMove)

/-- The phase after the step and the store call it makes. -/
def RollbackWorld.effect (w : RollbackWorld) : RollbackEvent → RollbackPhase × Option Op
  | .claim call => (w.phase, some call.op)
  | .move move => rollbackMove move w.phase w.store

/-- The store after the step. -/
def RollbackWorld.nextStore (w : RollbackWorld) (e : RollbackEvent) : Store :=
  match (w.effect e).2 with
  | some op => w.store.step op
  | none => w.store

/-- The step moved the id to the status. -/
def Entered (status : TaskStatus) (s s' : Store) (id : String) : Prop :=
  latestStatus s'.tasks id = some status ∧ latestStatus s.tasks id ≠ some status

instance (status : TaskStatus) (s s' : Store) (id : String) : Decidable (Entered status s s' id) :=
  inferInstanceAs (Decidable (_ ∧ _))

/-- One step. -/
def RollbackWorld.step (w : RollbackWorld) (e : RollbackEvent) : RollbackWorld where
  store := w.nextStore e
  phase := (w.effect e).1
  moment := w.moment + 1
  startedAt id :=
    if Entered .running w.store (w.nextStore e) id then some w.moment else w.startedAt id
  rolledBackAt id :=
    if Entered .rolledBack w.store (w.nextStore e) id then some w.moment else w.rolledBackAt id

/-- An interleaving on a store. -/
def RollbackWorld.run (s : Store) (events : List RollbackEvent) : RollbackWorld :=
  events.foldl RollbackWorld.step { store := s }

/-- The id is running, waits for review or rework, is escalated, or is done. -/
def Standing (tasks : List QueueTask) (id : String) : Prop :=
  ∃ task, latestTask? tasks id = some task ∧ (task.status = .done ∨ blocksRollback task.status)

/-- The id transitively depends on the other. -/
abbrev Reaches (tasks : List QueueTask) : String → String → Prop :=
  TransGen (DependsOn tasks)

/-- A task that stands on a rolled back one became running after that rollback. -/
def RollbackSafe (w : RollbackWorld) : Prop :=
  ∀ id dependency moment, Standing w.store.tasks id → Reaches w.store.tasks id dependency →
    latestStatus w.store.tasks dependency = some .rolledBack →
    w.rolledBackAt dependency = some moment →
    ∃ started, w.startedAt id = some started ∧ moment < started

/-- While a rollback is between its second plan and its end, no claim goes for a
    task that transitively depends on its target. -/
def SparesDependents (w : RollbackWorld) (e : RollbackEvent) : Prop :=
  ∀ call target, e = .claim call → w.phase.target? = some target →
    ∀ id ∈ call.targets w.store.tasks, ¬ Reaches w.store.tasks id target

/-! ## What an eligible plan rules out -/

/-- After an eligible plan no other dependent of the target stands. -/
theorem not_standing_of_eligible {git : GitView} {s : Store} {workItemId : String}
    {expectedCommit : Option String} (h : (planRollback git s workItemId expectedCommit).eligible)
    {id : String} (hreaches : Reaches s.tasks id workItemId) (hne : id ≠ workItemId) :
    ¬ Standing s.tasks id := by
  rintro ⟨task, htask, hstanding⟩
  obtain ⟨-, -, hdownstream⟩ := planRollback_eligible h
  obtain ⟨task', hmem, htask'⟩ := downstreamTasks_complete hreaches hne
  obtain rfl := Option.some.inj (htask.symm.trans htask')
  obtain ⟨hdone, hblocks⟩ := hdownstream task hmem
  rcases hstanding with hstanding | hstanding
  · exact hdone hstanding
  · rw [hblocks] at hstanding
    cases hstanding

/-! ## What a step does to the latest entries -/

/-- An id keeps its latest entry, or changes its status only. -/
structure Moved (s s' : Store) (id : String) (old new : QueueTask) : Prop where
  before : latestTask? s.tasks id = some old
  after : latestTask? s'.tasks id = some new
  dependsOn : new.workItem.dependsOn = old.workItem.dependsOn

/-- A claim starts or escalates targets, and changes nothing else. -/
def ClaimEffect (call : ClaimCall) (s s' : Store) : Prop :=
  ∀ id, latestTask? s'.tasks id = latestTask? s.tasks id ∨
    id ∈ call.targets s.tasks ∧ ∃ old new, Moved s s' id old new ∧ old.status = .queued ∧
      (new.status = .running ∨ new.status = .escalated)

/-- A completion rolls its target back, and changes nothing else. -/
def CompletionEffect (target : String) (s s' : Store) : Prop :=
  ∀ id, latestTask? s'.tasks id = latestTask? s.tasks id ∨
    id = target ∧ ∃ old new, Moved s s' id old new ∧ old.status = .done ∧ new.status = .rolledBack

theorem claimEffect_step (call : ClaimCall) (s : Store) (hlive : LiveQueue s.tasks) :
    ClaimEffect call s (s.step call.op) := by
  intro id
  rcases latestTask?_claim call s hlive id with
    hsame | ⟨htarget, old, new, hold, hnew, hdeps, hstatus⟩
  · exact Or.inl hsame
  · exact Or.inr ⟨htarget, old, new, ⟨hold, hnew, hdeps⟩, hstatus⟩

theorem completionEffect_step (record : RollbackRecord) (now : String) (s : Store)
    (hlive : LiveQueue s.tasks) :
    CompletionEffect record.workItemId s (s.step (.completeRollback record now)) := by
  intro id
  rcases taskStep_of_op (.completeRollback record now) rfl s with heq | hstep
  · exact Or.inl (by rw [heq])
  · rcases hstep.latest hlive id with hsame | ⟨⟨h, -⟩, -, -⟩ |
      ⟨kind, old, new, ⟨rfl, hid, -⟩, hedge, hold, hnew⟩
    · exact Or.inl hsame
    · cases h
    · refine Or.inr ⟨hid, old, new, ⟨hold, hnew, hedge.dependsOn_eq⟩, ?_⟩
      cases hedge with
      | rolledBack hstatus => exact ⟨hstatus, rfl⟩

/-- Recorded evidence leaves the queue as it is. -/
theorem tasks_recordRollback (record : RollbackRecord) (s : Store) :
    (s.step (.recordRollback record)).tasks = s.tasks :=
  (recordRollback_silent record s).1.tasks_eq s

/-- The dependencies do not change where entries only move. -/
theorem dependsOn_of_moved {s s' : Store}
    (h : ∀ id, latestTask? s'.tasks id = latestTask? s.tasks id ∨ ∃ old new, Moved s s' id old new)
    (a b : String) : DependsOn s'.tasks a b ↔ DependsOn s.tasks a b := by
  rcases h a with hsame | ⟨old, new, hmoved⟩
  · rw [DependsOn, DependsOn, hsame]
  · rw [DependsOn, DependsOn, hmoved.before, hmoved.after]
    simp [hmoved.dependsOn]

theorem reaches_of_dependsOn {tasks tasks' : List QueueTask}
    (h : ∀ a b, DependsOn tasks' a b ↔ DependsOn tasks a b) {a b : String} :
    Reaches tasks' a b ↔ Reaches tasks a b :=
  ⟨TransGen.mono (fun c d => (h c d).mp) a b, TransGen.mono (fun c d => (h c d).mpr) a b⟩

theorem ClaimEffect.reaches_iff {call : ClaimCall} {s s' : Store} (h : ClaimEffect call s s')
    {a b : String} : Reaches s'.tasks a b ↔ Reaches s.tasks a b := by
  apply reaches_of_dependsOn
  apply dependsOn_of_moved
  intro id
  exact (h id).imp_right fun ⟨_, old, new, hmoved, _⟩ => ⟨old, new, hmoved⟩

theorem CompletionEffect.reaches_iff {target : String} {s s' : Store}
    (h : CompletionEffect target s s') {a b : String} :
    Reaches s'.tasks a b ↔ Reaches s.tasks a b := by
  apply reaches_of_dependsOn
  apply dependsOn_of_moved
  intro id
  exact (h id).imp_right fun ⟨_, old, new, hmoved, _⟩ => ⟨old, new, hmoved⟩

/-! ## The invariant -/

/-- No task stands on one that this interleaving rolled back. -/
def NothingStands (w : RollbackWorld) : Prop :=
  ∀ id dependency, Standing w.store.tasks id → Reaches w.store.tasks id dependency →
    latestStatus w.store.tasks dependency = some .rolledBack → w.rolledBackAt dependency = none

/-- After the second plan no dependent of the target stands. -/
def WindowClear (w : RollbackWorld) : Prop :=
  ∀ target, w.phase.target? = some target →
    ∀ id, Reaches w.store.tasks id target → id ≠ target → ¬ Standing w.store.tasks id

theorem NothingStands.rollbackSafe {w : RollbackWorld} (h : NothingStands w) : RollbackSafe w := by
  intro id dependency moment hstanding hreaches hrolled hmoment
  rw [h id dependency hstanding hreaches hrolled] at hmoment
  cases hmoment

theorem standing_congr {tasks tasks' : List QueueTask} {id : String}
    (h : latestTask? tasks' id = latestTask? tasks id) :
    Standing tasks' id ↔ Standing tasks id := by
  rw [Standing, Standing, h]

/-- A claim starts only tasks whose dependencies are done, and these stand on no
    task that was rolled back. -/
theorem nothingStands_claim {w : RollbackWorld} (call : ClaimCall) (h : NothingStands w)
    (hlive : LiveQueue w.store.tasks) : NothingStands (w.step (.claim call)) := by
  have heffect := claimEffect_step call w.store hlive
  intro id dependency hstanding hreaches hrolled
  -- the rolled back entry was rolled back before
  have hbefore : latestStatus w.store.tasks dependency = some .rolledBack := by
    rcases heffect dependency with hsame | ⟨-, old, new, hmoved, -, hstatus⟩
    · rw [latestStatus, ← hsame]
      exact hrolled
    · have hnew : some new.status = some .rolledBack := by
        rw [← Option.map_some, ← hmoved.after]
        exact hrolled
      rcases hstatus with hstatus | hstatus
      · rw [hstatus] at hnew
        exact absurd hnew (by decide)
      · rw [hstatus] at hnew
        exact absurd hnew (by decide)
  have hkept : (w.step (.claim call)).rolledBackAt dependency = w.rolledBackAt dependency :=
    if_neg fun hentered => hentered.2 hbefore
  rw [hkept]
  have hreaches' := heffect.reaches_iff.mp hreaches
  -- the task is untouched, or it was ready and is running now
  rcases heffect id with hsame | ⟨htarget, -⟩
  · exact h id dependency ((standing_congr hsame).mp hstanding) hreaches' hbefore
  · obtain ⟨task, htask, -, hdone⟩ := ready_of_mem_targets hlive htarget
    obtain ⟨middle, ⟨task', htask', hmiddle⟩, hrest⟩ := TransGen.head'_iff.mp hreaches'
    obtain rfl := Option.some.inj (htask.symm.trans htask')
    have hmiddleDone := hdone middle hmiddle
    -- its dependencies were done, so the one rolled back lies behind one of them
    rcases reflTransGen_iff_eq_or_transGen.mp hrest with rfl | hrest
    · rw [hbefore] at hmiddleDone
      exact absurd hmiddleDone (by decide)
    · obtain ⟨entry, hentry, hstatus⟩ := Option.map_eq_some_iff.mp hmiddleDone
      exact h middle dependency ⟨entry, hentry, Or.inl hstatus⟩ hrest hbefore

theorem windowClear_claim {w : RollbackWorld} (call : ClaimCall) (h : WindowClear w)
    (hspares : SparesDependents w (.claim call)) (hlive : LiveQueue w.store.tasks) :
    WindowClear (w.step (.claim call)) := by
  have heffect := claimEffect_step call w.store hlive
  intro target htarget id hreaches hne
  have hreaches' := heffect.reaches_iff.mp hreaches
  rcases heffect id with hsame | ⟨hclaimed, -⟩
  · exact fun hstanding => h target htarget id hreaches' hne ((standing_congr hsame).mp hstanding)
  · exact absurd hreaches' (hspares call target rfl htarget id hclaimed)

/-- A completion rolls back a task on which nothing stands. -/
theorem nothingStands_complete {w : RollbackWorld} {e : RollbackEvent} {target : String}
    (h : NothingStands w) (hclear : WindowClear w) (htarget : w.phase.target? = some target)
    (heffect : CompletionEffect target w.store (w.nextStore e)) : NothingStands (w.step e) := by
  intro id dependency hstanding hreaches hrolled
  have hreaches' := heffect.reaches_iff.mp hreaches
  -- the standing task is not the target, or nothing changed
  have hbefore : Standing w.store.tasks id := by
    rcases heffect id with hsame | ⟨-, old, new, hmoved, -, hstatus⟩
    · exact (standing_congr hsame).mp hstanding
    · obtain ⟨task, htask, hcases⟩ := hstanding
      obtain rfl := Option.some.inj (htask.symm.trans hmoved.after)
      rw [hstatus] at hcases
      exact absurd hcases (by decide)
  -- the dependency was rolled back before, or just now as the target
  rcases heffect dependency with hsame | ⟨rfl, old, new, hmoved, hdone, hstatus⟩
  · have hrolledBefore : latestStatus w.store.tasks dependency = some .rolledBack := by
      rw [latestStatus, ← hsame]
      exact hrolled
    show (if _ then _ else _) = _
    rw [if_neg fun hentered : Entered .rolledBack w.store (w.nextStore e) dependency =>
      hentered.2 hrolledBefore]
    exact h id dependency hbefore hreaches' hrolledBefore
  · exfalso
    -- the target itself does not stand, and below it nothing does
    have hne : id ≠ dependency := by
      rintro rfl
      obtain ⟨task, htask, hcases⟩ := hstanding
      obtain rfl := Option.some.inj (htask.symm.trans hmoved.after)
      rw [hstatus] at hcases
      exact absurd hcases (by decide)
    exact hclear dependency htarget id hreaches' hne hbefore

/-- A step that leaves the queue alone keeps what stands and what was rolled back. -/
theorem nothingStands_of_tasks_eq {w : RollbackWorld} {e : RollbackEvent} (h : NothingStands w)
    (htasks : (w.nextStore e).tasks = w.store.tasks) : NothingStands (w.step e) := by
  intro id dependency hstanding hreaches hrolled
  have htasks' : (w.step e).store.tasks = w.store.tasks := htasks
  rw [htasks'] at hstanding hreaches hrolled
  show (if _ then _ else _) = _
  rw [if_neg fun hentered : Entered .rolledBack w.store (w.nextStore e) dependency =>
    hentered.2 hrolled]
  exact h id dependency hstanding hreaches hrolled

/-- What a move of the rollback does to the store and to its phase. -/
inductive MoveEffect (w : RollbackWorld) : RollbackPhase × Option Op → Prop where
  /-- It is not past its second plan and at most records evidence. -/
  | away {phase : RollbackPhase} {op : Option Op} (haway : phase.target? = none)
      (hop : op = none ∨ ∃ record, op = some (.recordRollback record)) : MoveEffect w (phase, op)
  /-- It passes its second plan. -/
  | enters {phase : RollbackPhase} {git : GitView} {target : String} {expected : Option String}
      (htarget : phase.target? = some target)
      (heligible : (planRollback git w.store target expected).eligible) : MoveEffect w (phase, none)
  /-- It stays where it was with its target. -/
  | stays {phase : RollbackPhase} (hsame : phase.target? = w.phase.target?) :
    MoveEffect w (phase, none)
  /-- It completes. -/
  | completes {phase : RollbackPhase} {record : RollbackRecord} {now : String}
      (haway : phase.target? = none) (htarget : w.phase.target? = some record.workItemId) :
    MoveEffect w (phase, some (.completeRollback record now))

theorem beginRollback_away {git : GitView} {s : Store} {request : RollbackRequest}
    {phase : RollbackPhase} (h : beginRollback git s request = .ok (.inr phase)) :
    phase.target? = none := by
  rw [beginRollback] at h
  cases hreason : normalizeReason request.reason with
  | error e => simp [hreason, bind, Except.bind] at h
  | ok reason =>
      simp only [hreason, bind, Except.bind] at h
      split at h
      · cases h
      · split at h
        · cases h
        · split at h
          · cases h
          · split at h
            · cases h
            · split at h
              · obtain rfl := Sum.inr.inj (Except.ok.inj h)
                rfl
              · cases h

theorem moveEffect (w : RollbackWorld) (move : RollbackMove) :
    MoveEffect w (rollbackMove move w.phase w.store) := by
  obtain ⟨phase, hphase⟩ : ∃ phase, w.phase = phase := ⟨_, rfl⟩
  have htarget : w.phase.target? = phase.target? := congrArg RollbackPhase.target? hphase
  have hstays : ∀ next : RollbackPhase, next.target? = phase.target? → MoveEffect w (next, none) :=
    fun next h => .stays (h.trans htarget.symm)
  rw [hphase]
  -- one case for each call; in a phase that does not fit, it leaves the world alone
  cases move with
  | plan git request =>
      cases phase with
      | idle =>
          rw [rollbackMove]
          cases hbegin : beginRollback git w.store request with
          | error e => exact .away rfl (Or.inl rfl)
          | ok outcome =>
              cases outcome with
              | inl prior => exact .away rfl (Or.inl rfl)
              | inr next => exact .away (beginRollback_away hbegin) (Or.inl rfl)
      | planned | checked | revalidated | committed => exact hstays _ rfl
  | check commandResults error rollbackId now =>
      cases phase with
      | planned reason plan =>
          cases error with
          | none => exact .away rfl (Or.inl rfl)
          | some error => exact .away rfl (Or.inr ⟨_, rfl⟩)
      | idle | checked | revalidated | committed =>
          cases error with
          | none => exact hstays _ rfl
          | some error => exact hstays _ rfl
  | replan git rollbackId now =>
      cases phase with
      | checked reason plan commandResults =>
          rw [rollbackMove]
          cases hplan : eligiblePlan? git w.store plan.workItemId plan.targetCommit with
          | none => exact .away rfl (Or.inr ⟨_, rfl⟩)
          | some replanned => exact .enters rfl (eligiblePlan?_eq_some hplan)
      | idle | planned | revalidated | committed => exact hstays _ rfl
  | commit outcome operationId now =>
      cases phase with
      | revalidated reason plan =>
          cases outcome with
          | committed => exact hstays _ rfl
          | failed => exact .away rfl (Or.inr ⟨_, rfl⟩)
          | noCommit => exact .away rfl (Or.inl rfl)
      | idle | planned | checked | committed =>
          cases outcome with
          | committed | failed | noCommit => exact hstays _ rfl
  | complete now =>
      cases phase with
      | committed reason plan commandResults rollbackCommit operationId =>
          exact .completes rfl htarget
      | idle | planned | checked | revalidated => exact hstays _ rfl

/-- Both clauses of the invariant. -/
structure RollbackInvariant (w : RollbackWorld) : Prop where
  standing : NothingStands w
  window : WindowClear w

theorem rollbackInvariant_move {w : RollbackWorld} (move : RollbackMove) (h : RollbackInvariant w)
    (hlive : LiveQueue w.store.tasks) : RollbackInvariant (w.step (.move move)) := by
  have heffect := moveEffect w move
  generalize hresult : rollbackMove move w.phase w.store = result at heffect
  have hphase : (w.step (.move move)).phase = result.1 := congrArg Prod.fst hresult
  have hstore : w.nextStore (.move move) = match result.2 with
      | some op => w.store.step op
      | none => w.store := by
    rw [← hresult]
    rfl
  -- a call leaves the plan, enters the window, stays, or completes the rollback
  cases heffect with
  | @away phase op haway hop =>
      have htasks : (w.nextStore (.move move)).tasks = w.store.tasks := by
        rcases hop with rfl | ⟨record, rfl⟩
        · rw [hstore]
        · rw [hstore]
          exact tasks_recordRollback record w.store
      refine ⟨nothingStands_of_tasks_eq h.standing htasks, fun target htarget => ?_⟩
      rw [hphase, haway] at htarget
      cases htarget
  | @enters phase git target expected htarget heligible =>
      have hsame : w.nextStore (.move move) = w.store := hstore
      refine ⟨nothingStands_of_tasks_eq h.standing (congrArg Store.tasks hsame), ?_⟩
      -- entering the window has just checked every dependent
      intro target' htarget' id hreaches hne
      rw [hphase, htarget] at htarget'
      obtain rfl := Option.some.inj htarget'
      have htasks : (w.step (.move move)).store.tasks = w.store.tasks :=
        congrArg Store.tasks hsame
      rw [htasks] at hreaches ⊢
      exact not_standing_of_eligible heligible hreaches hne
  | @stays phase hkept =>
      have hsame : w.nextStore (.move move) = w.store := hstore
      refine ⟨nothingStands_of_tasks_eq h.standing (congrArg Store.tasks hsame), ?_⟩
      intro target htarget
      have htasks : (w.step (.move move)).store.tasks = w.store.tasks :=
        congrArg Store.tasks hsame
      rw [hphase, hkept] at htarget
      rw [htasks]
      exact h.window target htarget
  | @completes phase record now haway htarget =>
      -- the window kept the dependents clear until the completion
      have hcompletion : CompletionEffect record.workItemId w.store (w.nextStore (.move move)) := by
        rw [hstore]
        exact completionEffect_step record now w.store hlive
      refine ⟨nothingStands_complete h.standing h.window htarget hcompletion, fun target' h' => ?_⟩
      rw [hphase, haway] at h'
      cases h'

/-- **Step lemma.** -/
theorem rollbackInvariant_step {w : RollbackWorld} {e : RollbackEvent} (h : RollbackInvariant w)
    (hspares : SparesDependents w e) (hlive : LiveQueue w.store.tasks) :
    RollbackInvariant (w.step e) := by
  cases e with
  | claim call =>
      exact ⟨nothingStands_claim call h.standing hlive,
        windowClear_claim call h.window hspares hlive⟩
  | move move => exact rollbackInvariant_move move h hlive

/-- Every step of an interleaving satisfies a condition in the world it finds. -/
abbrev EachEvent (C : RollbackWorld → RollbackEvent → Prop) (s : Store)
    (events : List RollbackEvent) : Prop :=
  Run.Each RollbackWorld.step C { store := s } events

theorem liveQueue_worldStep {w : RollbackWorld} (h : LiveQueue w.store.tasks) (e : RollbackEvent) :
    LiveQueue (w.step e).store.tasks := by
  show LiveQueue (w.nextStore e).tasks
  rw [RollbackWorld.nextStore]
  cases (w.effect e).2 with
  | none => exact h
  | some op => exact liveQueue_call h op

/-- **Run lemma.** -/
theorem rollbackInvariant_run (setup : List Op) (events : List RollbackEvent)
    (h : EachEvent SparesDependents (execute setup) events) :
    RollbackInvariant (RollbackWorld.run (execute setup) events) := by
  suffices hboth : RollbackInvariant (RollbackWorld.run (execute setup) events) ∧
      LiveQueue (RollbackWorld.run (execute setup) events).store.tasks from hboth.1
  apply h.invariant (I := fun w => RollbackInvariant w ∧ LiveQueue w.store.tasks)
  · exact ⟨⟨fun _ _ _ _ _ => rfl, fun _ htarget => nomatch htarget⟩, liveQueue_execute setup⟩
  · rintro w e ⟨hinvariant, hlive⟩ hspares
    exact ⟨rollbackInvariant_step hinvariant hspares hlive, liveQueue_worldStep hlive e⟩

/-- **Rollback safety.**  In every interleaving whose claims spare the dependents
    of a task between the second plan of its rollback and `complete_rollback`, no
    state reached has a task standing on one that was rolled back after it became
    running. -/
theorem rollbackSafe_run (setup : List Op) (events : List RollbackEvent)
    (h : EachEvent SparesDependents (execute setup) events) (before : List RollbackEvent)
    (hbefore : before <+: events) : RollbackSafe (RollbackWorld.run (execute setup) before) := by
  apply NothingStands.rollbackSafe
  exact (rollbackInvariant_run setup before (h.of_earlier hbefore)).standing

/-! ## A claim in the window -/

/-- "a" is done, "b" and "c" are ready, "c" depends on "a". -/
def rollbackSetup (waiting : List (WorkItem × String)) : List Op :=
  [.enqueueMany [(sampleItem "a", "")] "t0", .claimNext none "t1", recordAccepted "a" "c1" "r1",
    .enqueueMany waiting "t2"]

/-- The rollback of "a", with a claim between its commit and its completion. -/
def claimedRollback : List RollbackEvent :=
  [.move (.plan plainGitView {
      workItemId := "a"
      expectedCommit := "c1"
      reason := "regression"
      verificationCommands := ["pytest"] }),
    .move (.check [⟨"pytest", 0, "", ""⟩] none "k0" "t3"),
    .move (.replan plainGitView "k1" "t4"),
    .move (.commit (.committed [⟨"pytest", 0, "", ""⟩] "c2") "k2" "t5"),
    .claim (.claimNext none "t6"),
    .move (.complete "t7")]

/-- "b" is first in the queue. -/
def independentFirst : List Op :=
  rollbackSetup [(sampleItem "b", ""), (sampleItem "c" ["a"], "")]

/-- "c" is first in the queue. -/
def dependentFirst : List Op :=
  rollbackSetup [(sampleItem "c" ["a"], ""), (sampleItem "b", "")]

/-- The claim goes for "b", which depends on nothing. -/
theorem rollbackSafe_spared :
    RollbackSafe (RollbackWorld.run (execute independentFirst) claimedRollback) := by
  refine rollbackSafe_run independentFirst claimedRollback ?_ _ List.prefix_rfl
  refine ⟨?_, ?_, ?_, ?_, ?_, ?_, trivial⟩
  · exact fun _ _ h => nomatch h
  · exact fun _ _ h => nomatch h
  · exact fun _ _ h => nomatch h
  · exact fun _ _ h => nomatch h
  · rintro call target ⟨⟩ - id hid hreaches
    have hids : (ClaimCall.claimNext none "t6").targets (execute independentFirst).tasks =
        ["b"] := by decide +kernel
    have hmem : id ∈ (ClaimCall.claimNext none "t6").targets (execute independentFirst).tasks := hid
    rw [hids] at hmem
    obtain rfl := List.mem_singleton.mp hmem
    -- "b" has no dependencies, so no edge leaves it
    obtain ⟨middle, ⟨task, htask, hmiddle⟩, -⟩ := TransGen.head'_iff.mp hreaches
    have hdeps : (latestTask? (execute independentFirst).tasks "b").map
        (fun task => task.workItem.dependsOn) = some [] := by decide +kernel
    have htask : latestTask? (execute independentFirst).tasks "b" = some task := htask
    rw [htask, Option.map_some, Option.some.injEq] at hdeps
    rw [hdeps] at hmiddle
    cases hmiddle
  · exact fun _ _ h => nomatch h

/-- The claim goes for "c", which then runs on a commit that is reverted. -/
theorem not_rollbackSafe_claimedDependent :
    ¬ RollbackSafe (RollbackWorld.run (execute dependentFirst) claimedRollback) := by
  -- the task started before its dependency was rolled back
  obtain ⟨w, hw⟩ : ∃ w, RollbackWorld.run (execute dependentFirst) claimedRollback = w := ⟨_, rfl⟩
  have hrunning : latestStatus w.store.tasks "c" = some .running := by
    rw [← hw]
    decide +kernel
  have hrolled : latestStatus w.store.tasks "a" = some .rolledBack := by
    rw [← hw]
    decide +kernel
  have hdeps : (latestTask? w.store.tasks "c").map (fun task => task.workItem.dependsOn) =
      some ["a"] := by
    rw [← hw]
    decide +kernel
  have hstarted : w.startedAt "c" = some 4 := by
    rw [← hw]
    decide +kernel
  have hmoment : w.rolledBackAt "a" = some 5 := by
    rw [← hw]
    decide +kernel
  intro h
  rw [hw] at h
  obtain ⟨task, htask, hstatus⟩ := Option.map_eq_some_iff.mp hrunning
  rw [htask, Option.map_some, Option.some.injEq] at hdeps
  have hstanding : Standing w.store.tasks "c" := ⟨task, htask, Or.inr (by rw [hstatus]; rfl)⟩
  have hreaches : Reaches w.store.tasks "c" "a" := .single ⟨task, htask, by rw [hdeps]; simp⟩
  obtain ⟨started, hlater, hlt⟩ := h "c" "a" 5 hstanding hreaches hrolled hmoment
  rw [hstarted] at hlater
  obtain rfl := Option.some.inj hlater
  omega

end LlmHarness
