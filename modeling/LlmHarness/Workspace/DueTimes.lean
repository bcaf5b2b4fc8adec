/-
  LlmHarness.Workspace.DueTimes

  What the calls of `run_due_projects` do with the due times of the registered projects.

  Nothing claims a due project before it is run, and one exception ends the whole call.
  In a run whose calls read no project that another call is still busy with, whose
  operator leaves those projects alone, whose clock is not set back behind a due time,
  and in which no call with a project left fails, every due time that a call meets is run
  once and recorded.
-/

import LlmHarness.Workspace.Scheduler

namespace LlmHarness.Workspace

open Python

/-! ## The law and its condition -/

namespace SchedulerWorld

/-- A call is busy with a project: it has read it as due and has not recorded it. -/
def Busy (world : SchedulerWorld) (projectId : Text) : Prop :=
  ∃ call, ∃ entry ∈ (world.calls call).remaining, entry.1.projectId = projectId

/-- The operator has changed the project since. -/
def TakenBack (world : SchedulerWorld) (due : DueTime) : Prop :=
  due.changes < world.changes due.projectId

instance (world : SchedulerWorld) (due : DueTime) : Decidable (world.TakenBack due) :=
  inferInstanceAs (Decidable (_ < _))

/-- A call that goes on has the due time on its list. -/
def OnList (world : SchedulerWorld) (due : DueTime) : Prop :=
  ∃ call, ∃ entry ∈ (world.calls call).remaining, ListedProject.due entry = due

end SchedulerWorld

/-- **Every due time once**: a due time is run at most once, only after it has come, and recorded
    only after its run; a record moves a schedule past no due time that was not run; and each due
    time that has come when a call reads the registry is recorded, taken back by the operator, or
    still to be done by a call. -/
structure SchedulerLaw (world : SchedulerWorld) : Prop where
  once : world.runs.Nodup
  timely : ∀ due ∈ world.runs, due ∈ world.met
  recorded : ∀ due ∈ world.recorded, due ∈ world.runs
  passed : ∀ due ∈ world.passed, due ∈ world.runs
  served : ∀ due ∈ world.met, due ∈ world.recorded ∨ world.TakenBack due ∨ world.OnList due

/-- The runner and the notifications raise nothing that is not caught, and the report on
    standard output can be read. -/
def Settles : RunnerOutcome → Option (List Text) → Prop
  | .completed returnCode stdout _, some _ => (parseRunOutput stdout returnCode).isSome
  | .launchFailed _, some _ => True
  | _, _ => False

/-- A record is not earlier than the due time, and the next run is in range. -/
def RecordsInTime (world : SchedulerWorld) (entry : ListedProject) (now : Instant) : Prop :=
  (∀ time, entry.1.schedule.nextRunAt = some time → time ≤ now) ∧
    ∀ project ∈ world.projects, project.projectId = entry.1.projectId →
      ∃ next, addMinutes now project.schedule.intervalMinutes = .ok next

/-- The step leaves the projects alone that a call is busy with, and ends no call early. -/
def Undisturbed (pathKey projectIdOf : Text → Text) (world : SchedulerWorld) : SchedulerEvent → Prop
  | .start call now =>
    world.calls call = .idle →
      ∀ project ∈ dueProjects world.projects now, ¬ world.Busy project.projectId
  | .launch _ => True
  | .finish call outcome notifications =>
    ∀ results entry rest, world.calls call = .running results entry rest →
      Settles outcome notifications
  | .record call now =>
    ∀ results entry result rest, world.calls call = .recording results entry result rest →
      RecordsInTime world entry now
  | .fail call => (world.calls call).remaining = []
  | .register resolved _ _ => DrawsNewId pathKey projectIdOf world.projects resolved
  | .remove projectId => ¬ world.Busy (strip projectId)
  | .configure projectId _ _ => ¬ world.Busy (strip projectId)

/-! ## The invariant -/

/-- No project is on two lists, or twice on one. -/
structure CallsApart (calls : Nat → SchedulerCall) : Prop where
  apart : ∀ call call', call ≠ call' → ∀ entry ∈ (calls call).remaining,
    ∀ entry' ∈ (calls call').remaining, entry.1.projectId ≠ entry'.1.projectId
  nodup : ∀ call, ((calls call).remaining.map (·.1.projectId)).Nodup

namespace SchedulerWorld

/-- An entry is as the registry holds it, with a due time that was met. -/
structure Current (world : SchedulerWorld) (entry : ListedProject) : Prop where
  scheduled : ScheduledIn world.projects entry.1.projectId entry.1.schedule
  enabled : entry.1.schedule.enabled = true
  next : ∃ time, entry.1.schedule.nextRunAt = some time
  changes : entry.2 = world.changes entry.1.projectId
  met : entry.due ∈ world.met

/-- A due time has been launched and is not recorded yet. -/
def Launched (world : SchedulerWorld) (due : DueTime) : Prop :=
  ∃ call entry, (world.calls call).launched = some entry ∧ ListedProject.due entry = due

/-- A due time that was run is behind the schedule of its project, unless its run is not over or the
    operator has changed the project. -/
structure Behind (world : SchedulerWorld) (due : DueTime) : Prop where
  changes : due.changes ≤ world.changes due.projectId
  earlier : due.changes = world.changes due.projectId → ∀ schedule,
    ScheduledIn world.projects due.projectId schedule → ∀ next, schedule.nextRunAt = some next →
      ∃ time, due.next = some time ∧ (time < next ∨ (time = next ∧ world.Launched due))

end SchedulerWorld

/-- What the calls hold, and what the runs have left behind. -/
structure SchedulerInvariant (world : SchedulerWorld) : Prop where
  ids : DistinctIds world.projects
  calls : CallsApart world.calls
  live : ∀ call, ∀ entry ∈ (world.calls call).remaining, world.Current entry
  behind : ∀ due ∈ world.runs, world.Behind due
  launched : ∀ call entry, (world.calls call).launched = some entry →
    ListedProject.due entry ∈ world.runs
  law : SchedulerLaw world

/-! ## The calls after a step of one call -/

theorem SchedulerCall.mem_remaining_of_launched {phase : SchedulerCall} {entry : ListedProject}
    (h : phase.launched = some entry) : entry ∈ phase.remaining := by
  cases phase with
  | running results current rest =>
      cases h
      exact List.mem_cons_self
  | recording results current result rest =>
      cases h
      exact List.mem_cons_self
  | idle | looping | returned | raised => cases h

/-- What a step leaves of one call it leaves of all. -/
theorem update_phase {β : Type} {calls : Nat → SchedulerCall} {call : Nat} (phase : SchedulerCall)
    (view : SchedulerCall → β) (h : view phase = view (calls call)) (other : Nat) :
    view (Function.update calls call phase other) = view (calls other) := by
  by_cases hother : other = call
  · rw [hother, Function.update_self, h]
  · rw [Function.update_of_ne hother]

/-- A remaining project after a step of one call: of that call, or of another one. -/
theorem mem_remaining_update {calls : Nat → SchedulerCall} {call other : Nat} {phase : SchedulerCall}
    {entry : ListedProject} (h : entry ∈ (Function.update calls call phase other).remaining) :
    (other = call ∧ entry ∈ phase.remaining) ∨ (other ≠ call ∧ entry ∈ (calls other).remaining) := by
  by_cases hother : other = call
  · rw [hother, Function.update_self] at h
    exact Or.inl ⟨hother, h⟩
  · rw [Function.update_of_ne hother] at h
    exact Or.inr ⟨hother, h⟩

theorem launched_update {calls : Nat → SchedulerCall} {call other : Nat} {phase : SchedulerCall}
    {entry : ListedProject} (h : (Function.update calls call phase other).launched = some entry) :
    (other = call ∧ phase.launched = some entry) ∨
      (other ≠ call ∧ (calls other).launched = some entry) := by
  by_cases hother : other = call
  · rw [hother, Function.update_self] at h
    exact Or.inl ⟨hother, h⟩
  · rw [Function.update_of_ne hother] at h
    exact Or.inr ⟨hother, h⟩

/-- A call with a list of its own keeps the lists apart. -/
theorem CallsApart.update {calls : Nat → SchedulerCall} (h : CallsApart calls) {call : Nat}
    {phase : SchedulerCall}
    (hfree : ∀ entry ∈ phase.remaining, ∀ other, other ≠ call → ∀ entry' ∈ (calls other).remaining,
      entry.1.projectId ≠ entry'.1.projectId)
    (hnodup : (phase.remaining.map (·.1.projectId)).Nodup) :
    CallsApart (Function.update calls call phase) where
  apart := by
    intro other other' hne entry hentry entry' hentry'
    rcases mem_remaining_update hentry with ⟨hother, hentry⟩ | ⟨hother, hentry⟩ <;>
      rcases mem_remaining_update hentry' with ⟨hother', hentry'⟩ | ⟨hother', hentry'⟩
    · exact absurd (hother.trans hother'.symm) hne
    · exact hfree entry hentry other' hother' entry' hentry'
    · exact (hfree entry' hentry' other hother entry hentry).symm
    · exact h.apart other other' hne entry hentry entry' hentry'
  nodup := by
    intro other
    by_cases hother : other = call
    · rw [hother, Function.update_self]
      exact hnodup
    · rw [Function.update_of_ne hother]
      exact h.nodup other

/-- A call that goes on with a part of its list. -/
theorem CallsApart.shrink {calls : Nat → SchedulerCall} (h : CallsApart calls) {call : Nat}
    {phase : SchedulerCall} (hsub : phase.remaining.Sublist (calls call).remaining) :
    CallsApart (Function.update calls call phase) :=
  h.update
    (fun entry hentry other hother entry' hentry' =>
      h.apart call other hother.symm entry (hsub.subset hentry) entry' hentry')
    ((h.nodup call).sublist (hsub.map _))

/-- An entry stays current while the registry and the number of changes of its project do. -/
theorem SchedulerWorld.Current.of_same {world world' : SchedulerWorld} {entry : ListedProject}
    (h : world.Current entry)
    (hscheduled : ScheduledIn world'.projects entry.1.projectId entry.1.schedule)
    (hchanges : world'.changes entry.1.projectId = world.changes entry.1.projectId)
    (hmet : world.met ⊆ world'.met) : world'.Current entry :=
  ⟨hscheduled, h.enabled, h.next, h.changes.trans hchanges.symm, hmet h.met⟩

/-! ## What one step keeps -/

/-- The calls are as before but for the phases in between. -/
theorem SchedulerInvariant.setCall {world : SchedulerWorld} (h : SchedulerInvariant world)
    {call : Nat} {phase : SchedulerCall} (hremaining : phase.remaining = (world.calls call).remaining)
    (hlaunched : phase.launched = (world.calls call).launched) :
    SchedulerInvariant (world.setCall call phase) := by
  have hrem := update_phase _ SchedulerCall.remaining hremaining
  -- the call keeps its entries and its launched one, so only the phase is new
  have hlau := update_phase _ SchedulerCall.launched hlaunched
  constructor
  case ids => exact h.ids
  case calls => exact h.calls.shrink (hremaining ▸ List.Sublist.refl _)
  case live =>
    intro other entry hentry
    have hcurrent := h.live other entry (hrem other ▸ hentry)
    exact ⟨hcurrent.scheduled, hcurrent.enabled, hcurrent.next, hcurrent.changes, hcurrent.met⟩
  case behind =>
    intro due hdue
    refine ⟨(h.behind due hdue).changes, fun hchanges schedule hscheduled next hnext => ?_⟩
    obtain ⟨time, htime, hbefore⟩ := (h.behind due hdue).earlier hchanges schedule hscheduled next hnext
    refine ⟨time, htime, hbefore.imp_right (And.imp_right ?_)⟩
    rintro ⟨other, entry, hentry, hsame⟩
    exact ⟨other, entry, (hlau other).trans hentry, hsame⟩
  case launched =>
    intro other entry hentry
    exact h.launched other entry ((hlau other).symm.trans hentry)
  case law =>
    refine ⟨h.law.once, h.law.timely, h.law.recorded, h.law.passed, fun due hdue => ?_⟩
    refine (h.law.served due hdue).imp_right (Or.imp_right ?_)
    rintro ⟨other, entry, hentry, hsame⟩
    exact ⟨other, entry, (hrem other).symm ▸ hentry, hsame⟩

/-! ### A call begins -/

theorem mem_dueEntries {world : SchedulerWorld} {now : Instant} {entry : ListedProject} :
    entry ∈ world.dueEntries now ↔
      entry.1 ∈ dueProjects world.projects now ∧ entry.2 = world.changes entry.1.projectId := by
  rw [SchedulerWorld.dueEntries, List.mem_map]
  constructor
  · rintro ⟨project, hproject, rfl⟩
    exact ⟨hproject, rfl⟩
  · rintro ⟨hproject, hchanges⟩
    exact ⟨entry.1, hproject, by rw [← hchanges]⟩

/-- The due times that have come are those of the projects that are due. -/
theorem mem_dueTimes {world : SchedulerWorld} {now : Instant} {due : DueTime} :
    due ∈ world.dueTimes now ↔
      ∃ project ∈ world.projects, ∃ time, DueAt project now time ∧ world.dueTimeOf project = due := by
  rw [SchedulerWorld.dueTimes, List.mem_filterMap]
  refine exists_congr fun project => and_congr_right fun _ => ?_
  cases hnext : project.schedule.nextRunAt with
  | none =>
      refine iff_of_false (fun h => nomatch h) ?_
      rintro ⟨time, hdue, -⟩
      rw [hdue.next] at hnext
      cases hnext
  | some time =>
      dsimp only
      constructor
      · intro h
        by_cases hcome : project.schedule.enabled = true ∧ time ≤ now
        · rw [if_pos hcome] at h
          exact ⟨time, ⟨hcome.1, hnext, hcome.2⟩, Option.some.inj h⟩
        · rw [if_neg hcome] at h
          cases h
      · rintro ⟨time', hdue, rfl⟩
        obtain rfl : time' = time := Option.some.inj (hdue.next.symm.trans hnext)
        rw [if_pos ⟨hdue.enabled, hdue.reached⟩]

/-- The list of a call holds exactly the due times that have come. -/
theorem mem_dueTimes_iff_listed {world : SchedulerWorld} {now : Instant} {due : DueTime} :
    due ∈ world.dueTimes now ↔ ∃ entry ∈ world.dueEntries now, ListedProject.due entry = due := by
  rw [mem_dueTimes]
  constructor
  · rintro ⟨project, hproject, time, hdue, rfl⟩
    exact ⟨(project, world.changes project.projectId),
      mem_dueEntries.mpr ⟨mem_dueProjects_iff.mpr ⟨hproject, time, hdue⟩, rfl⟩, rfl⟩
  · rintro ⟨entry, hentry, rfl⟩
    obtain ⟨hproject, hchanges⟩ := mem_dueEntries.mp hentry
    obtain ⟨hmem, time, hdue⟩ := mem_dueProjects_iff.mp hproject
    refine ⟨entry.1, hmem, time, hdue, ?_⟩
    rw [SchedulerWorld.dueTimeOf, ListedProject.due, hchanges]

/-- A call that reads the due projects is busy with them. -/
theorem SchedulerInvariant.start {world : SchedulerWorld} (h : SchedulerInvariant world) {call : Nat}
    {now : Instant} (hidle : world.calls call = .idle)
    (hfree : ∀ project ∈ dueProjects world.projects now, ¬ world.Busy project.projectId) :
    SchedulerInvariant { world.setCall call (.looping [] (world.dueEntries now)) with
      met := world.dueTimes now ++ world.met } := by
  -- a call that begins has launched nothing
  have hphase : SchedulerCall.launched (.looping [] (world.dueEntries now)) = (world.calls call).launched := by
    rw [hidle]
    rfl
  have hlau := update_phase _ SchedulerCall.launched hphase
  constructor
  case ids => exact h.ids
  case calls =>
    refine h.calls.update (fun entry hentry other _ entry' hentry' hsame => ?_) ?_
    -- no other call holds a project that is due now
    · exact hfree _ (mem_dueEntries.mp hentry).1 ⟨other, entry', hentry', hsame.symm⟩
    · show ((world.dueEntries now).map _).Nodup
      rw [SchedulerWorld.dueEntries, List.map_map]
      exact h.ids.nodup.sublist (List.filter_sublist.map _)
  case live =>
    intro other entry hentry
    -- an entry of the new list, or one of another call
    rcases mem_remaining_update hentry with ⟨-, hentry⟩ | ⟨-, hentry⟩
    · obtain ⟨hproject, hchanges⟩ := mem_dueEntries.mp hentry
      obtain ⟨hmem, time, hdue⟩ := mem_dueProjects_iff.mp hproject
      exact ⟨⟨entry.1, hmem, rfl, rfl⟩, hdue.enabled, ⟨time, hdue.next⟩, hchanges,
        List.mem_append_left _ (mem_dueTimes_iff_listed.mpr ⟨entry, hentry, rfl⟩)⟩
    · have hcurrent := h.live other entry hentry
      exact hcurrent.of_same hcurrent.scheduled rfl (List.subset_append_right _ _)
  case behind =>
    intro due hdue
    refine ⟨(h.behind due hdue).changes, fun hchanges schedule hscheduled next hnext => ?_⟩
    obtain ⟨time, htime, hbefore⟩ := (h.behind due hdue).earlier hchanges schedule hscheduled next hnext
    refine ⟨time, htime, hbefore.imp_right (And.imp_right ?_)⟩
    rintro ⟨other, entry, hentry, hsame⟩
    exact ⟨other, entry, (hlau other).trans hentry, hsame⟩
  case launched =>
    intro other entry hentry
    exact h.launched other entry ((hlau other).symm.trans hentry)
  case law =>
    refine ⟨h.law.once, fun due hdue => List.mem_append_right _ (h.law.timely due hdue),
      h.law.recorded, h.law.passed, fun due hdue => ?_⟩
    rcases List.mem_append.mp hdue with hdue | hdue
    -- a due time met just now is in the list of this call
    · obtain ⟨entry, hentry, hsame⟩ := mem_dueTimes_iff_listed.mp hdue
      refine Or.inr (Or.inr ⟨call, entry, ?_, hsame⟩)
      show entry ∈ (Function.update world.calls call _ call).remaining
      rw [Function.update_self]
      exact hentry
    -- one met before is served as it was; this call was idle and served none
    · refine (h.law.served due hdue).imp_right (Or.imp_right ?_)
      rintro ⟨other, entry, hentry, hsame⟩
      have hother : other ≠ call := by
        rintro rfl
        rw [hidle] at hentry
        cases hentry
      refine ⟨other, entry, ?_, hsame⟩
      show entry ∈ (Function.update world.calls call _ other).remaining
      rw [Function.update_of_ne hother]
      exact hentry

/-! ### A project is launched -/

/-- A due time that is next on a list has not been run: its run would be behind the schedule. -/
theorem SchedulerInvariant.not_run {world : SchedulerWorld} (h : SchedulerInvariant world) {call : Nat}
    {results : List ScheduledProjectResult} {entry : ListedProject} {rest : List ListedProject}
    (hcall : world.calls call = .looping results (entry :: rest)) : entry.due ∉ world.runs := by
  have hmem : entry ∈ (world.calls call).remaining := by
    rw [hcall]
    exact List.mem_cons_self
  have hcurrent := h.live call entry hmem
  intro hrun
  obtain ⟨next, hnext⟩ := hcurrent.next
  obtain ⟨time, htime, hbefore⟩ := (h.behind _ hrun).earlier hcurrent.changes _ hcurrent.scheduled
    next hnext
  obtain rfl : next = time := Option.some.inj (hnext.symm.trans htime)
  rcases hbefore with hless | ⟨-, other, entry', hlaunched, hsame⟩
  · exact lt_irrefl _ hless
  · -- the call that has launched it would have the project on its list too
    have hother : other ≠ call := by
      rintro rfl
      rw [hcall] at hlaunched
      cases hlaunched
    exact h.calls.apart other call hother entry' (SchedulerCall.mem_remaining_of_launched hlaunched)
      entry hmem (congrArg DueTime.projectId hsame)

/-- The next project of a call is run: its due time has not been run before. -/
theorem SchedulerInvariant.launch {world : SchedulerWorld} (h : SchedulerInvariant world) {call : Nat}
    {results : List ScheduledProjectResult} {entry : ListedProject} {rest : List ListedProject}
    (hcall : world.calls call = .looping results (entry :: rest)) :
    SchedulerInvariant { world.setCall call (.running results entry rest) with
      runs := entry.due :: world.runs } := by
  have hmem : entry ∈ (world.calls call).remaining := by
    rw [hcall]
    exact List.mem_cons_self
  have hcurrent := h.live call entry hmem
  -- the entry that is launched stays among those the call has left
  have hphase : SchedulerCall.remaining (.running results entry rest) = (world.calls call).remaining := by
    rw [hcall]
    rfl
  have hrem := update_phase _ SchedulerCall.remaining hphase
  constructor
  case ids => exact h.ids
  case calls =>
    refine h.calls.shrink ?_
    rw [hcall]
    exact List.Sublist.refl _
  case live =>
    intro other entry' hentry'
    have hcurrent' := h.live other entry' (hrem other ▸ hentry')
    exact hcurrent'.of_same hcurrent'.scheduled rfl (List.Subset.refl _)
  case behind =>
    intro due hrun
    -- the run that begins now, or one before it
    rcases List.mem_cons.mp hrun with rfl | hrun
    · refine ⟨hcurrent.changes.le, fun _ schedule hscheduled next hnext => ?_⟩
      obtain rfl := hcurrent.scheduled.unique h.ids hscheduled
      refine ⟨next, hnext, Or.inr ⟨rfl, call, entry, ?_, rfl⟩⟩
      show (Function.update world.calls call _ call).launched = _
      rw [Function.update_self]
      rfl
    · refine ⟨(h.behind due hrun).changes, fun hchanges schedule hscheduled next hnext => ?_⟩
      obtain ⟨time, htime, hbefore⟩ :=
        (h.behind due hrun).earlier hchanges schedule hscheduled next hnext
      refine ⟨time, htime, hbefore.imp_right (And.imp_right ?_)⟩
      -- the call that launches was looping, so the witness is another one
      rintro ⟨other, entry', hentry', hsame⟩
      have hother : other ≠ call := by
        rintro rfl
        rw [hcall] at hentry'
        cases hentry'
      exact ⟨other, entry',
        (congrArg SchedulerCall.launched (Function.update_of_ne hother _ _)).trans hentry', hsame⟩
  case launched =>
    intro other entry' hentry'
    -- the entry just launched is in the runs
    rcases launched_update hentry' with ⟨-, hentry'⟩ | ⟨-, hentry'⟩
    · cases hentry'
      exact List.mem_cons_self
    · exact List.mem_cons_of_mem _ (h.launched other entry' hentry')
  case law =>
    refine ⟨List.nodup_cons.mpr ⟨h.not_run hcall, h.law.once⟩, ?_, ?_, ?_, ?_⟩
    · exact List.forall_mem_cons.mpr ⟨hcurrent.met, h.law.timely⟩
    · exact fun due hdue => List.mem_cons_of_mem _ (h.law.recorded due hdue)
    · exact fun due hdue => List.mem_cons_of_mem _ (h.law.passed due hdue)
    · intro due hdue
      refine (h.law.served due hdue).imp_right (Or.imp_right ?_)
      rintro ⟨other, entry', hentry', hsame⟩
      exact ⟨other, entry', (hrem other).symm ▸ hentry', hsame⟩

/-! ### A run is recorded -/

/-- The registry and the calls after the record of an entry. -/
def recordedAs (world : SchedulerWorld) (call : Nat) (results : List ScheduledProjectResult)
    (entry : ListedProject) (rest : List ListedProject) (updated : WorkspaceProject) :
    SchedulerWorld :=
  { world.setCall call (.looping results rest) with
    projects := replaceProject world.projects updated
    recorded := entry.due :: world.recorded
    passed := world.passing updated.projectId ++ world.passed }

/-- A call about to record an entry: what is left of its list is of other projects. -/
theorem SchedulerInvariant.rest_ne {world : SchedulerWorld} (h : SchedulerInvariant world) {call : Nat}
    {results : List ScheduledProjectResult} {entry : ListedProject} {result : ScheduledProjectResult}
    {rest : List ListedProject} (hcall : world.calls call = .recording results entry result rest)
    {results' : List ScheduledProjectResult} {other : Nat} {entry' : ListedProject}
    (hentry' : entry' ∈ (Function.update world.calls call (.looping results' rest) other).remaining) :
    entry' ∈ (world.calls other).remaining ∧ entry'.1.projectId ≠ entry.1.projectId := by
  have hmem : entry ∈ (world.calls call).remaining := by
    rw [hcall]
    exact List.mem_cons_self
  rcases mem_remaining_update hentry' with ⟨hother, hrest⟩ | ⟨hother, hentry'⟩
  · have hnodup := h.calls.nodup call
    rw [hother]
    rw [hcall] at hnodup ⊢
    refine ⟨List.mem_cons_of_mem _ hrest, fun hsame => ?_⟩
    exact (List.nodup_cons.mp hnodup).1 (List.mem_map.mpr ⟨entry', hrest, hsame⟩)
  · exact ⟨hentry', h.calls.apart other call hother entry' hentry' entry hmem⟩

/-- What was run stays behind the schedule that a record writes. -/
theorem SchedulerInvariant.behind_record {world : SchedulerWorld} (h : SchedulerInvariant world)
    {call : Nat} {results results' : List ScheduledProjectResult} {entry : ListedProject}
    {result : ScheduledProjectResult} {rest : List ListedProject}
    (hcall : world.calls call = .recording results entry result rest) {updated : WorkspaceProject}
    {next : Instant} (hid : updated.projectId = entry.1.projectId)
    (hschedule : updated.schedule = { entry.1.schedule with nextRunAt := some next })
    (hlater : ∀ time, entry.1.schedule.nextRunAt = some time → time < next)
    {due : DueTime} (hdue : due ∈ world.runs) :
    (recordedAs world call results' entry rest updated).Behind due := by
  -- the call with the run still has its entry
  have hmem : entry ∈ (world.calls call).remaining := by
    rw [hcall]
    exact List.mem_cons_self
  refine ⟨(h.behind due hdue).changes, fun hchanges schedule hscheduled after hafter => ?_⟩
  replace hscheduled : ScheduledIn (replaceProject world.projects updated) due.projectId schedule :=
    hscheduled
  by_cases hsame : due.projectId = updated.projectId
  · -- the project that is recorded: its new next run is after the due time of the run
    rw [hsame] at hscheduled
    rw [schedule_of_replaceProject hscheduled, hschedule] at hafter
    obtain rfl : next = after := Option.some.inj hafter
    have hcurrent := h.live call entry hmem
    obtain ⟨before, hbefore⟩ := hcurrent.next
    obtain ⟨time, htime, hless⟩ := (h.behind due hdue).earlier hchanges entry.1.schedule
      (hsame ▸ hid ▸ hcurrent.scheduled) before hbefore
    have hbeforeNext := hlater before hbefore
    refine ⟨time, htime, Or.inl ?_⟩
    rcases hless with hless | ⟨rfl, -⟩
    · exact hless.trans hbeforeNext
    · exact hbeforeNext
  -- a project of another call keeps its schedule
  · obtain ⟨time, htime, hless⟩ := (h.behind due hdue).earlier hchanges schedule
      ((sameSchedules_replaceProject _ _ _ hsame schedule).mp hscheduled) after hafter
    refine ⟨time, htime, hless.imp_right (And.imp_right ?_)⟩
    rintro ⟨other, entry', hlaunched, hdue'⟩
    have hother : other ≠ call := by
      rintro rfl
      rw [hcall] at hlaunched
      cases hlaunched
      exact hsame (hdue' ▸ hid.symm)
    exact ⟨other, entry',
      (congrArg SchedulerCall.launched (Function.update_of_ne hother _ _)).trans hlaunched, hdue'⟩

/-- The law after a record: the due time it moves the schedule past is that of the run. -/
theorem SchedulerInvariant.law_record {world : SchedulerWorld} (h : SchedulerInvariant world)
    {call : Nat} {results results' : List ScheduledProjectResult} {entry : ListedProject}
    {result : ScheduledProjectResult} {rest : List ListedProject}
    (hcall : world.calls call = .recording results entry result rest) {updated : WorkspaceProject}
    (hid : updated.projectId = entry.1.projectId) :
    SchedulerLaw (recordedAs world call results' entry rest updated) := by
  have hlaunched : (world.calls call).launched = some entry := by
    rw [hcall]
    rfl
  have hcurrent := h.live call entry (SchedulerCall.mem_remaining_of_launched hlaunched)
  have hrun := h.launched call entry hlaunched
  refine ⟨h.law.once, h.law.timely, ?_, ?_, fun due hdue => ?_⟩
  · exact List.forall_mem_cons.mpr ⟨hrun, h.law.recorded⟩
  · intro due hdue
    -- the due time passed by this record is that of the run
    rcases List.mem_append.mp hdue with hdue | hdue
    · obtain ⟨project, -, hfind, hproject, hsame⟩ := find?_of_scheduled h.ids hcurrent.scheduled
      rw [SchedulerWorld.passing, hid, hfind] at hdue
      obtain rfl : due = world.dueTimeOf project := List.mem_singleton.mp hdue
      rw [SchedulerWorld.dueTimeOf, hproject, hsame, ← hcurrent.changes]
      exact hrun
    · exact h.law.passed due hdue
  -- what this call still had to serve it records now or keeps
  · rcases h.law.served due hdue with hdone | htaken | ⟨other, entry', hentry', hsame⟩
    · exact Or.inl (List.mem_cons_of_mem _ hdone)
    · exact Or.inr (Or.inl htaken)
    · by_cases hother : other = call
      · rw [hother, hcall] at hentry'
        rcases List.mem_cons.mp hentry' with rfl | hentry'
        · exact Or.inl (hsame ▸ List.mem_cons_self)
        · refine Or.inr (Or.inr ⟨call, entry', ?_, hsame⟩)
          show entry' ∈ (Function.update world.calls call _ call).remaining
          rw [Function.update_self]
          exact hentry'
      · refine Or.inr (Or.inr ⟨other, entry', ?_, hsame⟩)
        show entry' ∈ (Function.update world.calls call _ other).remaining
        rw [Function.update_of_ne hother]
        exact hentry'

/-- The run of a project is recorded and its call goes on with the rest of the list. -/
theorem SchedulerInvariant.record {world : SchedulerWorld} (h : SchedulerInvariant world) {call : Nat}
    {results results' : List ScheduledProjectResult} {entry : ListedProject}
    {result : ScheduledProjectResult} {rest : List ListedProject}
    (hcall : world.calls call = .recording results entry result rest) {updated : WorkspaceProject}
    {next : Instant} (hid : updated.projectId = entry.1.projectId)
    (hschedule : updated.schedule = { entry.1.schedule with nextRunAt := some next })
    (hlater : ∀ time, entry.1.schedule.nextRunAt = some time → time < next) :
    SchedulerInvariant (recordedAs world call results' entry rest updated) where
  ids := h.ids.of_map_eq (map_projectId_replaceProject _ _)
  calls := by
    refine h.calls.shrink ?_
    rw [hcall]
    exact List.sublist_cons_self entry rest
  live := by
    intro other entry' hentry'
    -- the other entries are of other projects, whose schedules stay
    obtain ⟨hold, hne⟩ := h.rest_ne hcall hentry'
    have hcurrent := h.live other entry' hold
    refine hcurrent.of_same ?_ rfl (List.Subset.refl _)
    exact (sameSchedules_replaceProject _ _ _ (hid ▸ hne) _).mpr hcurrent.scheduled
  behind due hdue := h.behind_record hcall hid hschedule hlater hdue
  launched := by
    intro other entry' hentry'
    rcases launched_update hentry' with ⟨-, hentry'⟩ | ⟨-, hentry'⟩
    · cases hentry'
    · exact h.launched other entry' hentry'
  law := h.law_record hcall hid

/-! ### The operator -/

/-- The operator changes a project that no call is busy with. -/
theorem SchedulerInvariant.change {world : SchedulerWorld} (h : SchedulerInvariant world)
    {projects : List WorkspaceProject} {projectId : Text} (hfree : ¬ world.Busy projectId)
    (hids : DistinctIds projects) (hsame : SameSchedules world.projects projects projectId) :
    SchedulerInvariant (world.change projects projectId) := by
  -- a change is only ever counted up
  have hless : ∀ other, world.changes other ≤ (world.change projects projectId).changes other := by
    intro other
    show _ ≤ Function.update world.changes _ _ _
    by_cases hother : other = projectId
    · rw [hother, Function.update_self]
      exact Nat.le_succ _
    · rw [Function.update_of_ne hother]
  constructor
  case ids => exact hids
  case calls => exact h.calls
  case live =>
    intro call entry hentry
    -- no call holds the changed project
    have hne : entry.1.projectId ≠ projectId := fun hid => hfree ⟨call, entry, hentry, hid⟩
    have hcurrent := h.live call entry hentry
    exact hcurrent.of_same ((hsame _ hne _).mpr hcurrent.scheduled) (Function.update_of_ne hne _ _)
      (List.Subset.refl _)
  case behind =>
    intro due hdue
    have hbehind := h.behind due hdue
    refine ⟨hbehind.changes.trans (hless _), fun hchanges schedule hscheduled next hnext => ?_⟩
    replace hchanges : due.changes = Function.update world.changes projectId
      (world.changes projectId + 1) due.projectId := hchanges
    by_cases hid : due.projectId = projectId
    · -- a changed project has no run that counts yet
      have hold := hbehind.changes
      rw [hid, Function.update_self] at hchanges
      rw [hid] at hold
      omega
    · rw [Function.update_of_ne hid] at hchanges
      exact hbehind.earlier hchanges schedule ((hsame _ hid _).mp hscheduled) next hnext
  case launched => exact h.launched
  case law =>
    refine ⟨h.law.once, h.law.timely, h.law.recorded, h.law.passed, fun due hdue => ?_⟩
    exact (h.law.served due hdue).imp_right (Or.imp_left fun htaken =>
      Nat.lt_of_lt_of_le htaken (hless _))

/-- A registration keeps the invariant: it adds no next run. -/
theorem SchedulerInvariant.register {world : SchedulerWorld} (h : SchedulerInvariant world)
    {projects : List WorkspaceProject} (hids : DistinctIds projects)
    (hkeeps : ∀ projectId schedule, ScheduledIn world.projects projectId schedule →
      ScheduledIn projects projectId schedule)
    (hadds : ∀ projectId schedule, ScheduledIn projects projectId schedule →
      ScheduledIn world.projects projectId schedule ∨ schedule.nextRunAt = none) :
    SchedulerInvariant { world with projects } where
  ids := hids
  calls := h.calls
  live call entry hentry :=
    (h.live call entry hentry).of_same (hkeeps _ _ (h.live call entry hentry).scheduled) rfl
      (List.Subset.refl _)
  behind due hdue := by
    refine ⟨(h.behind due hdue).changes, fun hchanges schedule hscheduled next hnext => ?_⟩
    rcases hadds _ _ hscheduled with hold | hnone
    · exact (h.behind due hdue).earlier hchanges schedule hold next hnext
    · rw [hnone] at hnext
      cases hnext
  launched := h.launched
  law := ⟨h.law.once, h.law.timely, h.law.recorded, h.law.passed, h.law.served⟩

/-! ## Runs -/

section Runs

variable {executable : Text} {pathKey projectIdOf : Text → Text}

/-- A project whose runner settles has a result. -/
theorem runRegisteredProject_of_settles (executable : Text) (project : WorkspaceProject)
    {outcome : RunnerOutcome} {notifications : Option (List Text)}
    (h : Settles outcome notifications) :
    ∃ result, runRegisteredProject executable project outcome notifications = some result := by
  cases notifications with
  | none => cases outcome <;> cases h
  | some errors =>
      cases outcome with
      | completed returnCode stdout stderr =>
          obtain ⟨report, hreport⟩ := Option.isSome_iff_exists.mp h
          rw [runRegisteredProject, hreport]
          exact ⟨_, rfl⟩
      | launchFailed message => exact ⟨_, rfl⟩
      | raises => cases h

/-- An undisturbed step keeps the invariant. -/
theorem schedulerInvariant_step {world : SchedulerWorld} {event : SchedulerEvent}
    (h : SchedulerInvariant world) (hcalm : Undisturbed pathKey projectIdOf world event) :
    SchedulerInvariant (world.step executable pathKey projectIdOf event) := by
  -- one case for each event; in a phase that does not fit, nothing happens
  cases event with
  | start call now =>
      rw [SchedulerWorld.step]
      cases hcall : world.calls call with
      | idle => exact h.start hcall (hcalm hcall)
      | _ => exact h
  | launch call =>
      rw [SchedulerWorld.step]
      cases hcall : world.calls call with
      | looping results rest =>
          cases rest with
          | nil => exact h.setCall (by rw [hcall]; rfl) (by rw [hcall]; rfl)
          | cons entry rest => exact h.launch hcall
      | _ => exact h
  | finish call outcome notifications =>
      rw [SchedulerWorld.step]
      cases hcall : world.calls call with
      | running results entry rest =>
          -- an undisturbed run settles, with a result to record
          obtain ⟨result, hresult⟩ := runRegisteredProject_of_settles executable entry.1
            (hcalm results entry rest hcall)
          simp only [hresult]
          exact h.setCall (by rw [hcall]; rfl) (by rw [hcall]; rfl)
      | _ => exact h
  | record call now =>
      rw [SchedulerWorld.step]
      cases hcall : world.calls call with
      | recording results entry result rest =>
          have hmem : entry ∈ (world.calls call).remaining := by
            rw [hcall]
            exact List.mem_cons_self
          have hcurrent := h.live call entry hmem
          obtain ⟨hreached, hrange⟩ := hcalm results entry result rest hcall
          -- the schedule of the entry is the one in the file, so the record is of the listed
          -- project
          obtain ⟨project, hproject, hid, hschedule⟩ := hcurrent.scheduled
          obtain ⟨next, hnext⟩ := hrange project hproject hid
          rw [hschedule] at hnext
          obtain ⟨updated, hrecord, hid, hschedule⟩ := recordRun_of_scheduled h.ids
            hcurrent.scheduled hcurrent.enabled result.status (resultError result) hnext
          simp only [hrecord]
          refine h.record hcall hid hschedule fun time htime => ?_
          exact (hreached time htime).trans_lt (lt_of_addMinutes entry.1.schedule.positive hnext)
      | _ => exact h
  | fail call =>
      rw [SchedulerWorld.step]
      have hnone : (world.calls call).remaining = [] := hcalm
      cases hcall : world.calls call with
      -- an undisturbed call fails only when it has nothing left
      | looping results rest =>
          rw [hcall] at hnone
          exact h.setCall (by rw [hcall]; exact hnone.symm) (by rw [hcall]; rfl)
      | running results entry rest =>
          rw [hcall] at hnone
          cases hnone
      | recording results entry result rest =>
          rw [hcall] at hnone
          cases hnone
      | _ => exact h
  | register resolved name now =>
      rw [SchedulerWorld.step]
      cases hregister : registerProject pathKey projectIdOf world.projects resolved name now with
      | ok projects =>
          obtain ⟨hids, hkeeps, hadds⟩ := registerProject_ok h.ids hcalm hregister
          exact h.register hids hkeeps hadds
      | error fault => exact h
  | remove projectId =>
      rw [SchedulerWorld.step]
      cases hremove : removeProject world.projects projectId with
      | ok removed =>
          obtain ⟨hid, hids, hsame⟩ := removeProject_ok h.ids hremove
          exact h.change (hid ▸ hcalm) hids hsame
      | error fault => exact h
  | configure projectId options now =>
      rw [SchedulerWorld.step]
      cases hconfigure : configureSchedule world.projects projectId options now with
      | ok configured =>
          obtain ⟨hid, hids, hsame⟩ := configureSchedule_ok h.ids hconfigure
          exact h.change (hid ▸ hcalm) hids hsame
      | error fault => exact h

/-- Before any call the invariant holds of every registry whose identifiers are distinct. -/
theorem schedulerInvariant_start {projects : List WorkspaceProject} (h : DistinctIds projects) :
    SchedulerInvariant { projects } where
  ids := h
  calls := ⟨fun _ _ _ _ hentry => (nomatch hentry), fun _ => List.nodup_nil⟩
  live _ _ hentry := (nomatch hentry)
  behind _ hrun := (nomatch hrun)
  launched _ _ hentry := (nomatch hentry)
  law := {
    once := List.nodup_nil
    timely := fun _ hdue => (nomatch hdue)
    recorded := fun _ hdue => (nomatch hdue)
    passed := fun _ hdue => (nomatch hdue)
    served := fun _ hdue => (nomatch hdue) }

/-- **Every due time once, in undisturbed runs**: the law holds in every state that is
    reached. -/
theorem schedulerLaw_of_undisturbed {projects : List WorkspaceProject} (hids : DistinctIds projects)
    {events : List SchedulerEvent}
    (hcalm : Run.Each (SchedulerWorld.step executable pathKey projectIdOf)
      (Undisturbed pathKey projectIdOf) { projects } events)
    {before : List SchedulerEvent} (hbefore : before <+: events) :
    SchedulerLaw (before.foldl (SchedulerWorld.step executable pathKey projectIdOf) { projects }) := by
  have hinvariant : SchedulerInvariant
      (before.foldl (SchedulerWorld.step executable pathKey projectIdOf) { projects }) :=
    (hcalm.of_earlier hbefore).invariant (schedulerInvariant_start hids)
      fun _ _ h hstep => schedulerInvariant_step h hstep
  exact hinvariant.law

end Runs

/-! ## Runs of two projects -/

/-- An hour is an interval of a schedule. -/
theorem one_le_hour : (1 : Int) ≤ 60 := by
  decide

/-- A project that is due at once and then every hour. -/
def hourlyProject (projectId : String) : WorkspaceProject where
  projectId := projectId.toList
  name := projectId.toList
  root := projectId.toList
  registeredAt := 0
  schedule := { enabled := true, nextRunAt := some 0, positive := one_le_hour }

/-- A call beside the removal of a project that it is not busy with. -/
theorem schedulerLaw_calm :
    SchedulerLaw (List.foldl (SchedulerWorld.step [] id id)
      { projects := [hourlyProject "docs", hourlyProject "site"] }
      [.remove "site".toList, .start 0 0, .launch 0, .finish 0 (.completed 0 [] []) (some []),
        .record 0 1, .launch 0]) := by
  have hids : DistinctIds [hourlyProject "docs", hourlyProject "site"] := ⟨by decide, by decide⟩
  refine schedulerLaw_of_undisturbed hids ?_ (List.prefix_refl _)
  refine ⟨?_, ?_, trivial, ?_, ?_, trivial, trivial⟩
  · rintro ⟨call, entry, hentry, -⟩
    cases hentry
  · rintro - project - ⟨call, entry, hentry, -⟩
    cases hentry
  · intro results entry rest hcall
    exact (by decide : (parseRunOutput [] 0).isSome = true)
  · rintro results entry result rest hcall
    cases hcall
    refine ⟨fun time htime => ?_, fun project hproject hid => ?_⟩
    · rw [← Option.some.inj htime]
      decide
    · rw [List.mem_singleton.mp hproject]
      exact ⟨_, rfl⟩

/-- Two calls that overlap run one due time twice, and the removal of a project whose run is
    not over keeps the next project of the call from being run. -/
theorem not_schedulerLaw_disturbed :
    ¬ SchedulerLaw (List.foldl (SchedulerWorld.step [] id id)
        { projects := [hourlyProject "docs"] }
        [.start 0 0, .start 1 0, .launch 0, .launch 1]) ∧
      ¬ SchedulerLaw (List.foldl (SchedulerWorld.step [] id id)
        { projects := [hourlyProject "docs", hourlyProject "site"] }
        [.start 0 0, .launch 0, .remove "docs".toList, .finish 0 (.completed 0 [] []) (some []),
          .record 0 1]) := by
  constructor
  · intro hlaw
    exact absurd hlaw.once (by decide)
  · intro hlaw
    rcases hlaw.served ⟨"site".toList, 0, some 0⟩ (by decide) with
      hdone | htaken | ⟨call, entry, hentry, -⟩
    · exact absurd hdone (by decide)
    · exact absurd htaken (by decide)
    · cases call with
      | zero => cases hentry
      | succ call => cases hentry

end LlmHarness.Workspace
