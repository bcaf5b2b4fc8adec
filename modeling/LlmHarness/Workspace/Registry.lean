/-
  LlmHarness.Workspace.Registry

  The workspace registry of `workspace.py`: registered projects with their schedules,
  and the operations on them.  Each operation loads the registry, changes it and writes
  it under one lease.

  Times are instants in microseconds since 1970; the source writes them as ISO 8601
  texts and reads the same instants back.
-/

import Mathlib.Data.List.Nodup
import LlmHarness.Lib.Guards
import LlmHarness.Python.Strip

namespace LlmHarness.Workspace

open Python

/-- What the operations of the registry raise. -/
inductive RegistryFault where
  | valueError (message : String)
  | overflowError
deriving DecidableEq, Repr

/-- An instant in microseconds since 1970. -/
abbrev Instant := Int

/-- `datetime.min` in UTC. -/
def minInstant : Instant := -62135596800000000

/-- `datetime.max` in UTC. -/
def maxInstant : Instant := 253402300799999999

/-- `current + timedelta(minutes=minutes)`. -/
def addMinutes (current : Instant) (minutes : Int) : Except RegistryFault Instant :=
  let later := current + minutes * 60000000
  if minInstant ≤ later ∧ later ≤ maxInstant then .ok later else .error .overflowError

/-- `ProjectSchedule`, with the check of its `__post_init__`. -/
structure ProjectSchedule where
  enabled : Bool := false
  intervalMinutes : Int := 60
  nextRunAt : Option Instant := none
  finalAudit : Bool := false
  notifyWindows : Bool := true
  notifyTelegram : Bool := false
  positive : 1 ≤ intervalMinutes := by decide
deriving DecidableEq, Repr

/-- `WorkspaceProject`. -/
structure WorkspaceProject where
  projectId : Text
  name : Text
  root : Text
  registeredAt : Instant
  schedule : ProjectSchedule := {}
  lastRunAt : Option Instant := none
  lastRunStatus : Option Text := none
  lastRunError : Option Text := none
deriving DecidableEq, Repr

/-- `_find_project`. -/
def findProject (projects : List WorkspaceProject) (projectId : Text) :
    Except RegistryFault WorkspaceProject :=
  match projects.find? (·.projectId = strip projectId) with
  | some project => .ok project
  | none => .error (.valueError ("Unknown workspace project: " ++ String.ofList projectId))

/-- `_replace`. -/
def replaceProject (projects : List WorkspaceProject) (updated : WorkspaceProject) :
    List WorkspaceProject :=
  projects.map fun item => if item.projectId = updated.projectId then updated else item

/-- `due_projects`. -/
def dueProjects (projects : List WorkspaceProject) (now : Instant) : List WorkspaceProject :=
  projects.filter fun project =>
    project.schedule.enabled && project.schedule.nextRunAt.any (· ≤ now)

/-- What the operator sets with `configure_schedule`. -/
structure ScheduleOptions where
  enabled : Bool
  intervalMinutes : Int
  finalAudit : Bool := false
  notifyWindows : Bool := true
  notifyTelegram : Bool := false
  startImmediately : Bool := false

/-- `remove`: the project and the registry without it. -/
def removeProject (projects : List WorkspaceProject) (projectId : Text) :
    Except RegistryFault (WorkspaceProject × List WorkspaceProject) := do
  let project ← findProject projects projectId
  return (project, projects.filter (·.projectId ≠ project.projectId))

/-- The next run of a schedule, with the delay in minutes. -/
def nextRun (enabled : Bool) (now : Instant) (delay : Int) : Except RegistryFault (Option Instant) :=
  if enabled then some <$> addMinutes now delay else pure none

/-- `configure_schedule`. -/
def configureSchedule (projects : List WorkspaceProject) (projectId : Text)
    (options : ScheduleOptions) (now : Instant) :
    Except RegistryFault (WorkspaceProject × List WorkspaceProject) := do
  let project ← findProject projects projectId
  let nextRunAt ← nextRun options.enabled now
    (if options.startImmediately then 0 else options.intervalMinutes)
  if hpositive : 1 ≤ options.intervalMinutes then
    let updated := { project with schedule := {
      enabled := options.enabled
      intervalMinutes := options.intervalMinutes
      nextRunAt
      finalAudit := options.finalAudit
      notifyWindows := options.notifyWindows
      notifyTelegram := options.notifyTelegram
      positive := hpositive } }
    return (updated, replaceProject projects updated)
  else .error (.valueError "Project schedule interval must be at least one minute.")

/-- A text, or nothing for an empty one. -/
def textOrNone (text : Text) : Option Text := if text = [] then none else some text

/-- `record_run`. -/
def recordRun (projects : List WorkspaceProject) (projectId status : Text) (error : Option Text)
    (now : Instant) : Except RegistryFault (WorkspaceProject × List WorkspaceProject) := do
  let project ← findProject projects projectId
  let nextRunAt ← nextRun project.schedule.enabled now project.schedule.intervalMinutes
  let updated := { project with
    schedule := { project.schedule with nextRunAt }
    lastRunAt := some now
    lastRunStatus := some (if strip status = [] then "unknown".toList else strip status)
    lastRunError := textOrNone (strip (error.getD [])) }
  return (updated, replaceProject projects updated)

section Register

-- `_path_key` of a root, and the shortened SHA-256 of a key
variable (pathKey projectIdOf : Text → Text)

/-- The registry with the first entry at a key renamed, if there is one. -/
def renameAt (key name : Text) : List WorkspaceProject → Option (List WorkspaceProject)
  | [] => none
  | item :: projects =>
    if pathKey item.root = key then some ({ item with name } :: projects)
    else (renameAt key name projects).map (item :: ·)

/-- `register` of a Git root that is resolved. -/
def registerProject (projects : List WorkspaceProject) (resolved name : Text) (now : Instant) :
    Except RegistryFault (List WorkspaceProject) :=
  if strip name = [] || strip resolved = [] then
    .error (.valueError "Workspace project id, name, and root must be non-empty.")
  else match renameAt pathKey (pathKey resolved) (strip name) projects with
    | some renamed => .ok renamed
    | none => .ok (projects ++ [{
        projectId := projectIdOf (pathKey resolved), name := strip name, root := resolved
        registeredAt := now }])

end Register

/-! ## What the operations keep -/

/-- The identifiers of a registry: as `register` draws them, each once and without white
    space around it. -/
structure DistinctIds (projects : List WorkspaceProject) : Prop where
  nodup : (projects.map WorkspaceProject.projectId).Nodup
  plain : ∀ project ∈ projects, strip project.projectId = project.projectId

/-- The project of an identifier has a schedule. -/
def ScheduledIn (projects : List WorkspaceProject) (projectId : Text) (schedule : ProjectSchedule) :
    Prop :=
  ∃ project ∈ projects, project.projectId = projectId ∧ project.schedule = schedule

/-- The schedules of all projects but one are the same. -/
def SameSchedules (projects projects' : List WorkspaceProject) (projectId : Text) : Prop :=
  ∀ other, other ≠ projectId → ∀ schedule,
    (ScheduledIn projects' other schedule ↔ ScheduledIn projects other schedule)

/-- A project is due when its schedule is enabled and its next run has come. -/
structure DueAt (project : WorkspaceProject) (now time : Instant) : Prop where
  enabled : project.schedule.enabled = true
  next : project.schedule.nextRunAt = some time
  reached : time ≤ now

theorem mem_dueProjects_iff {projects : List WorkspaceProject} {now : Instant}
    {project : WorkspaceProject} :
    project ∈ dueProjects projects now ↔ project ∈ projects ∧ ∃ time, DueAt project now time := by
  rw [dueProjects, List.mem_filter, Bool.and_eq_true_iff, Option.any_eq_true_iff_get]
  refine and_congr_right fun _ => ?_
  constructor
  · rintro ⟨henabled, hsome, hreached⟩
    exact ⟨_, henabled, (Option.some_get hsome).symm, of_decide_eq_true hreached⟩
  · rintro ⟨time, henabled, hnext, hreached⟩
    refine ⟨henabled, by rw [hnext]; rfl, decide_eq_true ?_⟩
    simpa only [hnext, Option.get_some] using hreached

/-- One identifier has one schedule. -/
theorem ScheduledIn.unique {projects : List WorkspaceProject} (hids : DistinctIds projects)
    {projectId : Text} {schedule schedule' : ProjectSchedule}
    (h : ScheduledIn projects projectId schedule) (h' : ScheduledIn projects projectId schedule') :
    schedule = schedule' := by
  obtain ⟨project, hproject, hid, rfl⟩ := h
  obtain ⟨project', hproject', hid', rfl⟩ := h'
  rw [List.inj_on_of_nodup_map hids.nodup hproject hproject' (hid.trans hid'.symm)]

theorem map_projectId_replaceProject (projects : List WorkspaceProject) (updated : WorkspaceProject) :
    (replaceProject projects updated).map WorkspaceProject.projectId =
      projects.map WorkspaceProject.projectId := by
  rw [replaceProject, List.map_map]
  refine List.map_congr_left fun item _ => ?_
  show (if item.projectId = updated.projectId then updated else item).projectId = item.projectId
  by_cases hid : item.projectId = updated.projectId
  · rw [if_pos hid, hid]
  · rw [if_neg hid]

theorem DistinctIds.of_map_eq {projects projects' : List WorkspaceProject} (h : DistinctIds projects)
    (heq : projects'.map WorkspaceProject.projectId = projects.map WorkspaceProject.projectId) :
    DistinctIds projects' where
  nodup := heq ▸ h.nodup
  plain project hproject := by
    have hid : project.projectId ∈ projects.map WorkspaceProject.projectId :=
      heq ▸ List.mem_map_of_mem hproject
    obtain ⟨other, hother, hsame⟩ := List.mem_map.mp hid
    rw [← hsame]
    exact h.plain other hother

/-- Only the project with the identifier of an update is changed. -/
theorem sameSchedules_replaceProject (projects : List WorkspaceProject) (updated : WorkspaceProject) :
    SameSchedules projects (replaceProject projects updated) updated.projectId := by
  intro other hne schedule
  constructor
  · rintro ⟨project, hproject, hid, hschedule⟩
    obtain ⟨item, hitem, hreplaced⟩ := List.mem_map.mp hproject
    by_cases hsame : item.projectId = updated.projectId
    · rw [if_pos hsame] at hreplaced
      rw [← hreplaced] at hid
      exact absurd hid.symm hne
    · rw [if_neg hsame] at hreplaced
      rw [← hreplaced] at hid hschedule
      exact ⟨item, hitem, hid, hschedule⟩
  · rintro ⟨project, hproject, hid, hschedule⟩
    refine ⟨project, List.mem_map.mpr ⟨project, hproject, ?_⟩, hid, hschedule⟩
    rw [if_neg fun hsame => hne (hid.symm.trans hsame)]

/-- The project of an update has its schedule afterwards, and no other one. -/
theorem schedule_of_replaceProject {projects : List WorkspaceProject} {updated : WorkspaceProject}
    {schedule : ProjectSchedule}
    (h : ScheduledIn (replaceProject projects updated) updated.projectId schedule) :
    schedule = updated.schedule := by
  obtain ⟨project, hproject, hid, rfl⟩ := h
  obtain ⟨item, -, hreplaced⟩ := List.mem_map.mp hproject
  by_cases hsame : item.projectId = updated.projectId
  · rw [if_pos hsame] at hreplaced
    rw [← hreplaced]
  · rw [if_neg hsame] at hreplaced
    rw [← hreplaced] at hid
    exact absurd hid hsame

/-- The search for an identifier finds its project. -/
theorem find?_of_scheduled {projects : List WorkspaceProject} (hids : DistinctIds projects)
    {projectId : Text} {schedule : ProjectSchedule} (h : ScheduledIn projects projectId schedule) :
    ∃ project ∈ projects, projects.find? (·.projectId = projectId) = some project ∧
      project.projectId = projectId ∧ project.schedule = schedule := by
  obtain ⟨project, hproject, rfl, hschedule⟩ := h
  refine ⟨project, hproject, ?_, rfl, hschedule⟩
  obtain ⟨front, back, rfl⟩ := List.append_of_mem hproject
  rw [List.find?_append, Option.or_of_isNone, List.find?_cons_of_pos (by simp)]
  rw [Option.isNone_iff_eq_none, List.find?_eq_none]
  intro other hother hsame
  have hnodup := hids.nodup
  rw [List.map_append, List.nodup_append] at hnodup
  exact hnodup.2.2 _ (List.mem_map_of_mem hother) _ (List.mem_map_of_mem List.mem_cons_self)
    (of_decide_eq_true hsame)

/-- The project that is found is the one of the registry with the identifier. -/
theorem findProject_of_scheduled {projects : List WorkspaceProject} (hids : DistinctIds projects)
    {projectId : Text} {schedule : ProjectSchedule} (h : ScheduledIn projects projectId schedule) :
    ∃ project, findProject projects projectId = .ok project ∧
      project.projectId = projectId ∧ project.schedule = schedule := by
  obtain ⟨project, hproject, hfind, rfl, hschedule⟩ := find?_of_scheduled hids h
  refine ⟨project, ?_, rfl, hschedule⟩
  rw [findProject, hids.plain project hproject, hfind]

theorem mem_of_findProject {projects : List WorkspaceProject} {projectId : Text}
    {project : WorkspaceProject} (h : findProject projects projectId = .ok project) :
    project ∈ projects ∧ project.projectId = strip projectId := by
  rw [findProject] at h
  cases hfind : projects.find? (·.projectId = strip projectId) with
  | none =>
      rw [hfind] at h
      cases h
  | some found =>
      rw [hfind] at h
      cases h
      exact ⟨List.mem_of_find?_eq_some hfind, by simpa using List.find?_some hfind⟩

/-- `remove` takes one project away. -/
theorem removeProject_ok {projects projects' : List WorkspaceProject} {projectId : Text}
    {project : WorkspaceProject} (hids : DistinctIds projects)
    (h : removeProject projects projectId = .ok (project, projects')) :
    project.projectId = strip projectId ∧ DistinctIds projects' ∧
      SameSchedules projects projects' project.projectId := by
  obtain ⟨found, hfound, hrest⟩ := Guards.bind_eq_ok.mp h
  obtain ⟨rfl, rfl⟩ := Prod.mk.inj (Guards.pure_eq_ok.mp hrest)
  refine ⟨(mem_of_findProject hfound).2, ⟨?_, ?_⟩, ?_⟩
  · exact hids.nodup.sublist (List.filter_sublist.map _)
  · exact fun item hitem => hids.plain item (List.mem_filter.mp hitem).1
  · intro other hne schedule
    constructor
    · rintro ⟨item, hitem, hid, hschedule⟩
      exact ⟨item, (List.mem_filter.mp hitem).1, hid, hschedule⟩
    · rintro ⟨item, hitem, rfl, hschedule⟩
      exact ⟨item, List.mem_filter.mpr ⟨hitem, decide_eq_true hne⟩, rfl, hschedule⟩

/-- `configure_schedule` changes the schedule of one project. -/
theorem configureSchedule_ok {projects projects' : List WorkspaceProject} {projectId : Text}
    {options : ScheduleOptions} {now : Instant} {project : WorkspaceProject}
    (hids : DistinctIds projects)
    (h : configureSchedule projects projectId options now = .ok (project, projects')) :
    project.projectId = strip projectId ∧ DistinctIds projects' ∧
      SameSchedules projects projects' project.projectId := by
  obtain ⟨found, hfound, hrest⟩ := Guards.bind_eq_ok.mp h
  obtain ⟨nextRunAt, -, hrest⟩ := Guards.bind_eq_ok.mp hrest
  by_cases hpositive : 1 ≤ options.intervalMinutes
  · rw [dif_pos hpositive] at hrest
    obtain ⟨rfl, rfl⟩ := Prod.mk.inj (Guards.pure_eq_ok.mp hrest)
    exact ⟨(mem_of_findProject hfound).2, hids.of_map_eq (map_projectId_replaceProject _ _),
      sameSchedules_replaceProject _ _⟩
  · rw [dif_neg hpositive] at hrest
    cases hrest

/-- The run of an enabled project is recorded, unless its next time is out of range: its next run is
    one interval after the record. -/
theorem recordRun_of_scheduled {projects : List WorkspaceProject} (hids : DistinctIds projects)
    {projectId : Text} {schedule : ProjectSchedule} (h : ScheduledIn projects projectId schedule)
    (henabled : schedule.enabled = true) (status : Text) (error : Option Text) {now next : Instant}
    (hnext : addMinutes now schedule.intervalMinutes = .ok next) :
    ∃ updated, recordRun projects projectId status error now =
        .ok (updated, replaceProject projects updated) ∧
      updated.projectId = projectId ∧ updated.schedule = { schedule with nextRunAt := some next } := by
  obtain ⟨project, hfind, hid, rfl⟩ := findProject_of_scheduled hids h
  have hrun : nextRun project.schedule.enabled now project.schedule.intervalMinutes =
      .ok (some next) := by
    rw [nextRun, if_pos henabled, hnext]
    rfl
  rw [recordRun, hfind]
  show ∃ updated, ((nextRun project.schedule.enabled now project.schedule.intervalMinutes) >>= _) =
    Except.ok (updated, _) ∧ _
  rw [hrun]
  exact ⟨_, rfl, hid, rfl⟩

/-- The next run of a record comes after the record. -/
theorem lt_of_addMinutes {now next : Instant} {minutes : Int} (hpositive : 1 ≤ minutes)
    (h : addMinutes now minutes = .ok next) : now < next := by
  rw [addMinutes] at h
  split at h
  · rw [← Except.ok.inj h]
    have hdelay : 0 < minutes * 60000000 := by omega
    exact Int.lt_add_of_pos_right now hdelay
  · cases h

/-- A registration of a new root draws a new identifier. -/
def DrawsNewId (pathKey projectIdOf : Text → Text) (projects : List WorkspaceProject)
    (resolved : Text) : Prop :=
  (∀ project ∈ projects, pathKey project.root ≠ pathKey resolved) →
    strip (projectIdOf (pathKey resolved)) = projectIdOf (pathKey resolved) ∧
      ∀ project ∈ projects, project.projectId ≠ projectIdOf (pathKey resolved)

theorem renameAt_eq_none {pathKey : Text → Text} {key name : Text} {projects : List WorkspaceProject}
    (h : renameAt pathKey key name projects = none) :
    ∀ project ∈ projects, pathKey project.root ≠ key := by
  induction projects with
  | nil => exact fun _ hmem => (nomatch hmem)
  | cons item projects ih =>
      rw [renameAt] at h
      by_cases hkey : pathKey item.root = key
      · rw [if_pos hkey] at h
        cases h
      · rw [if_neg hkey, Option.map_eq_none_iff] at h
        exact List.forall_mem_cons.mpr ⟨hkey, ih h⟩

theorem scheduledIn_cons {item : WorkspaceProject} {projects : List WorkspaceProject}
    {projectId : Text} {schedule : ProjectSchedule} :
    ScheduledIn (item :: projects) projectId schedule ↔
      (item.projectId = projectId ∧ item.schedule = schedule) ∨
        ScheduledIn projects projectId schedule := by
  simp [ScheduledIn]

/-- A renaming keeps identifiers and schedules. -/
theorem renameAt_eq_some {pathKey : Text → Text} {key name : Text}
    {projects renamed : List WorkspaceProject} (h : renameAt pathKey key name projects = some renamed) :
    renamed.map WorkspaceProject.projectId = projects.map WorkspaceProject.projectId ∧
      ∀ projectId schedule,
        ScheduledIn renamed projectId schedule ↔ ScheduledIn projects projectId schedule := by
  induction projects generalizing renamed with
  | nil => cases h
  | cons item projects ih =>
      rw [renameAt] at h
      by_cases hkey : pathKey item.root = key
      · rw [if_pos hkey] at h
        cases h
        exact ⟨rfl, fun projectId schedule => by rw [scheduledIn_cons, scheduledIn_cons]⟩
      · rw [if_neg hkey] at h
        obtain ⟨rest, hrest, rfl⟩ := Option.map_eq_some_iff.mp h
        obtain ⟨hids, hscheduled⟩ := ih hrest
        refine ⟨congrArg (item.projectId :: ·) hids, fun projectId schedule => ?_⟩
        rw [scheduledIn_cons, scheduledIn_cons, hscheduled]

/-- `register` keeps every schedule; a new project has no next run. -/
theorem registerProject_ok {pathKey projectIdOf : Text → Text}
    {projects projects' : List WorkspaceProject} {resolved name : Text} {now : Instant}
    (hids : DistinctIds projects) (hnew : DrawsNewId pathKey projectIdOf projects resolved)
    (h : registerProject pathKey projectIdOf projects resolved name now = .ok projects') :
    DistinctIds projects' ∧
      (∀ projectId schedule, ScheduledIn projects projectId schedule →
        ScheduledIn projects' projectId schedule) ∧
      ∀ projectId schedule, ScheduledIn projects' projectId schedule →
        ScheduledIn projects projectId schedule ∨ schedule.nextRunAt = none := by
  rw [registerProject] at h
  by_cases hempty : (decide (strip name = []) || decide (strip resolved = [])) = true
  · rw [if_pos hempty] at h
    cases h
  · rw [if_neg hempty] at h
    cases hrename : renameAt pathKey (pathKey resolved) (strip name) projects with
    | some renamed =>
        rw [hrename] at h
        cases h
        -- A registered root keeps its project, with a new name.
        obtain ⟨hmap, hscheduled⟩ := renameAt_eq_some hrename
        exact ⟨hids.of_map_eq hmap, fun projectId schedule => (hscheduled projectId schedule).mpr,
          fun projectId schedule h => Or.inl ((hscheduled projectId schedule).mp h)⟩
    | none =>
        rw [hrename] at h
        cases h
        -- A new root gets a project at the end, whose id is new.
        obtain ⟨hplain, hfresh⟩ := hnew (renameAt_eq_none hrename)
        refine ⟨⟨?_, ?_⟩, ?_, ?_⟩
        · rw [List.map_append, List.nodup_append]
          refine ⟨hids.nodup, List.pairwise_singleton _ _, fun a ha b hb hab => ?_⟩
          obtain ⟨project, hproject, rfl⟩ := List.mem_map.mp ha
          rw [List.map_singleton, List.mem_singleton] at hb
          exact hfresh project hproject (hab.trans hb)
        · intro project hproject
          rcases List.mem_append.mp hproject with hproject | hproject
          · exact hids.plain project hproject
          · rw [List.mem_singleton.mp hproject]
            exact hplain
        · rintro projectId schedule ⟨project, hproject, hid, hschedule⟩
          exact ⟨project, List.mem_append_left _ hproject, hid, hschedule⟩
        · rintro projectId schedule ⟨project, hproject, hid, hschedule⟩
          rcases List.mem_append.mp hproject with hproject | hproject
          · exact Or.inl ⟨project, hproject, hid, hschedule⟩
          · rw [List.mem_singleton.mp hproject] at hschedule
            exact Or.inr (hschedule ▸ rfl)

end LlmHarness.Workspace
