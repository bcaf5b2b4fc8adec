/-
  LlmHarness.Workspace.Scheduler

  `run_due_projects` of `background_scheduler.py` beside other calls of it and beside
  the operator's changes of the registry.  A call reads the due projects once, runs
  them one after the other, each for as long as it takes, and records each run under
  the lease of the registry when the run is over.

  A due time is the next run of a schedule, since the operator last changed the project.
  Where no two calls read the same due project, the operator leaves the projects alone
  that a call is busy with, no clock is set back behind a due time and nothing raises,
  every due time that a call meets is run once and recorded.
-/

import LlmHarness.Lib.Run
import LlmHarness.Python.Number
import LlmHarness.Python.Value
import LlmHarness.Workspace.Registry

namespace LlmHarness.Workspace

open Python

/-! ## One project -/

/-- `ScheduledProjectResult`. -/
structure ScheduledProjectResult where
  projectId : Text
  name : Text
  root : Text
  command : List Text
  returnCode : Int
  status : Text
  completed : Int
  stdout : Text
  stderr : Text
  notificationErrors : List Text := []
deriving DecidableEq, Repr

/-- What the runner does: the process ends, or the runner raises an `OSError` or a
    `SubprocessError`.  Anything else that is raised, also by `json.loads` for an output that is
    nested too deep, is `raises`. -/
inductive RunnerOutcome where
  | completed (returnCode : Int) (stdout stderr : Text)
  | launchFailed (message : Text)
  | raises

/-- The status without a report of the queue loop. -/
def plainStatus (returnCode : Int) : Text :=
  if returnCode = 0 then "completed".toList else "failed".toList

/-- `_parse_run_output`; an infinite count is an `OverflowError` that is not caught. -/
def parseRunOutput (stdout : Text) (returnCode : Int) : Option (Text × Int) :=
  match loads stdout with
  | some (.obj payload) =>
    match field payload "data" with
    | .obj data =>
      match intOf ((dictGet? data "completed").getD (.int 0)) with
      | .ok count =>
        some ((pyStr (pyOr (field data "status") (.str (String.ofList (plainStatus returnCode))))).toList,
          count)
      | .error .overflowError => none
      | .error _ => some (plainStatus returnCode, 0)
    | _ => some (plainStatus returnCode, 0)
  | _ => some (plainStatus returnCode, 0)

section Calls

-- `sys.executable`
variable (executable : Text)

/-- The command of `run_registered_project`. -/
def queueRunCommand (project : WorkspaceProject) : List Text :=
  [executable, "-m".toList, "llm_harness".toList, "queue-run-loop".toList, "--project-root".toList,
    project.root, "--json".toList] ++
    if project.schedule.finalAudit then ["--final-audit".toList] else []

/-- `run_registered_project`: the result, with the errors of the notifications; none when
    something is raised that it does not catch. -/
def runRegisteredProject (project : WorkspaceProject) (outcome : RunnerOutcome)
    (notifications : Option (List Text)) : Option ScheduledProjectResult := do
  let command := queueRunCommand executable project
  let result : ScheduledProjectResult ← match outcome with
    | .completed returnCode stdout stderr => do
      let (status, completed) ← parseRunOutput stdout returnCode
      some ⟨project.projectId, project.name, project.root, command, returnCode, status, completed,
        stdout, stderr, []⟩
    | .launchFailed message =>
      some ⟨project.projectId, project.name, project.root, command, 1, "launch_failed".toList, 0, [],
        message, []⟩
    | .raises => none
  let errors ← notifications
  return { result with notificationErrors := errors }

/-- `_result_error`. -/
def resultError (result : ScheduledProjectResult) : Option Text :=
  if result.returnCode = 0 && result.notificationErrors = [] then none
  else
    let details := (strip result.stderr :: result.notificationErrors).filter (· ≠ [])
    some (if details = [] then "queue-run-loop exit ".toList ++ dumpsInt result.returnCode
      else " | ".toList.intercalate details)

/-! ## Calls and their steps -/

/-- A due time of a project: how often the operator had changed the project, and the next run of
    its schedule. -/
structure DueTime where
  projectId : Text
  changes : Nat
  next : Option Instant
deriving DecidableEq, Repr

/-- A due project as a call has read it, with the number of the operator's changes. -/
abbrev ListedProject := WorkspaceProject × Nat

/-- The due time of an entry. -/
def ListedProject.due (entry : ListedProject) : DueTime :=
  ⟨entry.1.projectId, entry.2, entry.1.schedule.nextRunAt⟩

/-- How far a call of `run_due_projects` has come: what is left of its list, and the project
    that is running or whose run is over. -/
inductive SchedulerCall where
  | idle
  | looping (results : List ScheduledProjectResult) (rest : List ListedProject)
  | running (results : List ScheduledProjectResult) (entry : ListedProject) (rest : List ListedProject)
  | recording (results : List ScheduledProjectResult) (entry : ListedProject)
      (result : ScheduledProjectResult) (rest : List ListedProject)
  | returned (results : List ScheduledProjectResult)
  | raised

namespace SchedulerCall

/-- The projects of the list that are not recorded yet. -/
def remaining : SchedulerCall → List ListedProject
  | looping _ rest => rest
  | running _ entry rest => entry :: rest
  | recording _ entry _ rest => entry :: rest
  | _ => []

/-- The project that has been launched and is not recorded yet. -/
def launched : SchedulerCall → Option ListedProject
  | running _ entry _ => some entry
  | recording _ entry _ _ => some entry
  | _ => none

end SchedulerCall

/-- The registry, the calls, the number of the operator's changes of each project, and the due
    times that a call has met, that were run, that were recorded, and that a record moved the
    schedule past. -/
structure SchedulerWorld where
  projects : List WorkspaceProject
  calls : Nat → SchedulerCall := fun _ => .idle
  changes : Text → Nat := fun _ => 0
  met : List DueTime := []
  runs : List DueTime := []
  recorded : List DueTime := []
  passed : List DueTime := []

/-- A step of a call or of the operator. -/
inductive SchedulerEvent where
  /-- `due_projects`. -/
  | start (call : Nat) (now : Instant)
  /-- The runner is called for the next project, or the call returns. -/
  | launch (call : Nat)
  /-- The runner and the notifications are over. -/
  | finish (call : Nat) (outcome : RunnerOutcome) (notifications : Option (List Text))
  /-- `record_run`. -/
  | record (call : Nat) (now : Instant)
  /-- The lease is contended, the registry cannot be written, or the process ends. -/
  | fail (call : Nat)
  | register (resolved name : Text) (now : Instant)
  | remove (projectId : Text)
  | configure (projectId : Text) (options : ScheduleOptions) (now : Instant)

namespace SchedulerWorld

/-- A call in its next phase. -/
def setCall (world : SchedulerWorld) (call : Nat) (phase : SchedulerCall) : SchedulerWorld :=
  { world with calls := Function.update world.calls call phase }

/-- The due projects with the numbers of the operator's changes. -/
def dueEntries (world : SchedulerWorld) (now : Instant) : List ListedProject :=
  (dueProjects world.projects now).map fun project => (project, world.changes project.projectId)

/-- The due time that the registry holds for a project. -/
def dueTimeOf (world : SchedulerWorld) (project : WorkspaceProject) : DueTime :=
  ⟨project.projectId, world.changes project.projectId, project.schedule.nextRunAt⟩

/-- The due times that have come: the next runs, not after now, of the schedules that are enabled. -/
def dueTimes (world : SchedulerWorld) (now : Instant) : List DueTime :=
  world.projects.filterMap fun project =>
    match project.schedule.nextRunAt with
    | some time =>
      if project.schedule.enabled = true ∧ time ≤ now then some (world.dueTimeOf project) else none
    | none => none

/-- The due time that a record of a project moves its schedule past. -/
def passing (world : SchedulerWorld) (projectId : Text) : List DueTime :=
  ((world.projects.find? (·.projectId = projectId)).map world.dueTimeOf).toList

/-- The registry after the operator's change of a project, which takes its due time back. -/
def change (world : SchedulerWorld) (projects : List WorkspaceProject) (projectId : Text) :
    SchedulerWorld :=
  { world with
    projects
    changes := Function.update world.changes projectId (world.changes projectId + 1) }

end SchedulerWorld

-- `_path_key` of a root, and the shortened SHA-256 of a key
variable (pathKey projectIdOf : Text → Text)

/-- One step; a step that is not due changes nothing. -/
def SchedulerWorld.step (world : SchedulerWorld) : SchedulerEvent → SchedulerWorld
  | .start call now =>
    match world.calls call with
    | .idle =>
      { world.setCall call (.looping [] (world.dueEntries now)) with
        met := world.dueTimes now ++ world.met }
    | _ => world
  | .launch call =>
    match world.calls call with
    | .looping results [] => world.setCall call (.returned results)
    | .looping results (entry :: rest) =>
      { world.setCall call (.running results entry rest) with runs := entry.due :: world.runs }
    | _ => world
  | .finish call outcome notifications =>
    match world.calls call with
    | .running results entry rest =>
      match runRegisteredProject executable entry.1 outcome notifications with
      | some result => world.setCall call (.recording results entry result rest)
      | none => world.setCall call .raised
    | _ => world
  | .record call now =>
    match world.calls call with
    | .recording results entry result rest =>
      match recordRun world.projects entry.1.projectId result.status (resultError result) now with
      | .ok (updated, projects) =>
        { world.setCall call (.looping (results ++ [result]) rest) with
          projects
          recorded := entry.due :: world.recorded
          passed := world.passing updated.projectId ++ world.passed }
      | .error _ => world.setCall call .raised
    | _ => world
  | .fail call =>
    match world.calls call with
    | .looping _ _ | .running _ _ _ | .recording _ _ _ _ => world.setCall call .raised
    | _ => world
  | .register resolved name now =>
    match registerProject pathKey projectIdOf world.projects resolved name now with
    | .ok projects => { world with projects }
    | .error _ => world
  | .remove projectId =>
    match removeProject world.projects projectId with
    | .ok (project, projects) => world.change projects project.projectId
    | .error _ => world
  | .configure projectId options now =>
    match configureSchedule world.projects projectId options now with
    | .ok (project, projects) => world.change projects project.projectId
    | .error _ => world

end Calls

end LlmHarness.Workspace
