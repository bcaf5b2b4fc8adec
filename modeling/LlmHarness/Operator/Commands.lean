/-
  LlmHarness.Operator.Commands

  `handle_operator_command`: the deterministic commands of the operator.  The
  clock, the fresh ids and what the operation ledger reports are readings of the
  call.
-/

import LlmHarness.Python.CaseFold
import LlmHarness.State.Footprint

namespace LlmHarness

open Python StoreM

/-- `OperatorDecisionResult`. -/
structure OperatorDecisionResult where
  command : String
  ok : Bool
  message : String
  taskId : Option String := none
  shouldContinue : Bool := false
deriving DecidableEq

/-- `SUPPORTED_COMMANDS_HELP`. -/
def supportedCommandsHelp : String :=
  "Supported commands: /status, /queue, /stale, /retry <task-id>, " ++
    "/recover <task-id> [reason], /continue, /stop."

/-- What the operation ledger of a repository reports: how many operations block, and whether one
    of them is of a task. -/
structure LedgerView where
  pending : Nat
  blocks : String → Bool

/-- The readings of one command. -/
structure CommandReadings where
  /-- `_parse_utc_timestamp(value) <= cutoff`; `none` when `stale_minutes` is not positive. -/
  isStale : Option (String → Except StateStoreError Bool)
  repository : Option LedgerView
  updatedAt : String
  eventId : String
  createdAt : String

/-! ## Parsing -/

/-- The aliases of `_parse_command`. -/
def commandAlias (command : String) : String :=
  if command = "q" then "queue"
  else if command = "recover-running" then "recover"
  else if command = "resume" then "continue"
  else command

/-- `str.removeprefix("/")`. -/
def removeSlash : Text → Text
  | '/' :: cs => cs
  | cs => cs

/-- `_parse_command`. -/
def parseCommand (text : String) : String × List String :=
  let normalized := strip text.toList
  if normalized = [] then ("unknown", [])
  else if casefold normalized = "реши сам".toList then ("delegate", [])
  else match split normalized with
    | [] => ("unknown", [])
    | first :: rest =>
      (commandAlias (String.ofList (casefold (removeSlash first))), rest.map String.ofList)

/-- `_require_task_id`. -/
def requireTaskId (command : String) (arguments : List String) : StoreM String :=
  match arguments with
  | [] => refuse (command ++ " requires a task id.")
  | first :: _ => if first = "" then refuse (command ++ " requires a task id.") else pure first

/-! ## Reports -/

/-- `stale_running_tasks`. -/
def staleRunningTasks (isStale : Option (String → Except StateStoreError Bool))
    (tasks : List QueueTask) : Except StateStoreError (List QueueTask) :=
  match isStale with
  | none => .ok []
  | some isStale => tasks.filterMapM fun task =>
    if task.status ≠ .running then .ok none
    else (isStale task.updatedAtUtc).map fun stale => if stale then some task else none

/-- The number of entries with a status. -/
def countStatus (tasks : List QueueTask) (status : TaskStatus) : String :=
  toString (tasks.countP fun task => decide (task.status = status))

/-- `_status`. -/
def statusReport (readings : CommandReadings) : StoreM OperatorDecisionResult := do
  let tasks ← read Store.tasks
  let stale ← lift (staleRunningTasks readings.isStale tasks)
  return {
    command := "status"
    ok := true
    message := "Queue status: queued=" ++ countStatus tasks .queued ++ " running="
      ++ countStatus tasks .running ++ " ready=" ++ toString (schedule tasks).ready.length
      ++ " waiting=" ++ toString (schedule tasks).waiting.length ++ " done="
      ++ countStatus tasks .done ++ " failed=" ++ countStatus tasks .failed ++ " rolled_back="
      ++ countStatus tasks .rolledBack ++ " stale=" ++ toString stale.length ++ "." }

/-- `str` of a bool. -/
def boolText (b : Bool) : String := if b then "True" else "False"

/-- `_task_line`. -/
def taskLine (task : QueueTask) (readiness : Option TaskReadiness) : String :=
  let scheduler := match readiness with
    | none => ""
    | some item => ", ready=" ++ boolText item.ready ++ ", blockers="
      ++ ",".intercalate (item.blockers.map fun blocker => blocker.taskId ++ "=" ++ blocker.status)
  "- " ++ task.id ++ ": status=" ++ task.status.text ++ ", attempts=" ++ toString task.attempts
    ++ ", priority=" ++ toString task.workItem.priority ++ scheduler ++ ", commit="
    ++ task.lastCommit.getD "" ++ ", error=" ++ task.lastError.getD ""

/-- `_queue`. -/
def queueReport : StoreM OperatorDecisionResult := do
  let tasks ← read Store.tasks
  let items := (schedule tasks).ready ++ (schedule tasks).waiting
  let readiness := dictOfPairs (items.map fun item => (item.task.id, item))
  let lines := tasks.map fun task => taskLine task (dictGet? readiness task.id)
  return {
    command := "queue"
    ok := true
    message := if tasks = [] then "Queue is empty." else "Queue:\n" ++ "\n".intercalate lines }

/-- `_stale`. -/
def staleReport (readings : CommandReadings) : StoreM OperatorDecisionResult := do
  let tasks ← read Store.tasks
  let stale ← lift (staleRunningTasks readings.isStale tasks)
  return {
    command := "stale"
    ok := true
    message := if stale = [] then "No stale running tasks."
      else "Stale running tasks:\n" ++ "\n".intercalate (stale.map fun task => taskLine task none) }

/-! ## Commands -/

/-- `/status`: with a repository, not ok while operations block. -/
def statusCommand (readings : CommandReadings) : StoreM OperatorDecisionResult := do
  let result ← statusReport readings
  match readings.repository with
  | none => return result
  | some ledger => return {
      command := result.command
      ok := result.ok && ledger.pending = 0
      message := result.message ++ " Reconciliation pending=" ++ toString ledger.pending ++ "." }

/-- `/retry`. -/
def retryCommand (readings : CommandReadings) (command : String) (arguments : List String) :
    StoreM OperatorDecisionResult := do
  let taskId ← requireTaskId command arguments
  let task ← requeueFailed taskId readings.updatedAt
  return {
    command := command
    ok := true
    message := "Task " ++ task.id ++ " requeued from failed status."
    taskId := some task.id }

/-- The reason of `/recover`. -/
def recoverReason (arguments : List String) : String :=
  let reason := strip (" ".intercalate (arguments.drop 1)).toList
  if reason = [] then "Recovered by operator command." else String.ofList reason

/-- `/recover`. -/
def recoverCommand (readings : CommandReadings) (command : String) (arguments : List String) :
    StoreM OperatorDecisionResult := do
  let taskId ← requireTaskId command arguments
  if readings.repository.any fun ledger => ledger.blocks taskId then
    refuse ("Task " ++ taskId
      ++ " has unresolved canonical operation evidence; reconcile it first.")
  else
    let task ← recoverRunning taskId (recoverReason arguments) readings.updatedAt
    return {
      command := command
      ok := true
      message := "Task " ++ task.id ++ " recovered to queued status."
      taskId := some task.id }

/-- `_execute_command`. -/
def executeCommand (readings : CommandReadings) (command : String) (arguments : List String) :
    StoreM OperatorDecisionResult :=
  if command = "status" then statusCommand readings
  else if command = "queue" then queueReport
  else if command = "stale" then staleReport readings
  else if command = "retry" then retryCommand readings command arguments
  else if command = "recover" then recoverCommand readings command arguments
  else if command = "continue" then pure {
    command := command
    ok := true
    message := "Continue requested. Run queue-run-loop to resume queued work."
    shouldContinue := true }
  else if command = "stop" then pure {
    command := command
    ok := true
    message := "Stop acknowledged. Nothing was changed; the task stays exactly as it is." }
  else if command = "delegate" then pure {
    command := command
    ok := false
    message := "HoH does not decide on your behalf: an escalation is exactly the case where the "
      ++ "evidence is not conclusive. Choose one explicitly. " ++ supportedCommandsHelp }
  else pure {
    command := command
    ok := false
    message := "Unrecognised operator command. The text was recorded in the operator event log as a "
      ++ "note, and no queue state was changed. " ++ supportedCommandsHelp }

/-- `try: ... except StateStoreError`: the writes made before the error stay. -/
def catchStateError {α : Type} (m : StoreM α) (handler : StateStoreError → α) : StoreM α := fun s =>
  ⟨(m s).writes, .ok (match (m s).value with
    | .ok a => a
    | .error e => handler e)⟩

/-- `handle_operator_command`. -/
def handleOperatorCommand (readings : CommandReadings) (text : String) :
    StoreM OperatorDecisionResult := do
  let parsed := parseCommand text
  let result ← catchStateError (executeCommand readings parsed.1 parsed.2) fun e => {
    command := parsed.1
    ok := false
    message := e.message
    taskId := parsed.2.head? }
  let _ ← recordOperatorEvent {
    eventId := readings.eventId
    createdAtUtc := readings.createdAt
    command := result.command
    ok := result.ok
    message := result.message
    rawText := text
    taskId := result.taskId }
  return result

/-! ## What a command writes -/

variable {p : Write → Prop}

theorem writesOnly_requireTaskId (command : String) (arguments : List String) :
    WritesOnly p (requireTaskId command arguments) := by
  cases arguments with
  | nil => exact writesOnly_refuse _
  | cons first rest => exact writesOnly_ite (writesOnly_refuse _) (writesOnly_pure _)

theorem writesOnly_executeCommand (h : Allows p) (readings : CommandReadings) (command : String)
    (arguments : List String) : WritesOnly p (executeCommand readings command arguments) := by
  have hstale : ∀ result : List QueueTask → List QueueTask → OperatorDecisionResult,
      WritesOnly p (read Store.tasks >>= fun tasks =>
        lift (staleRunningTasks readings.isStale tasks) >>= fun stale => pure (result tasks stale)) :=
    fun _ => (writesOnly_read _).bind fun _ => (writesOnly_lift _).bind fun _ => writesOnly_pure _
  have hstatus : WritesOnly p (statusCommand readings) := by
    refine (hstale _).bind fun result => ?_
    cases readings.repository with
    | none => exact writesOnly_pure _
    | some ledger => exact writesOnly_pure _
  have hretry : WritesOnly p (retryCommand readings command arguments) :=
    (writesOnly_requireTaskId command arguments).bind fun taskId =>
      (writesOnly_requeueFailed h taskId _).bind fun _ => writesOnly_pure _
  have hrecover : WritesOnly p (recoverCommand readings command arguments) :=
    (writesOnly_requireTaskId command arguments).bind fun taskId =>
      writesOnly_ite (writesOnly_refuse _)
        ((writesOnly_recoverRunning h taskId _ _).bind fun _ => writesOnly_pure _)
  rw [executeCommand]
  refine writesOnly_ite hstatus (writesOnly_ite ?_ (writesOnly_ite (hstale _)
    (writesOnly_ite hretry (writesOnly_ite hrecover ?_))))
  · exact (writesOnly_read _).bind fun _ => writesOnly_pure _
  · exact writesOnly_ite (writesOnly_pure _) (writesOnly_ite (writesOnly_pure _)
      (writesOnly_ite (writesOnly_pure _) (writesOnly_pure _)))

/-- A command always returns, and always records its event after its other writes. -/
theorem handleOperatorCommand_run (readings : CommandReadings) (text : String) (s : Store) :
    ∃ event journal decision, handleOperatorCommand readings text s =
      ⟨(executeCommand readings (parseCommand text).1 (parseCommand text).2 s).writes ++
        [.operatorEvent event, .journal journal], .ok decision⟩ := by
  rw [handleOperatorCommand, bind_of_ok (m := catchStateError _ _) rfl]
  exact ⟨_, _, _, rfl⟩

theorem writesOnly_handleOperatorCommand (h : Allows p) (hevent : ∀ event, p (.operatorEvent event))
    (readings : CommandReadings) (text : String) :
    WritesOnly p (handleOperatorCommand readings text) := by
  refine ⟨fun s w hw => ?_⟩
  obtain ⟨event, journal, decision, hrun⟩ := handleOperatorCommand_run readings text s
  rw [hrun] at hw
  rcases List.mem_append.mp hw with hw | hw
  · exact (writesOnly_executeCommand h readings _ _).each s w hw
  · simp only [List.mem_cons, List.not_mem_nil, or_false] at hw
    rcases hw with rfl | rfl
    · exact hevent event
    · exact h.journal journal

end LlmHarness
