/-
  LlmHarness.Lifecycle.Materialize

  `materialize_project_plan`: the brief, the roadmap, the role profile and one
  file for each task, and then the batch for the queue.

  The files are overwritten one after the other before the queue is asked, the
  only step that may refuse the plan.  A refused plan leaves the project as it
  was exactly when every file already held the text the plan gives it.
-/

import LlmHarness.Lib.Raising
import LlmHarness.Lib.Updates
import LlmHarness.Lifecycle.ProjectSpec
import LlmHarness.Python.Digits
import LlmHarness.State.EnqueueBatch

namespace LlmHarness.Lifecycle

open Python Raising Updates

/-! ## Names -/

/-- A character that `_safe_filename` keeps. -/
def isNameChar (c : Char) : Bool :=
  ('A' ≤ c && c ≤ 'Z') || ('a' ≤ c && c ≤ 'z') || ('0' ≤ c && c ≤ '9') || c = '.' || c = '_' || c = '-'

/-- `re.sub(r"[^A-Za-z0-9._-]+", "-", value)`; `inRun` after a character of a run. -/
def dashRuns (inRun : Bool) : Text → Text
  | [] => []
  | c :: cs =>
    if isNameChar c then c :: dashRuns false cs
    else if inRun then dashRuns true cs
    else '-' :: dashRuns true cs

/-- A character that `.strip(".-")` takes from an end. -/
def isNameEdge (c : Char) : Bool := c = '.' || c = '-'

/-- `_safe_filename`. -/
def safeFilename (value : String) : Text :=
  match ((dashRuns false value.toList).dropWhile isNameEdge).rdropWhile isNameEdge with
  | [] => "task".toList
  | safe => safe

/-- A file of the project: its folder under the project root and its name. -/
structure ProjectPath where
  folder : Text
  name : Text
deriving DecidableEq

def briefPath : ProjectPath := ⟨"docs/hoh".toList, "project-brief.md".toList⟩

def roadmapPath : ProjectPath := ⟨"docs/hoh".toList, "roadmap.md".toList⟩

def roleProfilePath : ProjectPath := ⟨".hoh".toList, "role-profile.json".toList⟩

/-- The file of a task: `f"{index:03d}-{_safe_filename(task.id)}.json"`. -/
def taskPath (task : ProjectTaskSpec) (index : Nat) : ProjectPath :=
  ⟨"tasks/hoh".toList,
    (Nat.toDigits 10 index).leftpad 3 '0' ++ '-' :: (safeFilename task.id ++ ".json".toList)⟩

/-- The tasks with their files, `enumerate(spec.tasks, 1)`. -/
def ProjectSpec.taskFiles (spec : ProjectSpec) : List (ProjectTaskSpec × ProjectPath) :=
  (spec.tasks.zipIdx 1).map fun (task, index) => (task, taskPath task index)

/-! ## Texts -/

/-- What materializing a plan raises. -/
inductive PlanError where
  /-- `ValueError`: a number has more digits than `str` writes. -/
  | digits
  /-- `DurableIOError`. -/
  | write (path : ProjectPath)
  /-- `StateStoreError`. -/
  | queue (error : StateStoreError)
  /-- `RecursionError`. -/
  | recursion

/-- `"\n".join(sections)`. -/
def joinLines (sections : List String) : Text := ("\n".intercalate sections).toList

/-- `_bullets`. -/
def bullets (items : List String) : List String := items.map ("- " ++ ·)

/-- `_bullets_or_none`. -/
def bulletsOrNone (items : List String) : List String :=
  if items = [] then ["- None."] else bullets items

/-- `_indented_bullets`. -/
def indentedBullets (items : List String) : List String := items.map ("  - " ++ ·)

/-- `items or (instead,)`. -/
def orInstead (items : List String) (instead : String) : List String :=
  if items = [] then [instead] else items

/-- `value or instead`, of a text that is not blank where there is one. -/
def nameOr (value : Option NonBlank) (instead : String) : String :=
  (value.map Subtype.val).getD instead

/-- `_orchestration_lines`. -/
def orchestrationLines : Option ProjectRoleProfile → List String
  | none => ["- Legacy project spec: roles are resolved from existing runtime configuration."]
  | some profile =>
    let critic := match profile.critic with
      | some critic => critic.agent.val ++ " / " ++ nameOr critic.model "agent default" ++
          " / driver " ++ nameOr critic.driver "agent catalog"
      | none => "Disabled — Supervisor closes only after deterministic verification."
    ["- Supervisor: " ++ profile.supervisor.agent.val ++ " / " ++
        nameOr profile.supervisor.model "agent default",
      "- Worker: " ++ profile.worker.agent.val ++ " / " ++
        nameOr profile.worker.model "agent default" ++ " / driver " ++
        nameOr profile.worker.driver "agent catalog",
      "- Critic: " ++ critic,
      "- Maximum worker attempts: " ++ toString profile.maxAttempts.val,
      "- Role selection was captured in the customer brief; no manual TOML editing is required."]

/-- The text of `render_project_brief`. -/
def briefText (spec : ProjectSpec) : Text :=
  joinLines (["# " ++ spec.title ++ " — Project brief", "", "- Project id: `" ++ spec.id ++ "`",
      "- Customer: " ++ spec.customer, "", "## Goal", "", spec.goal, "",
      "## Business requirements", ""] ++ bullets spec.businessRequirements ++
    ["", "## Non-functional requirements", ""] ++ bulletsOrNone spec.nonFunctionalRequirements ++
    ["", "## Constraints", ""] ++ bulletsOrNone spec.constraints ++
    ["", "## Open questions", ""] ++ bulletsOrNone spec.openQuestions ++
    ["", "## Orchestration roles", ""] ++ orchestrationLines spec.orchestration ++ [""])

/-- `render_project_brief`; the attempt limit is its only number. -/
def renderProjectBrief (spec : ProjectSpec) : Except PlanError Text :=
  if spec.orchestration.all fun profile => isWritableInt profile.maxAttempts.val then
    .ok (briefText spec)
  else .error .digits

/-- The lines of one task in the roadmap. -/
def taskLines (task : ProjectTaskSpec) (index : Nat) : List String :=
  ["### " ++ toString index ++ ". " ++ task.title, "", "- Task id: `" ++ task.id ++ "`",
    "- Objective: " ++ task.objective, "- Acceptance criteria:"] ++
  indentedBullets task.acceptanceCriteria ++ ["- Verification commands:"] ++
  indentedBullets task.verificationCommands ++ ["- Allowed paths:"] ++
  indentedBullets (orInstead task.allowedPaths
    "No allowed paths declared; the deterministic gate will reject any patch.") ++
  ["- Non-goals:"] ++ indentedBullets (orInstead task.nonGoals "No explicit non-goals.") ++
  ["- Priority: " ++ toString task.priority, "- Depends on:"] ++
  indentedBullets (orInstead task.dependsOn "No dependencies.") ++ [""]

/-- The text of `render_project_roadmap`. -/
def roadmapText (spec : ProjectSpec) : Text :=
  joinLines (["# " ++ spec.title ++ " — Roadmap", "", "## Definition of done", ""] ++
    bullets spec.definitionOfDone ++ ["", "## Documentation requirements", ""] ++
    bulletsOrNone spec.documentationRequirements ++ ["", "## Atomic tasks", ""] ++
    (spec.tasks.zipIdx 1).flatMap fun (task, index) => taskLines task index)

/-- `render_project_roadmap`; the priorities are its only numbers of any size. -/
def renderProjectRoadmap (spec : ProjectSpec) : Except PlanError Text :=
  if spec.tasks.all fun task => isWritableInt task.priority then .ok (roadmapText spec)
  else .error .digits

/-- `_selection_payload`. -/
def selectionPayload (selection : RoleSelection) : Json :=
  let text (value : Option NonBlank) : Json := (value.map fun value => .str value.val).getD .null
  .obj [("agent", .str selection.agent.val), ("model", text selection.model),
    ("driver", text selection.driver)]

/-- `role_profile_payload`. -/
def roleProfilePayload (profile : ProjectRoleProfile) : Json :=
  .obj [("profile_version", .str "2.0"), ("critic_enabled", .bool profile.critic.isSome),
    ("max_attempts", .int profile.maxAttempts.val),
    ("roles", .obj [("supervisor", selectionPayload profile.supervisor),
      ("worker", selectionPayload profile.worker),
      ("critic", (profile.critic.map selectionPayload).getD .null)])]

/-- `_task_to_json`. -/
def taskToJson (task : ProjectTaskSpec) : Json :=
  .obj [("id", .str task.id), ("title", .str task.title), ("objective", .str task.objective),
    ("acceptance_criteria", textList task.acceptanceCriteria),
    ("verification_commands", textList task.verificationCommands),
    ("allowed_paths", textList task.allowedPaths), ("non_goals", textList task.nonGoals),
    ("depends_on", textList task.dependsOn), ("priority", .int task.priority)]

/-- `json.dumps(value, indent=2, ensure_ascii=False) + "\n"`.  The numbers it writes
    are those the brief and the roadmap wrote before. -/
def jsonFile (value : Json) : Text := value.dumpsIndent ++ ['\n']

/-! ## The call -/

/-- The project tree and the state store. -/
structure ProjectWorld where
  files : ProjectPath → Option Text
  store : Store

/-- A program over the project that may raise. -/
abbrev PlanM (α : Type) : Type := Raising ProjectWorld PlanError α

/-- `ProjectPlanMaterialization`. -/
structure ProjectPlanMaterialization where
  briefPath : ProjectPath
  roadmapPath : ProjectPath
  taskPaths : List ProjectPath
  enqueuedTaskIds : List String
  roleProfilePath : Option ProjectPath
deriving DecidableEq

/-- The file system takes the temporary file of a path: `.{name}.xxxxxxxx.tmp` is a
    name of fourteen more characters. -/
def NameFits (nameMax : Nat) (path : ProjectPath) : Prop := path.name.length + 14 ≤ nameMax

instance (nameMax : Nat) (path : ProjectPath) : Decidable (NameFits nameMax path) :=
  inferInstanceAs (Decidable (_ ≤ _))

section

variable (nameMax : Nat)

/-- `atomic_write_text`. -/
def atomicWriteText (path : ProjectPath) (text : Text) : PlanM Unit := fun w =>
  if NameFits nameMax path then
    (.ok (), { w with files := Function.update w.files path (some text) })
  else (.error (.write path), w)

/-- The loop that writes the task files. -/
def writeTasks : List (ProjectTaskSpec × ProjectPath) → PlanM Unit
  | [] => pure ()
  | (task, path) :: rest => do
    atomicWriteText nameMax path (jsonFile (taskToJson task))
    writeTasks rest

/-- `write_role_profile`, where the spec selects roles. -/
def writeRoleProfile : Option ProjectRoleProfile → PlanM (Option ProjectPath)
  | none => pure none
  | some profile => do
    atomicWriteText nameMax roleProfilePath (jsonFile (roleProfilePayload profile))
    return some roleProfilePath

/-- `queue.enqueue_many` in the project, where a queue is given. -/
def enqueue (queue : Bool) (items : List (WorkItem × String)) (now : String) :
    PlanM (List QueueTask) := fun w =>
  if queue then
    let outcome := enqueueMany items now w.store
    (outcome.value.mapError .queue, { w with store := w.store.applyAll outcome.writes })
  else (.ok [], w)

/-- `queue.enqueue_many` on disk, with room for `frames` calls of its search. -/
def enqueueOnDisk (frames : Nat) (items : List (WorkItem × String)) (now : String) :
    PlanM (List QueueTask) := fun w =>
  match enqueueManyWithin frames items now w.store with
  | none => (.error .recursion, w)
  | some outcome =>
    (outcome.value.mapError .queue, { w with store := w.store.applyAll outcome.writes })

/-- `materialize_project_plan`, `ask` being its call of the queue. -/
def materializeWith (ask : PlanM (List QueueTask)) (spec : ProjectSpec) (write : Bool) :
    PlanM ProjectPlanMaterialization := do
  let taskPaths := spec.taskFiles.map Prod.snd
  if write then
    let brief ← answer id (renderProjectBrief spec)
    atomicWriteText nameMax briefPath brief
    let roadmap ← answer id (renderProjectRoadmap spec)
    atomicWriteText nameMax roadmapPath roadmap
    let roleProfilePath ← writeRoleProfile nameMax spec.orchestration
    writeTasks nameMax spec.taskFiles
    let queued ← ask
    return { briefPath, roadmapPath, taskPaths, enqueuedTaskIds := queued.map QueueTask.id,
             roleProfilePath }
  else
    return { briefPath, roadmapPath, taskPaths, enqueuedTaskIds := [], roleProfilePath := none }

variable (pathText : ProjectPath → String)

/-- The batch of a plan: its items, each with `str(task_path)`. -/
def ProjectSpec.batch (spec : ProjectSpec) : List (WorkItem × String) :=
  spec.taskFiles.map fun (task, path) => (task.toWorkItem, pathText path)

/-- `materialize_project_plan`. -/
def materializeProjectPlan (spec : ProjectSpec) (write queue : Bool) (now : String) :
    PlanM ProjectPlanMaterialization :=
  materializeWith nameMax (enqueue queue (spec.batch pathText) now) spec write

/-- `materialize_project_plan` with a queue on disk. -/
def materializeOnDisk (frames : Nat) (spec : ProjectSpec) (now : String) :
    PlanM ProjectPlanMaterialization :=
  materializeWith nameMax (enqueueOnDisk frames (spec.batch pathText) now) spec true

end

/-! ## The files of a plan -/

/-- The files of a plan and their texts, in the order they are written. -/
def ProjectSpec.planFiles (spec : ProjectSpec) : List (ProjectPath × Text) :=
  [(briefPath, briefText spec), (roadmapPath, roadmapText spec)] ++
    (spec.orchestration.toList.map fun profile =>
      (roleProfilePath, jsonFile (roleProfilePayload profile))) ++
    spec.taskFiles.map fun (task, path) => (path, jsonFile (taskToJson task))

/-- Nothing in the plan keeps its files from being written. -/
structure Writable (nameMax : Nat) (spec : ProjectSpec) : Prop where
  names : ∀ file ∈ spec.planFiles, NameFits nameMax file.1
  limit : ∀ profile ∈ spec.orchestration, isWritableInt profile.maxAttempts.val
  priorities : ∀ task ∈ spec.tasks, isWritableInt task.priority

/-- The number of leading zeros does not change the number. -/
theorem leftpad_toDigits_injective {m n : Nat}
    (h : (Nat.toDigits 10 m).leftpad 3 '0' = (Nat.toDigits 10 n).leftpad 3 '0') : m = n := by
  have hvalue (k : Nat) : Nat.ofDigitChars 10 ((Nat.toDigits 10 k).leftpad 3 '0') 0 = k := by
    rw [List.leftpad, Nat.ofDigitChars_append, Nat.ofDigitChars_replicate_zero, Nat.mul_zero,
      Nat.ofDigitChars_ten_toDigits]
  rw [← hvalue m, h, hvalue n]

theorem digits_of_leftpad (n : Nat) : ∀ c ∈ (Nat.toDigits 10 n).leftpad 3 '0', c.isDigit := by
  intro c hc
  rw [List.leftpad, List.mem_append] at hc
  rcases hc with hc | hc
  · rw [List.eq_of_mem_replicate hc]
    rfl
  · exact Nat.isDigit_of_mem_toDigits (by decide) (by decide) hc

/-- The name of a task file starts with the digits of its index. -/
theorem takeWhile_taskPath (task : ProjectTaskSpec) (index : Nat) :
    (taskPath task index).name.takeWhile Char.isDigit = (Nat.toDigits 10 index).leftpad 3 '0' := by
  have hdash : ¬ Char.isDigit '-' = true := by decide
  obtain ⟨rest, hname⟩ : ∃ rest, (taskPath task index).name =
      (Nat.toDigits 10 index).leftpad 3 '0' ++ '-' :: rest := ⟨_, rfl⟩
  rw [hname, List.takeWhile_append_of_pos (digits_of_leftpad index),
    List.takeWhile_cons_of_neg hdash, List.append_nil]

/-- The file of a task tells its index. -/
theorem taskPath_injective {task task' : ProjectTaskSpec} {index index' : Nat}
    (h : taskPath task index = taskPath task' index') : index = index' := by
  have hdigits := takeWhile_taskPath task index
  rw [h, takeWhile_taskPath] at hdigits
  exact leftpad_toDigits_injective hdigits.symm

theorem nodup_taskPaths (tasks : List ProjectTaskSpec) (start : Nat) :
    ((tasks.zipIdx start).map fun entry => taskPath entry.1 entry.2).Nodup := by
  rw [List.nodup_map_iff_inj_on]
  · rintro ⟨task, index⟩ hmem ⟨task', index'⟩ hmem' heq
    obtain rfl := taskPath_injective heq
    rw [List.mk_mem_zipIdx_iff_le_and_getElem?_sub] at hmem hmem'
    rw [Prod.mk.injEq]
    exact ⟨Option.some.inj (hmem.2.symm.trans hmem'.2), rfl⟩
  · exact List.Nodup.of_map Prod.snd (by rw [List.zipIdx_map_snd]; exact List.nodup_range')

/-- The files of a plan are distinct. -/
theorem nodup_planFiles (spec : ProjectSpec) : (spec.planFiles.map Prod.fst).Nodup := by
  have htasks : (spec.taskFiles.map fun entry => entry.2).Nodup := by
    rw [ProjectSpec.taskFiles, List.map_map]
    exact nodup_taskPaths spec.tasks 1
  -- the task files lie in a folder of their own
  have hfolder : ∀ path ∈ spec.taskFiles.map (fun entry => entry.2),
      path.folder = "tasks/hoh".toList := by
    intro path hpath
    rw [ProjectSpec.taskFiles, List.map_map] at hpath
    obtain ⟨entry, -, rfl⟩ := List.mem_map.mp hpath
    rfl
  have hbrief : briefPath ∉ spec.taskFiles.map fun entry => entry.2 := fun h =>
    absurd (hfolder _ h) (by decide)
  have hroadmap : roadmapPath ∉ spec.taskFiles.map fun entry => entry.2 := fun h =>
    absurd (hfolder _ h) (by decide)
  have hprofile : roleProfilePath ∉ spec.taskFiles.map fun entry => entry.2 := fun h =>
    absurd (hfolder _ h) (by decide)
  have hpaths : (spec.taskFiles.map fun entry => (entry.2, jsonFile (taskToJson entry.1))).map
      Prod.fst = spec.taskFiles.map fun entry => entry.2 := by
    rw [List.map_map]
    rfl
  -- the files in the order in which they are written
  rw [ProjectSpec.planFiles, List.map_append, List.map_append, hpaths]
  cases spec.orchestration with
  | none =>
      have hdistinct : briefPath ≠ roadmapPath := by decide
      simp [hdistinct, hbrief, hroadmap, htasks]
  | some profile =>
      have hdistinct : briefPath ≠ roadmapPath ∧ briefPath ≠ roleProfilePath ∧
        roadmapPath ≠ roleProfilePath := by decide
      simp [hdistinct, hbrief, hroadmap, hprofile, htasks]

/-! ## Runs -/

section

variable {nameMax : Nat} {spec : ProjectSpec} {w : ProjectWorld}

theorem atomicWriteText_of_fits {path : ProjectPath} {text : Text} (h : NameFits nameMax path) :
    atomicWriteText nameMax path text w =
      (.ok (), { w with files := writeAll w.files [(path, text)] }) := by
  rw [atomicWriteText, if_pos h]
  rfl

theorem atomicWriteText_of_not_fits {path : ProjectPath} {text : Text}
    (h : ¬ NameFits nameMax path) :
    atomicWriteText nameMax path text w = (.error (.write path), w) := by
  rw [atomicWriteText, if_neg h]

/-- The path and the text of a task file. -/
def taskWrite (entry : ProjectTaskSpec × ProjectPath) : ProjectPath × Text :=
  (entry.2, jsonFile (taskToJson entry.1))

theorem writeTasks_of_fits {files : List (ProjectTaskSpec × ProjectPath)}
    (h : ∀ entry ∈ files, NameFits nameMax entry.2) :
    writeTasks nameMax files w =
      (.ok (), { w with files := writeAll w.files (files.map taskWrite) }) := by
  induction files generalizing w with
  | nil => rfl
  | cons entry files ih =>
      obtain ⟨hfits, hrest⟩ := List.forall_mem_cons.mp h
      have hwrite := @atomicWriteText_of_fits nameMax w entry.2 (jsonFile (taskToJson entry.1)) hfits
      rw [writeTasks, Raising.bind_of_ok hwrite, ih hrest]
      rfl

/-- The program raises, and not because the queue refuses. -/
def RaisesBefore {α : Type} (m : PlanM α) (w : ProjectWorld) : Prop :=
  ∃ e w', m w = (.error e, w') ∧ ∀ refusal, e ≠ .queue refusal

theorem RaisesBefore.bind {α β : Type} {m : PlanM α} {next : α → PlanM β}
    (h : RaisesBefore m w) : RaisesBefore (m >>= next) w := by
  obtain ⟨e, w', hrun, he⟩ := h
  exact ⟨e, w', Raising.bind_of_error hrun, he⟩

theorem RaisesBefore.bind_of_ok {α β : Type} {m : PlanM α} {next : α → PlanM β} {a : α}
    {w' : ProjectWorld} (hrun : m w = (.ok a, w')) (h : RaisesBefore (next a) w') :
    RaisesBefore (m >>= next) w := by
  obtain ⟨e, w'', hnext, he⟩ := h
  exact ⟨e, w'', (Raising.bind_of_ok hrun).trans hnext, he⟩

theorem raisesBefore_write {path : ProjectPath} {text : Text} (h : ¬ NameFits nameMax path) :
    RaisesBefore (atomicWriteText nameMax path text) w :=
  ⟨.write path, w, atomicWriteText_of_not_fits h, fun _ => nofun⟩

theorem raisesBefore_digits : RaisesBefore (answer id (.error .digits) : PlanM Text) w :=
  ⟨.digits, w, rfl, fun _ => nofun⟩

theorem raisesBefore_writeTasks {files : List (ProjectTaskSpec × ProjectPath)}
    (h : ¬ ∀ entry ∈ files, NameFits nameMax entry.2) :
    RaisesBefore (writeTasks nameMax files) w := by
  induction files generalizing w with
  | nil => exact absurd (fun entry hentry => (nomatch hentry)) h
  | cons entry files ih =>
      obtain ⟨task, path⟩ := entry
      rw [writeTasks]
      by_cases hfits : NameFits nameMax path
      · exact (ih fun hrest => h (List.forall_mem_cons.mpr ⟨hfits, hrest⟩)).bind_of_ok
          (atomicWriteText_of_fits hfits)
      · exact (raisesBefore_write hfits).bind

variable {pathText : ProjectPath → String} {now : String} {queue : Bool}

/-- The result of a plan whose batch the queue took. -/
def ProjectSpec.materialization (spec : ProjectSpec) (queued : List QueueTask) :
    ProjectPlanMaterialization where
  briefPath := Lifecycle.briefPath
  roadmapPath := Lifecycle.roadmapPath
  taskPaths := spec.taskFiles.map Prod.snd
  enqueuedTaskIds := queued.map QueueTask.id
  roleProfilePath := spec.orchestration.map fun _ => Lifecycle.roleProfilePath

theorem names_of_writable (h : Writable nameMax spec) :
    (NameFits nameMax briefPath ∧ NameFits nameMax roadmapPath) ∧
    (spec.orchestration.isSome → NameFits nameMax roleProfilePath) ∧
    ∀ entry ∈ spec.taskFiles, NameFits nameMax entry.2 := by
  have hfits := h.names
  rw [ProjectSpec.planFiles, List.forall_mem_append, List.forall_mem_append] at hfits
  obtain ⟨⟨hfixed, hprofile⟩, htasks⟩ := hfits
  refine ⟨⟨hfixed (briefPath, briefText spec) (by simp),
    hfixed (roadmapPath, roadmapText spec) (by simp)⟩, ?_, ?_⟩
  · intro hsome
    obtain ⟨profile, hsome⟩ := Option.isSome_iff_exists.mp hsome
    exact hprofile (roleProfilePath, jsonFile (roleProfilePayload profile)) (by simp [hsome])
  · intro entry hentry
    exact htasks _ (List.mem_map.mpr ⟨entry, hentry, rfl⟩)

theorem writeRoleProfile_of_fits {orchestration : Option ProjectRoleProfile}
    (h : orchestration.isSome → NameFits nameMax roleProfilePath) :
    writeRoleProfile nameMax orchestration w =
      (.ok (orchestration.map fun _ => roleProfilePath), { w with
        files := writeAll w.files (orchestration.toList.map fun profile =>
          (roleProfilePath, jsonFile (roleProfilePayload profile))) }) := by
  cases orchestration with
  | none => rfl
  | some profile => rw [writeRoleProfile, Raising.bind_of_ok (atomicWriteText_of_fits (h rfl))]; rfl

theorem renderProjectBrief_of_writable (h : Writable nameMax spec) :
    renderProjectBrief spec = .ok (briefText spec) := by
  rw [renderProjectBrief, if_pos]
  rw [Option.all_eq_true]
  exact h.limit

theorem renderProjectRoadmap_of_writable (h : Writable nameMax spec) :
    renderProjectRoadmap spec = .ok (roadmapText spec) := by
  rw [renderProjectRoadmap, if_pos]
  rw [List.all_eq_true]
  exact h.priorities

/-- A plan whose files can be written: the files are written, then the queue is asked. -/
theorem materialize_of_writable (h : Writable nameMax spec) (ask : PlanM (List QueueTask)) :
    materializeWith nameMax ask spec true w =
      (do
        let queued ← ask
        return spec.materialization queued : PlanM ProjectPlanMaterialization)
      { w with files := writeAll w.files spec.planFiles } := by
  obtain ⟨⟨hbrief, hroadmap⟩, hprofile, htasks⟩ := names_of_writable h
  rw [materializeWith, if_pos rfl, renderProjectBrief_of_writable h, answer_ok_bind,
    Raising.bind_of_ok (atomicWriteText_of_fits hbrief), renderProjectRoadmap_of_writable h,
    answer_ok_bind, Raising.bind_of_ok (atomicWriteText_of_fits hroadmap),
    Raising.bind_of_ok (writeRoleProfile_of_fits hprofile),
    Raising.bind_of_ok (writeTasks_of_fits htasks)]
  rw [ProjectSpec.planFiles, writeAll_append, writeAll_append]
  rfl

/-- A plan whose files cannot all be written raises before the queue is asked. -/
theorem raisesBefore_of_not_writable (ask : PlanM (List QueueTask)) (w : ProjectWorld)
    (h : ¬ Writable nameMax spec) : RaisesBefore (materializeWith nameMax ask spec true) w := by
  -- the writes in the order of the source: the first that cannot be made raises
  rw [materializeWith, if_pos rfl, renderProjectBrief, renderProjectRoadmap]
  by_cases hlimit : spec.orchestration.all fun profile => isWritableInt profile.maxAttempts.val
  swap
  · rw [if_neg hlimit]
    exact raisesBefore_digits.bind
  rw [if_pos hlimit]
  refine RaisesBefore.bind_of_ok rfl ?_
  by_cases hbrief : NameFits nameMax briefPath
  swap
  · exact (raisesBefore_write hbrief).bind
  refine RaisesBefore.bind_of_ok (atomicWriteText_of_fits hbrief) ?_
  by_cases hpriorities : spec.tasks.all fun task => isWritableInt task.priority
  swap
  · rw [if_neg hpriorities]
    exact raisesBefore_digits.bind
  rw [if_pos hpriorities]
  refine RaisesBefore.bind_of_ok rfl ?_
  by_cases hroadmap : NameFits nameMax roadmapPath
  swap
  · exact (raisesBefore_write hroadmap).bind
  refine RaisesBefore.bind_of_ok (atomicWriteText_of_fits hroadmap) ?_
  by_cases hprofile : spec.orchestration.isSome → NameFits nameMax roleProfilePath
  swap
  · obtain ⟨hsome, hprofile⟩ := Classical.not_imp.mp hprofile
    obtain ⟨profile, hsome⟩ := Option.isSome_iff_exists.mp hsome
    rw [hsome, writeRoleProfile]
    exact (raisesBefore_write hprofile).bind.bind
  refine RaisesBefore.bind_of_ok (writeRoleProfile_of_fits hprofile) ?_
  -- what is left for the failure is the name of a task file
  refine (raisesBefore_writeTasks fun htasks => h ?_).bind
  refine ⟨?_, by rwa [Option.all_eq_true] at hlimit, by rwa [List.all_eq_true] at hpriorities⟩
  rw [ProjectSpec.planFiles, List.forall_mem_append, List.forall_mem_append]
  refine ⟨⟨?_, ?_⟩, ?_⟩
  -- the conditions met so far are those of the files
  · simp [hbrief, hroadmap]
  · intro file hfile
    obtain ⟨profile, hprofile', rfl⟩ := List.mem_map.mp hfile
    exact hprofile (Option.isSome_iff_exists.mpr ⟨profile, Option.mem_toList.mp hprofile'⟩)
  · intro file hfile
    obtain ⟨entry, hentry, rfl⟩ := List.mem_map.mp hfile
    exact htasks entry hentry

/-! ## A refused plan -/

/-- What a call leaves when the queue refuses the plan is the project as it was. -/
def PlanAtomic (nameMax : Nat) (pathText : ProjectPath → String) (spec : ProjectSpec)
    (now : String) (w : ProjectWorld) : Prop :=
  ∀ refusal w', materializeProjectPlan nameMax pathText spec true true now w =
    (.error (.queue refusal), w') → w'.files = w.files

theorem batch_eq_nil_iff : spec.batch pathText = [] ↔ spec.tasks = [] := by
  rw [ProjectSpec.batch, ProjectSpec.taskFiles, List.map_eq_nil_iff, List.map_eq_nil_iff,
    List.zipIdx_eq_nil_iff]

/-- A batch the queue takes. -/
theorem enqueue_of_enqueueable
    (h : spec.tasks = [] ∨ Enqueueable w.store.tasks (spec.batch pathText) now) :
    ∃ w', enqueue true (spec.batch pathText) now w =
      (.ok ((spec.batch pathText).map (queuedTask now)), w') ∧
      w'.files = w.files ∧
      w'.store.tasks = w.store.tasks ++ (spec.batch pathText).map (queuedTask now) := by
  obtain ⟨hempty, htaken, -⟩ := enqueueMany_exact w.store (spec.batch pathText) now
  refine ⟨(enqueue true (spec.batch pathText) now w).2, ?_, rfl, ?_⟩
  · refine Prod.ext ?_ rfl
    show (enqueueMany (spec.batch pathText) now w.store).value.mapError PlanError.queue = _
    by_cases hitems : spec.batch pathText = []
    · rw [hempty hitems, hitems]
      rfl
    · have hok := h.resolve_left (mt batch_eq_nil_iff.mpr hitems)
      rw [(htaken hitems hok).1]
      rfl
  · show (w.store.applyAll (enqueueMany (spec.batch pathText) now w.store).writes).tasks = _
    by_cases hitems : spec.batch pathText = []
    · rw [hempty hitems, hitems, List.map_nil, List.append_nil]
      rfl
    · have hok := h.resolve_left (mt batch_eq_nil_iff.mpr hitems)
      exact congrArg Store.tasks (htaken hitems hok).2

/-- A batch the queue refuses. -/
theorem enqueue_of_refused (hne : spec.tasks ≠ [])
    (h : ¬ Enqueueable w.store.tasks (spec.batch pathText) now) :
    ∃ refusal, enqueue true (spec.batch pathText) now w = (.error (.queue refusal), w) := by
  obtain ⟨refusal, hrun⟩ := enqueueMany_refused (mt batch_eq_nil_iff.mp hne) h
  refine ⟨refusal, ?_⟩
  rw [enqueue, if_pos rfl, hrun]
  rfl

/-- The queue is asked after every file is written. -/
theorem materialize_of_refused (hwritable : Writable nameMax spec) (hne : spec.tasks ≠ [])
    (h : ¬ Enqueueable w.store.tasks (spec.batch pathText) now) :
    ∃ refusal, materializeProjectPlan nameMax pathText spec true true now w =
      (.error (.queue refusal), { w with files := writeAll w.files spec.planFiles }) := by
  obtain ⟨refusal, henqueue⟩ := enqueue_of_refused hne h
    (w := { w with files := writeAll w.files spec.planFiles })
  exact ⟨refusal, (materialize_of_writable hwritable _).trans (Raising.bind_of_error henqueue)⟩

/-- **A refused plan.**  The call leaves the project files as they were exactly when the
    queue is not reached, or it takes the batch, or every file already held its text. -/
theorem planAtomic_iff (nameMax : Nat) (pathText : ProjectPath → String) (spec : ProjectSpec)
    (now : String) (w : ProjectWorld) :
    PlanAtomic nameMax pathText spec now w ↔
      ¬ Writable nameMax spec ∨ spec.tasks = [] ∨
      Enqueueable w.store.tasks (spec.batch pathText) now ∨
      ∀ file ∈ spec.planFiles, w.files file.1 = some file.2 := by
  rw [PlanAtomic]
  by_cases hwritable : Writable nameMax spec
  swap
  · -- the call raises before the queue is asked
    refine iff_of_true ?_ (Or.inl hwritable)
    intro refusal w' hrun
    obtain ⟨e, w'', hraise, he⟩ := raisesBefore_of_not_writable
      (enqueue true (spec.batch pathText) now) w hwritable
    rw [materializeProjectPlan, hraise] at hrun
    cases hrun
    exact absurd rfl (he refusal)
  by_cases htaken : spec.tasks = [] ∨ Enqueueable w.store.tasks (spec.batch pathText) now
  · -- the queue takes the batch, so the call returns
    refine iff_of_true ?_ (Or.inr (htaken.imp_right Or.inl))
    intro refusal w' hrefused
    obtain ⟨w₁, henqueue, -⟩ := enqueue_of_enqueueable htaken
      (w := { w with files := writeAll w.files spec.planFiles })
    rw [materializeProjectPlan, materialize_of_writable hwritable, Raising.bind_of_ok henqueue]
      at hrefused
    cases hrefused
  -- the queue refuses the batch, with every file of the plan written
  · obtain ⟨hne, hrefuses⟩ := not_or.mp htaken
    obtain ⟨refusal, hrefused⟩ := materialize_of_refused hwritable hne hrefuses
    rw [hrefused]
    simp only [hwritable, not_true, hne, hrefuses, false_or]
    rw [← writeAll_eq_self_iff w.files (nodup_planFiles spec)]
    -- nothing changed exactly when every file had its content already
    constructor
    · intro h
      exact h refusal _ rfl
    · intro h refusal' w' hresult
      obtain ⟨-, rfl⟩ := Prod.mk.inj hresult
      exact h

/-- A task of a plan. -/
def ordersTask : ProjectTaskSpec where
  id := "T1"
  title := "Orders"
  objective := "Keep orders."
  acceptanceCriteria := ["An order is kept."]
  verificationCommands := ["pytest"]

/-- The plan of that task. -/
def ordersSpec : ProjectSpec where
  id := "shop"
  title := "Shop"
  goal := "Sell."
  customer := "Ann"
  businessRequirements := ["Orders are kept."]
  definitionOfDone := ["Tests pass."]
  tasks := [ordersTask]

/-- A project without files whose queue holds a task of that id. -/
def queuedProject : ProjectWorld where
  files _ := none
  store := { tasks := [queuedTask "t0" (ordersTask.toWorkItem, "T1.json")] }

/-- The plan is refused, and its brief is there. -/
theorem not_planAtomic_queued :
    ¬ PlanAtomic 255 (fun path => String.ofList path.name) ordersSpec "t1" queuedProject := by
  intro h
  have hwritable : Writable 255 ordersSpec := ⟨by decide +kernel, by decide, by decide⟩
  have hrefused : ¬ Enqueueable queuedProject.store.tasks
      (ordersSpec.batch fun path => String.ofList path.name) "t1" := by
    intro henqueueable
    have hfree := henqueueable.free _ List.mem_cons_self _ List.mem_cons_self rfl
    cases hfree
  obtain ⟨refusal, hrun⟩ := materialize_of_refused hwritable (List.cons_ne_nil _ _) hrefused
  have hfiles : writeAll queuedProject.files ordersSpec.planFiles briefPath = none :=
    congrFun (h refusal _ hrun) briefPath
  rw [writeAll_of_mem _ (nodup_planFiles ordersSpec) List.mem_cons_self] at hfiles
  cases hfiles

end

end LlmHarness.Lifecycle
