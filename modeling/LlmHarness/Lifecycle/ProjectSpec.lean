/-
  LlmHarness.Lifecycle.ProjectSpec

  The project spec of `lifecycle.py` and how `_project_spec_from_mapping` reads it:
  the role selection, the tasks, and the check that their dependencies are known,
  distinct and without a cycle.
-/

import LlmHarness.Domain
import LlmHarness.Lib.CycleSearch
import LlmHarness.Lifecycle.Fields

namespace LlmHarness.Lifecycle

open Python Guards

/-! ## Records -/

/-- `RoleSelection`; its `__post_init__` refuses a blank text. -/
structure RoleSelection where
  agent : NonBlank
  model : Option NonBlank := none
  driver : Option NonBlank := none
deriving DecidableEq

/-- `ProjectRoleProfile`; its `__post_init__` refuses an attempt limit below one. -/
structure ProjectRoleProfile where
  supervisor : RoleSelection
  worker : RoleSelection
  critic : Option RoleSelection := none
  maxAttempts : {limit : Int // 1 ≤ limit} := ⟨3, by decide⟩
deriving DecidableEq

/-- `ProjectTaskSpec`. -/
structure ProjectTaskSpec where
  id : String
  title : String
  objective : String
  acceptanceCriteria : List String
  verificationCommands : List String
  allowedPaths : List String := []
  nonGoals : List String := []
  dependsOn : List String := []
  priority : Int := 0
deriving DecidableEq

/-- `ProjectTaskSpec.to_work_item`. -/
def ProjectTaskSpec.toWorkItem (task : ProjectTaskSpec) : WorkItem where
  id := task.id
  title := task.title
  objective := task.objective
  acceptanceCriteria := task.acceptanceCriteria
  verificationCommands := task.verificationCommands
  allowedPaths := task.allowedPaths
  nonGoals := task.nonGoals
  dependsOn := task.dependsOn
  priority := task.priority

/-- `ProjectSpec`. -/
structure ProjectSpec where
  id : String
  title : String
  goal : String
  customer : String
  businessRequirements : List String
  definitionOfDone : List String
  tasks : List ProjectTaskSpec
  nonFunctionalRequirements : List String := []
  documentationRequirements : List String := []
  constraints : List String := []
  openQuestions : List String := []
  specVersion : String := "1.0"
  orchestration : Option ProjectRoleProfile := none
deriving DecidableEq

/-- What reading a spec raises. -/
inductive LifecycleError where
  | projectSpec (message : String)
  | roleProfile (message : String)
  /-- `int(value)` raised. -/
  | notAnInteger (value : Json)

/-- The fields of a project spec. -/
def specFields : Owner LifecycleError := ⟨"Project spec", .projectSpec⟩

/-! ## The task graph -/

/-- The checks on the dependencies of one task. -/
def checkTask (taskIds : List String) (task : ProjectTaskSpec) : Except LifecycleError Unit :=
  let unknown := task.dependsOn.filter (· ∉ taskIds)
  if unknown ≠ [] then
    .error (.projectSpec
      ("Task " ++ task.id ++ " has unknown dependencies: " ++ ", ".intercalate unknown ++ "."))
  else if ¬ task.dependsOn.Nodup then
    .error (.projectSpec ("Task " ++ task.id ++ " contains duplicate dependencies."))
  else .ok ()

/-- `graph[task_id]`. -/
def taskDependencies (tasks : List ProjectTaskSpec) (taskId : String) : List String :=
  (dictGet? (dictOfPairs (tasks.map fun task => (task.id, task.dependsOn))) taskId).getD []

/-- `_validate_task_graph`. -/
def validateTaskGraph (tasks : List ProjectTaskSpec) : Except LifecycleError Unit := do
  let taskIds := tasks.map ProjectTaskSpec.id
  tasks.forM (checkTask taskIds)
  match CycleSearch.search (taskDependencies tasks) taskIds with
  | .error cycle => .error (.projectSpec
      ("Project task dependency cycle: " ++ " -> ".intercalate cycle ++ "."))
  | .ok _ => .ok ()

/-! ## Reading -/

/-- `_required_list_of_objects`. -/
def requiredListOfObjects (data : List (String × Json)) (key : String) :
    Except LifecycleError (List (List (String × Json))) :=
  match field data key with
  | .arr (item :: items) => (item :: items).mapM fun
    | .obj members => .ok members
    | _ => .error (specFields.fieldError key "contain objects")
  | _ => .error (specFields.fieldError key "contain at least one object")

/-- `_task_from_mapping`. -/
def taskFromMapping (data : List (String × Json)) : Except LifecycleError ProjectTaskSpec := do
  let id ← requiredString specFields data "id"
  let title ← requiredString specFields data "title"
  let objective ← requiredString specFields data "objective"
  let acceptanceCriteria ← requiredStringTuple specFields data "acceptance_criteria"
  let verificationCommands ← requiredStringTuple specFields data "verification_commands"
  let allowedPaths ← optionalStringTuple specFields data "allowed_paths"
  let nonGoals ← optionalStringTuple specFields data "non_goals"
  let dependsOn ← optionalStringTuple specFields data "depends_on"
  let priority ← optionalInteger specFields data "priority"
  return { id, title, objective, acceptanceCriteria, verificationCommands, allowedPaths, nonGoals,
           dependsOn, priority }

/-- The error about a member of a role selection. -/
def roleError (label rule : String) : LifecycleError :=
  .projectSpec ("Project spec orchestration." ++ label ++ " must be " ++ rule ++ ".")

/-- A model or a driver of a role selection. -/
def optionalRoleText (value : Json) (label : String) : Except LifecycleError (Option NonBlank) :=
  match value with
  | .null => .ok none
  | value =>
    match strippedText? value with
    | some text => .ok (some text)
    | none => .error (roleError label "a non-empty string or null")

/-- `_role_selection`. -/
def roleSelection (value : Json) (label : String) : Except LifecycleError RoleSelection :=
  match value with
  | .obj members =>
    match strippedText? (field members "agent") with
    | none => .error (roleError (label ++ ".agent") "a non-empty string")
    | some agent => do
      let model ← optionalRoleText (field members "model") (label ++ ".model")
      let driver ← optionalRoleText (field members "driver") (label ++ ".driver")
      return { agent, model, driver }
  | _ => .error (roleError label "an object")

section

variable (intOf : Json → Option Int)

/-- `_orchestration_from_mapping`; `intOf` is `int(value)`, `none` where it raises. -/
def orchestrationFromMapping : Json → Except LifecycleError (Option ProjectRoleProfile)
  | .null => .ok none
  | .obj members => do
    let supervisor ← roleSelection (field members "supervisor") "supervisor"
    let worker ← roleSelection (field members "worker") "worker"
    let critic ← match field members "critic" with
      | .null => .ok none
      | value => (roleSelection value "critic").map some
    let limit := (dictGet? members "max_attempts").getD (.int 3)
    match intOf limit with
    | none => .error (.notAnInteger limit)
    | some maxAttempts =>
      if h : 1 ≤ maxAttempts then
        return some { supervisor, worker, critic, maxAttempts := ⟨maxAttempts, h⟩ }
      else .error (.roleProfile "Role profile max_attempts must be at least 1.")
  | _ => .error (.projectSpec "Project spec orchestration must be an object.")

/-- `project_spec_from_mapping`. -/
def projectSpecFromMapping (data : List (String × Json)) : Except LifecycleError ProjectSpec := do
  let specVersion := pyStr ((dictGet? data "spec_version").getD (.str "1.0"))
  let orchestration ← orchestrationFromMapping intOf (field data "orchestration")
  if specVersion = "2.0" ∧ orchestration = none then
    .error (.projectSpec
      "Project spec v2 requires an orchestration role selection from the customer brief.")
  else if specVersion ≠ "1.0" ∧ specVersion ≠ "2.0" then
    .error (.projectSpec ("Unsupported project spec version: " ++ specVersion))
  else
    let objects ← requiredListOfObjects data "tasks"
    let tasks ← objects.mapM taskFromMapping
    if ¬ (tasks.map ProjectTaskSpec.id).Nodup then
      .error (.projectSpec "Project spec tasks must have unique ids.")
    else
      validateTaskGraph tasks
      let id ← requiredString specFields data "id"
      let title ← requiredString specFields data "title"
      let goal ← requiredString specFields data "goal"
      let customer ← requiredString specFields data "customer"
      let businessRequirements ← requiredStringTuple specFields data "business_requirements"
      let definitionOfDone ← requiredStringTuple specFields data "definition_of_done"
      let nonFunctionalRequirements ←
        optionalStringTuple specFields data "non_functional_requirements"
      let documentationRequirements ←
        optionalStringTuple specFields data "documentation_requirements"
      let constraints ← optionalStringTuple specFields data "constraints"
      let openQuestions ← optionalStringTuple specFields data "open_questions"
      return { id, title, goal, customer, businessRequirements, definitionOfDone, tasks,
               nonFunctionalRequirements, documentationRequirements, constraints, openQuestions,
               specVersion, orchestration }

end

/-! ## What an accepted spec satisfies -/

/-- A task whose texts are clean, with criteria and commands. -/
structure CleanTask (task : ProjectTaskSpec) : Prop where
  id : Clean task.id
  title : Clean task.title
  objective : Clean task.objective
  acceptanceCriteria : task.acceptanceCriteria ≠ [] ∧ ∀ text ∈ task.acceptanceCriteria, Clean text
  verificationCommands :
    task.verificationCommands ≠ [] ∧ ∀ text ∈ task.verificationCommands, Clean text
  allowedPaths : ∀ text ∈ task.allowedPaths, Clean text
  nonGoals : ∀ text ∈ task.nonGoals, Clean text
  dependsOn : ∀ text ∈ task.dependsOn, Clean text

/-- An edge of the task graph: a task and one of its dependencies. -/
def DependencyEdge (tasks : List ProjectTaskSpec) (a b : String) : Prop :=
  ∃ task ∈ tasks, task.id = a ∧ b ∈ task.dependsOn

/-- What is asked of the tasks of a spec. -/
structure TaskGraph (tasks : List ProjectTaskSpec) : Prop where
  distinct : (tasks.map ProjectTaskSpec.id).Nodup
  dependsOn : ∀ task ∈ tasks, task.dependsOn.Nodup
  known : ∀ task ∈ tasks, ∀ d ∈ task.dependsOn, d ∈ tasks.map ProjectTaskSpec.id
  acyclic : ∀ id, ¬ Relation.TransGen (DependencyEdge tasks) id id

theorem cleanTask_of_taskFromMapping {data : List (String × Json)} {task : ProjectTaskSpec}
    (h : taskFromMapping data = .ok task) : CleanTask task := by
  obtain ⟨id, hid, h⟩ := bind_eq_ok.mp h
  obtain ⟨title, htitle, h⟩ := bind_eq_ok.mp h
  obtain ⟨objective, hobjective, h⟩ := bind_eq_ok.mp h
  obtain ⟨criteria, hcriteria, h⟩ := bind_eq_ok.mp h
  obtain ⟨commands, hcommands, h⟩ := bind_eq_ok.mp h
  obtain ⟨allowed, hallowed, h⟩ := bind_eq_ok.mp h
  obtain ⟨nonGoals, hnonGoals, h⟩ := bind_eq_ok.mp h
  obtain ⟨dependsOn, hdependsOn, h⟩ := bind_eq_ok.mp h
  obtain ⟨priority, -, h⟩ := bind_eq_ok.mp h
  obtain rfl := pure_eq_ok.mp h
  exact {
    id := clean_of_requiredString hid
    title := clean_of_requiredString htitle
    objective := clean_of_requiredString hobjective
    acceptanceCriteria := requiredStringTuple_ok hcriteria
    verificationCommands := requiredStringTuple_ok hcommands
    allowedPaths := clean_of_optionalStringTuple hallowed
    nonGoals := clean_of_optionalStringTuple hnonGoals
    dependsOn := clean_of_optionalStringTuple hdependsOn }

theorem checkTask_ok_iff {taskIds : List String} {task : ProjectTaskSpec} :
    checkTask taskIds task = .ok () ↔ (∀ d ∈ task.dependsOn, d ∈ taskIds) ∧ task.dependsOn.Nodup := by
  have hunknown : task.dependsOn.filter (· ∉ taskIds) = [] ↔ ∀ d ∈ task.dependsOn, d ∈ taskIds := by
    simp [List.filter_eq_nil_iff]
  rw [checkTask, ← hunknown]
  by_cases hknown : task.dependsOn.filter (· ∉ taskIds) = []
  · by_cases hnodup : task.dependsOn.Nodup
    · rw [if_neg (not_not_intro hknown), if_neg (not_not_intro hnodup)]
      exact iff_of_true rfl ⟨hknown, hnodup⟩
    · rw [if_neg (not_not_intro hknown), if_pos hnodup]
      exact iff_of_false (fun h => by cases h) fun h => hnodup h.2
  · rw [if_pos hknown]
    exact iff_of_false (fun h => by cases h) fun h => hknown h.1

/-- With distinct ids the successors of a task are its dependencies. -/
theorem edge_taskDependencies {tasks : List ProjectTaskSpec}
    (h : (tasks.map ProjectTaskSpec.id).Nodup) :
    CycleSearch.Edge (taskDependencies tasks) = DependencyEdge tasks := by
  have hkeys : ((tasks.map fun task => (task.id, task.dependsOn)).map Prod.fst).Nodup := by
    rw [List.map_map]
    exact h
  funext a b
  apply propext
  rw [CycleSearch.Edge, taskDependencies, dictOfPairs_of_nodup _ hkeys]
  constructor
  · intro hb
    cases hget : dictGet? (tasks.map fun task => (task.id, task.dependsOn)) a with
    | none => simp [hget] at hb
    | some deps =>
        rw [hget, Option.getD_some] at hb
        obtain ⟨task, htask, heq⟩ := List.mem_map.mp ((mem_iff_dictGet? hkeys a deps).mpr hget)
        obtain ⟨rfl, rfl⟩ := Prod.mk.inj heq
        exact ⟨task, htask, rfl, hb⟩
  · rintro ⟨task, htask, rfl, hb⟩
    have hget := (mem_iff_dictGet? hkeys task.id task.dependsOn).mp
      (List.mem_map.mpr ⟨task, htask, rfl⟩)
    rw [hget]
    exact hb

/-- **The graph check of a spec.**  With distinct ids it accepts exactly the known, distinct
    dependencies without a cycle. -/
theorem validateTaskGraph_ok_iff {tasks : List ProjectTaskSpec}
    (h : (tasks.map ProjectTaskSpec.id).Nodup) :
    validateTaskGraph tasks = .ok () ↔ TaskGraph tasks := by
  have hedge := edge_taskDependencies h
  rw [validateTaskGraph, unit_bind_eq_ok, forM_eq_ok]
  simp only [checkTask_ok_iff]
  constructor
  · rintro ⟨hchecks, hsearch⟩
    -- the dependencies are ids of tasks, so the search stays among them
    have hclosed : ∀ a ∈ tasks.map ProjectTaskSpec.id, ∀ b ∈ taskDependencies tasks a,
        b ∈ tasks.map ProjectTaskSpec.id := by
      intro a _ b hb
      have hab : CycleSearch.Edge (taskDependencies tasks) a b := hb
      rw [hedge] at hab
      obtain ⟨task, htask, -, hb⟩ := hab
      exact (hchecks task htask).1 b hb
    refine ⟨h, fun task htask => (hchecks task htask).2, fun task htask => (hchecks task htask).1, ?_⟩
    intro id hcycle
    -- the search that found no cycle is the one of the call
    cases hresult : CycleSearch.search (taskDependencies tasks) (tasks.map ProjectTaskSpec.id) with
    | error cycle => rw [hresult] at hsearch; cases hsearch
    | ok visited =>
        have hacyclic := (CycleSearch.search_ok_iff hclosed).mp ⟨visited, hresult⟩
        rw [← hedge] at hcycle
        -- an id on a cycle has a dependency, so it is the id of a task
        obtain ⟨b, hb, -⟩ := Relation.TransGen.head'_iff.mp hcycle
        rw [hedge] at hb
        obtain ⟨task, htask, rfl, -⟩ := hb
        exact hacyclic task.id (List.mem_map.mpr ⟨task, htask, rfl⟩) hcycle
  · intro hgraph
    refine ⟨fun task htask => ⟨hgraph.known task htask, hgraph.dependsOn task htask⟩, ?_⟩
    have hclosed : ∀ a ∈ tasks.map ProjectTaskSpec.id, ∀ b ∈ taskDependencies tasks a,
        b ∈ tasks.map ProjectTaskSpec.id := by
      intro a _ b hb
      have hab : CycleSearch.Edge (taskDependencies tasks) a b := hb
      rw [hedge] at hab
      obtain ⟨task, htask, -, hb⟩ := hab
      exact hgraph.known task htask b hb
    obtain ⟨visited, hsearch⟩ := (CycleSearch.search_ok_iff hclosed).mpr fun id _ hcycle =>
      hgraph.acyclic id (by rw [CycleSearch.OnCycle, hedge] at hcycle; exact hcycle)
    rw [hsearch]

/-- **An accepted spec** has tasks, all clean, in a sound graph. -/
theorem projectSpecFromMapping_ok {intOf : Json → Option Int} {data : List (String × Json)}
    {spec : ProjectSpec} (h : projectSpecFromMapping intOf data = .ok spec) :
    spec.tasks ≠ [] ∧ (∀ task ∈ spec.tasks, CleanTask task) ∧ TaskGraph spec.tasks := by
  -- the checks of the source, in its order
  obtain ⟨orchestration, -, h⟩ := bind_eq_ok.mp h
  split at h
  · cases h
  split at h
  · cases h
  obtain ⟨objects, hobjects, h⟩ := bind_eq_ok.mp h
  obtain ⟨tasks, htasks, h⟩ := bind_eq_ok.mp h
  split at h
  · cases h
  have hdistinct : (tasks.map ProjectTaskSpec.id).Nodup := not_not.mp ‹_›
  -- the fields after the graph are read and leave the tasks as they are
  obtain ⟨hgraph, h⟩ := unit_bind_eq_ok.mp h
  obtain ⟨_, -, h⟩ := bind_eq_ok.mp h
  obtain ⟨_, -, h⟩ := bind_eq_ok.mp h
  obtain ⟨_, -, h⟩ := bind_eq_ok.mp h
  obtain ⟨_, -, h⟩ := bind_eq_ok.mp h
  obtain ⟨_, -, h⟩ := bind_eq_ok.mp h
  obtain ⟨_, -, h⟩ := bind_eq_ok.mp h
  obtain ⟨_, -, h⟩ := bind_eq_ok.mp h
  obtain ⟨_, -, h⟩ := bind_eq_ok.mp h
  obtain ⟨_, -, h⟩ := bind_eq_ok.mp h
  obtain ⟨_, -, h⟩ := bind_eq_ok.mp h
  obtain rfl := pure_eq_ok.mp h
  have heach := mapM_eq_ok.mp htasks
  refine ⟨?_, ?_, (validateTaskGraph_ok_iff hdistinct).mp hgraph⟩
  · -- the list of objects is not empty
    have hsome : objects ≠ [] := by
      rw [requiredListOfObjects] at hobjects
      split at hobjects
      · have hlength := (mapM_eq_ok.mp hobjects).length_eq
        rintro rfl
        simp at hlength
      · cases hobjects
    rintro rfl
    exact hsome (List.forall₂_nil_right_iff.mp heach)
  · intro task htask
    obtain ⟨object, hobject⟩ := exists_of_forall₂ heach htask
    exact cleanTask_of_taskFromMapping hobject

end LlmHarness.Lifecycle
