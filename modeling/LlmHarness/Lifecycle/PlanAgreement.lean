/-
  LlmHarness.Lifecycle.PlanAgreement

  Two readings of one plan.  The spec reader and the queue check the same task
  graph with two validators, and the task files the plan writes are read back by
  a parser of their own.  For an accepted spec and an empty queue they agree on
  every task: what is queued is what `load_work_item` reads from the file.  The
  only things in the way are a file that cannot be written, a chain of tasks too
  long for the call stack and a journal that does not take the events of the batch.
-/

import LlmHarness.Lifecycle.TaskFile
import LlmHarness.Python.JsonQuotes

namespace LlmHarness.Lifecycle

open Python Raising Updates Guards Relation StoreM

/-! ## The task file -/

/-- What is written of an object is read back, as a file and as a document. -/
theorem loads_jsonFile {members : List (String × Json)} (h : (Json.obj members).DistinctKeys) :
    loads (readAuthoredText (jsonFile (.obj members))) = some (.obj members) := by
  obtain ⟨rest, hfile⟩ : ∃ rest, jsonFile (.obj members) = '{' :: rest := by
    rw [jsonFile, Json.dumpsIndent, Json.dumpsLaid]
    exact ⟨_, rfl⟩
  have hmark : readAuthoredText (jsonFile (.obj members)) =
      universalNewlines (jsonFile (.obj members)) := by
    rw [readAuthoredText]
    intro _ heq
    rw [hfile] at heq
    exact absurd (List.cons.inj heq).1 (by decide)
  have hreturn : ∀ c ∈ jsonFile (.obj members), c ≠ '\r' := by
    rw [jsonFile]
    exact List.forall_mem_append.mpr ⟨no_return_dumpsIndent _, by decide⟩
  rw [hmark, universalNewlines_of_no_return _ hreturn, jsonFile]
  exact loads_dumpsIndent _ h

/-- The members of a task file. -/
theorem exists_members_taskToJson (task : ProjectTaskSpec) :
    ∃ members, taskToJson task = .obj members ∧ (Json.obj members).DistinctKeys := by
  refine ⟨_, rfl, ?_⟩
  simp [Json.DistinctKeys, Json.DistinctMembers, distinctKeys_textList]

/-- A clean task is read back from its members. -/
theorem workItemFromMapping_taskToJson {task : ProjectTaskSpec} (h : CleanTask task)
    {members : List (String × Json)} (hmembers : taskToJson task = .obj members) :
    workItemFromMapping members = .ok task.toWorkItem := by
  obtain rfl := Json.obj.inj hmembers
  refine bind_eq_ok.mpr ⟨_, requiredString_of_clean rfl h.id, ?_⟩
  refine bind_eq_ok.mpr ⟨_, requiredString_of_clean rfl h.title, ?_⟩
  refine bind_eq_ok.mpr ⟨_, requiredString_of_clean rfl h.objective, ?_⟩
  refine bind_eq_ok.mpr
    ⟨_, requiredStringTuple_of_clean rfl h.acceptanceCriteria.1 h.acceptanceCriteria.2, ?_⟩
  refine bind_eq_ok.mpr
    ⟨_, requiredStringTuple_of_clean rfl h.verificationCommands.1 h.verificationCommands.2, ?_⟩
  refine bind_eq_ok.mpr ⟨_, optionalStringTuple_of_clean rfl h.allowedPaths, ?_⟩
  refine bind_eq_ok.mpr ⟨_, optionalStringTuple_of_clean rfl h.nonGoals, ?_⟩
  refine bind_eq_ok.mpr ⟨_, optionalStringTuple_of_clean rfl h.dependsOn, ?_⟩
  -- the fields of a correction are not in the file, so they keep their defaults
  rfl

theorem suffixOf_json {front : Text} (h : front ≠ []) :
    suffixOf (front ++ ".json".toList) = ".json".toList := by
  have hjson : ".json".toList = '.' :: "json".toList := by decide
  have hlast : (front ++ ".json".toList).rtakeWhile (fun c => decide (c ≠ '.')) = "json".toList := by
    have hreverse : ".json".toList.reverse = "nosj".toList ++ ['.'] := by decide
    rw [List.rtakeWhile, List.reverse_append, hreverse, List.append_assoc,
      List.takeWhile_append_of_pos (by decide), List.singleton_append,
      List.takeWhile_cons_of_neg (by decide)]
    decide
  have hlength : "json".toList.length + 1 < (front ++ ".json".toList).length := by
    have hpos := List.length_pos_iff.mpr h
    rw [hjson, List.length_append, List.length_cons]
    omega
  rw [suffixOf, hlast, if_pos ⟨by decide, hlength⟩, hjson]

/-- The file of a clean task is read back as its work item. -/
theorem loadWorkItem_taskFile (intOf : Json → Option Int) (pathText : ProjectPath → String)
    {task : ProjectTaskSpec} (h : CleanTask task) (index : Nat) :
    loadWorkItem intOf pathText (taskPath task index) (jsonFile (taskToJson task)) =
      .ok task.toWorkItem := by
  obtain ⟨members, hmembers, hkeys⟩ := exists_members_taskToJson task
  have hsuffix : lowerName (suffixOf (taskPath task index).name) = ".json".toList := by
    obtain ⟨front, hfront, hname⟩ : ∃ front, front ≠ [] ∧
        (taskPath task index).name = front ++ ".json".toList :=
      ⟨(Nat.toDigits 10 index).leftpad 3 '0' ++ '-' :: safeFilename task.id, by simp,
        (List.append_assoc ((Nat.toDigits 10 index).leftpad 3 '0') ('-' :: safeFilename task.id)
          ".json".toList).symm⟩
    rw [hname, suffixOf_json hfront]
    decide
  rw [loadWorkItem, hsuffix, if_pos rfl, hmembers, loadJsonTask, loads_jsonFile hkeys]
  exact workItemFromMapping_taskToJson h hmembers

/-! ## The queue -/

variable {spec : ProjectSpec} {pathText : ProjectPath → String} {now : String}

theorem batch_workItems (spec : ProjectSpec) (pathText : ProjectPath → String) :
    (spec.batch pathText).map Prod.fst = spec.tasks.map ProjectTaskSpec.toWorkItem := by
  have htasks : (spec.tasks.zipIdx 1).map Prod.fst = spec.tasks := List.zipIdx_map_fst 1 spec.tasks
  conv_rhs => rw [← htasks]
  rw [ProjectSpec.batch, ProjectSpec.taskFiles, List.map_map, List.map_map, List.map_map]
  rfl

/-- In a queue of the batch alone an edge is a dependency of the plan. -/
theorem dependencyEdge_of_unresolvedEdge {a b : String}
    (h : UnresolvedEdge ((spec.batch pathText).map (queuedTask now)) a b) :
    DependencyEdge spec.tasks a b := by
  obtain ⟨-, -, task, htask, hb⟩ := h
  have hid := latestTask?_id htask
  obtain ⟨item, hitem, rfl⟩ := List.mem_map.mp (KeyedLog.mem_of_last? htask).1
  have hwork : item.1 ∈ spec.tasks.map ProjectTaskSpec.toWorkItem := by
    rw [← batch_workItems spec pathText]
    exact List.mem_map.mpr ⟨item, hitem, rfl⟩
  obtain ⟨planned, hplanned, heq⟩ := List.mem_map.mp hwork
  refine ⟨planned, hplanned, ?_, ?_⟩
  · rw [← hid]
    exact congrArg WorkItem.id heq
  · have hdeps : planned.dependsOn = item.1.dependsOn := congrArg WorkItem.dependsOn heq
    rw [hdeps]
    exact hb

/-- **The two graph checks agree**: an empty queue takes every plan with a sound graph. -/
theorem enqueueable_of_taskGraph (h : TaskGraph spec.tasks) :
    Enqueueable [] (spec.batch pathText) now := by
  have hids : (spec.batch pathText).map (fun item => item.1.id) =
      spec.tasks.map ProjectTaskSpec.id := by
    have hwork := congrArg (List.map WorkItem.id) (batch_workItems spec pathText)
    rw [List.map_map, List.map_map] at hwork
    exact hwork
  -- every item of the batch is a task of the plan
  have hplanned : ∀ item ∈ spec.batch pathText, ∃ task ∈ spec.tasks, task.toWorkItem = item.1 := by
    intro item hitem
    have hwork : item.1 ∈ (spec.batch pathText).map Prod.fst := List.mem_map.mpr ⟨item, hitem, rfl⟩
    rw [batch_workItems] at hwork
    exact List.mem_map.mp hwork
  refine ⟨⟨?_, ?_, ?_, ?_⟩, ?_⟩
  · rw [hids]
    exact h.distinct
  -- the queue is empty, so no entry is active
  · intro item _ task htask
    cases htask
  · intro item hitem
    obtain ⟨task, htask, heq⟩ := hplanned item hitem
    rw [← heq]
    exact h.dependsOn task htask
  · intro item hitem d hd
    obtain ⟨task, htask, heq⟩ := hplanned item hitem
    rw [← heq] at hd
    rw [hids]
    exact Or.inr (h.known task htask d hd)
  -- the edges of the queue are dependencies of the plan, which has no cycle
  · intro id hcycle
    rw [List.nil_append] at hcycle
    have hle : UnresolvedEdge ((spec.batch pathText).map (queuedTask now)) ≤
        DependencyEdge spec.tasks := fun a b hab => dependencyEdge_of_unresolvedEdge hab
    exact h.acyclic id (TransGen.mono hle id id hcycle)

/-! ## The plan -/

/-- The call returns, the queue holds exactly the tasks of the spec, in order, and each
    task file is read as the item that is queued for it. -/
def PlanAgrees (nameMax frames : Nat) (intOf : Json → Option Int) (pathText : ProjectPath → String)
    (spec : ProjectSpec) (now : String) (w : ProjectWorld) : Prop :=
  ∃ plan w', materializeOnDisk nameMax pathText frames spec now w = (.ok plan, w') ∧
    w'.store.tasks.map QueueTask.workItem = spec.tasks.map ProjectTaskSpec.toWorkItem ∧
    (∀ task ∈ w'.store.tasks, task.status = .queued) ∧
    plan.enqueuedTaskIds = spec.tasks.map ProjectTaskSpec.id ∧
    List.Forall₂ (fun queued path => queued.source = pathText path ∧
        ∃ file, w'.files path = some file ∧ loadWorkItem intOf pathText path file = .ok queued.workItem)
      w'.store.tasks plan.taskPaths

/-- The queue takes the batch of a plan: the search for a cycle fits on the call stack, and the
    journal takes the events. -/
def TakesPlan (frames : Nat) (pathText : ProjectPath → String) (spec : ProjectSpec) (now : String)
    (s : Store) : Prop :=
  spec.tasks = [] ∨ (SearchFits frames s.tasks (spec.batch pathText) ∧
    TakesBatch s ((spec.batch pathText).map (queuedTask now)))

variable {frames : Nat} {w : ProjectWorld}

/-- On disk a batch without a fault of its own is taken exactly when the queue takes it. -/
theorem enqueueOnDisk_of_taken (h : Enqueueable w.store.tasks (spec.batch pathText) now)
    (htakes : TakesPlan frames pathText spec now w.store) :
    ∃ w', enqueueOnDisk frames (spec.batch pathText) now w =
      (.ok ((spec.batch pathText).map (queuedTask now)), w') ∧
      w'.files = w.files ∧
      w'.store.tasks = w.store.tasks ++ (spec.batch pathText).map (queuedTask now) := by
  by_cases hnil : spec.batch pathText = []
  · -- no item, no check
    rw [hnil]
    exact ⟨w, rfl, rfl, (List.append_nil _).symm⟩
  · obtain ⟨hfits, hjournal⟩ := htakes.resolve_left (mt batch_eq_nil_iff.mpr hnil)
    obtain ⟨outcome, hrun, -, htaken, -⟩ :=
      enqueueMany_onDisk frames w.store (spec.batch pathText) now hfits
    obtain ⟨hvalue, hstore⟩ := htaken hnil h hjournal
    refine ⟨{ w with store := w.store.applyAll outcome.writes }, ?_, rfl, ?_⟩
    · rw [enqueueOnDisk, hrun]
      dsimp only
      rw [hvalue]
      rfl
    · rw [hstore]
      rfl

theorem taken_of_enqueueOnDisk {queued : List QueueTask} {w' : ProjectWorld}
    (h : Enqueueable w.store.tasks (spec.batch pathText) now)
    (hrun : enqueueOnDisk frames (spec.batch pathText) now w = (.ok queued, w')) :
    TakesPlan frames pathText spec now w.store := by
  by_cases hnil : spec.batch pathText = []
  · exact Or.inl (batch_eq_nil_iff.mp hnil)
  · have hreaches : ReachesSearch w.store.tasks (spec.batch pathText) := by
      refine ⟨hnil, ?_, activeIncoming_eq_nil_iff.mpr h.free, ?_⟩
      · rw [List.map_map]
        exact h.distinct
      · rw [checkDependencies_map_ok_iff.mpr ⟨h.dependsOn, h.known⟩]
        rfl
    by_cases hfits : SearchFits frames w.store.tasks (spec.batch pathText)
    · refine Or.inr ⟨hfits, (refusedLog?_enqueueMany hnil h).mp ?_⟩
      rw [enqueueOnDisk, enqueueManyWithin, if_neg fun hno => hno.2 hfits] at hrun
      -- the call succeeded, so no append was refused
      cases hvalue : (onDisk (enqueueMany (spec.batch pathText) now) w.store).value with
      | error e =>
          have hfirst := congrArg Prod.fst hrun
          simp only [hvalue] at hfirst
          cases hfirst
      | ok added => exact complete_of_onDisk hvalue
    · rw [enqueueOnDisk, enqueueManyWithin, if_pos ⟨hreaches, hfits⟩] at hrun
      cases hrun

/-- **Plan agreement.**  For an accepted spec and an empty queue the plan, the queue and the
    task files agree exactly when no file is kept from being written and the queue takes the
    batch. -/
theorem planAgrees_iff (nameMax frames : Nat) (intOf : Json → Option Int)
    (pathText : ProjectPath → String) (data : List (String × Json)) (spec : ProjectSpec)
    (now : String) (w : ProjectWorld) (hspec : projectSpecFromMapping intOf data = .ok spec)
    (hempty : w.store.tasks = []) :
    PlanAgrees nameMax frames intOf pathText spec now w ↔
      Writable nameMax spec ∧ TakesPlan frames pathText spec now w.store := by
  obtain ⟨-, hclean, hgraph⟩ := projectSpecFromMapping_ok hspec
  have htaken : Enqueueable w.store.tasks (spec.batch pathText) now := by
    rw [hempty]
    exact enqueueable_of_taskGraph hgraph
  constructor
  -- the call returned, so every file was written and the queue took the batch
  · rintro ⟨plan, w', hrun, -⟩
    by_cases hwritable : Writable nameMax spec
    · refine ⟨hwritable, ?_⟩
      rw [materializeOnDisk, materialize_of_writable hwritable] at hrun
      cases hask : enqueueOnDisk frames (spec.batch pathText) now
          { w with files := writeAll w.files spec.planFiles } with
      | mk value w'' =>
          cases value with
          | error e =>
              rw [Raising.bind_of_error hask] at hrun
              cases hrun
          | ok queued =>
              exact taken_of_enqueueOnDisk (w := { w with files := writeAll w.files spec.planFiles })
                htaken hask
    -- a name that cannot be written raises before the queue is reached
    · obtain ⟨e, w'', hraise, -⟩ := raisesBefore_of_not_writable
        (enqueueOnDisk frames (spec.batch pathText) now) w hwritable
      rw [materializeOnDisk, hraise] at hrun
      cases hrun
  -- both conditions: the files are written, the batch is taken
  · rintro ⟨hwritable, htakes⟩
    obtain ⟨w', henqueue, hfiles, htasks⟩ := enqueueOnDisk_of_taken htaken htakes
      (w := { w with files := writeAll w.files spec.planFiles })
    refine ⟨_, w', (materialize_of_writable hwritable _).trans (Raising.bind_of_ok henqueue), ?_⟩
    have hqueue : w'.store.tasks = (spec.batch pathText).map (queuedTask now) := by
      rw [htasks]
      show w.store.tasks ++ _ = _
      rw [hempty, List.nil_append]
    have hitems : (spec.batch pathText).map (QueueTask.workItem ∘ queuedTask now) =
        spec.tasks.map ProjectTaskSpec.toWorkItem := batch_workItems spec pathText
    rw [hqueue, List.map_map]
    -- the items and the ids agree, and every entry is queued
    refine ⟨hitems, ?_, ?_, ?_⟩
    · intro task htask
      obtain ⟨item, -, rfl⟩ := List.mem_map.mp htask
      rfl
    · show ((spec.batch pathText).map (queuedTask now)).map QueueTask.id = _
      have hids := congrArg (List.map WorkItem.id) hitems
      rw [List.map_map, List.map_map] at hids
      rw [List.map_map]
      exact hids
    · show List.Forall₂ _ _ (spec.taskFiles.map Prod.snd)
      rw [ProjectSpec.batch, List.map_map, List.forall₂_map_left_iff, List.forall₂_map_right_iff,
        List.forall₂_same]
      intro entry hentry
      -- each task file is one of the files written, and is read back as the task
      refine ⟨rfl, jsonFile (taskToJson entry.1), ?_, ?_⟩
      · rw [hfiles]
        refine writeAll_of_mem _ (nodup_planFiles spec) ?_
        rw [ProjectSpec.planFiles, List.mem_append]
        exact Or.inr (List.mem_map.mpr ⟨entry, hentry, rfl⟩)
      · obtain ⟨⟨task, index⟩, hmem, rfl⟩ := List.mem_map.mp hentry
        exact loadWorkItem_taskFile intOf pathText (hclean task (List.fst_mem_of_mem_zipIdx hmem)) index

/-! ## Two specs -/

/-- `int(value)` of a number. -/
def intOfNumber : Json → Option Int
  | .int value => some value
  | _ => none

/-- The mapping of a plan with one task of the given id. -/
def ordersMapping (taskId : String) : List (String × Json) := [
  ("id", .str "shop"), ("title", .str "Shop"), ("goal", .str "Sell."), ("customer", .str "Ann"),
  ("business_requirements", textList ["Orders are kept."]),
  ("definition_of_done", textList ["Tests pass."]),
  ("tasks", .arr [.obj [("id", .str taskId), ("title", .str " Orders "),
    ("objective", .str "Keep orders."), ("acceptance_criteria", textList ["An order is kept."]),
    ("verification_commands", textList ["pytest"])]])]

/-- A project without files and with an empty queue. -/
def emptyProject : ProjectWorld where
  files _ := none
  store := Store.empty

/-- The text of a path. -/
def nameText (path : ProjectPath) : String := String.ofList path.name

/-- A clean id makes the mapping an accepted spec. -/
theorem projectSpecFromMapping_orders {taskId : String} (h : Clean taskId) :
    projectSpecFromMapping intOfNumber (ordersMapping taskId) =
      .ok { ordersSpec with tasks := [{ ordersTask with id := taskId }] } := by
  have htask : taskFromMapping [("id", .str taskId), ("title", .str " Orders "),
      ("objective", .str "Keep orders."), ("acceptance_criteria", textList ["An order is kept."]),
      ("verification_commands", textList ["pytest"])] = .ok { ordersTask with id := taskId } :=
    bind_eq_ok.mpr ⟨taskId, requiredString_of_clean rfl h, rfl⟩
  have hgraph : TaskGraph [{ ordersTask with id := taskId }] := by
    refine ⟨by simp, by simp [ordersTask], by simp [ordersTask], fun id hcycle => ?_⟩
    obtain ⟨b, ⟨task, htask, -, hb⟩, -⟩ := TransGen.head'_iff.mp hcycle
    obtain rfl := List.mem_singleton.mp htask
    cases hb
  have htasks : ([[("id", .str taskId), ("title", .str " Orders "),
      ("objective", .str "Keep orders."), ("acceptance_criteria", textList ["An order is kept."]),
      ("verification_commands", textList ["pytest"])]] : List (List (String × Json))).mapM
        taskFromMapping = .ok [{ ordersTask with id := taskId }] :=
    mapM_eq_ok.mpr (.cons htask .nil)
  refine bind_eq_ok.mpr ⟨none, rfl, ?_⟩
  have hversion : pyStr ((dictGet? (ordersMapping taskId) "spec_version").getD (.str "1.0")) = "1.0" :=
    rfl
  rw [if_neg fun h => absurd (hversion.symm.trans h.1) (by decide), if_neg fun h => h.1 hversion]
  refine bind_eq_ok.mpr ⟨_, rfl, bind_eq_ok.mpr ⟨_, htasks, ?_⟩⟩
  rw [if_neg (not_not_intro hgraph.distinct)]
  exact unit_bind_eq_ok.mpr ⟨(validateTaskGraph_ok_iff hgraph.distinct).mpr hgraph, rfl⟩

theorem planAgrees_orders :
    projectSpecFromMapping intOfNumber (ordersMapping "T1") = .ok ordersSpec ∧
      emptyProject.store.tasks = [] ∧ Writable 255 ordersSpec ∧
      PlanAgrees 255 900 intOfNumber nameText ordersSpec "t1" emptyProject := by
  have hspec : projectSpecFromMapping intOfNumber (ordersMapping "T1") = .ok ordersSpec :=
    projectSpecFromMapping_orders (clean_of_stripText (by decide) (by decide))
  have hwritable : Writable 255 ordersSpec := ⟨by decide +kernel, by decide, by decide⟩
  have htakes : TakesPlan 900 nameText ordersSpec "t1" emptyProject.store :=
    Or.inr ⟨by decide +kernel, List.forall_mem_nil _, by decide +kernel⟩
  exact ⟨hspec, rfl, hwritable, (planAgrees_iff 255 900 intOfNumber nameText (ordersMapping "T1")
    ordersSpec "t1" emptyProject hspec rfl).mpr ⟨hwritable, htakes⟩⟩

/-- A task id of the given number of letters. -/
def lettersId (n : Nat) : String := String.ofList (List.replicate n 'a')

/-- The task with that id. -/
def lettersTask (n : Nat) : ProjectTaskSpec := { ordersTask with id := lettersId n }

/-- The plan of that task. -/
def lettersSpec (n : Nat) : ProjectSpec := { ordersSpec with tasks := [lettersTask n] }

theorem dashRuns_of_names (inRun : Bool) {cs : Text} (h : ∀ c ∈ cs, isNameChar c) :
    dashRuns inRun cs = cs := by
  induction cs generalizing inRun with
  | nil => rfl
  | cons c cs ih =>
      obtain ⟨hc, hcs⟩ := List.forall_mem_cons.mp h
      rw [dashRuns, if_pos hc, ih false hcs]

theorem safeFilename_lettersId (n : Nat) :
    safeFilename (lettersId (n + 1)) = List.replicate (n + 1) 'a' := by
  have hletters : ∀ c ∈ List.replicate (n + 1) 'a', isNameChar c := fun c hc =>
    List.eq_of_mem_replicate hc ▸ by decide
  have hedge : isNameEdge 'a' = false := by decide
  have hend : (List.replicate (n + 1) 'a').rdropWhile isNameEdge = List.replicate (n + 1) 'a' := by
    rw [List.replicate_succ', List.rdropWhile_concat_neg _ _ _ (by simp [hedge])]
  rw [safeFilename, lettersId, String.toList_ofList, dashRuns_of_names false hletters,
    List.replicate_succ, List.dropWhile_cons_of_neg (by simp [hedge]), ← List.replicate_succ, hend]
  rfl

/-- A task file is named after the id of its task. -/
theorem length_le_taskPath (task : ProjectTaskSpec) (index : Nat) :
    (safeFilename task.id).length ≤ (taskPath task index).name.length := by
  obtain ⟨front, back, hname⟩ : ∃ front back,
      (taskPath task index).name = front ++ '-' :: (safeFilename task.id ++ back) := ⟨_, _, rfl⟩
  rw [hname, List.length_append, List.length_cons, List.length_append]
  omega

theorem taskFile_mem_lettersSpec (n : Nat) :
    (lettersTask n, taskPath (lettersTask n) 1) ∈ (lettersSpec n).taskFiles := List.mem_cons_self

/-- A spec with an id of three hundred letters is accepted, and its plan raises. -/
theorem not_planAgrees_lettersId :
    projectSpecFromMapping intOfNumber (ordersMapping (lettersId 300)) = .ok (lettersSpec 300) ∧
      ¬ PlanAgrees 255 900 intOfNumber nameText (lettersSpec 300) "t1" emptyProject := by
  have hnospace : ∀ c ∈ List.replicate 300 'a', isSpace c = false := fun c hc =>
    List.eq_of_mem_replicate hc ▸ by decide
  have hclean : Clean (lettersId 300) := by
    refine clean_of_stripText ?_ ?_
    · rw [lettersId, String.toList_ofList]
      exact not_isBlank_of_mem (List.mem_replicate.mpr ⟨by decide, rfl⟩) (by decide)
    · rw [stripText, lettersId, String.toList_ofList, strip_of_no_space hnospace]
  have hwritable : ¬ Writable 255 (lettersSpec 300) := by
    intro h
    have hfiles := (names_of_writable h).2.2
    have hfits : (taskPath (lettersTask 300) 1).name.length + 14 ≤ 255 :=
      hfiles _ (taskFile_mem_lettersSpec 300)
    have hname : safeFilename (lettersTask 300).id = List.replicate 300 'a' :=
      safeFilename_lettersId 299
    have hlength := length_le_taskPath (lettersTask 300) 1
    rw [hname, List.length_replicate] at hlength
    omega
  refine ⟨projectSpecFromMapping_orders hclean, ?_⟩
  rintro ⟨plan, w', hrun, -⟩
  obtain ⟨e, w'', hraise, -⟩ := raisesBefore_of_not_writable
    (enqueueOnDisk 900 ((lettersSpec 300).batch nameText) "t1") emptyProject hwritable
  rw [materializeOnDisk, hraise] at hrun
  cases hrun

end LlmHarness.Lifecycle
