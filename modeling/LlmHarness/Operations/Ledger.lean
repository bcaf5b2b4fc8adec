/-
  LlmHarness.Operations.Ledger

  `OperationLedger`: one record file for each canonical mutation, written before
  the mutation starts and updated as it goes on.  A record file is the JSON
  object its text decodes to.  What Git, the worktree and the state store answer
  during a reconciliation is a `ReconcileView`.

  Operation ids are what `uuid4` gives: `isOperationId` is `_safe_id` on ASCII.
-/

import LlmHarness.Lib.Durable
import LlmHarness.Operations.Evidence
import LlmHarness.Python.PosixPath

namespace LlmHarness

open Python Durable Durable.Program

/-! ## Values of a record -/

/-- `==` of two documents, by their key-sorted text. -/
def sameJson (a b : Json) : Bool := a.sortKeys.dumpsWith [] = b.sortKeys.dumpsWith []

/-- `set(xs) == set(ys)`. -/
def sameSet (xs ys : List String) : Bool := xs.all ys.contains && ys.all xs.contains

/-- `payload["version"] == 1`. -/
def isVersionOne : Json → Bool
  | .int value => value = 1
  | .bool value => value
  | .float value => value.repr = "1.0".toList
  | _ => false

/-- The strings of a list. -/
def listTexts : Json → List String
  | .arr items => items.map pyStr
  | _ => []

/-! ## Records -/

/-- An operation record. -/
abbrev OperationRecord := List (String × Json)

def isOperationIdChar (c : Char) : Bool := c.isAlphanum || c = '-' || c = '_'

/-- `_safe_id`, on ASCII. -/
def isOperationId (text : String) : Bool := text ≠ "" && text.toList.all isOperationIdChar

/-- An operation id, as `uuid4` makes them. -/
abbrev OperationId := {text : String // isOperationId text}

/-- `OperationContext`. -/
structure OperationContext where
  operationId : OperationId
  runId : String
  stateRoot : String
  startedAtUtc : String
  reviewRequired : Bool := false

/-- The record without its digest. -/
def recordContent (record : OperationRecord) : OperationRecord :=
  record.filter fun member => member.1 ≠ "record_sha256"

/-- The digest of a record. -/
def recordDigest (runtime : LedgerRuntime) (record : OperationRecord) : String :=
  runtime.sha256 ((Json.obj (recordContent record)).sortKeys.dumpsWith [])

/-- The record with its digest. -/
def sealRecord (runtime : LedgerRuntime) (record : OperationRecord) : OperationRecord :=
  dictInsert record ("record_sha256", .str (recordDigest runtime record))

/-! ## `_validate` -/

/-- The fields a record must have. -/
def requiredFields : List String :=
  ["version", "operation_id", "action", "repository", "state_root", "task_id", "run_id",
    "baseline_head", "patch_sha256", "expected_changed_files", "baseline_files",
    "expected_post_files", "phases", "terminal_outcome", "record_sha256"]

/-- The required fields a record misses. -/
def missingFields (record : OperationRecord) : List String :=
  requiredFields.filter fun name => (dictGet? record name).isNone

/-- `candidate.is_absolute() or ".." in candidate.parts`. -/
def isUnsafeScopePath (path : String) : Bool :=
  let candidate := PosixPath.parse path.toList
  candidate.isAbsolute || candidate.parts.contains "..".toList

/-- The last checks of `_validate`, on the scope and the evidence. -/
def validateScope (expectedId : String) (phases scope baseline post : Json) :
    Except OperationError Unit :=
  match phases, scope, baseline, post with
  | .obj _, .arr paths, .obj baselineFiles, .obj expectedPostFiles => do
    let expectedKeys := paths.map pyStr
    requireLedger (sameSet (baselineFiles.map Prod.fst) expectedKeys &&
      sameSet (expectedPostFiles.map Prod.fst) expectedKeys)
      ("Operation file evidence does not match scope: " ++ expectedId)
    (baselineFiles ++ expectedPostFiles).forM fun entry => validateFileEvidence expectedId entry.2
    requireLedger (!expectedKeys.any isUnsafeScopePath)
      ("Operation scope contains unsafe path: " ++ expectedId)
  | _, _, _, _ =>
    .error (.ledger ("Operation phase/scope shape is invalid: " ++ expectedId))

/-- `_validate`. -/
def validateRecord (runtime : LedgerRuntime) (payload : Json) (expectedId : String) :
    Except OperationError OperationRecord :=
  match payload with
  | .obj record => do
    requireLedger (missingFields record).isEmpty
      ("Operation record " ++ expectedId ++ " misses fields: " ++
        ",".intercalate ((missingFields record).insertionSort fun a b => a ≤ b))
    requireLedger (isText (field record "operation_id") expectedId &&
      isVersionOne (field record "version"))
      ("Operation identity/version mismatch: " ++ expectedId)
    requireLedger (isText (field record "action") "task_commit" ||
      isText (field record "action") "rollback")
      ("Unsupported operation action: " ++ pyStr (field record "action"))
    requireLedger (runtime.resolve (pyStr (field record "repository")) = runtime.repository)
      ("Operation repository mismatch: " ++ expectedId)
    requireLedger (isDigestText (field record "patch_sha256"))
      ("Operation patch digest is invalid: " ++ expectedId)
    requireLedger (pyStr (field record "record_sha256") = recordDigest runtime record)
      ("Operation record digest mismatch: " ++ expectedId)
    validateScope expectedId (field record "phases") (field record "expected_changed_files")
      (field record "baseline_files") (field record "expected_post_files")
    return record
  | _ => .error (.ledger ("Operation record must be an object: " ++ expectedId))

/-! ## The record files -/

/-- The record files by operation id. -/
structure Ledger where
  files : List (String × OperationRecord) := []

/-- A record file is replaced as a whole. -/
instance : World Ledger (String × OperationRecord) :=
  ⟨fun ledger file => { ledger with files := dictInsert ledger.files file }⟩

/-- A ledger operation. -/
abbrev LedgerM (α : Type) : Type := Program Ledger (String × OperationRecord) OperationError α

/-- `load`. -/
def loadRecord (runtime : LedgerRuntime) (operationId : String) : LedgerM OperationRecord :=
  fun ledger =>
    ⟨[], if isOperationId operationId then
        validateRecord runtime (((dictGet? ledger.files operationId).map Json.obj).getD .null)
          operationId
      else .error (.ledger "Operation id contains unsupported characters.")⟩

/-- `_write`: the record as it is written. -/
def writeRecord (runtime : LedgerRuntime) (record : OperationRecord) : LedgerM OperationRecord := do
  Program.write (pyStr (field record "operation_id"), sealRecord runtime record)
  return sealRecord runtime record

/-- `_create`. -/
def createRecord (runtime : LedgerRuntime) (record : OperationRecord) : LedgerM OperationRecord := do
  let operationId := pyStr (field record "operation_id")
  let present ← Program.read fun ledger : Ledger => (dictGet? ledger.files operationId).isSome
  if present then
    let existing ← loadRecord runtime operationId
    if sameJson (.obj (recordContent existing)) (.obj record) then return existing
    else raise (.ledger ("Operation id already exists: " ++ operationId))
  else writeRecord runtime record

/-! ## The beginning of an operation -/

/-- The record of `begin_task`. -/
def taskRecord (runtime : LedgerRuntime) (context : OperationContext) (taskId : String)
    (patch : Text) (expectedChangedFiles : List String) (baselineHead : String)
    (evidence : FileEvidence × FileEvidence) (createdAt intentAt : String) : OperationRecord :=
  [("version", .int 1), ("operation_id", .str context.operationId), ("action", .str "task_commit"),
    ("repository", .str runtime.repository), ("state_root", .str context.stateRoot),
    ("task_id", .str taskId), ("run_id", .str context.runId),
    ("started_at_utc", .str context.startedAtUtc),
    ("review_required", .bool context.reviewRequired), ("baseline_head", .str baselineHead),
    ("patch_sha256", .str (runtime.sha256 patch)),
    ("expected_changed_files", .arr (expectedChangedFiles.map Json.str)),
    ("baseline_files", .obj evidence.1), ("expected_post_files", .obj evidence.2),
    ("created_at_utc", .str createdAt), ("phases", .obj [("intent_written", .str intentAt)]),
    ("result", .null), ("commit", .null), ("terminal_outcome", .null), ("terminal_detail", .null)]

/-- The record of `begin_rollback`. -/
def rollbackIntent (runtime : LedgerRuntime) (operationId : OperationId)
    (stateRoot taskId runId targetCommit : String) (patch : Text)
    (expectedChangedFiles : List String) (reason baselineHead : String)
    (evidence : FileEvidence × FileEvidence) (createdAt intentAt : String) : OperationRecord :=
  [("version", .int 1), ("operation_id", .str operationId), ("action", .str "rollback"),
    ("repository", .str runtime.repository), ("state_root", .str stateRoot),
    ("task_id", .str taskId), ("run_id", .str runId), ("target_commit", .str targetCommit),
    ("reason", .str (runtime.redact reason)), ("baseline_head", .str baselineHead),
    ("patch_sha256", .str (runtime.sha256 patch)),
    ("expected_changed_files", .arr (expectedChangedFiles.map Json.str)),
    ("baseline_files", .obj evidence.1), ("expected_post_files", .obj evidence.2),
    ("created_at_utc", .str createdAt), ("phases", .obj [("intent_written", .str intentAt)]),
    ("rollback_record", .null), ("commit", .null), ("terminal_outcome", .null),
    ("terminal_detail", .null)]

/-- What a beginning reads: `current_head`, the worktree and the clock. -/
structure BeginView where
  head : Except OperationError String
  tree : FileTree
  createdAt : String
  intentAt : String

/-- `begin_task`. -/
def beginTask (runtime : LedgerRuntime) (view : BeginView) (context : OperationContext)
    (taskId : String) (patch : Text) (expectedChangedFiles : List String) :
    LedgerM OperationRecord := do
  let baselineHead ← lift view.head
  let evidence ← lift (patchFileEvidence runtime view.tree patch expectedChangedFiles)
  createRecord runtime (taskRecord runtime context taskId patch expectedChangedFiles baselineHead
    evidence view.createdAt view.intentAt)

/-- `begin_rollback`. -/
def beginRollbackRecord (runtime : LedgerRuntime) (view : BeginView) (operationId : OperationId)
    (stateRoot taskId runId targetCommit : String) (patch : Text)
    (expectedChangedFiles : List String) (reason : String) : LedgerM OperationRecord := do
  let baselineHead ← lift view.head
  let evidence ← lift (patchFileEvidence runtime view.tree patch expectedChangedFiles)
  createRecord runtime (rollbackIntent runtime operationId stateRoot taskId runId targetCommit
    patch expectedChangedFiles reason baselineHead evidence view.createdAt view.intentAt)

/-! ## Its progress and its end -/

/-- `phases.setdefault(name, now)`. -/
def setPhase (phases : List (String × Json)) (name now : String) : List (String × Json) :=
  if (dictGet? phases name).isSome then phases else dictInsert phases (name, .str now)

/-- `phase`, with the keyword arguments that are written into the record. -/
def recordPhase (runtime : LedgerRuntime) (operationId name now : String)
    (changes : List (String × Json)) : LedgerM OperationRecord := do
  let record ← loadRecord runtime operationId
  if !isNull (field record "terminal_outcome") then
    raise (.ledger ("Operation is already terminal: " ++ operationId))
  else
    match field record "phases" with
    | .obj phases =>
      writeRecord runtime
        (changes.foldl dictInsert (dictInsert record ("phases", .obj (setPhase phases name now))))
    | _ => raise .shape

/-- `TERMINAL_OUTCOMES`. -/
def terminalOutcomes : List String := ["complete", "cancelled", "reverted", "failed"]

/-- The record with its outcome. -/
def endedRecord (runtime : LedgerRuntime) (record : OperationRecord) (outcome : String)
    (detail : Option String) (now : String) : OperationRecord :=
  [("terminal_outcome", .str outcome),
    ("terminal_detail", ((detail.map runtime.redact).map Json.str).getD .null),
    ("finished_at_utc", .str now)].foldl dictInsert record

/-- `terminal`. -/
def recordTerminal (runtime : LedgerRuntime) (operationId outcome : String)
    (detail : Option String) (now : String) : LedgerM OperationRecord :=
  if !terminalOutcomes.contains outcome then
    raise (.ledger ("Unsupported terminal outcome: " ++ outcome))
  else do
    let record ← loadRecord runtime operationId
    match field record "terminal_outcome" with
    | .null => writeRecord runtime (endedRecord runtime record outcome detail now)
    | existing =>
      if isText existing outcome then return record
      else raise (.ledger ("Operation already ended as " ++ pyStr existing ++ ": " ++ operationId))

/-! ## Reconciliation -/

/-- `ReconciliationItem`. -/
structure ReconciliationItem where
  operationId : String
  action : String
  classification : String
  safeAction : Option String
  detail : String
  terminal : Bool := false
deriving DecidableEq, Repr

/-- What `records` returns of one file. -/
inductive LedgerEntry where
  | valid (record : OperationRecord)
  | corrupted (operationId message : String)

/-- The text of an error. -/
def OperationError.message : OperationError → String
  | .ledger message | .blocked message | .git message | .state message => message
  | .shape => ""

/-- One file of `records`. -/
def ledgerEntry (runtime : LedgerRuntime) (file : String × OperationRecord) : LedgerEntry :=
  match validateRecord runtime (.obj file.2) file.1 with
  | .ok record => .valid record
  | .error e => .corrupted file.1 e.message

/-- `records`. -/
def ledgerRecords (runtime : LedgerRuntime) (ledger : Ledger) : List LedgerEntry :=
  (ledger.files.insertionSort fun a b => a.1 ++ ".json" ≤ b.1 ++ ".json").map (ledgerEntry runtime)

/-- What a reconciliation reads and does outside the ledger.  The errors of the first
    four are the ones `_classify` catches. -/
structure ReconcileView where
  /-- `_state_complete`. -/
  stateComplete : OperationRecord → Except OperationError Bool
  /-- `find_commit_by_trailer(repository, "HoH-Operation", operation_id)`. -/
  findCommit : String → Except OperationError (Option String)
  head : Except OperationError String
  clean : Except OperationError Bool
  resolveCommit : String → Except OperationError String
  commitParents : String → Except OperationError (List String)
  commitChangedFiles : String → Except OperationError (List String)
  /-- `_working_changed_files`. -/
  workingChangedFiles : Except OperationError (List String)
  tree : FileTree
  /-- The part of `_complete_state` that writes into the store. -/
  completeStore : OperationRecord → Except OperationError Unit
  now : String

namespace ReconcileView

/-- The evidence `_classify` reads first. -/
def evidence (view : ReconcileView) (record : OperationRecord) :
    Except OperationError (Bool × Option String × String × Bool) := do
  let stateComplete ← view.stateComplete record
  let commit ←
    if isTruthy (field record "commit") then pure (some (pyStr (field record "commit")))
    else view.findCommit (pyStr (field record "operation_id"))
  let head ← view.head
  let clean ← view.clean
  return (stateComplete, commit, head, clean)

/-- The evidence of a commit. -/
def commitEvidence (view : ReconcileView) (commit : String) :
    Except OperationError (String × List String × List String) := do
  let full ← view.resolveCommit commit
  let parents ← view.commitParents full
  let changed ← view.commitChangedFiles full
  return (full, parents, changed)

/-- `_working_tree_matches_patch`. -/
def matchesPatch (runtime : LedgerRuntime) (view : ReconcileView) (record : OperationRecord) : Bool :=
  match field record "expected_post_files" with
  | .obj expectedPostFiles =>
    (listTexts (field record "expected_changed_files")).all fun relative =>
      sameJson (pathEvidence runtime (view.tree relative)) (field expectedPostFiles relative)
  | _ => false

end ReconcileView

/-- The payload `_classify` asks for. -/
def statePayload (record : OperationRecord) : Json :=
  if isText (field record "action") "task_commit" then field record "result"
  else field record "rollback_record"

/-- The record with the full hash of its commit. -/
def commitRecord (record : OperationRecord) (full : String) : OperationRecord :=
  let record' := dictInsert record ("commit", .str full)
  match isText (field record "action") "rollback", field record "rollback_record" with
  | true, .obj rollback =>
    dictInsert record' ("rollback_record", .obj (dictInsert rollback ("rollback_commit", .str full)))
  | _, _ => record'

/-- The end of `_classify`, when no commit carries the operation. -/
def classifyWorktree (runtime : LedgerRuntime) (view : ReconcileView) (record : OperationRecord)
    (item : String → Option String → String → ReconciliationItem) (head : String) (clean : Bool) :
    Except OperationError ReconciliationItem :=
  let refused := item "contradictory" none
    "Git HEAD/worktree does not match any safe reconciliation state."
  if isText (field record "baseline_head") head then
    if clean then
      .ok (item "not_started" (some "cancel_intent")
        "HEAD and worktree still match the recorded baseline.")
    else if (match field record "phases" with
        | .obj phases => (dictGet? phases "patch_applied").isSome
        | _ => false) then do
      let actual ← view.workingChangedFiles
      if sameSet actual (listTexts (field record "expected_changed_files")) &&
          view.matchesPatch runtime record then
        return item "patch_applied" (some "restore_patch")
          "HEAD, dirty paths, and exact patch digest match recorded evidence."
      else return refused
    else .ok refused
  else .ok refused

/-- What `_classify` says of a record, and the record it writes back, if it does. -/
def classification (runtime : LedgerRuntime) (view : ReconcileView) :
    LedgerEntry → Except OperationError (ReconciliationItem × Option OperationRecord)
  | .corrupted operationId message =>
    .ok (⟨operationId, "unknown", "corrupted", none, message, false⟩, none)
  | .valid record =>
    let item : String → Option String → String → ReconciliationItem :=
      fun classification safeAction detail =>
        ⟨pyStr (field record "operation_id"), pyStr (field record "action"), classification,
          safeAction, detail, false⟩
    if !isNull (field record "terminal_outcome") then
      .ok ({ item (pyStr (field record "terminal_outcome")) none
        (if isTruthy (field record "terminal_detail") then pyStr (field record "terminal_detail")
          else "") with terminal := true }, none)
    else
      match view.evidence record with
      | .error e => .ok (item "contradictory" none e.message, none)
      | .ok (true, _, _, _) =>
        .ok (item "state_complete" (some "finish_ledger")
          "Expected StateStore evidence already exists.", none)
      | .ok (false, some commit, _, clean) =>
        match view.commitEvidence commit with
        | .error e => .ok (item "contradictory" none e.message, none)
        | .ok (full, parents, changed) =>
          if (match parents with
              | [parent] => isText (field record "baseline_head") parent
              | _ => false) &&
              sameSet changed (listTexts (field record "expected_changed_files")) &&
              !isNull (statePayload record) && clean then
            .ok (item "commit_exists_state_missing" (some "complete_state")
              "Exact trailer, parent, scope, clean worktree, and durable state payload match.",
              if isText (field record "commit") full then none else some (commitRecord record full))
          else
            .ok (item "contradictory" none
              "Commit evidence does not match baseline, scope, payload, or clean-worktree guards.",
              none)
      | .ok (false, none, head, clean) => do
        return (← classifyWorktree runtime view record item head clean, none)

/-- `_classify`, with the record as it leaves it. -/
def classify (runtime : LedgerRuntime) (view : ReconcileView) (entry : LedgerEntry) :
    LedgerM (ReconciliationItem × LedgerEntry) := do
  match ← lift (classification runtime view entry) with
  | (item, none) => return (item, entry)
  | (item, some record) =>
    let written ← writeRecord runtime record
    return (item, .valid written)

/-- `_complete_state`. -/
def completeState (runtime : LedgerRuntime) (view : ReconcileView) (record : OperationRecord) :
    LedgerM Unit := do
  lift (view.completeStore record)
  let operationId := pyStr (field record "operation_id")
  let _ ← recordPhase runtime operationId "state_recorded" view.now []
  let _ ← recordTerminal runtime operationId "complete"
    (some "StateStore completed from durable evidence.") view.now

/-- One record of `reconcile`; the views of its two classifications. -/
def reconcileEntry (runtime : LedgerRuntime) (autoCompleteState : Bool) (before after : ReconcileView)
    (entry : LedgerEntry) : LedgerM ReconciliationItem := do
  let (item, entry) ← classify runtime before entry
  if autoCompleteState && item.safeAction = some "complete_state" then
    match entry with
    | .valid record => completeState runtime before record
    | .corrupted _ _ => raise .shape
    let record ← loadRecord runtime item.operationId
    let (item, _) ← classify runtime after (.valid record)
    return item
  else if autoCompleteState && item.safeAction = some "finish_ledger" then
    let _ ← recordTerminal runtime item.operationId "complete"
      (some "State evidence already complete.") before.now
    let record ← loadRecord runtime item.operationId
    let (item, _) ← classify runtime after (.valid record)
    return item
  else return item

/-- The loop of `reconcile`. -/
def reconcileLoop (runtime : LedgerRuntime) (autoCompleteState : Bool)
    (views : Nat → ReconcileView × ReconcileView) :
    Nat → List LedgerEntry → LedgerM (List ReconciliationItem)
  | _, [] => pure []
  | index, entry :: entries => do
    let item ← reconcileEntry runtime autoCompleteState (views index).1 (views index).2 entry
    let items ← reconcileLoop runtime autoCompleteState views (index + 1) entries
    return item :: items

/-- `reconcile`: the items of the report. -/
def reconcile (runtime : LedgerRuntime) (autoCompleteState : Bool)
    (views : Nat → ReconcileView × ReconcileView) : LedgerM (List ReconciliationItem) := do
  let entries ← Program.read (ledgerRecords runtime)
  reconcileLoop runtime autoCompleteState views 0 entries

end LlmHarness
