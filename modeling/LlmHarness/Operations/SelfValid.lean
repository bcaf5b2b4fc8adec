/-
  LlmHarness.Operations.SelfValid

  What the ledger writes, the ledger reads.  A record is accepted when its body
  is valid and its digest is the one of its content; every write of the ledger
  seals a body that is valid, except the first record of an operation whose
  patch leaves a directory at a scanned path, or whose scope names a path
  outside the repository.
-/

import LlmHarness.Lib.Guards
import LlmHarness.Operations.Ledger

namespace LlmHarness

open Python Durable Durable.Program Guards

/-! ## Fields -/

theorem field_dictInsert (record : OperationRecord) (key name : String) (value : Json) :
    field (dictInsert record (key, value)) name = if name = key then value else field record name := by
  rw [field, dictGet?_dictInsert]
  by_cases hname : name = key
  · rw [if_pos hname, if_pos hname]
    rfl
  · rw [if_neg hname, if_neg hname]
    rfl

theorem isSome_dictInsert {record : OperationRecord} {name : String} (member : String × Json)
    (h : (dictGet? record name).isSome) : (dictGet? (dictInsert record member) name).isSome := by
  rw [dictGet?_dictInsert]
  by_cases hname : name = member.1
  · rw [if_pos hname]
    rfl
  · rwa [if_neg hname]

theorem pyStr_of_isText {value : Json} {text : String} (h : isText value text) :
    pyStr value = text := by
  cases value with
  | str s => exact of_decide_eq_true h
  | null => cases h
  | bool _ => cases h
  | int _ => cases h
  | float _ => cases h
  | arr _ => cases h
  | obj _ => cases h

/-- What equals a text is not `None`. -/
theorem isNull_of_isText {value : Json} {text : String} (h : isText value text) :
    isNull value = false := by
  cases value with
  | null => cases h
  | str _ => rfl
  | bool _ => rfl
  | int _ => rfl
  | float _ => rfl
  | arr _ => rfl
  | obj _ => rfl

theorem requireLedger_eq_ok {ok : Bool} {message : String} :
    requireLedger ok message = .ok () ↔ ok = true := by
  rw [requireLedger]
  cases ok with
  | true => exact ⟨fun _ => rfl, fun _ => rfl⟩
  | false => exact ⟨(fun h => by cases h), (fun h => by cases h)⟩

/-! ## Valid bodies -/

/-- The fields whose values `_validate` looks at, apart from the phases. -/
def checkedFields : List String :=
  ["version", "operation_id", "action", "repository", "patch_sha256", "expected_changed_files",
    "baseline_files", "expected_post_files"]

/-- The record is accepted once it is sealed. -/
structure ValidBody (runtime : LedgerRuntime) (operationId : String) (record : OperationRecord) :
    Prop where
  required : ∀ name ∈ requiredFields, name ≠ "record_sha256" → (dictGet? record name).isSome
  identity : isText (field record "operation_id") operationId
  version : isVersionOne (field record "version")
  action : isText (field record "action") "task_commit" ∨ isText (field record "action") "rollback"
  repository : runtime.resolve (pyStr (field record "repository")) = runtime.repository
  patchDigest : isDigestText (field record "patch_sha256")
  scope : validateScope operationId (field record "phases") (field record "expected_changed_files")
    (field record "baseline_files") (field record "expected_post_files") = .ok ()

/-- What `_validate` accepts. -/
theorem validateRecord_eq_ok {runtime : LedgerRuntime} {record result : OperationRecord}
    {operationId : String} :
    validateRecord runtime (.obj record) operationId = .ok result ↔
      result = record ∧ ValidBody runtime operationId record ∧
        (dictGet? record "record_sha256").isSome ∧
        pyStr (field record "record_sha256") = recordDigest runtime record := by
  have hmissing : (missingFields record).isEmpty = true ↔
      ∀ name ∈ requiredFields, (dictGet? record name).isSome := by
    rw [List.isEmpty_iff, missingFields, List.filter_eq_nil_iff]
    simp [Option.isSome_iff_ne_none]
  -- the checks of the source in turn, each an equation on the record
  rw [validateRecord]
  simp only [unit_bind_eq_ok, requireLedger_eq_ok, pure_eq_ok, hmissing, Bool.and_eq_true,
    Bool.or_eq_true, decide_eq_true_eq]
  constructor
  · rintro ⟨hrequired, ⟨hid, hversion⟩, haction, hrepository, hpatch, hdigest, hscope, rfl⟩
    exact ⟨rfl, ⟨fun name hname _ => hrequired name hname, hid, hversion, haction, hrepository, hpatch,
      hscope⟩, hrequired _ (by decide), hdigest⟩
  · rintro ⟨rfl, hbody, hsome, hdigest⟩
    refine ⟨fun name hname => ?_, ⟨hbody.identity, hbody.version⟩, hbody.action, hbody.repository,
      hbody.patchDigest, hdigest, hbody.scope, rfl⟩
    -- the digest is no field of the body; its own check gives it
    by_cases hseal : name = "record_sha256"
    · rw [hseal]
      exact hsome
    · exact hbody.required name hname hseal

/-- The phases matter by their shape alone. -/
theorem validateScope_phases (operationId : String) (phases phases' : List (String × Json))
    (scope baseline post : Json) :
    validateScope operationId (.obj phases) scope baseline post =
      validateScope operationId (.obj phases') scope baseline post := by
  cases scope with
  | arr paths => cases baseline <;> cases post <;> rfl
  | _ => rfl

/-- Writing a field that is not checked keeps the body valid. -/
theorem ValidBody.insert {runtime : LedgerRuntime} {operationId : String} {record : OperationRecord}
    (h : ValidBody runtime operationId record) {key : String} {value : Json}
    (hkey : key ∉ checkedFields) (hphases : key = "phases" → ∃ phases, value = .obj phases) :
    ValidBody runtime operationId (dictInsert record (key, value)) := by
  -- a field that validation does not read keeps what validation reads
  have hfield : ∀ name ∈ checkedFields, field (dictInsert record (key, value)) name =
      field record name := by
    intro name hname
    have hne : name ≠ key := fun heq => hkey (heq ▸ hname)
    rw [field_dictInsert, if_neg hne]
  refine ⟨fun name hname hseal => isSome_dictInsert _ (h.required name hname hseal), ?_, ?_, ?_, ?_,
    ?_, ?_⟩
  · rw [hfield _ (by decide)]
    exact h.identity
  · rw [hfield _ (by decide)]
    exact h.version
  · rw [hfield _ (by decide)]
    exact h.action
  · rw [hfield _ (by decide)]
    exact h.repository
  · rw [hfield _ (by decide)]
    exact h.patchDigest
  · have hscope := h.scope
    rw [hfield "expected_changed_files" (by decide), hfield "baseline_files" (by decide),
      hfield "expected_post_files" (by decide), field_dictInsert]
    -- the phases may be new, but are an object as before
    by_cases hname : "phases" = key
    · rw [if_pos hname]
      obtain ⟨phases, rfl⟩ := hphases hname.symm
      cases hold : field record "phases" with
      | obj old => rwa [hold, validateScope_phases operationId old phases] at hscope
      | null => rw [hold] at hscope; cases hscope
      | bool _ => rw [hold] at hscope; cases hscope
      | int _ => rw [hold] at hscope; cases hscope
      | float _ => rw [hold] at hscope; cases hscope
      | str _ => rw [hold] at hscope; cases hscope
      | arr _ => rw [hold] at hscope; cases hscope
    · rwa [if_neg hname]

theorem ValidBody.insertAll {runtime : LedgerRuntime} {operationId : String}
    {record : OperationRecord} (h : ValidBody runtime operationId record)
    {changes : List (String × Json)}
    (hchanges : ∀ change ∈ changes, change.1 ∉ checkedFields ∧
      (change.1 = "phases" → ∃ phases, change.2 = .obj phases)) :
    ValidBody runtime operationId (changes.foldl dictInsert record) := by
  induction changes generalizing record with
  | nil => exact h
  | cons change changes ih =>
      obtain ⟨⟨hkey, hphases⟩, hrest⟩ := List.forall_mem_cons.mp hchanges
      exact ih (h.insert hkey hphases) hrest

/-! ## Sealing -/

theorem recordContent_insert_digest (record : OperationRecord) (value : Json) :
    recordContent (dictInsert record ("record_sha256", value)) = recordContent record := by
  rw [dictInsert]
  by_cases hkey : (record.map Prod.fst).contains "record_sha256"
  · rw [if_pos hkey, recordContent, recordContent, List.filter_map]
    have hkept : ∀ member ∈ record.filter ((fun member => decide (member.1 ≠ "record_sha256")) ∘
        fun member => if member.1 = "record_sha256" then ("record_sha256", value) else member),
        (if member.1 = "record_sha256" then ("record_sha256", value) else member) = member := by
      intro member hmember
      have hne := (List.mem_filter.mp hmember).2
      by_cases hdigest : member.1 = "record_sha256"
      · simp [hdigest] at hne
      · rw [if_neg hdigest]
    rw [List.map_congr_left hkept, List.map_id']
    refine List.filter_congr fun member _ => ?_
    by_cases hdigest : member.1 = "record_sha256"
    · simp [hdigest]
    · simp [hdigest]
  · rw [if_neg hkey, recordContent, List.filter_append]
    simp [recordContent]

/-- **A sealed valid body is accepted.** -/
theorem validateRecord_sealRecord {runtime : LedgerRuntime} {operationId : String}
    {record : OperationRecord} (h : ValidBody runtime operationId record) :
    validateRecord runtime (.obj (sealRecord runtime record)) operationId =
      .ok (sealRecord runtime record) := by
  have hdigest : field (sealRecord runtime record) "record_sha256" =
      .str (recordDigest runtime record) := by
    rw [sealRecord, field_dictInsert, if_pos rfl]
  refine validateRecord_eq_ok.mpr ⟨rfl, h.insert (by decide) (fun hname => absurd hname (by decide)),
    ?_, ?_⟩
  · rw [sealRecord, dictGet?_dictInsert, if_pos rfl]
    rfl
  · rw [hdigest, recordDigest, recordDigest, sealRecord, recordContent_insert_digest]
    rfl

/-! ## The ledger -/

/-- The file is accepted under its name. -/
def ValidFile (runtime : LedgerRuntime) (file : String × OperationRecord) : Prop :=
  isOperationId file.1 ∧ validateRecord runtime (.obj file.2) file.1 = .ok file.2

/-- Every file of the ledger is accepted. -/
def SelfValid (runtime : LedgerRuntime) (ledger : Ledger) : Prop :=
  ∀ file ∈ ledger.files, ValidFile runtime file

theorem mem_dictInsert {files : List (String × OperationRecord)} {file other : String × OperationRecord}
    (h : other ∈ dictInsert files file) : other = file ∨ other ∈ files := by
  rw [dictInsert] at h
  by_cases hkey : (files.map Prod.fst).contains file.1
  · rw [if_pos hkey] at h
    obtain ⟨old, hold, rfl⟩ := List.mem_map.mp h
    by_cases hsame : old.1 = file.1
    · rw [if_pos hsame]
      exact Or.inl rfl
    · rw [if_neg hsame]
      exact Or.inr hold
  · rw [if_neg hkey] at h
    rcases List.mem_append.mp h with h | h
    · exact Or.inr h
    · exact Or.inl (List.mem_singleton.mp h)

theorem keeps_selfValid (runtime : LedgerRuntime) :
    Keeps (SelfValid runtime) (ValidFile runtime) := by
  intro ledger file hledger hfile other hother
  rcases mem_dictInsert hother with rfl | hother
  · exact hfile
  · exact hledger other hother

/-- Programs that write accepted files only. -/
abbrev WritesValid {α : Type} (runtime : LedgerRuntime) (m : LedgerM α) : Prop :=
  EmitsFrom (SelfValid runtime) (ValidFile runtime) m

/-! ## One operation -/

variable {runtime : LedgerRuntime}

/-- What `load` returns. -/
theorem loadRecord_eq_ok {operationId : String} {record : OperationRecord} {ledger : Ledger}
    (h : (loadRecord runtime operationId ledger).value = .ok record) :
    isOperationId operationId ∧ ValidBody runtime operationId record := by
  by_cases hid : isOperationId operationId
  · refine ⟨hid, ?_⟩
    have hvalue : validateRecord runtime
        (((dictGet? ledger.files operationId).map Json.obj).getD .null) operationId = .ok record := by
      have hloaded : (loadRecord runtime operationId ledger).value = _ := if_pos hid
      exact hloaded.symm.trans h
    cases hfile : dictGet? ledger.files operationId with
    | none =>
        rw [hfile] at hvalue
        cases hvalue
    | some file =>
        rw [hfile] at hvalue
        obtain ⟨rfl, hbody, -, -⟩ := validateRecord_eq_ok.mp hvalue
        exact hbody
  · have hrefused : (loadRecord runtime operationId ledger).value = _ := if_neg hid
    rw [hrefused] at h
    cases h

theorem silent_loadRecord (operationId : String) : Silent (loadRecord runtime operationId) :=
  fun _ => rfl

theorem writesValid_writeRecord {operationId : String} {record : OperationRecord}
    (hid : isOperationId operationId) (h : ValidBody runtime operationId record) :
    WritesValid runtime (writeRecord runtime record) := by
  have hname : pyStr (field record "operation_id") = operationId := pyStr_of_isText h.identity
  intro ledger _ file hfile
  obtain rfl : file = (pyStr (field record "operation_id"), sealRecord runtime record) := by
    simpa [writeRecord] using hfile
  rw [hname]
  exact ⟨hid, validateRecord_sealRecord h⟩

theorem writesValid_createRecord {operationId : String} {record : OperationRecord}
    (hid : isOperationId operationId) (h : ValidBody runtime operationId record) :
    WritesValid runtime (createRecord runtime record) := by
  have hkeeps := keeps_selfValid runtime
  rw [createRecord]
  refine EmitsFrom.bind hkeeps (q := fun _ => True) (Silent.emitsFrom (silent_read _))
    (fun _ _ _ _ => trivial) fun present _ => ?_
  cases present with
  | false => exact writesValid_writeRecord hid h
  | true =>
      refine EmitsFrom.bind hkeeps (q := fun _ => True) (silent_loadRecord _).emitsFrom
        (fun _ _ _ _ => trivial) fun existing _ => ?_
      by_cases hsame : sameJson (.obj (recordContent existing)) (.obj record)
      · rw [if_pos hsame]
        exact (silent_pure existing).emitsFrom
      · rw [if_neg hsame]
        exact (silent_raise _).emitsFrom

/-- The changes of a phase leave the checked fields alone. -/
def KeepsChecked (changes : List (String × Json)) : Prop :=
  ∀ change ∈ changes, change.1 ∉ checkedFields ∧
    (change.1 = "phases" → ∃ phases, change.2 = .obj phases)

theorem writesValid_recordPhase (operationId name now : String) {changes : List (String × Json)}
    (hchanges : KeepsChecked changes) :
    WritesValid runtime (recordPhase runtime operationId name now changes) := by
  rw [recordPhase]
  refine EmitsFrom.bind (keeps_selfValid runtime)
    (q := fun record => isOperationId operationId ∧ ValidBody runtime operationId record)
    (silent_loadRecord _).emitsFrom (fun _ _ _ h => loadRecord_eq_ok h) fun record hrecord => ?_
  obtain ⟨hid, hbody⟩ := hrecord
  -- an operation that has ended, or whose phases are no object, is not written
  by_cases hended : !isNull (field record "terminal_outcome")
  · rw [if_pos hended]
    exact (silent_raise _).emitsFrom
  · rw [if_neg hended]
    cases hphases : field record "phases" with
    | obj phases =>
        exact writesValid_writeRecord hid
          ((hbody.insert (by decide) fun _ => ⟨_, rfl⟩).insertAll hchanges)
    | null => exact (silent_raise _).emitsFrom
    | bool _ => exact (silent_raise _).emitsFrom
    | int _ => exact (silent_raise _).emitsFrom
    | float _ => exact (silent_raise _).emitsFrom
    | str _ => exact (silent_raise _).emitsFrom
    | arr _ => exact (silent_raise _).emitsFrom

theorem writesValid_recordTerminal (operationId outcome : String) (detail : Option String)
    (now : String) : WritesValid runtime (recordTerminal runtime operationId outcome detail now) := by
  rw [recordTerminal]
  by_cases hknown : !terminalOutcomes.contains outcome
  · rw [if_pos hknown]
    exact (silent_raise _).emitsFrom
  · rw [if_neg hknown]
    refine EmitsFrom.bind (keeps_selfValid runtime)
      (q := fun record => isOperationId operationId ∧ ValidBody runtime operationId record)
      (silent_loadRecord _).emitsFrom (fun _ _ _ h => loadRecord_eq_ok h) fun record hrecord => ?_
    obtain ⟨hid, hbody⟩ := hrecord
    have hended : ValidBody runtime operationId (endedRecord runtime record outcome detail now) := by
      have hkeys : ∀ key ∈ ["terminal_outcome", "terminal_detail", "finished_at_utc"],
          key ∉ checkedFields ∧ key ≠ "phases" := by decide
      -- the closing fields are none of those that validation reads
      refine hbody.insertAll fun change hchange => ?_
      have hkey : change.1 ∈ ["terminal_outcome", "terminal_detail", "finished_at_utc"] :=
        List.mem_map_of_mem (f := Prod.fst) hchange
      exact ⟨(hkeys _ hkey).1, fun h => absurd h (hkeys _ hkey).2⟩
    -- a record that ended before is returned or refused, and not written
    have hother : ∀ existing : Json, WritesValid runtime
        (if isText existing outcome then return record
          else raise (.ledger ("Operation already ended as " ++ pyStr existing ++ ": " ++
            operationId)) : LedgerM OperationRecord) := by
      intro existing
      by_cases hsame : isText existing outcome
      · rw [if_pos hsame]
        exact (silent_pure record).emitsFrom
      · rw [if_neg hsame]
        exact (silent_raise _).emitsFrom
    cases houtcome : field record "terminal_outcome" with
    | null => exact writesValid_writeRecord hid hended
    | bool _ => exact hother _
    | int _ => exact hother _
    | float _ => exact hother _
    | str _ => exact hother _
    | arr _ => exact hother _
    | obj _ => exact hother _

/-! ## The first record of an operation -/

theorem sameSet_iff {xs ys : List String} : sameSet xs ys ↔ ∀ x, x ∈ xs ↔ x ∈ ys := by
  rw [sameSet, Bool.and_eq_true, List.all_eq_true, List.all_eq_true]
  simp only [List.contains_iff_mem]
  exact ⟨fun h x => ⟨h.1 x, h.2 x⟩, fun h => ⟨fun x => (h x).mp, fun x => (h x).mpr⟩⟩

/-- The patch leaves no directory at a scanned path, and the paths stay in the repository. -/
structure LeavesFiles (runtime : LedgerRuntime) (tree : FileTree) (patch : Text)
    (paths : List String) : Prop where
  safe : ∀ path ∈ paths, isUnsafeScopePath path = false
  files : ∀ left, runtime.gitApply patch (candidateTree tree paths) = .ok left →
    ∀ path ∈ paths, left path ≠ .other

/-- The evidence of a patch is accepted exactly when the patch leaves files. -/
theorem validateScope_evidence {tree : FileTree} {patch : Text} {paths : List String}
    {evidence : FileEvidence × FileEvidence} (operationId : String) (phases : List (String × Json))
    (h : patchFileEvidence runtime tree patch paths = .ok evidence) :
    validateScope operationId (.obj phases) (.arr (paths.map Json.str)) (.obj evidence.1)
        (.obj evidence.2) = .ok () ↔ LeavesFiles runtime tree patch paths := by
  obtain ⟨baseline, post⟩ := evidence
  obtain ⟨hbefore, rfl, left, hleft, rfl⟩ := patchFileEvidence_eq_ok h
  -- the scope names the paths, and both pieces of evidence have them as keys
  have hkeys : (paths.map Json.str).map pyStr = paths := by
    rw [List.map_map]
    exact List.map_id' paths
  have hset : ∀ states : FileTree, sameSet
      ((dictOfPairs (paths.map fun path => (path, pathEvidence runtime (states path)))).map Prod.fst)
      paths = true := fun states => sameSet_iff.mpr fun path => mem_keys_evidence
  -- an entry is valid exactly when the tree holds a file or nothing there
  have hvalues : ∀ states : FileTree,
      (∀ entry ∈ dictOfPairs (paths.map fun path => (path, pathEvidence runtime (states path))),
        validateFileEvidence operationId entry.2 = .ok ()) ↔ ∀ path ∈ paths, states path ≠ .other := by
    intro states
    constructor
    · intro hall path hpath
      have hkey : path ∈ (dictOfPairs
          (paths.map fun path => (path, pathEvidence runtime (states path)))).map Prod.fst :=
        mem_keys_evidence.mpr hpath
      obtain ⟨entry, hentry, rfl⟩ := List.mem_map.mp hkey
      have hvalid := hall entry hentry
      rw [(mem_evidence hentry).2] at hvalid
      exact (validateFileEvidence_pathEvidence runtime operationId _).mp hvalid
    · intro hall entry hentry
      obtain ⟨hpath, hvalue⟩ := mem_evidence hentry
      rw [hvalue]
      exact (validateFileEvidence_pathEvidence runtime operationId _).mpr (hall _ hpath)
  have hsafe : (!paths.any isUnsafeScopePath) = true ↔
      ∀ path ∈ paths, isUnsafeScopePath path = false := by
    simp
  rw [validateScope]
  simp only [hkeys, hset, Bool.and_self, unit_bind_eq_ok, requireLedger_eq_ok, forM_eq_ok,
    List.forall_mem_append, hvalues, hsafe, true_and]
  constructor
  · rintro ⟨⟨-, hfiles⟩, hpaths⟩
    refine ⟨hpaths, fun left' hleft' => ?_⟩
    obtain rfl : left = left' := Except.ok.inj (hleft.symm.trans hleft')
    exact hfiles
  · intro hleaves
    exact ⟨⟨hbefore, hleaves.files left hleft⟩, hleaves.safe⟩

theorem isSome_iff_mem_keys {record : OperationRecord} {name : String} :
    (dictGet? record name).isSome ↔ name ∈ record.map Prod.fst := by
  rw [← not_iff_not, ← dictGet?_eq_none_iff]
  simp

/-- The first record of a task is accepted exactly when its patch leaves files. -/
theorem validBody_taskRecord {context : OperationContext} {taskId baselineHead createdAt intentAt :
    String} {tree : FileTree} {patch : Text} {paths : List String}
    {evidence : FileEvidence × FileEvidence}
    (h : patchFileEvidence runtime tree patch paths = .ok evidence) :
    ValidBody runtime context.operationId
        (taskRecord runtime context taskId patch paths baselineHead evidence createdAt intentAt) ↔
      LeavesFiles runtime tree patch paths := by
  have hscope := validateScope_evidence context.operationId [("intent_written", .str intentAt)] h
  constructor
  · exact fun hbody => hscope.mp hbody.scope
  · intro hleaves
    refine ⟨fun name hname hseal => isSome_iff_mem_keys.mpr ?_, decide_eq_true rfl, rfl, Or.inl rfl,
      runtime.resolve_repository, runtime.sha256_hex patch, hscope.mpr hleaves⟩
    have hfields : ∀ name ∈ requiredFields, name ≠ "record_sha256" →
        name ∈ ["version", "operation_id", "action", "repository", "state_root", "task_id", "run_id",
          "started_at_utc", "review_required", "baseline_head", "patch_sha256",
          "expected_changed_files", "baseline_files", "expected_post_files", "created_at_utc",
          "phases", "result", "commit", "terminal_outcome", "terminal_detail"] := by decide
    exact hfields name hname hseal

/-- The first record of a rollback likewise. -/
theorem validBody_rollbackIntent {operationId : OperationId}
    {stateRoot taskId runId targetCommit reason baselineHead createdAt intentAt : String}
    {tree : FileTree} {patch : Text} {paths : List String} {evidence : FileEvidence × FileEvidence}
    (h : patchFileEvidence runtime tree patch paths = .ok evidence) :
    ValidBody runtime operationId (rollbackIntent runtime operationId stateRoot taskId runId
        targetCommit patch paths reason baselineHead evidence createdAt intentAt) ↔
      LeavesFiles runtime tree patch paths := by
  have hscope := validateScope_evidence operationId.val [("intent_written", .str intentAt)] h
  constructor
  · exact fun hbody => hscope.mp hbody.scope
  · intro hleaves
    refine ⟨fun name hname hseal => isSome_iff_mem_keys.mpr ?_, decide_eq_true rfl, rfl, Or.inr rfl,
      runtime.resolve_repository, runtime.sha256_hex patch, hscope.mpr hleaves⟩
    have hfields : ∀ name ∈ requiredFields, name ≠ "record_sha256" →
        name ∈ ["version", "operation_id", "action", "repository", "state_root", "task_id", "run_id",
          "target_commit", "reason", "baseline_head", "patch_sha256", "expected_changed_files",
          "baseline_files", "expected_post_files", "created_at_utc", "phases", "rollback_record",
          "commit", "terminal_outcome", "terminal_detail"] := by decide
    exact hfields name hname hseal

/-- A beginning whose patch leaves files writes accepted files. -/
theorem writesValid_begin {view : BeginView} (operationId : OperationId) {patch : Text}
    {paths : List String} (hleaves : LeavesFiles runtime view.tree patch paths)
    {record : String → FileEvidence × FileEvidence → OperationRecord}
    (hrecord : ∀ head evidence, patchFileEvidence runtime view.tree patch paths = .ok evidence →
      LeavesFiles runtime view.tree patch paths →
        ValidBody runtime operationId (record head evidence)) :
    WritesValid runtime (do
      let baselineHead ← lift view.head
      let evidence ← lift (patchFileEvidence runtime view.tree patch paths)
      createRecord runtime (record baselineHead evidence) : LedgerM OperationRecord) := by
  have hkeeps := keeps_selfValid runtime
  refine EmitsFrom.bind hkeeps (q := fun _ => True) (silent_lift _).emitsFrom
    (fun _ _ _ _ => trivial) fun head _ => ?_
  refine EmitsFrom.bind hkeeps
    (q := fun evidence => patchFileEvidence runtime view.tree patch paths = .ok evidence)
    (silent_lift _).emitsFrom (fun _ _ _ h => h) fun evidence hevidence => ?_
  exact writesValid_createRecord operationId.property (hrecord head evidence hevidence hleaves)

/-! ## Reconciliation -/

/-- An entry of `records` that can be written back. -/
def Rewritable (runtime : LedgerRuntime) : LedgerEntry → Prop
  | .valid record => ∃ operationId, isOperationId operationId ∧ ValidBody runtime operationId record
  | .corrupted _ _ => True

theorem rewritable_ledgerEntry {file : String × OperationRecord} (hfile : ValidFile runtime file) :
    Rewritable runtime (ledgerEntry runtime file) := by
  obtain ⟨hid, hvalid⟩ := hfile
  rw [ledgerEntry, hvalid]
  exact ⟨file.1, hid, (validateRecord_eq_ok.mp hvalid).2.1⟩

/-- The commit is no checked field. -/
theorem validBody_commitRecord {operationId : String} {record : OperationRecord}
    (h : ValidBody runtime operationId record) (full : String) :
    ValidBody runtime operationId (commitRecord record full) := by
  have hcommit : ValidBody runtime operationId (dictInsert record ("commit", .str full)) :=
    h.insert (by decide) fun hname => absurd hname (by decide)
  rw [commitRecord]
  split
  · exact hcommit.insert (by decide) fun hname => absurd hname (by decide)
  · exact hcommit

theorem ok_of_ite {ε α : Type} {condition : Prop} [Decidable condition] {a b result : α}
    (h : (if condition then Except.ok a else .ok b : Except ε α) = .ok result) :
    a = result ∨ b = result := by
  by_cases hcondition : condition
  · rw [if_pos hcondition] at h
    exact Or.inl (Except.ok.inj h)
  · rw [if_neg hcondition] at h
    exact Or.inr (Except.ok.inj h)

/-- What a classification writes back can be written back again. -/
theorem classification_rewritten {view : ReconcileView} {entry : LedgerEntry}
    {item : ReconciliationItem} {record : OperationRecord} (hentry : Rewritable runtime entry)
    (h : classification runtime view entry = .ok (item, some record)) :
    Rewritable runtime (.valid record) := by
  cases entry with
  | corrupted operationId message => cases h
  | valid old =>
      obtain ⟨operationId, hid, hbody⟩ := hentry
      -- only a commit that is found is written into the record
      suffices hrecord : ∃ full, record = commitRecord old full by
        obtain ⟨full, rfl⟩ := hrecord
        exact ⟨operationId, hid, validBody_commitRecord hbody full⟩
      rw [classification] at h
      by_cases hended : (!isNull (field old "terminal_outcome")) = true
      · rw [if_pos hended] at h
        obtain ⟨⟩ := Prod.mk.inj (Except.ok.inj h) |>.2
      · rw [if_neg hended] at h
        cases hevidence : view.evidence old with
        | error e =>
            simp only [hevidence] at h
            obtain ⟨⟩ := (Prod.mk.inj (Except.ok.inj h)).2
        | ok evidence =>
            obtain ⟨stateComplete, commit, head, clean⟩ := evidence
            simp only [hevidence] at h
            cases stateComplete with
            | true => obtain ⟨⟩ := (Prod.mk.inj (Except.ok.inj h)).2
            | false =>
                cases commit with
                | none =>
                    obtain ⟨_, -, hreturn⟩ := bind_eq_ok.mp h
                    obtain ⟨⟩ := (Prod.mk.inj (Except.ok.inj hreturn)).2
                | some commit =>
                    cases hcommit : view.commitEvidence commit with
                    | error e =>
                        simp only [hcommit] at h
                        obtain ⟨⟩ := (Prod.mk.inj (Except.ok.inj h)).2
                    | ok carried =>
                        -- a commit carries the operation: accepted or refused
                        obtain ⟨full, parents, changed⟩ := carried
                        simp only [hcommit] at h
                        obtain hresult | hresult := ok_of_ite h
                        · have hwritten := (Prod.mk.inj hresult).2
                          by_cases hfull : isText (field old "commit") full = true
                          · rw [if_pos hfull] at hwritten
                            cases hwritten
                          · rw [if_neg hfull] at hwritten
                            exact ⟨full, (Option.some.inj hwritten).symm⟩
                        · obtain ⟨⟩ := (Prod.mk.inj hresult).2

theorem writesValid_classify {view : ReconcileView} {entry : LedgerEntry}
    (hentry : Rewritable runtime entry) : WritesValid runtime (classify runtime view entry) := by
  rw [classify]
  refine EmitsFrom.bind (keeps_selfValid runtime)
    (q := fun result => classification runtime view entry = .ok result)
    (silent_lift _).emitsFrom (fun _ _ _ h => h) fun result hresult => ?_
  obtain ⟨item, rewritten⟩ := result
  cases rewritten with
  | none => exact (silent_pure _).emitsFrom
  | some record =>
      obtain ⟨operationId, hid, hbody⟩ := classification_rewritten hentry hresult
      exact EmitsFrom.bind (keeps_selfValid runtime) (q := fun _ => True)
        (writesValid_writeRecord hid hbody) (fun _ _ _ _ => trivial)
        fun _ _ => (silent_pure _).emitsFrom

theorem writesValid_completeState (view : ReconcileView) (record : OperationRecord) :
    WritesValid runtime (completeState runtime view record) := by
  have hkeeps := keeps_selfValid runtime
  rw [completeState]
  refine EmitsFrom.bind hkeeps (q := fun _ => True) (silent_lift _).emitsFrom
    (fun _ _ _ _ => trivial) fun _ _ => ?_
  refine EmitsFrom.bind hkeeps (q := fun _ => True)
    (writesValid_recordPhase _ _ _ fun _ hmem => (nomatch hmem)) (fun _ _ _ _ => trivial)
    fun _ _ => ?_
  exact EmitsFrom.bind hkeeps (q := fun _ => True) (writesValid_recordTerminal _ _ _ _)
    (fun _ _ _ _ => trivial) fun _ _ => (silent_pure _).emitsFrom

/-- The second classification, of the record as it was loaded. -/
theorem writesValid_reload (view : ReconcileView) (operationId : String) :
    WritesValid runtime (do
      let record ← loadRecord runtime operationId
      let (item, _) ← classify runtime view (.valid record)
      return item : LedgerM ReconciliationItem) := by
  have hkeeps := keeps_selfValid runtime
  refine EmitsFrom.bind hkeeps
    (q := fun record => isOperationId operationId ∧ ValidBody runtime operationId record)
    (silent_loadRecord _).emitsFrom (fun _ _ _ h => loadRecord_eq_ok h) fun record hrecord => ?_
  exact EmitsFrom.bind hkeeps (q := fun _ => True)
    (writesValid_classify ⟨operationId, hrecord⟩) (fun _ _ _ _ => trivial)
    fun _ _ => (silent_pure _).emitsFrom

theorem writesValid_reconcileEntry (autoCompleteState : Bool) (before after : ReconcileView)
    {entry : LedgerEntry} (hentry : Rewritable runtime entry) :
    WritesValid runtime (reconcileEntry runtime autoCompleteState before after entry) := by
  have hkeeps := keeps_selfValid runtime
  rw [reconcileEntry]
  refine EmitsFrom.bind hkeeps (q := fun _ => True) (writesValid_classify hentry)
    (fun _ _ _ _ => trivial) fun result _ => ?_
  obtain ⟨item, left⟩ := result
  -- the state is completed, or the ledger is finished, or nothing is done
  by_cases hcomplete : (autoCompleteState && item.safeAction = some "complete_state") = true
  · simp only [hcomplete, if_true]
    cases left with
    | valid record =>
        exact EmitsFrom.bind hkeeps (q := fun _ => True) (writesValid_completeState before record)
          (fun _ _ _ _ => trivial) fun _ _ => writesValid_reload after item.operationId
    | corrupted _ _ =>
        exact EmitsFrom.bind hkeeps (q := fun _ => True) (silent_raise _).emitsFrom
          (fun _ _ _ _ => trivial) fun _ _ => writesValid_reload after item.operationId
  · simp only [hcomplete]
    by_cases hfinish : (autoCompleteState && item.safeAction = some "finish_ledger") = true
    · simp only [hfinish, if_true]
      exact EmitsFrom.bind hkeeps (q := fun _ => True) (writesValid_recordTerminal _ _ _ _)
        (fun _ _ _ _ => trivial) fun _ _ => writesValid_reload after item.operationId
    · simp only [hfinish]
      exact (silent_pure _).emitsFrom

theorem writesValid_reconcileLoop (autoCompleteState : Bool)
    (views : Nat → ReconcileView × ReconcileView) (entries : List LedgerEntry) (index : Nat)
    (hentries : ∀ entry ∈ entries, Rewritable runtime entry) :
    WritesValid runtime (reconcileLoop runtime autoCompleteState views index entries) := by
  have hkeeps := keeps_selfValid runtime
  induction entries generalizing index with
  | nil => exact (silent_pure _).emitsFrom
  | cons entry entries ih =>
      obtain ⟨hentry, hrest⟩ := List.forall_mem_cons.mp hentries
      rw [reconcileLoop]
      refine EmitsFrom.bind hkeeps (q := fun _ => True) (writesValid_reconcileEntry _ _ _ hentry)
        (fun _ _ _ _ => trivial) fun _ _ => ?_
      exact EmitsFrom.bind hkeeps (q := fun _ => True) (ih (index + 1) hrest)
        (fun _ _ _ _ => trivial) fun _ _ => (silent_pure _).emitsFrom

/-- The entries of a ledger that reads its own files can be written back. -/
theorem rewritable_ledgerRecords {ledger : Ledger} (h : SelfValid runtime ledger) :
    ∀ entry ∈ ledgerRecords runtime ledger, Rewritable runtime entry := by
  intro entry hentry
  obtain ⟨file, hfile, rfl⟩ := List.mem_map.mp hentry
  exact rewritable_ledgerEntry (h file ((List.mem_insertionSort _).mp hfile))

theorem writesValid_reconcile (autoCompleteState : Bool)
    (views : Nat → ReconcileView × ReconcileView) :
    WritesValid runtime (reconcile runtime autoCompleteState views) := by
  rw [reconcile]
  exact EmitsFrom.bind (keeps_selfValid runtime)
    (q := fun entries => ∀ entry ∈ entries, Rewritable runtime entry)
    (silent_read _).emitsFrom
    (fun _ _ hledger h => Except.ok.inj h ▸ rewritable_ledgerRecords hledger)
    fun entries hentries => writesValid_reconcileLoop autoCompleteState views entries 0 hentries

/-! ## Runs of the ledger -/

/-- A call of the ledger. -/
inductive LedgerCall where
  | beginTask (view : BeginView) (context : OperationContext) (taskId : String) (patch : Text)
      (expectedChangedFiles : List String)
  | beginRollback (view : BeginView) (operationId : OperationId)
      (stateRoot taskId runId targetCommit : String) (patch : Text)
      (expectedChangedFiles : List String) (reason : String)
  | phase (operationId name now : String) (changes : List (String × Json))
  | terminal (operationId outcome : String) (detail : Option String) (now : String)
  | reconcile (autoCompleteState : Bool) (views : Nat → ReconcileView × ReconcileView)

/-- The files the call writes, in order. -/
def LedgerCall.writes (runtime : LedgerRuntime) (ledger : Ledger) :
    LedgerCall → List (String × OperationRecord)
  | .beginTask view context taskId patch paths =>
    (LlmHarness.beginTask runtime view context taskId patch paths ledger).writes
  | .beginRollback view operationId stateRoot taskId runId targetCommit patch paths reason =>
    (beginRollbackRecord runtime view operationId stateRoot taskId runId targetCommit patch paths
      reason ledger).writes
  | .phase operationId name now changes =>
    (recordPhase runtime operationId name now changes ledger).writes
  | .terminal operationId outcome detail now =>
    (recordTerminal runtime operationId outcome detail now ledger).writes
  | .reconcile autoCompleteState views =>
    (LlmHarness.reconcile runtime autoCompleteState views ledger).writes

/-- The ledger after the first `written` writes of a call. -/
def Ledger.step (runtime : LedgerRuntime) (ledger : Ledger) (call : LedgerCall × Nat) : Ledger :=
  applyAll ledger ((call.1.writes runtime ledger).take call.2)

/-- The ledger after calls, each cut where its process died, on an empty directory. -/
def Ledger.run (runtime : LedgerRuntime) (calls : List (LedgerCall × Nat)) : Ledger :=
  calls.foldl (Ledger.step runtime) {}

/-- The call begins an operation whose patch leaves files, or keeps the checked fields. -/
def LedgerCall.Admissible (runtime : LedgerRuntime) : LedgerCall → Prop
  | .beginTask view _ _ patch paths => LeavesFiles runtime view.tree patch paths
  | .beginRollback view _ _ _ _ _ patch paths _ => LeavesFiles runtime view.tree patch paths
  | .phase _ _ _ changes => KeepsChecked changes
  | _ => True

/-- The ledger reads each of its files, and calls none of them corrupted. -/
structure Readable (runtime : LedgerRuntime) (ledger : Ledger) : Prop where
  load : ∀ operationId record, dictGet? ledger.files operationId = some record →
    (loadRecord runtime operationId ledger).value = .ok record
  records : ∀ entry ∈ ledgerRecords runtime ledger, ∃ record, entry = .valid record

theorem SelfValid.readable {ledger : Ledger} (h : SelfValid runtime ledger) :
    Readable runtime ledger where
  load := by
    intro operationId record hfile
    have hmem : (operationId, record) ∈ ledger.files := by
      rw [dictGet?] at hfile
      obtain ⟨file, hfind, rfl⟩ := Option.map_eq_some_iff.mp hfile
      have hkey := List.find?_some hfind
      obtain rfl : file.1 = operationId := by simpa using hkey
      exact List.mem_of_find?_eq_some hfind
    obtain ⟨hid, hvalid⟩ := h _ hmem
    have hload : (loadRecord runtime operationId ledger).value = validateRecord runtime
        (((dictGet? ledger.files operationId).map Json.obj).getD .null) operationId := if_pos hid
    rw [hload, hfile]
    exact hvalid
  records := by
    intro entry hentry
    obtain ⟨file, hfile, rfl⟩ := List.mem_map.mp hentry
    obtain ⟨-, hvalid⟩ := h file ((List.mem_insertionSort _).mp hfile)
    exact ⟨file.2, by rw [ledgerEntry, hvalid]⟩

theorem selfValid_step {ledger : Ledger} (h : SelfValid runtime ledger) {call : LedgerCall × Nat}
    (hcall : call.1.Admissible runtime) : SelfValid runtime (Ledger.step runtime ledger call) := by
  have hwrites : ∀ file ∈ call.1.writes runtime ledger, ValidFile runtime file := by
    obtain ⟨call, written⟩ := call
    cases call with
    | beginTask view context taskId patch paths =>
        exact writesValid_begin context.operationId hcall
          (fun _ _ hevidence hleaves => (validBody_taskRecord hevidence).mpr hleaves) ledger h
    | beginRollback view operationId stateRoot taskId runId targetCommit patch paths reason =>
        exact writesValid_begin operationId hcall
          (fun _ _ hevidence hleaves => (validBody_rollbackIntent hevidence).mpr hleaves) ledger h
    | phase operationId name now changes =>
        exact writesValid_recordPhase operationId name now hcall ledger h
    | terminal operationId outcome detail now =>
        exact writesValid_recordTerminal operationId outcome detail now ledger h
    | reconcile autoCompleteState views =>
        exact writesValid_reconcile autoCompleteState views ledger h
  exact (keeps_selfValid runtime).applyAll (fun file hfile => hwrites file (List.mem_of_mem_take hfile)) h

/-- **The ledger reads what it wrote**, in every run whose first records leave files and
    whose phases keep the checked fields. -/
theorem readable_ledgerRun (runtime : LedgerRuntime) (calls : List (LedgerCall × Nat))
    (h : ∀ call ∈ calls, call.1.Admissible runtime) : Readable runtime (Ledger.run runtime calls) := by
  have hrun : ∀ (calls : List (LedgerCall × Nat)) (ledger : Ledger),
      (∀ call ∈ calls, call.1.Admissible runtime) → SelfValid runtime ledger →
        SelfValid runtime (calls.foldl (Ledger.step runtime) ledger) := by
    intro calls
    induction calls with
    | nil => exact fun ledger _ hledger => hledger
    | cons call calls ih =>
        intro ledger hcalls hledger
        obtain ⟨hcall, hrest⟩ := List.forall_mem_cons.mp hcalls
        exact ih _ hrest (selfValid_step hledger hcall)
  exact (hrun calls {} h fun _ hfile => (nomatch hfile)).readable

/-! ## A file replaced by a directory -/

/-- The patch deletes `f` and creates `f/g`. -/
def fileToDirectoryPatch : Text :=
  ("diff --git a/f b/f\ndeleted file mode 100644\n--- a/f\n+++ /dev/null\n@@ -1 +0,0 @@\n-old\n" ++
    "diff --git a/f/g b/f/g\nnew file mode 100644\n--- /dev/null\n+++ b/f/g\n@@ -0,0 +1 @@\n" ++
    "+new\n").toList

/-- The patch replaces the line of `f`. -/
def modifyPatch : Text :=
  "diff --git a/f b/f\n--- a/f\n+++ b/f\n@@ -1 +1 @@\n-old\n+new\n".toList

/-- The tree with the file `f`. -/
def oneFileTree : FileTree := fun path => if path = "f" then .file "old\n" else .absent

/-- A ledger whose Git applies the two patches. -/
def oneFileRuntime : LedgerRuntime where
  repository := "/repo"
  resolve := id
  sha256 _ := "0000000000000000000000000000000000000000000000000000000000000000"
  redact := id
  gitApply patch tree :=
    if tree "f" ≠ .file "old\n" then .error "error: f: patch does not apply"
    else if patch = fileToDirectoryPatch then
      .ok fun path => if path = "f" then .other else if path = "f/g" then .file "new\n" else tree path
    else if patch = modifyPatch then
      .ok fun path => if path = "f" then .file "new\n" else tree path
    else .error "error: unrecognized input"
  resolve_repository := rfl
  sha256_hex _ := by decide

/-- What the beginning of a task reads there. -/
def oneFileView : BeginView := ⟨.ok "1111", oneFileTree, "t0", "t1"⟩

/-- The operation `op-1`. -/
def firstOperation : OperationContext := ⟨⟨"op-1", by decide⟩, "run-1", "/state", "t0", false⟩

/-- A task begins with this patch. -/
def beginCall (patch : Text) (paths : List String) : LedgerCall :=
  .beginTask oneFileView firstOperation "task-1" patch paths

/-- The first write of an empty ledger. -/
theorem run_beginTask {view : BeginView} {context : OperationContext} {taskId head : String}
    {patch : Text} {paths : List String} {evidence : FileEvidence × FileEvidence}
    (hhead : view.head = .ok head)
    (hevidence : patchFileEvidence runtime view.tree patch paths = .ok evidence) :
    (Ledger.run runtime [(.beginTask view context taskId patch paths, 1)]).files =
      [(context.operationId.val, sealRecord runtime
        (taskRecord runtime context taskId patch paths head evidence view.createdAt view.intentAt))] := by
  have hwrites : (beginTask runtime view context taskId patch paths {}).writes =
      [(context.operationId.val, sealRecord runtime
        (taskRecord runtime context taskId patch paths head evidence view.createdAt
          view.intentAt))] := by
    rw [beginTask, hhead, hevidence]
    rfl
  have hstep : Ledger.run runtime [(.beginTask view context taskId patch paths, 1)] =
      applyAll {} ((beginTask runtime view context taskId patch paths {}).writes.take 1) := rfl
  rw [hstep, hwrites]
  rfl

/-- A readable record was written by a patch that leaves files. -/
theorem leavesFiles_of_readable {view : BeginView} {context : OperationContext}
    {taskId head : String} {patch : Text} {paths : List String}
    {evidence : FileEvidence × FileEvidence} (hhead : view.head = .ok head)
    (hevidence : patchFileEvidence runtime view.tree patch paths = .ok evidence)
    (h : Readable runtime
      (Ledger.run runtime [(.beginTask view context taskId patch paths, 1)])) :
    LeavesFiles runtime view.tree patch paths := by
  have hfile : dictGet? (Ledger.run runtime
      [(.beginTask view context taskId patch paths, 1)]).files context.operationId.val =
      some (sealRecord runtime
        (taskRecord runtime context taskId patch paths head evidence view.createdAt
          view.intentAt)) := by
    rw [run_beginTask hhead hevidence]
    simp [dictGet?]
  obtain ⟨-, hbody⟩ := loadRecord_eq_ok (h.load _ _ hfile)
  -- the seal leaves the scope as it is
  have hscope := hbody.scope
  simp only [sealRecord, field_dictInsert] at hscope
  exact (validateScope_evidence _ _ hevidence).mp hscope

/-- The ledger refuses the record it wrote. -/
theorem not_readable_fileToDirectory :
    ¬ Readable oneFileRuntime
      (Ledger.run oneFileRuntime [(beginCall fileToDirectoryPatch ["f", "f/g"], 1)]) := by
  intro hreadable
  have hold : candidateTree oneFileTree ["f", "f/g"] "f" = .file "old\n" := by decide +kernel
  have happly : oneFileRuntime.gitApply fileToDirectoryPatch
      (candidateTree oneFileTree ["f", "f/g"]) = .ok fun path =>
        if path = "f" then .other else if path = "f/g" then .file "new\n"
        else candidateTree oneFileTree ["f", "f/g"] path := by
    simp only [oneFileRuntime, hold, ne_eq, not_true_eq_false, if_false, if_true]
  have hevidence : ∃ evidence, patchFileEvidence oneFileRuntime oneFileView.tree
      fileToDirectoryPatch ["f", "f/g"] = .ok evidence := by
    have htree : oneFileView.tree = oneFileTree := rfl
    rw [htree, patchFileEvidence, happly]
    exact ⟨_, rfl⟩
  obtain ⟨evidence, hevidence⟩ := hevidence
  have hhead : oneFileView.head = .ok "1111" := rfl
  have hleaves : LeavesFiles oneFileRuntime oneFileView.tree fileToDirectoryPatch ["f", "f/g"] :=
    leavesFiles_of_readable hhead hevidence hreadable
  exact hleaves.files _ happly "f" (List.mem_cons_self ..) rfl

theorem readable_modify :
    Readable oneFileRuntime (Ledger.run oneFileRuntime [(beginCall modifyPatch ["f"], 1),
      (.phase "op-1" "patch_applied" "t2" [], 1), (.terminal "op-1" "complete" none "t3", 1)]) := by
  refine readable_ledgerRun oneFileRuntime _ fun call hcall => ?_
  simp only [List.mem_cons, List.not_mem_nil, or_false] at hcall
  rcases hcall with rfl | rfl | rfl
  · refine ⟨by decide, fun left hleft path hpath => ?_⟩
    obtain rfl := List.mem_singleton.mp hpath
    have hold : candidateTree oneFileTree ["f"] "f" = .file "old\n" := by decide +kernel
    have hother : modifyPatch ≠ fileToDirectoryPatch := by decide +kernel
    have happly : oneFileRuntime.gitApply modifyPatch (candidateTree oneFileTree ["f"]) =
        .ok fun path => if path = "f" then .file "new\n"
          else candidateTree oneFileTree ["f"] path := by
      simp only [oneFileRuntime, hold, hother, ne_eq, not_true_eq_false, if_false, if_true]
    obtain rfl := Except.ok.inj (happly.symm.trans hleft)
    exact fun h => (nomatch h)
  · exact fun _ hmem => (nomatch hmem)
  · trivial

end LlmHarness
