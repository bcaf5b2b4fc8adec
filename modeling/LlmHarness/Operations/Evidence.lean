/-
  LlmHarness.Operations.Evidence

  The evidence an operation record keeps about its files: `_path_evidence`,
  `_patch_file_evidence` and `_validate_file_evidence`.  A file tree is what each
  path holds; contents are texts.  `git apply` runs in a directory that holds
  the scanned files only, and what it leaves there is a parameter.
-/

import LlmHarness.Review.Decision

namespace LlmHarness

open Python

/-- What `operations.py` lets through or raises. -/
inductive OperationError where
  /-- `OperationLedgerError`. -/
  | ledger (message : String)
  /-- `ReconciliationBlockedError`, which is one too. -/
  | blocked (message : String)
  /-- `GitError`. -/
  | git (message : String)
  /-- `StateStoreError`. -/
  | state (message : String)
  /-- `TypeError` of a value of another shape. -/
  | shape
deriving DecidableEq, Repr

/-- Raises `OperationLedgerError` unless the condition holds. -/
def requireLedger (ok : Bool) (message : String) : Except OperationError Unit :=
  if ok then .ok () else .error (.ledger message)

/-- What a path of a file tree holds. -/
inductive PathState where
  | absent
  | file (content : String)
  | symlink (target : String)
  /-- A directory, or anything else that is no regular file. -/
  | other
deriving DecidableEq, Repr

/-- A file tree. -/
abbrev FileTree := String → PathState

/-- What an `OperationLedger` has, and what it takes from the standard library,
    from `journal.redact` and from Git. -/
structure LedgerRuntime where
  /-- `OperationLedger.repository`. -/
  repository : String
  /-- `str(Path(path).resolve())`. -/
  resolve : String → String
  /-- `hashlib.sha256(text.encode("utf-8")).hexdigest()`. -/
  sha256 : Text → String
  /-- `journal.redact` of a string. -/
  redact : String → String
  /-- `git apply --unsafe-paths` in a directory with these files: its message, or what it leaves. -/
  gitApply : Text → FileTree → Except String FileTree
  resolve_repository : resolve repository = repository
  sha256_hex : ∀ text, isLowerHexOf 64 (sha256 text)

/-! ## Writing evidence -/

/-- The evidence of a kind. -/
def fileEvidence (kind digest : String) (size : Nat) : Json :=
  .obj [("kind", .str kind), ("sha256", .str digest), ("size", .int size)]

/-- `_path_evidence`. -/
def pathEvidence (runtime : LedgerRuntime) : PathState → Json
  | .absent => .null
  | .file content =>
    fileEvidence "file" (runtime.sha256 content.toList) content.utf8ByteSize
  | .symlink target =>
    fileEvidence "symlink" (runtime.sha256 target.toList) target.utf8ByteSize
  | .other => fileEvidence "other" "" 0

/-- The files by path, as a record keeps them. -/
abbrev FileEvidence := List (String × Json)

/-- One scanned path in the loop of `_patch_file_evidence`. -/
def addBaseline (runtime : LedgerRuntime) (tree : FileTree) (files : FileEvidence)
    (relative : String) : Except OperationError FileEvidence :=
  match tree relative with
  | .symlink _ | .other =>
    .error (.ledger ("Patch evidence supports regular files only: " ++ relative))
  | state => .ok (dictInsert files (relative, pathEvidence runtime state))

/-- The temporary directory: the scanned files that exist, and the directories above them. -/
def candidateTree (tree : FileTree) (expectedPaths : List String) : FileTree := fun path =>
  if path ∈ expectedPaths ∧ tree path ≠ .absent then tree path
  else if expectedPaths.any fun other =>
      tree other ≠ .absent && (path.toList ++ ['/']).isPrefixOf other.toList then .other
  else .absent

/-- `_patch_file_evidence`: the files before and after the patch. -/
def patchFileEvidence (runtime : LedgerRuntime) (tree : FileTree) (patch : Text)
    (expectedPaths : List String) : Except OperationError (FileEvidence × FileEvidence) := do
  let baselineFiles ← expectedPaths.foldlM (addBaseline runtime tree) []
  match runtime.gitApply patch (candidateTree tree expectedPaths) with
  | .error stderr =>
    .error (.ledger ("Could not derive expected post-image from worker patch: " ++
      (if stderr = "" then "git apply failed" else stderr)))
  | .ok post =>
    .ok (baselineFiles,
      dictOfPairs (expectedPaths.map fun relative => (relative, pathEvidence runtime (post relative))))

/-! ## Reading evidence -/

/-- `isinstance(value, int) and value >= 0`. -/
def isNonNegativeInt : Json → Bool
  | .int value => 0 ≤ value
  | .bool _ => true
  | _ => false

/-- `isinstance(value, str)` with 64 lower-case hexadecimal digits. -/
def isDigestText : Json → Bool
  | .str text => isLowerHexOf 64 text
  | _ => false

/-- `_validate_file_evidence`. -/
def validateFileEvidence (operationId : String) : Json → Except OperationError Unit
  | .null => .ok ()
  | .obj evidence => do
    requireLedger (evidence.all (fun member => ["kind", "sha256", "size"].contains member.1) &&
      ["kind", "sha256", "size"].all fun key => (dictGet? evidence key).isSome)
      ("Invalid operation file evidence: " ++ operationId)
    match field evidence "kind" with
    | .arr _ | .obj _ => .error .shape
    | kind =>
      requireLedger (isText kind "file" || isText kind "symlink")
        ("Unsupported operation file kind: " ++ operationId)
    requireLedger (isDigestText (field evidence "sha256") && isNonNegativeInt (field evidence "size"))
      ("Invalid operation file digest/size: " ++ operationId)
  | _ => .error (.ledger ("Invalid operation file evidence: " ++ operationId))

/-! ## What is written and read -/

/-- The evidence of a path is accepted unless the path holds no file and no link. -/
theorem validateFileEvidence_pathEvidence (runtime : LedgerRuntime) (operationId : String)
    (state : PathState) :
    validateFileEvidence operationId (pathEvidence runtime state) = .ok () ↔ state ≠ .other := by
  have hfile : ∀ kind digest size, (kind = "file" ∨ kind = "symlink") → isLowerHexOf 64 digest →
      validateFileEvidence operationId (fileEvidence kind digest size) = .ok () := by
    intro kind digest size hkind hdigest
    have hsize : (0 : Int) ≤ (size : Int) := Int.natCast_nonneg size
    rcases hkind with rfl | rfl
    · simp [validateFileEvidence, fileEvidence, requireLedger, field, dictGet?, isText,
        isDigestText, isNonNegativeInt, hdigest, hsize, bind, Except.bind]
    · simp [validateFileEvidence, fileEvidence, requireLedger, field, dictGet?, isText,
        isDigestText, isNonNegativeInt, hdigest, hsize, bind, Except.bind]
  cases state with
  | absent => exact ⟨fun _ h => (nomatch h), fun _ => rfl⟩
  | file content =>
      exact ⟨fun _ h => (nomatch h), fun _ =>
        hfile "file" _ content.utf8ByteSize (Or.inl rfl) (runtime.sha256_hex _)⟩
  | symlink target =>
      exact ⟨fun _ h => (nomatch h), fun _ =>
        hfile "symlink" _ target.utf8ByteSize (Or.inr rfl) (runtime.sha256_hex _)⟩
  | other =>
      refine ⟨fun h => ?_, fun h => absurd rfl h⟩
      simp [validateFileEvidence, pathEvidence, fileEvidence, requireLedger, field, dictGet?, isText,
        bind, Except.bind] at h

/-- The baseline of the scanned paths: each is absent or a regular file. -/
theorem foldlM_addBaseline {runtime : LedgerRuntime} {tree : FileTree} {paths : List String}
    {files baseline : FileEvidence}
    (h : paths.foldlM (addBaseline runtime tree) files = .ok baseline) :
    (∀ path ∈ paths, tree path ≠ .other) ∧
      baseline = (paths.map fun path => (path, pathEvidence runtime (tree path))).foldl
        dictInsert files := by
  -- the induction is on the paths, with the evidence so far free
  induction paths generalizing files with
  | nil => exact ⟨fun _ hmem => (nomatch hmem), (Except.ok.inj h).symm⟩
  | cons path paths ih =>
      rw [List.foldlM_cons] at h
      -- what is no file raises
      cases hstate : tree path with
      | symlink target =>
          rw [addBaseline, hstate] at h
          cases h
      | other =>
          rw [addBaseline, hstate] at h
          cases h
      -- an absent path and a file are entered alike
      | absent =>
          rw [addBaseline, hstate] at h
          obtain ⟨hpaths, hbaseline⟩ := ih h
          refine ⟨List.forall_mem_cons.mpr ⟨by rw [hstate]; exact fun h => (nomatch h), hpaths⟩, ?_⟩
          rw [List.map_cons, List.foldl_cons, hstate]
          exact hbaseline
      | file content =>
          rw [addBaseline, hstate] at h
          obtain ⟨hpaths, hbaseline⟩ := ih h
          refine ⟨List.forall_mem_cons.mpr ⟨by rw [hstate]; exact fun h => (nomatch h), hpaths⟩, ?_⟩
          rw [List.map_cons, List.foldl_cons, hstate]
          exact hbaseline

/-- What `_patch_file_evidence` returns. -/
theorem patchFileEvidence_eq_ok {runtime : LedgerRuntime} {tree : FileTree} {patch : Text}
    {paths : List String} {baseline post : FileEvidence}
    (h : patchFileEvidence runtime tree patch paths = .ok (baseline, post)) :
    (∀ path ∈ paths, tree path ≠ .other) ∧
      baseline = dictOfPairs (paths.map fun path => (path, pathEvidence runtime (tree path))) ∧
      ∃ left, runtime.gitApply patch (candidateTree tree paths) = .ok left ∧
        post = dictOfPairs (paths.map fun path => (path, pathEvidence runtime (left path))) := by
  rw [patchFileEvidence] at h
  cases hbaseline : paths.foldlM (addBaseline runtime tree) [] with
  | error e =>
      rw [hbaseline] at h
      cases h
  | ok files =>
      rw [hbaseline] at h
      obtain ⟨hpaths, hfiles⟩ := foldlM_addBaseline hbaseline
      cases hleft : runtime.gitApply patch (candidateTree tree paths) with
      | error stderr =>
          simp only [bind, Except.bind, hleft] at h
          cases h
      | ok left =>
          simp only [bind, Except.bind, hleft, Except.ok.injEq, Prod.mk.injEq] at h
          exact ⟨hpaths, h.1.symm.trans hfiles, left, rfl, h.2.symm⟩

/-- The keys of the evidence are the scanned paths. -/
theorem mem_keys_evidence {paths : List String} {evidence : String → Json} {path : String} :
    path ∈ (dictOfPairs (paths.map fun path => (path, evidence path))).map Prod.fst ↔
      path ∈ paths := by
  have hget := dictGet?_dictOfPairs (paths.map fun path => (path, evidence path)) path
  rw [← not_iff_not, ← dictGet?_eq_none_iff, hget, dictGet?_eq_none_iff]
  simp

/-- The values of the evidence are those of the scanned paths. -/
theorem mem_evidence {paths : List String} {evidence : String → Json} {entry : String × Json}
    (h : entry ∈ dictOfPairs (paths.map fun path => (path, evidence path))) :
    entry.1 ∈ paths ∧ entry.2 = evidence entry.1 := by
  have hnodup := nodup_keys_dictOfPairs (paths.map fun path => (path, evidence path))
  have hget := (mem_iff_dictGet? hnodup entry.1 entry.2).mp h
  obtain ⟨path, hpath, heq⟩ := List.mem_map.mp (mem_of_dictGet?_dictOfPairs hget)
  obtain ⟨rfl, hvalue⟩ := Prod.mk.inj heq
  exact ⟨hpath, hvalue.symm⟩

end LlmHarness
