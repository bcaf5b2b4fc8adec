/-
  LlmHarness.Operations.Resolution

  What `guarded_resolve` does to the canonical repository.  Wherever it stops,
  HEAD is where it was and no path that was clean has changed; a resolution that
  returns has ended the operation, and after `restore-patch` the repository is
  exactly at the recorded baseline.
-/

import LlmHarness.Git.Status
import LlmHarness.Operations.Recovery

namespace LlmHarness

open Python Durable Durable.Program Guards

/-! ## Programs that leave the repository alone -/

section

variable {α : Type} {inv : Checkout → Prop} {p : CheckoutWrite → Prop}

theorem emitsFrom_onLedger (hp : ∀ file, p (.record file)) (m : LedgerM α) :
    EmitsFrom inv p (onLedger m) := by
  intro checkout _ w hw
  obtain ⟨file, -, rfl⟩ := List.mem_map.mp hw
  exact hp file

/-- A repository that some property holds of, and any record files. -/
def OfRepository (property : Repository → Prop) : CheckoutWrite → Prop
  | .record _ => True
  | .git left => property left

theorem keeps_ofRepository (property : Repository → Prop) :
    Keeps (fun checkout : Checkout => property checkout.repository) (OfRepository property) := by
  intro checkout w hcheckout hw
  cases w with
  | record file => exact hcheckout
  | git left => exact hw

end

/-- The program leaves the repository in a state with the property. -/
abbrev EmitsRepository {α : Type} (property : Repository → Prop) (m : CheckoutM α) : Prop :=
  EmitsFrom (fun checkout : Checkout => property checkout.repository) (OfRepository property) m

section

variable {α β : Type} {property : Repository → Prop}

theorem emitsRepository_onLedger (m : LedgerM α) : EmitsRepository property (onLedger m) :=
  emitsFrom_onLedger (fun _ => trivial) m

theorem EmitsRepository.bind {m : CheckoutM α} {next : α → CheckoutM β}
    (h : EmitsRepository property m) (hnext : ∀ a, EmitsRepository property (next a)) :
    EmitsRepository property (m >>= next) :=
  EmitsFrom.bind (keeps_ofRepository property) h (q := fun _ => True) (fun _ _ _ _ => trivial)
    fun a _ => hnext a

/-- A program that emits whatever the repository has leaves it alone. -/
theorem final_repository {m : CheckoutM α} (h : ∀ property, EmitsRepository property m)
    (checkout : Checkout) : (m.final checkout).repository = checkout.repository :=
  EmitsFrom.final (keeps_ofRepository fun left => left = checkout.repository)
    (h fun left => left = checkout.repository) rfl

theorem emitsRepository_classifyStored (property : Repository → Prop) (runtime : LedgerRuntime)
    (outside : StateView) (operationId : String) :
    EmitsRepository property (classifyStored runtime outside operationId) := by
  rw [classifyStored]
  refine (emitsRepository_onLedger _).bind fun record => ?_
  refine EmitsRepository.bind (silent_read _).emitsFrom fun view => ?_
  refine (emitsRepository_onLedger _).bind fun result => ?_
  obtain ⟨item, entry⟩ := result
  cases entry with
  | valid record => exact (silent_pure _).emitsFrom
  | corrupted _ _ => exact (silent_raise _).emitsFrom

end

/-! ## What a classification means -/

/-- The record is open, or it ended as an operation does. -/
def KnownOutcome (record : OperationRecord) : Prop :=
  isNull (field record "terminal_outcome") ∨
    pyStr (field record "terminal_outcome") ∈ terminalOutcomes

instance (record : OperationRecord) : Decidable (KnownOutcome record) :=
  inferInstanceAs (Decidable (_ ∨ _))

/-- The paths of a record. -/
def scopePaths (record : OperationRecord) : List Text :=
  (listTexts (field record "expected_changed_files")).map String.toList

/-- The evidence behind `patch_applied`. -/
structure PatchApplied (runtime : LedgerRuntime) (repository : Repository)
    (record : OperationRecord) : Prop where
  isOpen : isNull (field record "terminal_outcome")
  head : isText (field record "baseline_head") repository.head
  dirty : repositoryIsClean repository = false
  names : repository.ShowsExactly (scopePaths record)
  matchesPatch : ∀ outside, (repositoryView outside repository).matchesPatch runtime record

variable {runtime : LedgerRuntime} {outside : StateView}

theorem showsExactly_of_sameSet {repository : Repository} {scope : List String}
    (h : sameSet ((workingChangedFiles repository).map String.ofList) scope) :
    repository.ShowsExactly (scope.map String.toList) := by
  intro name
  have hsame := sameSet_iff.mp h (String.ofList name)
  rw [List.mem_map_of_injective fun a b hab => by simpa using congrArg String.toList hab] at hsame
  rw [hsame, List.mem_map]
  constructor
  · intro hname
    exact ⟨String.ofList name, hname, String.toList_ofList⟩
  · rintro ⟨text, htext, rfl⟩
    rwa [String.ofList_toList]

theorem sameSet_of_showsExactly {repository : Repository} {scope : List String}
    (h : repository.ShowsExactly (scope.map String.toList)) :
    sameSet ((workingChangedFiles repository).map String.ofList) scope := by
  rw [sameSet_iff]
  intro text
  rw [List.mem_map]
  constructor
  · rintro ⟨name, hname, rfl⟩
    obtain ⟨other, hother, heq⟩ := List.mem_map.mp ((h name).mp hname)
    rw [← heq, String.ofList_toList]
    exact hother
  · intro htext
    exact ⟨text.toList, (h _).mpr (List.mem_map_of_mem htext), String.ofList_toList⟩

theorem classification_ended {view : ReconcileView} {record : OperationRecord}
    (h : isNull (field record "terminal_outcome") = false) :
    classification runtime view (.valid record) =
      .ok (⟨pyStr (field record "operation_id"), pyStr (field record "action"),
        pyStr (field record "terminal_outcome"), none,
        if isTruthy (field record "terminal_detail") then pyStr (field record "terminal_detail")
          else "", true⟩, none) := by
  rw [classification, if_pos (by rw [h]; rfl)]

theorem evidence_eq_ok {repository : Repository} {record : OperationRecord} {stateComplete : Bool}
    {commit : Option String} {head : String} {clean : Bool}
    (h : (repositoryView outside repository).evidence record =
      .ok (stateComplete, commit, head, clean)) :
    head = repository.head ∧ clean = repositoryIsClean repository := by
  -- whatever commit was found, HEAD and the status are read after it
  have hlast : ∀ (complete : Bool) (found : Option String), (do
      let head ← (repositoryView outside repository).head
      let clean ← (repositoryView outside repository).clean
      return (complete, found, head, clean) : Except OperationError _) =
        .ok (stateComplete, commit, head, clean) →
      head = repository.head ∧ clean = repositoryIsClean repository := by
    intro complete found hread
    have hresult : (complete, found, repository.head, repositoryIsClean repository) =
        (stateComplete, commit, head, clean) := Except.ok.inj hread
    simp only [Prod.mk.injEq] at hresult
    exact ⟨hresult.2.2.1.symm, hresult.2.2.2.symm⟩
  -- the state and the commit are looked up first; neither changes what is read after them
  rw [ReconcileView.evidence] at h
  obtain ⟨complete, -, h⟩ := bind_eq_ok.mp h
  by_cases hcommit : isTruthy (field record "commit") = true
  · simp only [hcommit, if_true] at h
    exact hlast complete _ h
  · simp only [hcommit] at h
    obtain ⟨found, -, h⟩ := bind_eq_ok.mp h
    exact hlast complete found h

/-- The phase `patch_applied` is durable. -/
def hasPatchPhase (record : OperationRecord) : Bool :=
  match field record "phases" with
  | .obj phases => (dictGet? phases "patch_applied").isSome
  | _ => false

/-- The worktree holds the patch of the record: the changed names and the evidence match. -/
def holdsPatch (runtime : LedgerRuntime) (outside : StateView) (repository : Repository)
    (record : OperationRecord) : Bool :=
  hasPatchPhase record &&
    sameSet ((workingChangedFiles repository).map String.ofList)
      (listTexts (field record "expected_changed_files")) &&
    (repositoryView outside repository).matchesPatch runtime record

/-- What `_classify` says of a worktree, when no commit carries the operation. -/
theorem classifyWorktree_eq {repository : Repository} {record : OperationRecord}
    {item : String → Option String → String → ReconciliationItem} :
    classifyWorktree runtime (repositoryView outside repository) record item repository.head
        (repositoryIsClean repository) =
      .ok (if isText (field record "baseline_head") repository.head && repositoryIsClean repository then
        item "not_started" (some "cancel_intent")
          "HEAD and worktree still match the recorded baseline."
      else if isText (field record "baseline_head") repository.head &&
          holdsPatch runtime outside repository record then
        item "patch_applied" (some "restore_patch")
          "HEAD, dirty paths, and exact patch digest match recorded evidence."
      else item "contradictory" none
        "Git HEAD/worktree does not match any safe reconciliation state.") := by
  rw [classifyWorktree]
  -- with another HEAD, or in a clean tree, the phases do not matter
  cases hhead : isText (field record "baseline_head") repository.head with
  | false => rfl
  | true =>
      cases hclean : repositoryIsClean repository with
      | true => rfl
      | false =>
          rw [holdsPatch, hasPatchPhase]
          cases field record "phases" with
          | obj phases =>
              simp only [if_true, Bool.false_eq_true, if_false, Bool.true_and, Bool.and_false]
              by_cases happlied : (dictGet? phases "patch_applied").isSome = true
              · rw [if_pos happlied, happlied, Bool.true_and]
                exact (apply_ite Except.ok _ _ _).symm
              · rw [if_neg happlied]
                rw [Bool.not_eq_true] at happlied
                rw [happlied]
                rfl
          | null => rfl
          | bool _ => rfl
          | int _ => rfl
          | float _ => rfl
          | str _ => rfl
          | arr _ => rfl

/-- What a classification writes back, and what `patch_applied` means. -/
theorem classification_cases {repository : Repository} {record : OperationRecord}
    {item : ReconciliationItem} {rewritten : Option OperationRecord}
    (h : classification runtime (repositoryView outside repository) (.valid record) =
      .ok (item, rewritten)) :
    (rewritten = none ∨ ∃ full, rewritten = some (commitRecord record full)) ∧
      (item.classification = "patch_applied" →
        rewritten = none ∧ (KnownOutcome record → PatchApplied runtime repository record)) := by
  -- only the classification `patch_applied` says anything of the worktree
  have hother : ∀ {text : String} {safeAction : Option String} {detail : String}
      {result : Option OperationRecord}, text ≠ "patch_applied" →
      (result = none ∨ ∃ full, result = some (commitRecord record full)) →
      (⟨pyStr (field record "operation_id"), pyStr (field record "action"), text, safeAction, detail,
        false⟩, result) = (item, rewritten) →
      (rewritten = none ∨ ∃ full, rewritten = some (commitRecord record full)) ∧
        (item.classification = "patch_applied" →
          rewritten = none ∧ (KnownOutcome record → PatchApplied runtime repository record)) := by
    intro text safeAction detail result hne hresult heq
    obtain ⟨rfl, rfl⟩ := Prod.mk.inj heq
    exact ⟨hresult, fun hitem => absurd hitem hne⟩
  -- an operation that is still open is classified by its evidence
  by_cases hopen : isNull (field record "terminal_outcome") = true
  · rw [classification, if_neg (by rw [hopen]; decide)] at h
    cases hevidence : (repositoryView outside repository).evidence record with
    | error e =>
        simp only [hevidence] at h
        exact hother (by decide) (Or.inl rfl) (Except.ok.inj h)
    | ok evidence =>
        obtain ⟨stateComplete, commit, head, clean⟩ := evidence
        obtain ⟨rfl, rfl⟩ := evidence_eq_ok hevidence
        simp only [hevidence] at h
        cases stateComplete with
        | true => exact hother (by decide) (Or.inl rfl) (Except.ok.inj h)
        | false =>
            cases commit with
            | some commit =>
                cases hcommit : (repositoryView outside repository).commitEvidence commit with
                | error e =>
                    simp only [hcommit] at h
                    exact hother (by decide) (Or.inl rfl) (Except.ok.inj h)
                -- a commit that can be read is written into the record
                | ok carried =>
                    obtain ⟨full, parents, changed⟩ := carried
                    simp only [hcommit] at h
                    obtain hresult | hresult := ok_of_ite h
                    · refine hother (by decide) ?_ hresult
                      split
                      · exact Or.inl rfl
                      · exact Or.inr ⟨full, rfl⟩
                    · exact hother (by decide) (Or.inl rfl) hresult
            | none =>
                -- only here the worktree decides
                obtain ⟨found, hfound, hreturn⟩ := bind_eq_ok.mp h
                obtain ⟨rfl, rfl⟩ := Prod.mk.inj (Except.ok.inj hreturn)
                rw [classifyWorktree_eq] at hfound
                have hitem := congrArg (fun found => (found, (none : Option OperationRecord)))
                  (Except.ok.inj hfound)
                by_cases hclean : (isText (field record "baseline_head") repository.head &&
                    repositoryIsClean repository) = true
                · rw [if_pos hclean] at hitem
                  exact hother (by decide) (Or.inl rfl) hitem
                · rw [if_neg hclean] at hitem
                  -- HEAD is the baseline and the tree is dirty: the record must hold the patch
                  -- phase and its digest
                  by_cases hholds : (isText (field record "baseline_head") repository.head &&
                      holdsPatch runtime outside repository record) = true
                  · rw [Bool.and_eq_true, holdsPatch, Bool.and_eq_true, Bool.and_eq_true] at hholds
                    rw [hholds.1, Bool.true_and, Bool.not_eq_true] at hclean
                    exact ⟨Or.inl rfl, fun _ => ⟨rfl, fun _ => ⟨hopen, hholds.1, hclean,
                      showsExactly_of_sameSet hholds.2.1.2, fun _ => hholds.2.2⟩⟩⟩
                  · rw [if_neg hholds] at hitem
                    exact hother (by decide) (Or.inl rfl) hitem
  · rw [classification_ended (by simpa using hopen)] at h
    obtain ⟨rfl, rfl⟩ := Prod.mk.inj (Except.ok.inj h)
    -- an operation that has ended is classified by its outcome
    refine ⟨Or.inl rfl, fun hitem => ⟨rfl, fun hknown => ?_⟩⟩
    rcases hknown with hnull | houtcome
    · exact absurd hnull hopen
    · have hnamed : pyStr (field record "terminal_outcome") = "patch_applied" := hitem
      rw [hnamed] at houtcome
      exact absurd houtcome (by decide)

/-! ## One restoration -/

/-- Every path is as it was, as HEAD has it, or removed where it had changed. -/
structure TowardsBaseline (before after : Repository) : Prop where
  head : after.head = before.head
  commits : after.commits = before.commits
  index : ∀ path, after.index.get? path = before.index.get? path ∨
    after.index.get? path = before.headTree.get? path
  work : ∀ path, after.work.get? path = before.work.get? path ∨
    after.work.get? path = before.headTree.get? path ∨
      (before.Dirty path ∧ after.work.get? path = none)

theorem towardsBaseline_refl (repository : Repository) : TowardsBaseline repository repository where
  head := rfl
  commits := rfl
  index _ := Or.inl rfl
  work _ := Or.inl rfl

/-- A clean path stays as it is. -/
theorem TowardsBaseline.of_clean {before after : Repository} (h : TowardsBaseline before after)
    {path : Text} (hclean : ¬ before.Dirty path) :
    after.index.get? path = before.index.get? path ∧ after.work.get? path = before.work.get? path := by
  obtain ⟨hindex, hwork⟩ := not_not.mp hclean
  constructor
  · rcases h.index path with hsame | hhead
    · exact hsame
    · rw [hhead, hindex]
  · rcases h.work path with hsame | hhead | ⟨hdirty, -⟩
    · exact hsame
    · rw [hhead, hwork]
    · exact absurd hdirty hclean

/-- HEAD is a commit. -/
def Repository.Born (repository : Repository) : Prop := (repository.commit? repository.head).isSome

theorem resolveCommit_head {repository : Repository} (h : repository.Born) :
    resolveCommit repository repository.head = .ok repository.head := by
  rw [resolveCommit]
  by_cases hhead : repository.head = "HEAD"
  · rw [if_pos hhead]
  · rw [if_neg hhead]
    exact if_pos h

theorem gitRestore_eq_ok {pathspecs : Pathspecs} {source commit : String} {specs : List Text}
    {repository left : Repository} (hcommit : resolveCommit repository source = .ok commit)
    (h : gitRestore pathspecs source specs repository = .ok left) :
    ∃ selections, specs.mapM pathspecs.select = .ok selections ∧
      left = restorePaths repository commit
        ((repository.known commit).filter fun path => selections.any fun selects => selects path) := by
  rw [gitRestore] at h
  obtain ⟨commit', hcommit', h⟩ := bind_eq_ok.mp h
  obtain rfl : commit = commit' := Except.ok.inj (hcommit.symm.trans hcommit')
  obtain ⟨selections, hselections, h⟩ := bind_eq_ok.mp h
  refine ⟨selections, hselections, ?_⟩
  cases hfind : (specs.zip selections).find? fun spec => !(repository.known commit).any spec.2 with
  | some spec =>
      rw [hfind] at h
      cases h
  | none =>
      rw [hfind] at h
      exact (Except.ok.inj h).symm

/-- The paths of the record are in normal form and hold no quote. -/
def NormalNames (record : OperationRecord) : Prop :=
  ∀ path ∈ scopePaths record,
    '"' ∉ path ∧ path.getLast? ≠ some '/' ∧ worktreePath (String.ofList path) = path

instance (record : OperationRecord) : Decidable (NormalNames record) :=
  inferInstanceAs (Decidable (∀ path ∈ scopePaths record,
    '"' ∉ path ∧ path.getLast? ≠ some '/' ∧ worktreePath (String.ofList path) = path))

theorem worktreePath_of_ordinary {path : Text} (h : isOrdinaryPath path) :
    worktreePath (String.ofList path) = path := by
  simp only [isOrdinaryPath, Bool.and_eq_true, decide_eq_true_eq] at h
  rw [worktreePath, String.toList_ofList]
  exact h.1.1.1.1.2

theorem getLast?_of_ordinary {path : Text} (h : isOrdinaryPath path) : path.getLast? ≠ some '/' := by
  simp only [isOrdinaryPath, Bool.and_eq_true, decide_eq_true_eq] at h
  exact h.1.1.1.2

section

variable {before : Repository} {pathspecs : Pathspecs} {record : OperationRecord}

/-- `git restore` from HEAD. -/
theorem towardsBaseline_gitRestore (hborn : before.Born) {source : String}
    (hsource : source = before.head) {specs : List Text} {repository left : Repository}
    (hrepository : TowardsBaseline before repository)
    (h : gitRestore pathspecs source specs repository = .ok left) : TowardsBaseline before left := by
  -- HEAD and the commits did not move, so git resolves the recorded baseline
  have hborn' : repository.Born := by
    rw [Repository.Born, Repository.commit?, hrepository.head, hrepository.commits]
    exact hborn
  have hcommit : resolveCommit repository source = .ok repository.head := by
    rw [hsource, ← hrepository.head]
    exact resolveCommit_head hborn'
  have htree : repository.headTree = before.headTree := by
    rw [Repository.headTree, Repository.headTree, Repository.treeOf, Repository.treeOf,
      Repository.commit?, Repository.commit?, hrepository.commits, hrepository.head]
  obtain ⟨selections, -, rfl⟩ := gitRestore_eq_ok hcommit h
  -- a path is restored to the baseline or left as it was
  refine ⟨hrepository.head, hrepository.commits, fun path => ?_, fun path => ?_⟩
  · have hget := get?_copyPaths repository.headTree repository.index
      ((repository.known repository.head).filter fun path =>
        selections.any fun selects => selects path) path
    split at hget
    · exact Or.inr (hget.trans (by rw [htree]))
    · exact (hrepository.index path).imp hget.trans hget.trans
  · have hget := get?_copyPaths repository.headTree repository.work
      ((repository.known repository.head).filter fun path =>
        selections.any fun selects => selects path) path
    split at hget
    · exact Or.inr (Or.inl (hget.trans (by rw [htree])))
    · exact (hrepository.work path).imp hget.trans
        (Or.imp hget.trans (And.imp_right hget.trans))

theorem emits_removeCreated {relative : String} (hdirty : before.Dirty (worktreePath relative)) :
    EmitsRepository (TowardsBaseline before) (removeCreated relative) := by
  -- an unlinked path was dirty before, and goes nowhere but to absence
  have hunlink : ∀ repository : Repository, TowardsBaseline before repository →
      EmitsRepository (TowardsBaseline before)
        (Program.write (.git (unlink repository (worktreePath relative))) : CheckoutM Unit) := by
    intro repository hrepository
    refine emitsFrom_write ⟨hrepository.head, hrepository.commits, hrepository.index, fun path => ?_⟩
    have hget := Tree.get?_set repository.work (worktreePath relative) none path
    by_cases hpath : path = worktreePath relative
    · rw [if_pos hpath] at hget
      exact Or.inr (Or.inr ⟨hpath ▸ hdirty, hget⟩)
    · rw [if_neg hpath] at hget
      exact (hrepository.work path).imp hget.trans
        (Or.imp hget.trans (And.imp_right hget.trans))
  rw [removeCreated]
  -- the worktree is read, and then at most one file is unlinked
  refine EmitsFrom.bind (keeps_ofRepository _) (q := TowardsBaseline before)
    (silent_read _).emitsFrom (fun checkout repository hcheckout h => ?_)
    fun repository hrepository => ?_
  · obtain rfl := Except.ok.inj h
    exact hcheckout
  · cases repository.fileTree relative with
    | file _ => exact hunlink repository hrepository
    | symlink _ => exact hunlink repository hrepository
    | other => exact (silent_raise _).emitsFrom
    | absent => exact (silent_pure _).emitsFrom

theorem emits_removeCreatedPaths {files : FileEvidence}
    (hdirty : ∀ entry ∈ files, before.Dirty (worktreePath entry.1)) :
    EmitsRepository (TowardsBaseline before) (removeCreatedPaths files) := by
  induction files with
  | nil => exact (silent_pure _).emitsFrom
  | cons entry files ih =>
      obtain ⟨relative, evidence⟩ := entry
      obtain ⟨hfirst, hrest⟩ := List.forall_mem_cons.mp hdirty
      rw [removeCreatedPaths]
      by_cases hnull : isNull evidence
      · simp only [hnull, if_true]
        exact (emits_removeCreated hfirst).bind fun _ => ih hrest
      · simp only [hnull]
        exact ih hrest

theorem emits_restoreRecordedBaseline (hborn : before.Born)
    (hhead : pyStr (field record "baseline_head") = before.head)
    (hdirty : ∀ files, field record "baseline_files" = .obj files →
      ∀ entry ∈ files, before.Dirty (worktreePath entry.1)) :
    EmitsRepository (TowardsBaseline before) (restoreRecordedBaseline pathspecs record) := by
  rw [restoreRecordedBaseline]
  cases hfiles : field record "baseline_files" with
  | obj files =>
      -- after the restore, or without one, only created paths are removed
      have hremove := emits_removeCreatedPaths (hdirty files hfiles)
      by_cases htracked : trackedPaths files ≠ []
      · simp only [htracked, ne_eq, not_false_eq_true, if_true]
        refine EmitsFrom.bind (keeps_ofRepository _) (q := TowardsBaseline before)
          (silent_read _).emitsFrom (fun checkout repository hcheckout h => ?_)
          fun repository hrepository => ?_
        · obtain rfl := Except.ok.inj h
          exact hcheckout
        · refine EmitsFrom.bind (keeps_ofRepository _) (q := TowardsBaseline before)
            (silent_lift _).emitsFrom (fun checkout left _ h => ?_) fun left hleft => ?_
          · cases hrestore : gitRestore pathspecs (pyStr (field record "baseline_head"))
                (trackedPaths files) repository with
            | error e =>
                rw [hrestore] at h
                cases h
            | ok result =>
                rw [hrestore] at h
                obtain rfl : result = left := Except.ok.inj h
                exact towardsBaseline_gitRestore hborn hhead hrepository hrestore
          -- the restored repository is written, and the loop goes on from it
          · exact EmitsRepository.bind (emitsFrom_write hleft) fun _ => hremove
      · simp only [htracked, if_false]
        exact hremove
  | null => exact (silent_raise _).emitsFrom
  | bool _ => exact (silent_raise _).emitsFrom
  | int _ => exact (silent_raise _).emitsFrom
  | float _ => exact (silent_raise _).emitsFrom
  | str _ => exact (silent_raise _).emitsFrom
  | arr _ => exact (silent_raise _).emitsFrom

end

/-! ## A resolution that may stop anywhere -/

section

variable {pathspecs : Pathspecs} {operationId action : String} {checkout : Checkout}

theorem operationId_commitRecord (record : OperationRecord) (full : String) :
    field (commitRecord record full) "operation_id" = field record "operation_id" := by
  rw [commitRecord]
  split
  · rw [field_dictInsert, if_neg (by decide), field_dictInsert, if_neg (by decide)]
  · rw [field_dictInsert, if_neg (by decide)]

/-- What `load` and `_classify` return. -/
theorem classifyStored_eq_ok {item : ReconciliationItem} {record : OperationRecord}
    (h : (classifyStored runtime outside operationId checkout).value = .ok (item, record)) :
    ∃ loaded rewritten, (loadRecord runtime operationId checkout.ledger).value = .ok loaded ∧
      classification runtime (repositoryView outside checkout.repository) (.valid loaded) =
        .ok (item, rewritten) ∧ (rewritten = none → record = loaded) ∧
      pyStr (field record "operation_id") = operationId := by
  have hload : onLedger (loadRecord runtime operationId) checkout =
      ⟨[], (loadRecord runtime operationId checkout.ledger).value⟩ := rfl
  rw [classifyStored, bind_run, hload] at h
  -- the record is loaded first; what it raises ends the call
  cases hloaded : (loadRecord runtime operationId checkout.ledger).value with
  | error e =>
      rw [hloaded] at h
      cases h
  | ok loaded =>
      rw [hloaded] at h
      have hname := pyStr_of_isText (loadRecord_eq_ok hloaded).2.identity
      refine ⟨loaded, ?_⟩
      simp only [applyAll_nil, read_bind] at h
      cases hclass : classification runtime (repositoryView outside checkout.repository)
          (.valid loaded) with
      | error e =>
          have hclassify : onLedger (classify runtime
              (repositoryView outside checkout.repository) (.valid loaded)) checkout =
              ⟨[], .error e⟩ := by
            rw [onLedger, classify, lift_bind_error _ hclass]
            rfl
          rw [bind_of_error hclassify] at h
          cases h
      | ok result =>
          obtain ⟨found, rewritten⟩ := result
          -- the classification may write the record it read, or a record with the commit filled in
          cases rewritten with
          | none =>
              have hclassify : onLedger (classify runtime
                  (repositoryView outside checkout.repository) (.valid loaded)) checkout =
                  ⟨[], .ok (found, .valid loaded)⟩ := by
                rw [onLedger, classify, lift_bind_ok _ hclass]
                rfl
              rw [bind_of_ok hclassify] at h
              obtain ⟨rfl, rfl⟩ := Prod.mk.inj (Except.ok.inj h)
              exact ⟨none, rfl, rfl, fun _ => rfl, hname⟩
          | some left =>
              have hclassify : onLedger (classify runtime
                  (repositoryView outside checkout.repository) (.valid loaded)) checkout =
                  ⟨[.record (pyStr (field left "operation_id"), sealRecord runtime left)],
                    .ok (found, .valid (sealRecord runtime left))⟩ := by
                rw [onLedger, classify, lift_bind_ok _ hclass]
                rfl
              rw [bind_of_ok hclassify] at h
              obtain ⟨rfl, hrecord⟩ := Prod.mk.inj (Except.ok.inj h)
              refine ⟨some left, rfl, rfl, fun hnone => absurd hnone (Option.some_ne_none _), ?_⟩
              obtain hnone | ⟨full, hfull⟩ := (classification_cases hclass).1
              · cases hnone
              · rw [← hrecord, Option.some.inj hfull, sealRecord, field_dictInsert,
                  if_neg (by decide), operationId_commitRecord]
                exact hname

theorem emits_endOperation {property : Repository → Prop} (outcome detail : String) :
    EmitsRepository property (endOperation runtime outside operationId outcome detail) := by
  rw [endOperation]
  exact (emitsRepository_onLedger _).bind fun _ => (silent_pure _).emitsFrom

/-- What `restore-patch` runs. -/
theorem resolveAction_restore {item : ReconciliationItem} {record : OperationRecord}
    (h : item.classification = "patch_applied") :
    resolveAction runtime pathspecs outside operationId "restore-patch" item record =
      restorePatch runtime pathspecs outside operationId record := by
  have hcomplete : ¬ ("restore-patch" = "complete-state" ∧
      item.safeAction = some "complete_state") := fun hboth => absurd hboth.1 (by decide)
  have hfinish : ¬ ("restore-patch" = "finish-ledger" ∧
      item.safeAction = some "finish_ledger") := fun hboth => absurd hboth.1 (by decide)
  have hcancel : ¬ ("restore-patch" = "cancel-intent" ∧
      item.classification = "not_started") := fun hboth => absurd hboth.1 (by decide)
  rw [resolveAction, if_neg hcomplete, if_neg hfinish, if_neg hcancel, if_pos ⟨rfl, h⟩]

/-- Only a restoration touches the repository. -/
theorem emits_resolveAction_of_other {property : Repository → Prop} {item : ReconciliationItem}
    {record : OperationRecord}
    (h : ¬ (action = "restore-patch" ∧ item.classification = "patch_applied")) :
    EmitsRepository property
      (resolveAction runtime pathspecs outside operationId action item record) := by
  rw [resolveAction]
  split
  · exact EmitsRepository.bind (silent_read _).emitsFrom fun _ => emitsRepository_onLedger _
  · split
    · exact emits_endOperation _ _
    · split
      · exact emits_endOperation _ _
      · exact (silent_raise _).emitsFrom

theorem emits_restorePatch {before : Repository} {record : OperationRecord}
    (h : EmitsRepository (TowardsBaseline before) (restoreRecordedBaseline pathspecs record)) :
    EmitsRepository (TowardsBaseline before)
      (restorePatch runtime pathspecs outside operationId record) := by
  rw [restorePatch]
  refine h.bind fun _ => ?_
  refine EmitsRepository.bind (silent_read _).emitsFrom fun repository => ?_
  refine EmitsRepository.bind (silent_lift _).emitsFrom fun head => ?_
  split
  · exact EmitsRepository.bind (silent_raise _).emitsFrom fun _ => emits_endOperation _ _
  · exact emits_endOperation _ _

/-- HEAD is a commit, and the record of the operation has an outcome that the ledger writes and
    paths in normal form. -/
structure Resolvable (runtime : LedgerRuntime) (operationId : String) (checkout : Checkout) :
    Prop where
  born : checkout.repository.Born
  outcome : ∀ record, (loadRecord runtime operationId checkout.ledger).value = .ok record →
    KnownOutcome record
  scope : ∀ record, (loadRecord runtime operationId checkout.ledger).value = .ok record →
    NormalNames record

/-- The evidence of a record is about the paths of its scope. -/
theorem keys_of_validateScope {phases scope post : Json} {baseline : FileEvidence}
    (h : validateScope operationId phases scope (.obj baseline) post = .ok ()) :
    ∃ paths, scope = .arr paths ∧ sameSet (baseline.map Prod.fst) (paths.map pyStr) := by
  cases phases with
  | obj phases =>
      cases scope with
      | arr paths =>
          cases post with
          | obj post =>
              rw [validateScope] at h
              obtain ⟨hkeys, -⟩ := unit_bind_eq_ok.mp h
              rw [requireLedger_eq_ok, Bool.and_eq_true] at hkeys
              exact ⟨paths, rfl, hkeys.1⟩
          | null => cases h
          | bool _ => cases h
          | int _ => cases h
          | float _ => cases h
          | str _ => cases h
          | arr _ => cases h
      | null => cases h
      | bool _ => cases h
      | int _ => cases h
      | float _ => cases h
      | str _ => cases h
      | obj _ => cases h
  | null => cases h
  | bool _ => cases h
  | int _ => cases h
  | float _ => cases h
  | str _ => cases h
  | arr _ => cases h

/-- The created and the changed paths of a record whose patch is applied are not clean. -/
theorem dirty_of_baseline {repository : Repository} {record : OperationRecord}
    (hbody : ValidBody runtime operationId record) (hscope : NormalNames record)
    (happlied : PatchApplied runtime repository record) {files : FileEvidence}
    (hfiles : field record "baseline_files" = .obj files) {entry : String × Json}
    (hentry : entry ∈ files) : repository.Dirty (worktreePath entry.1) := by
  have hkey : entry.1 ∈ listTexts (field record "expected_changed_files") := by
    have hvalid := hbody.scope
    rw [hfiles] at hvalid
    obtain ⟨paths, hpaths, hkeys⟩ := keys_of_validateScope hvalid
    rw [hpaths]
    exact (sameSet_iff.mp hkeys _).mp (List.mem_map_of_mem hentry)
  have hpath : entry.1.toList ∈ scopePaths record := List.mem_map_of_mem hkey
  have hname := (hscope _ hpath).2.2
  rw [String.ofList_toList] at hname
  rw [hname]
  exact (dirty_iff_of_showsExactly (fun path h => (hscope path h).1)
    (fun path h => (hscope path h).2.1) happlied.names _).mpr hpath

end

/-! ### One modified file -/

/-- A repository with the file `f`. -/
def oneFileRepository : Repository where
  commits := [⟨"1111", [], "first".toList, [("f".toList, { content := "old\n" })]⟩]
  head := "1111"
  index := [("f".toList, { content := "old\n" })]
  work := [("f".toList, { content := "old\n" })]

/-- Names are taken literally or refused. -/
def literalPathspecs : Pathspecs where
  select spec := if isOrdinaryPath spec then .ok (covers spec) else .error ⟨"fatal: bad pathspec"⟩
  ordinary _ h := if_pos h

/-- A store that knows nothing of the task. -/
def emptyState : StateView where
  stateComplete _ _ := .ok false
  completeStore _ := .ok ()
  now := "t4"

/-- `f` with its new line in the worktree, and the record of the task that changed it. -/
def modifiedCheckout : Checkout where
  repository := { oneFileRepository with work := [("f".toList, { content := "new\n" })] }
  ledger := (do
    let _ ← beginTask oneFileRuntime oneFileView firstOperation "task-1" modifyPatch ["f"]
    let _ ← recordPhase oneFileRuntime "op-1" "patch_applied" "t2" []
    : LedgerM Unit).final {}

theorem resolvable_modifiedCheckout : Resolvable oneFileRuntime "op-1" modifiedCheckout := by
  have hall : ((loadRecord oneFileRuntime "op-1" modifiedCheckout.ledger).value.toOption.all
      fun record => decide (KnownOutcome record) && decide (NormalNames record)) = true := by
    decide +kernel
  have hboth : ∀ record, (loadRecord oneFileRuntime "op-1" modifiedCheckout.ledger).value =
      .ok record → KnownOutcome record ∧ NormalNames record := by
    intro record hload
    rw [hload] at hall
    have hchecked : (decide (KnownOutcome record) && decide (NormalNames record)) = true := hall
    rwa [Bool.and_eq_true, decide_eq_true_eq, decide_eq_true_eq] at hchecked
  exact ⟨rfl, fun record hload => (hboth record hload).1, fun record hload => (hboth record hload).2⟩

section

variable {pathspecs : Pathspecs} {operationId action : String} {checkout : Checkout}

/-! ## A resolution that returns -/

/-- The record is on file with this outcome, once the program has returned. -/
def Ends {α : Type} (runtime : LedgerRuntime) (operationId outcome : String) (m : LedgerM α) : Prop :=
  ∀ ledger a, (m ledger).value = .ok a → ∀ record,
    (loadRecord runtime operationId (m.final ledger)).value = .ok record →
      isText (field record "terminal_outcome") outcome

theorem isText_endedRecord (runtime : LedgerRuntime) (record : OperationRecord) (outcome : String) (detail : Option String)
    (now : String) : isText
      (field (sealRecord runtime (endedRecord runtime record outcome detail now)) "terminal_outcome")
      outcome ∧
    field (endedRecord runtime record outcome detail now) "operation_id" =
      field record "operation_id" := by
  constructor
  · simp [sealRecord, endedRecord, field_dictInsert, isText]
  · simp [endedRecord, field_dictInsert]

/-- What `terminal` returned on is on file. -/
theorem ends_recordTerminal (outcome : String) (detail : Option String) (now : String) :
    Ends runtime operationId outcome (recordTerminal runtime operationId outcome detail now) := by
  intro ledger a h record hrecord
  rw [recordTerminal] at h hrecord
  by_cases hunknown : (!terminalOutcomes.contains outcome) = true
  · rw [if_pos hunknown] at h
    cases h
  · rw [if_neg hunknown] at h hrecord
    obtain ⟨loaded, hload, h, hfinal⟩ := exists_of_bind_ok h
    rw [hfinal] at hrecord
    have hsilent : (loadRecord runtime operationId).final ledger = ledger := rfl
    rw [hsilent] at h hrecord
    -- a record that has ended is kept when it ended with the same outcome
    have hkept : ∀ existing : Json, field loaded "terminal_outcome" = existing →
        ((if isText existing outcome then return loaded
          else raise (.ledger ("Operation already ended as " ++ pyStr existing ++ ": " ++
            operationId)) : LedgerM OperationRecord) ledger).value = .ok a →
        (loadRecord runtime operationId ((if isText existing outcome then return loaded
          else raise (.ledger ("Operation already ended as " ++ pyStr existing ++ ": " ++
            operationId)) : LedgerM OperationRecord).final ledger)).value = .ok record →
        isText (field record "terminal_outcome") outcome := by
      intro existing hexisting hvalue hreload
      by_cases hsame : isText existing outcome
      · rw [if_pos hsame] at hreload
        obtain rfl : loaded = record := Except.ok.inj (hload.symm.trans hreload)
        rwa [hexisting]
      · rw [if_neg hsame] at hvalue
        cases hvalue
    -- an open record is ended and written back
    cases houtcome : field loaded "terminal_outcome" with
    | null =>
        rw [houtcome] at hrecord
        obtain ⟨hid, hbody⟩ := loadRecord_eq_ok hload
        obtain ⟨hended, hname⟩ := isText_endedRecord runtime loaded outcome detail now
        have hfile : dictGet? ((writeRecord runtime
            (endedRecord runtime loaded outcome detail now)).final ledger).files operationId =
            some (sealRecord runtime (endedRecord runtime loaded outcome detail now)) := by
          show dictGet? (dictInsert ledger.files _) operationId = _
          rw [dictGet?_dictInsert, hname, pyStr_of_isText hbody.identity, if_pos rfl]
        rw [show (loadRecord runtime operationId _).value = _ from if_pos hid, hfile] at hrecord
        obtain ⟨rfl, -⟩ := validateRecord_eq_ok.mp hrecord
        exact hended
    | bool b =>
        rw [houtcome] at h hrecord
        exact hkept _ houtcome h hrecord
    | int n =>
        rw [houtcome] at h hrecord
        exact hkept _ houtcome h hrecord
    | float x =>
        rw [houtcome] at h hrecord
        exact hkept _ houtcome h hrecord
    | str text =>
        rw [houtcome] at h hrecord
        exact hkept _ houtcome h hrecord
    | arr items =>
        rw [houtcome] at h hrecord
        exact hkept _ houtcome h hrecord
    | obj members =>
        rw [houtcome] at h hrecord
        exact hkept _ houtcome h hrecord

theorem ends_completeState (view : ReconcileView) (record : OperationRecord)
    (hname : pyStr (field record "operation_id") = operationId) :
    Ends runtime operationId "complete" (completeState runtime view record) := by
  intro ledger a h
  rw [completeState, hname] at h ⊢
  obtain ⟨_, -, h, hfinal⟩ := exists_of_bind_ok h
  rw [hfinal]
  obtain ⟨_, -, h, hfinal⟩ := exists_of_bind_ok h
  rw [hfinal]
  obtain ⟨written, hended, -, hfinal⟩ := exists_of_bind_ok h
  rw [hfinal]
  exact ends_recordTerminal _ _ _ _ written hended

theorem final_onLedger {α : Type} (m : LedgerM α) (checkout : Checkout) :
    (onLedger m).final checkout = { checkout with ledger := m.final checkout.ledger } := by
  have hwrites : ∀ (files : List (String × OperationRecord)) (checkout : Checkout),
      applyAll checkout (files.map CheckoutWrite.record) =
        { checkout with ledger := applyAll checkout.ledger files } := by
    intro files
    induction files with
    | nil => exact fun checkout => rfl
    | cons file files ih => exact fun checkout => ih _
  exact hwrites _ checkout

/-- The outcome an action ends an operation with. -/
def outcomeOf (action : String) : String :=
  if action = "cancel-intent" then "cancelled"
  else if action = "restore-patch" then "reverted" else "complete"

theorem endOperation_ok {outcome detail : String} {u : Unit}
    (h : (endOperation runtime outside operationId outcome detail checkout).value = .ok u) :
    let left := (endOperation runtime outside operationId outcome detail).final checkout
    (∀ ended, (loadRecord runtime operationId left.ledger).value = .ok ended →
      isText (field ended "terminal_outcome") outcome) ∧ left.repository = checkout.repository := by
  rw [endOperation] at h ⊢
  obtain ⟨written, hwritten, -, hfinal⟩ := exists_of_bind_ok h
  have hdone : (pure () : CheckoutM Unit).final ((onLedger
      (recordTerminal runtime operationId outcome (some detail) outside.now)).final checkout) =
      (onLedger (recordTerminal runtime operationId outcome (some detail) outside.now)).final
        checkout := rfl
  rw [hfinal, hdone, final_onLedger]
  exact ⟨ends_recordTerminal outcome (some detail) outside.now _ written hwritten, rfl⟩

/-- A restoration returns only over a clean worktree at the recorded baseline. -/
theorem restorePatch_ok {record : OperationRecord} {u : Unit}
    (h : (restorePatch runtime pathspecs outside operationId record checkout).value = .ok u) :
    let left := (restorePatch runtime pathspecs outside operationId record).final checkout
    (∀ ended, (loadRecord runtime operationId left.ledger).value = .ok ended →
      isText (field ended "terminal_outcome") "reverted") ∧
    MatchesHead left.repository ∧ isText (field record "baseline_head") left.repository.head := by
  rw [restorePatch] at h ⊢
  -- the restore, the status and HEAD are read in this order
  obtain ⟨_, -, h, hfinal⟩ := exists_of_bind_ok h
  rw [hfinal]
  generalize (restoreRecordedBaseline pathspecs record).final checkout = restored at h ⊢
  obtain ⟨repository, hread, h, hfinal⟩ := exists_of_bind_ok h
  rw [hfinal]
  obtain rfl : restored.repository = repository := Except.ok.inj hread
  obtain ⟨head, hhead, h, hfinal⟩ := exists_of_bind_ok h
  rw [hfinal]
  obtain rfl : restored.repository.head = head := Except.ok.inj hhead
  -- the check after the restore decides
  by_cases hexact : (!repositoryIsClean restored.repository ||
      !isText (field record "baseline_head") restored.repository.head) = true
  · rw [if_pos hexact] at h
    cases h
  · have hsilent : (lift (gitAnswer (currentHead restored.repository)) : CheckoutM String).final
        ((Program.read Checkout.repository : CheckoutM Repository).final restored) = restored := rfl
    rw [if_neg hexact, hsilent] at h ⊢
    obtain ⟨hended, hkept⟩ := endOperation_ok h
    rw [Bool.or_eq_true, not_or, Bool.not_eq_true', Bool.not_eq_true', Bool.not_eq_false,
      Bool.not_eq_false] at hexact
    refine ⟨hended, ?_⟩
    beta_reduce
    rw [hkept]
    exact ⟨(repositoryIsClean_iff _).mp hexact.1, hexact.2⟩

/-- An action that returned: the operation has ended, and a restoration has left a clean
    worktree at the recorded baseline. -/
theorem resolveAction_ok {item : ReconciliationItem} {record : OperationRecord} {u : Unit}
    (hname : pyStr (field record "operation_id") = operationId)
    (h : (resolveAction runtime pathspecs outside operationId action item record checkout).value =
      .ok u) :
    let left := (resolveAction runtime pathspecs outside operationId action item record).final checkout
    (∀ ended, (loadRecord runtime operationId left.ledger).value = .ok ended →
      isText (field ended "terminal_outcome") (outcomeOf action)) ∧
    (action = "restore-patch" → item.classification = "patch_applied" ∧
      MatchesHead left.repository ∧ isText (field record "baseline_head") left.repository.head) := by
  -- one case for each action, in the order of the source
  by_cases hcomplete : action = "complete-state" ∧ item.safeAction = some "complete_state"
  · rw [resolveAction, if_pos hcomplete] at h ⊢
    obtain ⟨view, -, h, hfinal⟩ := exists_of_bind_ok h
    obtain ⟨rfl, -⟩ := hcomplete
    refine ⟨?_, fun hrestore => absurd hrestore (by decide)⟩
    rw [hfinal, final_onLedger]
    exact ends_completeState view record hname _ u h
  · by_cases hfinish : action = "finish-ledger" ∧ item.safeAction = some "finish_ledger"
    · rw [resolveAction, if_neg hcomplete, if_pos hfinish] at h ⊢
      obtain ⟨rfl, -⟩ := hfinish
      exact ⟨(endOperation_ok h).1, fun hrestore => absurd hrestore (by decide)⟩
    · by_cases hcancel : action = "cancel-intent" ∧ item.classification = "not_started"
      · rw [resolveAction, if_neg hcomplete, if_neg hfinish, if_pos hcancel] at h ⊢
        obtain ⟨rfl, -⟩ := hcancel
        exact ⟨(endOperation_ok h).1, fun hrestore => absurd hrestore (by decide)⟩
      · by_cases hrestore : action = "restore-patch" ∧ item.classification = "patch_applied"
        · obtain ⟨rfl, hitem⟩ := hrestore
          rw [resolveAction_restore hitem] at h ⊢
          obtain ⟨hended, hclean, hhead⟩ := restorePatch_ok h
          exact ⟨hended, fun _ => ⟨hitem, hclean, hhead⟩⟩
        · rw [resolveAction, if_neg hcomplete, if_neg hfinish, if_neg hcancel, if_neg hrestore] at h
          cases h

/-- **A resolution that returns has ended the operation.**  After `restore-patch` the index and
    the worktree are those of the recorded baseline, which is HEAD; any other action has left the
    repository alone. -/
theorem guardedResolve_ok {item : ReconciliationItem}
    (h : (guardedResolve runtime pathspecs outside operationId action checkout).value = .ok item) :
    let left := (guardedResolve runtime pathspecs outside operationId action).final checkout
    item.terminal ∧ item.classification = outcomeOf action ∧
      (action = "restore-patch" → MatchesHead left.repository ∧
        ∃ record, (loadRecord runtime operationId checkout.ledger).value = .ok record ∧
          isText (field record "baseline_head") left.repository.head) ∧
      (action ≠ "restore-patch" → left.repository = checkout.repository) := by
  intro left
  have hleft : left = (guardedResolve runtime pathspecs outside operationId action).final checkout := rfl
  rw [guardedResolve] at h hleft
  -- the run is read backwards: classified, resolved, classified again
  obtain ⟨⟨found, record⟩, hstored, h, hfinal⟩ := exists_of_bind_ok h
  rw [hfinal] at hleft
  have hsame : ((classifyStored runtime outside operationId).final checkout).repository =
      checkout.repository :=
    final_repository (fun property => emitsRepository_classifyStored property _ _ _) checkout
  generalize (classifyStored runtime outside operationId).final checkout = classified at h hleft hsame
  obtain ⟨_, hresolved, h, hfinal⟩ := exists_of_bind_ok h
  rw [hfinal] at hleft
  obtain ⟨loaded, rewritten, hload, hclass, hsource, hname⟩ := classifyStored_eq_ok hstored
  obtain ⟨hended, hrestored⟩ := resolveAction_ok hname hresolved
  -- every other action leaves the repository alone
  have hother : ¬ (action = "restore-patch" ∧ found.classification = "patch_applied") →
      ((resolveAction runtime pathspecs outside operationId action found record).final
        classified).repository = classified.repository := fun hnot =>
    final_repository (fun _ => emits_resolveAction_of_other hnot) classified
  generalize (resolveAction runtime pathspecs outside operationId action found record).final
    classified = resolved at h hleft hended hrestored hother
  -- the last classification reads the record that has ended
  obtain ⟨⟨last, lastRecord⟩, hreload, h, hfinal⟩ := exists_of_bind_ok h
  obtain rfl : last = item := Except.ok.inj h
  have hkept : left.repository = resolved.repository := by
    rw [hleft, hfinal]
    exact final_repository (fun property => emitsRepository_classifyStored property _ _ _) resolved
  obtain ⟨ended, again, hloadEnded, hclassEnded, -⟩ := classifyStored_eq_ok hreload
  have houtcome := hended ended hloadEnded
  have hclosed : isNull (field ended "terminal_outcome") = false := isNull_of_isText houtcome
  rw [classification_ended hclosed] at hclassEnded
  obtain ⟨rfl, -⟩ := Prod.mk.inj (Except.ok.inj hclassEnded)
  refine ⟨rfl, pyStr_of_isText houtcome, fun hrestore => ?_, fun hnot => ?_⟩
  · obtain ⟨hitem, hclean, hhead⟩ := hrestored hrestore
    obtain rfl := hsource ((classification_cases hclass).2 hitem).1
    rw [hkept]
    exact ⟨hclean, record, hload, hhead⟩
  · rw [hkept, hother fun hboth => hnot hboth.1, hsame]

end

/-- The whole restoration. -/
theorem guardedResolve_ok_modified :
    MatchesHead ((guardedResolve oneFileRuntime literalPathspecs emptyState "op-1"
      "restore-patch").final modifiedCheckout).repository := by
  have hvalue : (guardedResolve oneFileRuntime literalPathspecs emptyState "op-1" "restore-patch"
      modifiedCheckout).value = .ok ⟨"op-1", "task_commit", "reverted", none,
        "Operator restored exact expected paths to baseline.", true⟩ := by
    decide +kernel
  obtain ⟨-, -, hrestored, -⟩ := guardedResolve_ok hvalue
  exact (hrestored rfl).1

end LlmHarness
