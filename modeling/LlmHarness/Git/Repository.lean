/-
  LlmHarness.Git.Repository

  A Git repository as `git_ops.py` and `operations.py` see it: commits with
  their trees, HEAD, the index and the worktree, the commands that are run on
  them, and the functions that read the output of these commands.

  The commands follow Git's documentation: `status --porcelain` reports staged
  and unstaged changes and untracked files, a wholly untracked directory as one
  entry; names with unusual characters are quoted; `restore --staged --worktree`
  resets tracked paths.  The worktree is the files that `status` looks at: a file
  that an ignore rule hides is no part of it.  Submodules and rename detection
  are not part of the model, and neither is the order of the names, which no
  caller looks at.
-/

import Mathlib.Data.List.Dedup
import LlmHarness.Python.Dict
import LlmHarness.Python.Str

namespace LlmHarness

open Python

/-- `GitError`. -/
structure GitError where
  message : String
deriving DecidableEq, Repr

/-- What a path holds: a file with its mode, or a symbolic link with its target. -/
structure Blob where
  content : String
  executable : Bool := false
  symlink : Bool := false
deriving DecidableEq, Repr

/-- The files of a commit, of the index or of the worktree, by path. -/
abbrev Tree := List (Text × Blob)

namespace Tree

/-- The blob at a path. -/
def get? (tree : Tree) (path : Text) : Option Blob := dictGet? tree path

/-- Writes or removes a path. -/
def set (tree : Tree) (path : Text) : Option Blob → Tree
  | some blob => dictInsert tree (path, blob)
  | none => tree.filter fun entry => entry.1 ≠ path

theorem get?_set (tree : Tree) (path : Text) (blob : Option Blob) (other : Text) :
    (tree.set path blob).get? other = if other = path then blob else tree.get? other := by
  cases blob with
  | some blob => exact dictGet?_dictInsert tree (path, blob) other
  | none =>
      rw [set, get?, dictGet?, List.find?_filter]
      by_cases hother : other = path
      · subst hother
        rw [if_pos rfl, Option.map_eq_none_iff, List.find?_eq_none]
        intro entry _
        simp
      · rw [if_neg hother, get?, dictGet?]
        congr 2
        funext entry
        by_cases hentry : entry.1 = other
        · simp [hentry, hother]
        · simp [hentry]

theorem mem_keys_of_get? {tree : Tree} {path : Text} {blob : Blob} (h : tree.get? path = some blob) :
    path ∈ tree.map Prod.fst := by
  by_contra hnot
  rw [get?, (dictGet?_eq_none_iff tree path).mpr hnot] at h
  cases h

end Tree

/-- A commit. -/
structure Commit where
  sha : String
  parents : List String
  message : Text
  tree : Tree
deriving DecidableEq, Repr

/-- A repository with its worktree, but for ignored files. -/
structure Repository where
  commits : List Commit
  head : String
  index : Tree
  work : Tree

namespace Repository

/-- The commit with a full hash. -/
def commit? (repository : Repository) (sha : String) : Option Commit :=
  repository.commits.find? fun commit => commit.sha = sha

/-- The tree of a commit. -/
def treeOf (repository : Repository) (sha : String) : Tree :=
  match repository.commit? sha with
  | some commit => commit.tree
  | none => []

/-- The tree of HEAD. -/
def headTree (repository : Repository) : Tree := repository.treeOf repository.head

/-- Every path of HEAD, the index and the worktree. -/
def paths (repository : Repository) : List Text :=
  ((repository.headTree ++ repository.index ++ repository.work).map Prod.fst).dedup

end Repository

/-! ## Names -/

/-- The characters a name may hold without being quoted: printable ASCII but the
    quote and the backslash. -/
def isPlainNameChar (c : Char) : Bool :=
  0x20 ≤ c.toNat && c.toNat ≤ 0x7e && c != '"' && c != '\\'

/-- A byte as a backslash and three octal digits. -/
def octalByte (byte : Nat) : Text :=
  ['\\', Nat.digitChar (byte / 64 % 8), Nat.digitChar (byte / 8 % 8), Nat.digitChar (byte % 8)]

/-- The escape of one character in a quoted name. -/
def quoteNameChar (c : Char) : Text :=
  if isPlainNameChar c then [c]
  else match c.toNat with
    | 7 => ['\\', 'a']
    | 8 => ['\\', 'b']
    | 9 => ['\\', 't']
    | 10 => ['\\', 'n']
    | 11 => ['\\', 'v']
    | 12 => ['\\', 'f']
    | 13 => ['\\', 'r']
    | 34 => ['\\', '"']
    | 92 => ['\\', '\\']
    | _ => (String.utf8EncodeChar c).flatMap fun byte => octalByte byte.toNat

/-- A name as Git prints it (`core.quotePath`). -/
def quoteName (name : Text) : Text :=
  if name.all isPlainNameChar then name
  else '"' :: name.flatMap quoteNameChar ++ ['"']

/-- A name as `status --porcelain` prints it: also quoted when it holds a space. -/
def statusName (name : Text) : Text :=
  let quoted := quoteName name
  if ' ' ∈ quoted ∧ quoted.head? ≠ some '"' then '"' :: quoted ++ ['"'] else quoted

/-! ## `git status --porcelain` -/

/-- The code of a change. -/
def changeCode : Option Blob → Option Blob → Char
  | none, none => ' '
  | none, some _ => 'A'
  | some _, none => 'D'
  | some old, some new => if old = new then ' ' else 'M'

/-- The code of a path in the index against HEAD. -/
def stagedCode (repository : Repository) (path : Text) : Char :=
  changeCode (repository.headTree.get? path) (repository.index.get? path)

/-- The code of a path of the index in the worktree. -/
def unstagedCode (repository : Repository) (path : Text) : Char :=
  match repository.index.get? path with
  | none => ' '
  | some blob => changeCode (some blob) (repository.work.get? path)

/-- The line of a path that HEAD or the index holds, if it changed. -/
def trackedLine (repository : Repository) (path : Text) : Option Text :=
  if stagedCode repository path = ' ' ∧ unstagedCode repository path = ' ' then none
  else some (stagedCode repository path :: unstagedCode repository path :: ' ' :: statusName path)

/-- The directories of a path, outermost first. -/
def parentDirectories : Text → List Text
  | [] => []
  | c :: cs =>
    (if c = '/' then [[]] else []) ++ (parentDirectories cs).map fun directory => c :: directory

/-- No path of the index lies in the directory. -/
def isUntrackedDirectory (repository : Repository) (directory : Text) : Bool :=
  !repository.index.any fun entry => (directory ++ ['/']).isPrefixOf entry.1

/-- The name of an untracked path: the outermost wholly untracked directory it
    lies in, or the path itself. -/
def untrackedName (repository : Repository) (path : Text) : Option Text :=
  if (repository.index.get? path).isSome ∨ (repository.work.get? path).isNone then none
  else match (parentDirectories path).find? (isUntrackedDirectory repository) with
    | some directory => some (directory ++ ['/'])
    | none => some path

/-- The lines of `git status --porcelain`. -/
def statusLines (repository : Repository) : List Text :=
  repository.paths.filterMap (trackedLine repository) ++
    (repository.paths.filterMap (untrackedName repository)).dedup.map fun name =>
      '?' :: '?' :: ' ' :: statusName name

/-- What `git status --porcelain` prints. -/
def statusPorcelain (repository : Repository) : Text :=
  (statusLines repository).flatMap fun line => line ++ ['\n']

/-- `repository_is_clean`. -/
def repositoryIsClean (repository : Repository) : Bool :=
  isBlank (statusPorcelain repository)

/-- `value.replace("\\", "/")`. -/
def forwardSlashes (value : Text) : Text :=
  value.map fun c => if c = '\\' then '/' else c

/-- `_working_changed_files`. -/
def workingChangedFiles (repository : Repository) : List Text :=
  ((splitlines (statusPorcelain repository)).filter fun line => !isBlank line).map fun line =>
    strip (forwardSlashes (line.drop 3))

/-! ## Commits -/

/-- `resolve_commit`: HEAD, a full hash, or an abbreviation of exactly one. -/
def resolveCommit (repository : Repository) (revision : String) : Except GitError String :=
  if revision = "HEAD" then .ok repository.head
  else if (repository.commit? revision).isSome then .ok revision
  else
    match repository.commits.filter fun commit => revision.toList.isPrefixOf commit.sha.toList with
    | [commit] =>
      if 4 ≤ revision.length then .ok commit.sha
      else .error ⟨"Unknown git commit: " ++ revision⟩
    | _ => .error ⟨"Unknown git commit: " ++ revision⟩

/-- `current_head`. -/
def currentHead (repository : Repository) : Except GitError String :=
  resolveCommit repository "HEAD"

/-- The lines of a message. -/
def messageLines : Text → List Text
  | [] => [[]]
  | c :: cs =>
    if c = '\n' then [] :: messageLines cs
    else match messageLines cs with
      | [] => [[c]]
      | line :: lines => (c :: line) :: lines

/-- `find_commit_by_trailer`. -/
def findCommitByTrailer (repository : Repository) (trailer value : String) :
    Except GitError (Option String) :=
  let line := (trailer ++ ": " ++ value).toList
  match repository.commits.filter fun commit => line ∈ messageLines commit.message with
  | [] => .ok none
  | [commit] => .ok (some commit.sha)
  | _ => .error ⟨"Multiple commits reference " ++ trailer ++ ": " ++ value⟩

/-- `commit_parents`, of a full hash. -/
def commitParents (repository : Repository) (sha : String) : Except GitError (List String) :=
  match repository.commit? sha with
  | some commit => .ok commit.parents
  | none => .error ⟨"git show parents failed"⟩

/-- What `git diff-tree --name-only` prints for two trees. -/
def diffTreeNames (old new : Tree) : Text :=
  (((old ++ new).map Prod.fst).dedup.filter fun path => old.get? path ≠ new.get? path).flatMap
    fun path => quoteName path ++ ['\n']

/-- The names `commit_changed_files` reads. -/
def readNames (printed : Text) : List Text :=
  ((splitlines printed).filter fun line => !isBlank line).map strip

/-- `commit_changed_files`, of a full hash.  For a merge `diff-tree` prints nothing. -/
def commitChangedFiles (repository : Repository) (sha : String) : Except GitError (List Text) :=
  match repository.commit? sha with
  | none => .error ⟨"git diff-tree failed"⟩
  | some commit =>
    match commit.parents with
    | [] => .ok (readNames (diffTreeNames [] commit.tree))
    | [parent] => .ok (readNames (diffTreeNames (repository.treeOf parent) commit.tree))
    | _ => .ok []

/-! ## Commands that change the repository -/

/-- What `git apply` writes: the content each path it touches ends with. -/
abbrev PatchEffect := List (Text × Option Blob)

/-- The files after a patch. -/
def applyEffect (tree : Tree) (effect : PatchEffect) : Tree :=
  effect.foldr (fun (path, blob) tree => tree.set path blob) tree

/-- `apply_patch`. -/
def applyPatch (repository : Repository) (effect : PatchEffect) : Repository :=
  { repository with work := applyEffect repository.work effect }

/-- Copies the given paths from one tree into another. -/
def copyPaths (source target : Tree) (paths : List Text) : Tree :=
  paths.foldr (fun path tree => tree.set path (source.get? path)) target

/-- `stage_paths`. -/
def stagePaths (repository : Repository) (paths : List Text) : Repository :=
  { repository with index := copyPaths repository.work repository.index paths }

/-- `git commit` with the hash the new commit gets. -/
def commitStaged (repository : Repository) (sha : String) (message : Text) : Repository :=
  { repository with
    commits := ⟨sha, [repository.head], message, repository.index⟩ :: repository.commits
    head := sha }

/-- `git restore --source --staged --worktree`. -/
def restorePaths (repository : Repository) (source : String) (paths : List Text) : Repository :=
  { repository with
    index := copyPaths (repository.treeOf source) repository.index paths
    work := copyPaths (repository.treeOf source) repository.work paths }

/-- `Path.unlink` on a file of the worktree. -/
def unlink (repository : Repository) (path : Text) : Repository :=
  { repository with work := repository.work.set path none }

/-! ## What the commands leave -/

theorem get?_applyEffect (tree : Tree) (effect : PatchEffect) (path : Text) :
    (applyEffect tree effect).get? path = (dictGet? effect path).getD (tree.get? path) := by
  induction effect with
  | nil => rfl
  | cons entry effect ih =>
      have hcons : applyEffect tree (entry :: effect) =
          (applyEffect tree effect).set entry.1 entry.2 := rfl
      rw [hcons, Tree.get?_set, ih]
      by_cases hpath : path = entry.1
      · subst hpath
        simp [dictGet?]
      · have hne : ¬ entry.1 = path := fun h => hpath h.symm
        simp [dictGet?, hpath, hne]

theorem get?_copyPaths (source target : Tree) (paths : List Text) (path : Text) :
    (copyPaths source target paths).get? path =
      if path ∈ paths then source.get? path else target.get? path := by
  induction paths with
  | nil => simp [copyPaths]
  | cons first paths ih =>
      have hcons : copyPaths source target (first :: paths) =
          (copyPaths source target paths).set first (source.get? first) := rfl
      rw [hcons, Tree.get?_set, ih]
      by_cases hpath : path = first
      · subst hpath
        simp
      · simp [hpath]

/-! ## When the status is clean -/

/-- The index and the worktree hold what HEAD holds. -/
structure MatchesHead (repository : Repository) : Prop where
  index : ∀ path, repository.index.get? path = repository.headTree.get? path
  work : ∀ path, repository.work.get? path = repository.headTree.get? path

theorem changeCode_eq_space_iff (old new : Option Blob) : changeCode old new = ' ' ↔ old = new := by
  cases old with
  | none =>
      cases new with
      | none => simp [changeCode]
      | some new => simp [changeCode]
  | some old =>
      cases new with
      | none => simp [changeCode]
      | some new =>
          rw [changeCode, Option.some.injEq]
          by_cases h : old = new
          · simp [h]
          · simp [h]

theorem isSpace_changeCode {old new : Option Blob} (h : changeCode old new ≠ ' ') :
    isSpace (changeCode old new) = false := by
  cases old with
  | none =>
      cases new with
      | none => exact absurd rfl h
      | some new => rfl
  | some old =>
      cases new with
      | none => rfl
      | some new =>
          rw [changeCode] at h ⊢
          by_cases hsame : old = new
          · exact absurd (if_pos hsame) h
          · rw [if_neg hsame]
            rfl

/-- The codes are spaces exactly where nothing differs. -/
theorem unstagedCode_eq_space_iff (repository : Repository) (path : Text) :
    unstagedCode repository path = ' ' ↔
      repository.index.get? path = none ∨
        repository.index.get? path = repository.work.get? path := by
  rw [unstagedCode]
  cases repository.index.get? path with
  | none => simp
  | some blob => simp [changeCode_eq_space_iff]

/-- A status line starts with two codes and a space, and not both codes are spaces. -/
theorem statusLine_shape {repository : Repository} {line : Text} (h : line ∈ statusLines repository) :
    ∃ x y name, line = x :: y :: ' ' :: statusName name ∧ (isSpace x = false ∨ isSpace y = false) := by
  rcases List.mem_append.mp h with h | h
  · obtain ⟨path, -, hline⟩ := List.mem_filterMap.mp h
    rw [trackedLine] at hline
    by_cases hcodes : stagedCode repository path = ' ' ∧ unstagedCode repository path = ' '
    · rw [if_pos hcodes] at hline
      cases hline
    · rw [if_neg hcodes] at hline
      refine ⟨_, _, path, (Option.some.inj hline).symm, ?_⟩
      by_cases hstaged : stagedCode repository path = ' '
      · right
        have hunstaged : unstagedCode repository path ≠ ' ' := fun hy => hcodes ⟨hstaged, hy⟩
        rw [unstagedCode] at hunstaged ⊢
        cases hindex : repository.index.get? path with
        | none =>
            rw [hindex] at hunstaged
            exact absurd rfl hunstaged
        | some blob =>
            rw [hindex] at hunstaged
            exact isSpace_changeCode hunstaged
      · exact Or.inl (isSpace_changeCode hstaged)
  · obtain ⟨name, -, rfl⟩ := List.mem_map.mp h
    exact ⟨'?', '?', name, rfl, Or.inl rfl⟩

theorem mem_statusPorcelain {repository : Repository} {line : Text}
    (h : line ∈ statusLines repository) {c : Char} (hc : c ∈ line) : c ∈ statusPorcelain repository :=
  List.mem_flatMap.mpr ⟨line, h, List.mem_append_left _ hc⟩

theorem repositoryIsClean_iff_lines (repository : Repository) :
    repositoryIsClean repository ↔ statusLines repository = [] := by
  constructor
  · intro hclean
    rw [List.eq_nil_iff_forall_not_mem]
    intro line hline
    obtain ⟨x, y, name, rfl, hcode⟩ := statusLine_shape hline
    have hall := List.all_eq_true.mp hclean
    rcases hcode with hcode | hcode
    · have hspace := hall x (mem_statusPorcelain hline (by simp))
      rw [hcode] at hspace
      cases hspace
    · have hspace := hall y (mem_statusPorcelain hline (by simp))
      rw [hcode] at hspace
      cases hspace
  · intro hlines
    rw [repositoryIsClean, statusPorcelain, hlines]
    rfl

theorem mem_paths_of_get? {repository : Repository} {path : Text} {blob : Blob}
    (h : repository.headTree.get? path = some blob ∨ repository.index.get? path = some blob ∨
      repository.work.get? path = some blob) : path ∈ repository.paths := by
  rw [Repository.paths, List.mem_dedup, List.map_append, List.map_append]
  rcases h with h | h | h
  · exact List.mem_append_left _ (List.mem_append_left _ (Tree.mem_keys_of_get? h))
  · exact List.mem_append_left _ (List.mem_append_right _ (Tree.mem_keys_of_get? h))
  · exact List.mem_append_right _ (Tree.mem_keys_of_get? h)

/-- A path has no entry exactly when nothing differs from HEAD there. -/
theorem no_entry_iff (repository : Repository) (path : Text) :
    (trackedLine repository path = none ∧ untrackedName repository path = none) ↔
      repository.index.get? path = repository.headTree.get? path ∧
        repository.work.get? path = repository.headTree.get? path := by
  -- no line for the tracked path: neither of its two codes says anything
  have htracked : trackedLine repository path = none ↔
      repository.headTree.get? path = repository.index.get? path ∧
        (repository.index.get? path = none ∨
          repository.index.get? path = repository.work.get? path) := by
    rw [trackedLine, ← unstagedCode_eq_space_iff, ← changeCode_eq_space_iff]
    by_cases hcodes : stagedCode repository path = ' ' ∧ unstagedCode repository path = ' '
    · rw [if_pos hcodes]
      exact iff_of_true rfl hcodes
    · rw [if_neg hcodes]
      exact iff_of_false (by simp) hcodes
  -- no line for the untracked path: it is in the index, or not in the worktree
  have huntracked : untrackedName repository path = none ↔
      (repository.index.get? path).isSome ∨ (repository.work.get? path).isNone := by
    rw [untrackedName]
    by_cases hskip : (repository.index.get? path).isSome ∨ (repository.work.get? path).isNone
    · rw [if_pos hskip]
      exact iff_of_true rfl hskip
    · rw [if_neg hskip]
      refine iff_of_false ?_ hskip
      cases (parentDirectories path).find? (isUntrackedDirectory repository) <;> simp
  rw [htracked, huntracked]
  -- the two together, for a path in the index and for one outside it
  cases repository.index.get? path with
  | none =>
      cases repository.work.get? path with
      | none => simp [eq_comm]
      | some blob =>
          -- an untracked file, whatever HEAD holds
          refine iff_of_false (by simp) fun h => ?_
          have hnone : some blob = none := h.2.trans h.1.symm
          cases hnone
  | some blob =>
      simp only [reduceCtorEq, false_or, Option.isSome_some, true_or, and_true]
      constructor
      · rintro ⟨hhead, hwork⟩
        exact ⟨hhead.symm, by rw [← hwork, hhead]⟩
      · rintro ⟨hindex, hwork⟩
        exact ⟨hindex.symm, by rw [hwork, hindex]⟩

theorem statusLines_eq_nil_iff (repository : Repository) : statusLines repository = [] ↔
    ∀ path ∈ repository.paths,
      trackedLine repository path = none ∧ untrackedName repository path = none := by
  rw [statusLines, List.append_eq_nil_iff, List.map_eq_nil_iff, List.filterMap_eq_nil_iff,
    List.eq_nil_iff_forall_not_mem]
  constructor
  · rintro ⟨htracked, huntracked⟩ path hpath
    refine ⟨htracked path hpath, ?_⟩
    cases hname : untrackedName repository path with
    | none => rfl
    | some name =>
        have hmem := List.mem_dedup.mpr (List.mem_filterMap.mpr ⟨path, hpath, hname⟩)
        exact absurd hmem (huntracked name)
  · intro h
    refine ⟨fun path hpath => (h path hpath).1, fun name hname => ?_⟩
    obtain ⟨path, hpath, hsome⟩ := List.mem_filterMap.mp (List.mem_dedup.mp hname)
    rw [(h path hpath).2] at hsome
    cases hsome

/-- **A clean status means that nothing differs from HEAD.** -/
theorem repositoryIsClean_iff (repository : Repository) :
    repositoryIsClean repository ↔ MatchesHead repository := by
  rw [repositoryIsClean_iff_lines, statusLines_eq_nil_iff]
  constructor
  · intro h
    -- a path in none of the three trees is the same in all of them
    have hsame : ∀ path, repository.index.get? path = repository.headTree.get? path ∧
        repository.work.get? path = repository.headTree.get? path := by
      intro path
      by_cases hpath : path ∈ repository.paths
      · exact (no_entry_iff repository path).mp (h path hpath)
      · have hnone : ∀ tree : Tree, (∀ blob, tree.get? path = some blob → path ∈ repository.paths) →
            tree.get? path = none := by
          intro tree htree
          cases hget : tree.get? path with
          | none => rfl
          | some blob => exact absurd (htree blob hget) hpath
        have hhead := hnone repository.headTree fun blob h => mem_paths_of_get? (Or.inl h)
        have hindex := hnone repository.index fun blob h => mem_paths_of_get? (Or.inr (Or.inl h))
        have hwork := hnone repository.work fun blob h => mem_paths_of_get? (Or.inr (Or.inr h))
        rw [hhead, hindex, hwork]
        exact ⟨rfl, rfl⟩
    exact ⟨fun path => (hsame path).1, fun path => (hsame path).2⟩
  · rintro ⟨hindex, hwork⟩ path _
    exact (no_entry_iff repository path).mpr ⟨hindex path, hwork path⟩

end LlmHarness
