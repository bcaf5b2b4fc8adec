/-
  LlmHarness.Git.Status

  Which names `_working_changed_files` reads from `git status --porcelain`.  A
  path that differs from HEAD is shown under its own name, unless it lies in a
  wholly untracked directory; a name is read back as it is only if Git does not
  quote it.
-/

import LlmHarness.Git.Patch
import LlmHarness.Python.Strip

namespace LlmHarness

open Python

/-! ## Names -/

/-- Git prints the name in a status as it is. -/
def isPlainName (path : Text) : Bool := path.all fun c => isPlainNameChar c && c != ' '

/-- The name read back from a status line. -/
def readStatusName (shown : Text) : Text := strip (forwardSlashes (statusName shown))

theorem isPlainNameChar_of_isPlainName {path : Text} (h : isPlainName path) :
    path.all isPlainNameChar := by
  rw [List.all_eq_true]
  intro c hc
  have hboth := List.all_eq_true.mp h c hc
  rw [Bool.and_eq_true] at hboth
  exact hboth.1

theorem ne_of_isPlainName {path : Text} (h : isPlainName path) {c : Char} (hc : c ∈ path) :
    c ≠ ' ' ∧ c ≠ '"' ∧ c ≠ '\\' := by
  have hboth := List.all_eq_true.mp h c hc
  simp only [isPlainNameChar, Bool.and_eq_true, bne_iff_ne] at hboth
  exact ⟨hboth.2, hboth.1.1.2, hboth.1.2⟩

theorem isSpace_of_isPlainName {path : Text} (h : isPlainName path) {c : Char} (hc : c ∈ path) :
    isSpace c = false := by
  have hboth := List.all_eq_true.mp h c hc
  simp only [isPlainNameChar, Bool.and_eq_true, decide_eq_true_eq, bne_iff_ne] at hboth
  have hlow : 0x20 ≤ c.toNat := hboth.1.1.1.1
  have hhigh : c.toNat ≤ 0x7e := hboth.1.1.1.2
  have hspace : c.toNat ≠ 0x20 := fun h => hboth.2 (Char.toNat_inj.mp h)
  rw [Bool.eq_false_iff]
  intro hwhite
  simp only [isSpace, Bool.or_eq_true, Bool.and_eq_true, decide_eq_true_eq, beq_iff_eq] at hwhite
  omega

/-- A plain name is read back as it is. -/
theorem readStatusName_of_plain {path : Text} (h : isPlainName path) : readStatusName path = path := by
  have hquote : quoteName path = path := if_pos (isPlainNameChar_of_isPlainName h)
  have hnospace : ' ' ∉ path := fun hc => (ne_of_isPlainName h hc).1 rfl
  have hname : statusName path = path := by
    rw [statusName]
    simp only [hquote, hnospace, false_and, if_false]
  -- no character of a plain name is printed in another way
  have hslashes : forwardSlashes path = path := by
    rw [forwardSlashes, List.map_congr_left fun c hc => if_neg (ne_of_isPlainName h hc).2.2,
      List.map_id']
  rw [readStatusName, hname, hslashes]
  have hkept : path.dropWhile isSpace = path := by
    cases path with
    | nil => rfl
    | cons c path =>
        have hfirst := isSpace_of_isPlainName h (List.mem_cons_self (a := c) (l := path))
        exact List.dropWhile_cons_of_neg (by simp [hfirst])
  have hend : path.rdropWhile isSpace = path := by
    rw [List.rdropWhile_eq_self_iff]
    intro hne
    rw [isSpace_of_isPlainName h (List.getLast_mem hne)]
    exact Bool.false_ne_true
  rw [strip, lstrip, hkept, rstrip, hend]

/-- Any other name is read back in its quotes. -/
theorem quote_mem_readStatusName {path : Text} (h : ¬ isPlainName path) :
    '"' ∈ readStatusName path := by
  -- the status prints the name in quotes
  have hhead : (statusName path).head? = some '"' := by
    rw [statusName]
    by_cases hplain : path.all isPlainNameChar
    -- a name with a blank is quoted although none of its characters is escaped
    · have hquote : quoteName path = path := if_pos hplain
      have hspace : ' ' ∈ path := by
        by_contra hnone
        refine h (List.all_eq_true.mpr fun c hc => ?_)
        rw [Bool.and_eq_true, bne_iff_ne]
        exact ⟨List.all_eq_true.mp hplain c hc, fun heq => hnone (heq ▸ hc)⟩
      have hfirst : path.head? ≠ some '"' := by
        intro hfirst
        have hmem := List.mem_of_mem_head? hfirst
        have hall := List.all_eq_true.mp hplain '"' hmem
        exact absurd hall (by decide)
      simp only [hquote, hspace, hfirst, ne_eq, not_false_eq_true, and_self, if_true]
      rfl
    · have hquote : quoteName path = '"' :: path.flatMap quoteNameChar ++ ['"'] := if_neg hplain
      have hfirst : (quoteName path).head? = some '"' := by
        rw [hquote]
        rfl
      simp only [hfirst, ne_eq, not_true_eq_false, and_false, if_false]
  -- the quote in front is no white space, so stripping leaves it
  obtain ⟨rest, hrest⟩ : ∃ rest, statusName path = '"' :: rest := by
    cases hname : statusName path with
    | nil =>
        rw [hname] at hhead
        cases hhead
    | cons c rest =>
        rw [hname] at hhead
        exact ⟨rest, by rw [← Option.some.inj hhead]⟩
  have hslashes : forwardSlashes (statusName path) = '"' :: forwardSlashes rest := by
    rw [hrest]
    rfl
  have hlstrip : lstrip ('"' :: forwardSlashes rest) = '"' :: forwardSlashes rest :=
    List.dropWhile_cons_of_neg (by decide)
  have hkept := rstrip_append_of_not_isSpace [] (forwardSlashes rest) (c := '"') rfl
  rw [readStatusName, hslashes, strip, hlstrip, ← List.nil_append ('"' :: forwardSlashes rest), hkept]
  exact List.mem_cons_self

/-! ## What a status shows -/

/-- The status has an entry under this name. -/
def Repository.Shows (repository : Repository) (shown : Text) : Prop :=
  trackedLine repository shown ≠ none ∨ ∃ path, untrackedName repository path = some shown

theorem mem_paths_of_trackedLine {repository : Repository} {path : Text}
    (h : trackedLine repository path ≠ none) : path ∈ repository.paths := by
  by_contra hnone
  have hhead : repository.headTree.get? path = none := by
    cases hget : repository.headTree.get? path with
    | none => rfl
    | some blob => exact absurd (mem_paths_of_get? (Or.inl hget)) hnone
  have hindex : repository.index.get? path = none := by
    cases hget : repository.index.get? path with
    | none => rfl
    | some blob => exact absurd (mem_paths_of_get? (Or.inr (Or.inl hget))) hnone
  refine h ?_
  rw [trackedLine, if_pos]
  constructor
  · rw [stagedCode, hhead, hindex]
    rfl
  · rw [unstagedCode, hindex]

theorem mem_paths_of_untrackedName {repository : Repository} {path shown : Text}
    (h : untrackedName repository path = some shown) : path ∈ repository.paths := by
  cases hget : repository.work.get? path with
  | none =>
      rw [untrackedName, if_pos (Or.inr (by rw [hget]; rfl))] at h
      cases h
  | some blob => exact mem_paths_of_get? (Or.inr (Or.inr hget))

/-- The lines of a status, by what they show. -/
theorem mem_statusLines {repository : Repository} {line : Text} :
    line ∈ statusLines repository ↔
      (∃ path, trackedLine repository path = some line) ∨
        ∃ path shown, untrackedName repository path = some shown ∧
          line = '?' :: '?' :: ' ' :: statusName shown := by
  rw [statusLines, List.mem_append, List.mem_filterMap, List.mem_map]
  constructor
  · rintro (⟨path, -, hline⟩ | ⟨shown, hshown, rfl⟩)
    · exact Or.inl ⟨path, hline⟩
    · obtain ⟨path, -, hname⟩ := List.mem_filterMap.mp (List.mem_dedup.mp hshown)
      exact Or.inr ⟨path, shown, hname, rfl⟩
  · rintro (⟨path, hline⟩ | ⟨path, shown, hname, rfl⟩)
    · have hsome : trackedLine repository path ≠ none := by
        rw [hline]
        exact Option.some_ne_none line
      exact Or.inl ⟨path, mem_paths_of_trackedLine hsome, hline⟩
    · refine Or.inr ⟨shown, ?_, rfl⟩
      exact List.mem_dedup.mpr
        (List.mem_filterMap.mpr ⟨path, mem_paths_of_untrackedName hname, hname⟩)

theorem printable_statusName {name : Text} {d : Char} (h : d ∈ statusName name) :
    isLineBoundary d = false := by
  rw [statusName] at h
  by_cases hquote : ' ' ∈ quoteName name ∧ (quoteName name).head? ≠ some '"'
  · simp only [hquote, ne_eq, not_false_eq_true, and_self, if_true] at h
    rcases List.mem_append.mp h with h | h
    · rcases List.mem_cons.mp h with rfl | h
      · rfl
      · exact isLineBoundary_quoteName h
    · rw [List.mem_singleton.mp h]
      rfl
  · simp only [hquote, if_false] at h
    exact isLineBoundary_quoteName h

theorem isLineBoundary_changeCode (old new : Option Blob) :
    isLineBoundary (changeCode old new) = false := by
  cases old with
  | none => cases new <;> rfl
  | some old =>
      cases new with
      | none => rfl
      | some new =>
          rw [changeCode]
          by_cases hsame : old = new
          · rw [if_pos hsame]
            rfl
          · rw [if_neg hsame]
            rfl

theorem isLineBoundary_statusLine {repository : Repository} {line : Text}
    (h : line ∈ statusLines repository) {c : Char} (hc : c ∈ line) : isLineBoundary c = false := by
  have hcode : isLineBoundary '?' = false ∧ isLineBoundary ' ' = false := ⟨rfl, rfl⟩
  -- the codes and the blanks are no boundaries, and the names are printed escaped
  have hshape : ∀ x y name, isLineBoundary x = false → isLineBoundary y = false →
      c ∈ x :: y :: ' ' :: statusName name → isLineBoundary c = false := by
    intro x y name hx hy hmem
    rcases List.mem_cons.mp hmem with rfl | hmem
    · exact hx
    · rcases List.mem_cons.mp hmem with rfl | hmem
      · exact hy
      · rcases List.mem_cons.mp hmem with rfl | hmem
        · exact hcode.2
        · exact printable_statusName hmem
  rcases mem_statusLines.mp h with ⟨path, hline⟩ | ⟨path, shown, -, rfl⟩
  · rw [trackedLine] at hline
    by_cases hcodes : stagedCode repository path = ' ' ∧ unstagedCode repository path = ' '
    · rw [if_pos hcodes] at hline
      cases hline
    · rw [if_neg hcodes] at hline
      obtain rfl := Option.some.inj hline
      refine hshape _ _ path (isLineBoundary_changeCode _ _) ?_ hc
      rw [unstagedCode]
      cases repository.index.get? path with
      | none => exact hcode.2
      | some blob => exact isLineBoundary_changeCode _ _
  · exact hshape '?' '?' shown hcode.1 hcode.1 hc

/-- **The names `_working_changed_files` returns are those the status shows.** -/
theorem mem_workingChangedFiles {repository : Repository} {name : Text} :
    name ∈ workingChangedFiles repository ↔
      ∃ shown, repository.Shows shown ∧ name = readStatusName shown := by
  -- no line of the status is split or dropped as blank
  have hlines : splitlines (statusPorcelain repository) = statusLines repository :=
    splitlines_printLines fun line hline c hc => isLineBoundary_statusLine hline hc
  have hkept : ∀ line ∈ statusLines repository, isBlank line = false := by
    intro line hline
    obtain ⟨x, y, name, rfl, hcode⟩ := statusLine_shape hline
    rcases hcode with hcode | hcode
    · exact not_isBlank_of_mem (by simp) hcode
    · exact not_isBlank_of_mem (by simp) hcode
  rw [workingChangedFiles, hlines, List.mem_map]
  constructor
  · rintro ⟨line, hline, rfl⟩
    rcases mem_statusLines.mp (List.mem_filter.mp hline).1 with ⟨path, htracked⟩ | ⟨path, shown, hname, rfl⟩
    · refine ⟨path, Or.inl (by rw [htracked]; exact Option.some_ne_none _), ?_⟩
      rw [trackedLine] at htracked
      by_cases hcodes : stagedCode repository path = ' ' ∧ unstagedCode repository path = ' '
      · rw [if_pos hcodes] at htracked
        cases htracked
      · rw [if_neg hcodes] at htracked
        rw [← Option.some.inj htracked]
        rfl
    · exact ⟨shown, Or.inr ⟨path, hname⟩, rfl⟩
  · rintro ⟨shown, hshown, rfl⟩
    -- every name that is shown has a line of its own
    obtain ⟨x, y, hline⟩ : ∃ x y, x :: y :: ' ' :: statusName shown ∈ statusLines repository := by
      rcases hshown with htracked | ⟨path, hname⟩
      · obtain ⟨line, hline⟩ := Option.ne_none_iff_exists'.mp htracked
        have hmem := mem_statusLines.mpr (Or.inl ⟨shown, hline⟩)
        rw [trackedLine] at hline
        by_cases hcodes : stagedCode repository shown = ' ' ∧ unstagedCode repository shown = ' '
        · rw [if_pos hcodes] at hline
          cases hline
        · rw [if_neg hcodes] at hline
          rw [← Option.some.inj hline] at hmem
          exact ⟨_, _, hmem⟩
      · exact ⟨'?', '?', mem_statusLines.mpr (Or.inr ⟨path, shown, hname, rfl⟩)⟩
    refine ⟨_, List.mem_filter.mpr ⟨hline, ?_⟩, rfl⟩
    rw [hkept _ hline]
    rfl

/-! ## Changed paths -/

/-- The index or the worktree differs from HEAD at the path. -/
def Repository.Dirty (repository : Repository) (path : Text) : Prop :=
  ¬ (repository.index.get? path = repository.headTree.get? path ∧
    repository.work.get? path = repository.headTree.get? path)

/-- The status shows the untracked path under the name of a directory. -/
def Repository.Collapsed (repository : Repository) (path : Text) : Prop :=
  repository.headTree.get? path = none ∧ repository.index.get? path = none ∧
    ∃ directory ∈ parentDirectories path, isUntrackedDirectory repository directory

/-- A changed path is shown, under its name or under the one of a directory. -/
theorem shows_of_dirty {repository : Repository} {path : Text} (h : repository.Dirty path) :
    repository.Shows path ∨
      ∃ directory, repository.Shows (directory ++ ['/']) ∧ repository.Collapsed path := by
  -- without a line of its own the path is untracked, shown itself or as a directory
  by_cases htracked : trackedLine repository path = none
  · have huntracked : untrackedName repository path ≠ none := fun hnone =>
      h ((no_entry_iff repository path).mp ⟨htracked, hnone⟩)
    obtain ⟨shown, hshown⟩ := Option.ne_none_iff_exists'.mp huntracked
    have hname := hshown
    rw [untrackedName] at hname
    by_cases hskip : (repository.index.get? path).isSome ∨ (repository.work.get? path).isNone
    · rw [if_pos hskip] at hname
      cases hname
    · rw [if_neg hskip] at hname
      rw [not_or, Option.not_isSome_iff_eq_none] at hskip
      cases hfind : (parentDirectories path).find? (isUntrackedDirectory repository) with
      | none =>
          rw [hfind] at hname
          obtain rfl := Option.some.inj hname
          exact Or.inl (Or.inr ⟨path, hshown⟩)
      | some directory =>
          rw [hfind] at hname
          obtain rfl := Option.some.inj hname
          -- no tracked line: HEAD does not hold the path either
          have hhead : repository.headTree.get? path = none := by
            rw [trackedLine] at htracked
            split at htracked
            next hcodes => rw [(changeCode_eq_space_iff _ _).mp hcodes.1, hskip.1]
            next => cases htracked
          exact Or.inr ⟨directory, Or.inr ⟨path, hshown⟩, hhead, hskip.1, directory,
            List.mem_of_find?_eq_some hfind, List.find?_some hfind⟩
  · exact Or.inl (Or.inl htracked)

/-- What is shown is a changed path or a directory. -/
theorem dirty_of_shows {repository : Repository} {shown : Text} (h : repository.Shows shown) :
    repository.Dirty shown ∨ ∃ directory, shown = directory ++ ['/'] := by
  rcases h with htracked | ⟨path, hname⟩
  · exact Or.inl fun hclean =>
      htracked ((no_entry_iff repository shown).mpr hclean).1
  · have hsome := hname
    rw [untrackedName] at hname
    by_cases hskip : (repository.index.get? path).isSome ∨ (repository.work.get? path).isNone
    · rw [if_pos hskip] at hname
      cases hname
    · rw [if_neg hskip] at hname
      cases hfind : (parentDirectories path).find? (isUntrackedDirectory repository) with
      | none =>
          rw [hfind] at hname
          obtain rfl := Option.some.inj hname
          refine Or.inl fun hclean => ?_
          rw [((no_entry_iff repository path).mpr hclean).2] at hsome
          cases hsome
      | some directory =>
          rw [hfind] at hname
          exact Or.inr ⟨directory, (Option.some.inj hname).symm⟩

/-- A collapsed path is not shown under its own name. -/
theorem not_shows_of_collapsed {repository : Repository} {path : Text}
    (hfile : path.getLast? ≠ some '/') (h : repository.Collapsed path) :
    ¬ repository.Shows path := by
  obtain ⟨hhead, hindex, directory, hmem, huntracked⟩ := h
  rintro (htracked | ⟨other, hname⟩)
  -- neither HEAD nor the index holds the path, so it has no tracked line
  · refine htracked ?_
    rw [trackedLine, if_pos]
    constructor
    · rw [stagedCode, hhead, hindex]
      rfl
    · rw [unstagedCode, hindex]
  -- an untracked line of the path would name its outermost directory
  · rw [untrackedName] at hname
    by_cases hskip : (repository.index.get? other).isSome ∨ (repository.work.get? other).isNone
    · rw [if_pos hskip] at hname
      cases hname
    · rw [if_neg hskip] at hname
      cases hfind : (parentDirectories other).find? (isUntrackedDirectory repository) with
      | none =>
          rw [hfind] at hname
          obtain rfl := Option.some.inj hname
          exact List.find?_eq_none.mp hfind directory hmem huntracked
      | some outermost =>
          rw [hfind] at hname
          obtain rfl := Option.some.inj hname
          exact hfile (by simp)

/-! ## When the names are the changed paths -/

/-- The names of a status are exactly the paths. -/
def Repository.ShowsExactly (repository : Repository) (paths : List Text) : Prop :=
  ∀ name, name ∈ workingChangedFiles repository ↔ name ∈ paths

variable {repository : Repository} {paths : List Text}

/-- Where no path holds a quote, what is shown is one of the paths, as it is. -/
theorem plain_of_showsExactly (hquote : ∀ path ∈ paths, '"' ∉ path)
    (h : repository.ShowsExactly paths) {shown : Text} (hshows : repository.Shows shown) :
    shown ∈ paths ∧ isPlainName shown := by
  have hname : readStatusName shown ∈ paths :=
    (h _).mp (mem_workingChangedFiles.mpr ⟨shown, hshows, rfl⟩)
  by_cases hself : isPlainName shown
  · rw [readStatusName_of_plain hself] at hname
    exact ⟨hname, hself⟩
  · exact absurd (quote_mem_readStatusName hself) (hquote _ hname)

/-- Paths without a quote that are exactly the names of the status are exactly the changed
    paths: a name that is shown in quotes would be one of them. -/
theorem dirty_iff_of_showsExactly (hquote : ∀ path ∈ paths, '"' ∉ path)
    (hfile : ∀ path ∈ paths, path.getLast? ≠ some '/') (h : repository.ShowsExactly paths)
    (path : Text) : repository.Dirty path ↔ path ∈ paths := by
  constructor
  · intro hdirty
    rcases shows_of_dirty hdirty with hself | ⟨directory, hdirectory, -⟩
    · exact (plain_of_showsExactly hquote h hself).1
    · exact absurd (by simp) (hfile _ (plain_of_showsExactly hquote h hdirectory).1)
  · intro hpath
    obtain ⟨shown, hshows, hname⟩ := mem_workingChangedFiles.mp ((h path).mpr hpath)
    rw [readStatusName_of_plain (plain_of_showsExactly hquote h hshows).2] at hname
    subst hname
    rcases dirty_of_shows hshows with hdirty | ⟨directory, rfl⟩
    · exact hdirty
    · exact absurd (by simp) (hfile _ hpath)

/-- **The names of a status are the changed paths** exactly when each of them has a plain
    name and none lies in a wholly untracked directory. -/
theorem showsExactly_iff (hdirty : ∀ path, repository.Dirty path ↔ path ∈ paths)
    (hquote : ∀ path ∈ paths, '"' ∉ path) (hfile : ∀ path ∈ paths, path.getLast? ≠ some '/')
    (hstaged : ∀ path ∈ paths, repository.index.get? path = none →
      repository.work.get? path ≠ none → repository.headTree.get? path = none) :
    repository.ShowsExactly paths ↔
      ∀ path ∈ paths, isPlainName path ∧ ¬ repository.Collapsed path := by
  constructor
  · intro h path hpath
    -- A changed path is shown itself, since no directory is among the paths.
    have hself : repository.Shows path := by
      rcases shows_of_dirty ((hdirty path).mpr hpath) with hself | ⟨directory, hdirectory, -⟩
      · exact hself
      · exact absurd (by simp) (hfile _ (plain_of_showsExactly hquote h hdirectory).1)
    refine ⟨(plain_of_showsExactly hquote h hself).2, fun hcollapsed => ?_⟩
    exact not_shows_of_collapsed (hfile path hpath) hcollapsed hself
  · intro h name
    -- Every name that is shown is a changed path, read back as printed.
    rw [mem_workingChangedFiles]
    constructor
    · rintro ⟨shown, hshows, rfl⟩
      have hmem : shown ∈ paths := by
        rcases dirty_of_shows hshows with hchanged | ⟨directory, rfl⟩
        · exact (hdirty shown).mp hchanged
        · -- a directory is shown for a path below it, which is then collapsed
          rcases hshows with htracked | ⟨path, hname⟩
          · exact (hdirty _).mp fun hclean => htracked ((no_entry_iff repository _).mpr hclean).1
          · have hpath : path ∈ paths := (hdirty path).mp fun hclean => by
              rw [((no_entry_iff repository path).mpr hclean).2] at hname
              cases hname
            refine absurd ?_ (h path hpath).2
            have hentry := hname
            rw [untrackedName] at hentry
            by_cases hskip : (repository.index.get? path).isSome ∨
                (repository.work.get? path).isNone
            · rw [if_pos hskip] at hentry
              cases hentry
            · rw [if_neg hskip] at hentry
              rw [not_or, Option.not_isSome_iff_eq_none, Option.isNone_iff_eq_none] at hskip
              cases hfind : (parentDirectories path).find? (isUntrackedDirectory repository) with
              | none =>
                  rw [hfind] at hentry
                  have heq := Option.some.inj hentry
                  exact absurd (by rw [heq]; simp) (hfile path hpath)
              | some outermost =>
                  exact ⟨hstaged path hpath hskip.1 hskip.2, hskip.1, outermost, List.mem_of_find?_eq_some hfind,
                    List.find?_some hfind⟩
      rwa [readStatusName_of_plain (h shown hmem).1]
    · intro hmem
      -- ... and every changed path is shown, as it lies in no collapsed directory.
      have hself : repository.Shows name := by
        rcases shows_of_dirty ((hdirty name).mpr hmem) with hself | ⟨directory, -, hcollapsed⟩
        · exact hself
        · exact absurd hcollapsed (h name hmem).2
      exact ⟨name, hself, (readStatusName_of_plain (h name hmem).1).symm⟩

end LlmHarness
