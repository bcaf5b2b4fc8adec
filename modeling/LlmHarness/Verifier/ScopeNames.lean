/-
  LlmHarness.Verifier.ScopeNames

  The crash recovery and the rollback compare two readings of one set of paths:
  the names `commit_changed_files` takes from `git diff-tree --name-only`, and
  the files the scan takes from the patch.  The first strips each line and keeps
  a quoted name as it is printed; the second reads the quotes back and strips
  only the end of a name.

  The readings agree for every patch of a set exactly when Git quotes none of
  its paths, none has white space at an end, and no path that may be one side of
  a rename holds ` b/`.
-/

import Mathlib.Data.Finset.Max
import LlmHarness.Verifier.ScanPrinted

namespace LlmHarness

open Python

/-! ## The names of the commit -/

theorem isBlank_quoteName_of_quoted {path : Text} (h : ¬ path.all isPlainNameChar) :
    isBlank (quoteName path) = false := by
  rw [quoteName_of_quoted h]
  exact not_isBlank_of_mem (c := '"') List.mem_cons_self rfl

theorem strip_quoteName_of_quoted {path : Text} (h : ¬ path.all isPlainNameChar) :
    strip (quoteName path) = quoteName path := by
  have hquote : isSpace '"' = false := rfl
  have hlstrip : lstrip (quoteName path) = quoteName path := by
    rw [quoteName_of_quoted h, lstrip, List.dropWhile_cons_of_neg (by decide)]
  rw [strip, hlstrip, quoteName_of_quoted h]
  exact rstrip_append_of_not_isSpace ('"' :: path.flatMap quoteNameChar) [] hquote

theorem mem_readNames {paths : List Text} {name : Text} :
    name ∈ readNames (printNames paths) ↔
      ∃ path ∈ paths, isBlank (quoteName path) = false ∧ name = strip (quoteName path) := by
  rw [readNames_printNames, List.mem_map]
  constructor
  · rintro ⟨line, hline, rfl⟩
    obtain ⟨hmem, hblank⟩ := List.mem_filter.mp hline
    obtain ⟨path, hpath, rfl⟩ := List.mem_map.mp hmem
    exact ⟨path, hpath, by simpa using hblank, rfl⟩
  · rintro ⟨path, hpath, hblank, rfl⟩
    exact ⟨quoteName path, List.mem_filter.mpr ⟨List.mem_map.mpr ⟨path, hpath, rfl⟩, by simp [hblank]⟩,
      rfl⟩

theorem strip_of_mem_readNames {paths : List Text} {name : Text}
    (h : name ∈ readNames (printNames paths)) : strip name = name := by
  obtain ⟨path, -, -, rfl⟩ := mem_readNames.mp h
  exact strip_strip _

/-! ## Agreement -/

/-- The patch touches exactly the paths. -/
def Touches (patch : List FileDiff) (paths : List Text) : Prop :=
  ∀ path, path ∈ touchedPaths patch ↔ path ∈ paths

/-- The comparison of the two guards: the patch and the commit name the same files. -/
def ScopesAgree (paths : List Text) (patch : List FileDiff) : Prop :=
  ∃ files, changedFilesFromPatch (printPatch patch) = .ok files ∧
    ∀ name, name ∈ files ↔ name ∈ readNames (printNames paths)

/-- The readings of the paths agree whatever the patch. -/
structure ReadAlike (paths : List Text) : Prop where
  plain : ∀ path ∈ paths, path.all isPlainNameChar
  stripped : ∀ path ∈ paths, strip path = path
  separator : ∀ path ∈ paths, ∀ other ∈ paths, path ≠ other → ¬ HoldsSeparator path

/-! ## Paths that are read alike -/

theorem sideName_of_stripped {path : Text} (hne : path ≠ []) (h : strip path = path) :
    sideName path = some path := by
  rw [sideName, strip_eq_self_of_rstrip h, if_neg hne]

/-- The header of two plain paths is not quoted. -/
theorem headerRest_of_plain {diff : FileDiff} (hold : diff.oldPath.all isPlainNameChar)
    (hnew : diff.path.all isPlainNameChar) :
    diff.headerRest = headerSides diff.oldPath diff.path := by
  have hold' : ('a' :: '/' :: diff.oldPath).all isPlainNameChar := by
    rwa [all_side (Or.inl rfl)]
  have hnew' : ('b' :: '/' :: diff.path).all isPlainNameChar := by
    rwa [all_side (Or.inr rfl)]
  rw [FileDiff.headerRest, quoteName_of_plain hold', quoteName_of_plain hnew']
  rfl

theorem oldPath_mem_touched (diff : FileDiff) : diff.oldPath ∈ diff.touched := List.mem_cons_self

theorem path_mem_touched (diff : FileDiff) : diff.path ∈ diff.touched :=
  List.mem_cons_of_mem _ List.mem_cons_self

/-- The header of a section of such paths names both. -/
theorem gitHeaderPaths_of_readAlike {paths : List Text} (hpaths : ∀ path ∈ paths, path ≠ [])
    (h : ReadAlike paths) {diff : FileDiff} (hdiff : ∀ path ∈ diff.touched, path ∈ paths) :
    gitHeaderPaths diff.headerRest =
      .ok (some (if diff.oldPath = diff.path then [diff.path] else [diff.oldPath, diff.path])) := by
  have hold := hdiff _ (oldPath_mem_touched diff)
  have hnew := hdiff _ (path_mem_touched diff)
  have hstrip := strip_eq_self_of_rstrip (h.stripped _ hnew)
  rw [headerRest_of_plain (h.plain _ hold) (h.plain _ hnew)]
  by_cases hsame : diff.oldPath = diff.path
  · rw [if_pos hsame, hsame, gitHeaderPaths_same (hpaths _ hnew) hstrip]
  · rw [if_neg hsame]
    exact gitHeaderPaths_both (hpaths _ hold) (hpaths _ hnew) hstrip hsame
      (h.separator _ hold _ hnew hsame) (h.separator _ hnew _ hold (Ne.symm hsame))

theorem mem_headerNames_of_readAlike {paths : List Text} (hpaths : ∀ path ∈ paths, path ≠ [])
    (h : ReadAlike paths) {diff : FileDiff} (hdiff : ∀ path ∈ diff.touched, path ∈ paths)
    (name : Text) : name ∈ diff.headerNames ++ diff.labelNames ↔ name ∈ diff.touched := by
  have hheader : diff.headerNames =
      if diff.oldPath = diff.path then [diff.path] else [diff.oldPath, diff.path] := by
    rw [FileDiff.headerNames, gitHeaderPaths_of_readAlike hpaths h hdiff]
    rfl
  have hmem : name ∈ diff.headerNames ↔ name ∈ diff.touched := by
    rw [hheader, FileDiff.touched]
    by_cases hsame : diff.oldPath = diff.path
    · rw [if_pos hsame, hsame]
      simp
    · rw [if_neg hsame]
  -- A label names the old or the new path, and none is written for a file that is not there.
  have hlabels : name ∈ diff.labelNames → name ∈ diff.touched := by
    have hold := hdiff _ (oldPath_mem_touched diff)
    have hnew := hdiff _ (path_mem_touched diff)
    rw [FileDiff.labelNames, sideName_of_stripped (hpaths _ hold) (h.stripped _ hold),
      sideName_of_stripped (hpaths _ hnew) (h.stripped _ hnew), FileDiff.touched]
    intro hname
    by_cases hhunks : diff.hunks = []
    · rw [if_pos hhunks] at hname
      cases hname
    · rw [if_neg hhunks] at hname
      rcases List.mem_append.mp hname with hname | hname
      · by_cases hadded : diff.change = .added
        · rw [if_pos hadded] at hname
          cases hname
        · rw [if_neg hadded] at hname
          rw [List.mem_singleton.mp hname]
          exact List.mem_cons_self
      · by_cases hdeleted : diff.change = .deleted
        · rw [if_pos hdeleted] at hname
          cases hname
        · rw [if_neg hdeleted] at hname
          rw [List.mem_singleton.mp hname]
          exact List.mem_cons_of_mem _ List.mem_cons_self
  rw [List.mem_append]
  constructor
  · rintro (hname | hname)
    · exact hmem.mp hname
    · exact hlabels hname
  · exact fun hname => Or.inl (hmem.mpr hname)

/-- **Whatever the patch, such paths are read alike.** -/
theorem scopesAgree_of_readAlike {paths : List Text} (hpaths : ∀ path ∈ paths, path ≠ [])
    (h : ReadAlike paths) {patch : List FileDiff} (hpatch : ∀ diff ∈ patch, diff.WellFormed)
    (htouches : Touches patch paths) : ScopesAgree paths patch := by
  have hdiff : ∀ diff ∈ patch, ∀ path ∈ diff.touched, path ∈ paths := fun diff hmem path hpath =>
    (htouches path).mp (List.mem_flatMap.mpr ⟨diff, hmem, hpath⟩)
  obtain ⟨files, hscan, hfiles⟩ := changedFiles_printPatch hpatch fun diff hmem =>
    ⟨_, gitHeaderPaths_of_readAlike hpaths h (hdiff diff hmem)⟩
  refine ⟨files, hscan, fun name => ?_⟩
  have hscanned : name ∈ files ↔ name ∈ paths := by
    rw [hfiles, ← htouches, touchedPaths, List.mem_flatMap]
    constructor
    · rintro ⟨diff, hmem, hname⟩
      exact ⟨diff, hmem, (mem_headerNames_of_readAlike hpaths h (hdiff diff hmem) name).mp hname⟩
    · rintro ⟨diff, hmem, hname⟩
      exact ⟨diff, hmem, (mem_headerNames_of_readAlike hpaths h (hdiff diff hmem) name).mpr hname⟩
  have hcommitted : name ∈ readNames (printNames paths) ↔ name ∈ paths := by
    have hquote : ∀ path ∈ paths, quoteName path = path := fun path hpath =>
      quoteName_of_plain (h.plain path hpath)
    rw [mem_readNames]
    constructor
    · rintro ⟨path, hpath, -, rfl⟩
      rw [hquote path hpath, h.stripped path hpath]
      exact hpath
    · intro hname
      refine ⟨name, hname, ?_, ?_⟩
      · rw [hquote name hname]
        by_contra hblank
        -- a blank name is stripped to nothing
        have hall : name.all isSpace = true := by simpa [isBlank] using hblank
        have hempty : strip name = [] := by
          rw [strip, lstrip, List.dropWhile_eq_nil_iff.mpr (List.all_eq_true.mp hall)]
          rfl
        exact hpaths name hname ((h.stripped name hname).symm.trans hempty)
      · rw [hquote name hname, h.stripped name hname]
  rw [hscanned, hcommitted]

/-! ## Patches that show a difference -/

/-- Every path with a changed mode. -/
def modeChanges (paths : List Text) : List FileDiff := paths.map FileDiff.modeChange

/-- One path renamed to another, and every other path with a changed mode. -/
def renamePatch (source path : Text) (paths : List Text) : List FileDiff :=
  FileDiff.pureRename source path ::
    modeChanges (paths.filter fun other => other ≠ source ∧ other ≠ path)

theorem wellFormed_modeChange (path : Text) : (FileDiff.modeChange path).WellFormed where
  metadata := by
    show ∀ line ∈ ["old mode 100644".toList, "new mode 100755".toList], isMetadataLine line
    decide
  metadataLine := by
    show ∀ line ∈ ["old mode 100644".toList, "new mode 100755".toList], OneLine line
    decide
  heading := fun _ hmem => nomatch hmem
  body := fun _ hmem => nomatch hmem

theorem wellFormed_pureRename (source path : Text) :
    (FileDiff.pureRename source path).WellFormed where
  metadata := by
    have hword : ∀ {word line : Text}, word.isPrefixOf (word ++ line) = true := fun {word line} =>
      List.isPrefixOf_iff_prefix.mpr (List.prefix_append word line)
    have hsimilarity : isMetadataLine "similarity index 100%".toList := by decide
    have hfrom : isMetadataLine ("rename from ".toList ++ quoteName source) := by
      rw [isMetadataLine, List.any_eq_true.mpr ⟨"rename from ", by decide, hword⟩]
      rfl
    have hto : isMetadataLine ("rename to ".toList ++ quoteName path) := by
      rw [isMetadataLine, List.any_eq_true.mpr ⟨"rename to ", by decide, hword⟩]
      rfl
    intro line hline
    simp only [FileDiff.pureRename, List.mem_cons, List.not_mem_nil, or_false] at hline
    rcases hline with rfl | rfl | rfl
    · exact hsimilarity
    · exact hfrom
    · exact hto
  metadataLine := by
    have hsimilarity : OneLine "similarity index 100%".toList := by decide
    have hfrom : OneLine "rename from ".toList := by decide
    have hto : OneLine "rename to ".toList := by decide
    intro line hline
    simp only [FileDiff.pureRename, List.mem_cons, List.not_mem_nil, or_false] at hline
    rcases hline with rfl | rfl | rfl
    · exact hsimilarity
    · exact hfrom.append (oneLine_quoteName _)
    · exact hto.append (oneLine_quoteName _)
  heading := fun _ hmem => nomatch hmem
  body := fun _ hmem => nomatch hmem

theorem wellFormed_modeChanges (paths : List Text) :
    ∀ diff ∈ modeChanges paths, diff.WellFormed := by
  intro diff hdiff
  obtain ⟨path, -, rfl⟩ := List.mem_map.mp hdiff
  exact wellFormed_modeChange path

theorem touches_modeChanges (paths : List Text) : Touches (modeChanges paths) paths := by
  intro path
  rw [touchedPaths, modeChanges, List.flatMap_map, List.mem_flatMap]
  constructor
  · rintro ⟨other, hother, hpath⟩
    have hsame : path = other := by
      simpa [FileDiff.touched, FileDiff.oldPath, FileDiff.modeChange] using hpath
    exact hsame ▸ hother
  · intro hpath
    exact ⟨path, hpath, path_mem_touched _⟩

theorem touches_renamePatch {source path : Text} {paths : List Text} (hsource : source ∈ paths)
    (hpath : path ∈ paths) : Touches (renamePatch source path paths) paths := by
  intro other
  have hrest := touches_modeChanges (paths.filter fun other => other ≠ source ∧ other ≠ path) other
  rw [touchedPaths] at hrest ⊢
  rw [renamePatch, List.flatMap_cons, List.mem_append, hrest, List.mem_filter]
  have hrename : other ∈ (FileDiff.pureRename source path).touched ↔ other = source ∨ other = path := by
    simp [FileDiff.touched, FileDiff.oldPath, FileDiff.pureRename]
  rw [hrename]
  constructor
  · rintro ((rfl | rfl) | ⟨hother, -⟩)
    · exact hsource
    · exact hpath
    · exact hother
  · intro hother
    by_cases hnamed : other = source ∨ other = path
    · exact Or.inl hnamed
    · rw [not_or] at hnamed
      exact Or.inr ⟨hother, by simpa using hnamed⟩

/-! ## The header of one path -/

theorem gitHeaderPaths_modeChange_plain {path : Text} (h : path.all isPlainNameChar) :
    gitHeaderPaths (FileDiff.modeChange path).headerRest =
      .ok (unquotedHeaderPaths (headerSides path (rstrip path))) := by
  rw [@headerRest_of_plain (FileDiff.modeChange path) h h]
  exact gitHeaderPaths_headerSides path path

/-- A quoted path is read back from its own header, without white space at its end. -/
theorem gitHeaderPaths_modeChange_quoted {path : Text} (h : ¬ path.all isPlainNameChar) :
    gitHeaderPaths (FileDiff.modeChange path).headerRest =
      .ok ((sideName path).map fun name => [name]) := by
  have hold : ¬ ('a' :: '/' :: path).all isPlainNameChar := by rwa [all_side (Or.inl rfl)]
  have hnew : ¬ ('b' :: '/' :: path).all isPlainNameChar := by rwa [all_side (Or.inr rfl)]
  have hquote : isSpace '"' = false := rfl
  have hrest : (FileDiff.modeChange path).headerRest =
      quoteName ('a' :: '/' :: path) ++ ' ' :: quoteName ('b' :: '/' :: path) := rfl
  -- Each of the two tokens is read back whole.
  have hfirst := readQuotedToken_quoteName hold (' ' :: quoteName ('b' :: '/' :: path))
  have hsecond := readQuotedToken_quoteName hnew []
  rw [List.append_nil] at hsecond
  have hhead : ∀ {name : Text} (tail : Text), ¬ name.all isPlainNameChar →
      (quoteName name ++ tail).head? = some '"' := by
    intro name tail hname
    rw [quoteName_of_quoted hname]
    rfl
  -- The header ends in a quote, so nothing is stripped off it.
  have hend : rstrip (quoteName ('a' :: '/' :: path) ++ ' ' :: quoteName ('b' :: '/' :: path)) =
      quoteName ('a' :: '/' :: path) ++ ' ' :: quoteName ('b' :: '/' :: path) := by
    have hlast := rstrip_append_of_not_isSpace (quoteName ('a' :: '/' :: path) ++
      ' ' :: '"' :: ('b' :: '/' :: path).flatMap quoteNameChar) [] hquote
    have hsplit : quoteName ('a' :: '/' :: path) ++ ' ' :: quoteName ('b' :: '/' :: path) =
        (quoteName ('a' :: '/' :: path) ++
          ' ' :: '"' :: ('b' :: '/' :: path).flatMap quoteNameChar) ++ ['"'] := by
      rw [quoteName_of_quoted hnew]
      simp
    rw [hsplit]
    exact hlast
  have hremainder : strip (' ' :: quoteName ('b' :: '/' :: path)) = quoteName ('b' :: '/' :: path) := by
    have hlstrip : lstrip (' ' :: quoteName ('b' :: '/' :: path)) =
        lstrip (quoteName ('b' :: '/' :: path)) := by
      rw [lstrip, List.dropWhile_cons_of_pos (by decide), lstrip]
    rw [strip, hlstrip]
    exact strip_quoteName_of_quoted hnew
  have hne : quoteName ('b' :: '/' :: path) ≠ [] := by
    rw [quoteName_of_quoted hnew]
    exact List.cons_ne_nil _ _
  -- Both sides name the one path.
  have hnames : distinctNames (['a' :: '/' :: path, 'b' :: '/' :: path].filterMap stripDiffPrefix) =
      (sideName path).map fun name => [name] := by
    have ha := stripDiffPrefix_side (Or.inl rfl) path
    have hb := stripDiffPrefix_side (Or.inr rfl) path
    cases hside : sideName path with
    | none =>
        rw [List.filterMap_cons_none (ha.trans hside), List.filterMap_cons_none (hb.trans hside)]
        rfl
    | some name =>
        rw [List.filterMap_cons_some (ha.trans hside), List.filterMap_cons_some (hb.trans hside)]
        simp [distinctNames, List.eraseDups_cons]
  rw [hrest, gitHeaderPaths]
  simp only [hend]
  rw [if_neg (by simp), if_pos (hhead _ hold), quotedHeaderPaths, hfirst]
  show (if strip (' ' :: quoteName ('b' :: '/' :: path)) = [] then _ else _) = _
  rw [hremainder, if_neg hne, if_pos (by simpa using hhead [] hnew), hsecond]
  exact congrArg Except.ok hnames

/-- Every name read from an unquoted header is plain. -/
theorem plain_of_mem_unquotedHeaderPaths {left right name : Text} (hleft : left.all isPlainNameChar)
    (hright : right.all isPlainNameChar)
    (h : name ∈ (unquotedHeaderPaths (headerSides left right)).getD []) :
    name.all isPlainNameChar := by
  -- the header is cut into twice a name, once, or not at all
  rcases unquotedHeaderPaths_cases left right with
    ⟨other, -, hsides, hpaths⟩ | ⟨-, hpaths⟩ | ⟨-, hpaths⟩
  · rw [hpaths, Option.getD_some, List.mem_singleton] at h
    have hall : (headerSides left right).all isPlainNameChar := by
      have hmarks : (' ' :: 'b' :: '/' :: right).all isPlainNameChar := by
        rw [List.all_cons, all_side (Or.inr rfl), hright]
        decide
      rw [headerSides, all_side (Or.inl rfl), List.all_append, hleft, hmarks]
      rfl
    rw [hsides, headerSides, all_side (Or.inl rfl), List.all_append, Bool.and_eq_true] at hall
    exact h ▸ hall.1
  · rw [hpaths, distinctNames] at h
    by_cases hnil : ([left, right].filter fun name => name ≠ []) = []
    · rw [if_pos hnil] at h
      cases h
    · rw [if_neg hnil, Option.getD_some, List.mem_eraseDups] at h
      have hmem := (List.mem_filter.mp h).1
      simp only [List.mem_cons, List.not_mem_nil, or_false] at hmem
      rcases hmem with rfl | rfl
      · exact hleft
      · exact hright
  · rw [hpaths] at h
    cases h

/-- What a plain path gives: itself, or nothing that is stripped. -/
theorem headerNames_modeChange_plain {path : Text} (hne : path ≠ [])
    (hplain : path.all isPlainNameChar) :
    (rstrip path = path ∧ (FileDiff.modeChange path).headerNames = [path]) ∨
      (∃ name ∈ (FileDiff.modeChange path).headerNames, strip name ≠ name) ∨
      (HoldsSeparator path ∧ (FileDiff.modeChange path).headerNames = []) := by
  have hnames : (FileDiff.modeChange path).headerNames =
      (unquotedHeaderPaths (headerSides path (rstrip path))).getD [] := by
    rw [FileDiff.headerNames, gitHeaderPaths_modeChange_plain hplain]
  rw [hnames]
  -- a path that does not end with white space is cut into itself twice
  by_cases hend : rstrip path = path
  · refine Or.inl ⟨hend, ?_⟩
    rw [hend, unquotedHeaderPaths_twice hne rfl]
    rfl
  · refine Or.inr ?_
    rcases unquotedHeaderPaths_cases path (rstrip path) with
      ⟨name, -, hsides, hpaths⟩ | ⟨-, hpaths⟩ | ⟨⟨candidate, hcandidate, hother⟩, hpaths⟩
    · -- the name ends inside the white space of the path
      refine Or.inl ⟨name, by rw [hpaths]; exact List.mem_cons_self, fun hstrip => hend ?_⟩
      have hlength := congrArg List.length hsides
      rw [length_headerSides, length_headerSides] at hlength
      have hshort : (rstrip path).length ≤ path.length := (prefix_rstrip path).length_le
      have hprefix : name <+: path := by
        have htail := (List.cons.inj (List.cons.inj hsides).2).2
        have hwhole : name <+: path ++ ' ' :: 'b' :: '/' :: rstrip path := by
          rw [htail]
          exact List.prefix_append _ _
        exact List.prefix_of_prefix_length_le hwhole (List.prefix_append _ _) (by omega)
      have hkeep : rstrip name = rstrip path := rstrip_of_between hprefix (by omega)
      rw [strip_eq_self_of_rstrip hstrip] at hkeep
      have hequal : name.length = (rstrip path).length := congrArg List.length hkeep
      have hfull : (rstrip path).length = path.length := by omega
      exact (prefix_rstrip path).eq_of_length hfull
    · -- the only split gives the path with its white space
      refine Or.inl ⟨path, ?_, fun hstrip => hend (strip_eq_self_of_rstrip hstrip)⟩
      have hmem : path ∈ [path, rstrip path].filter fun name => name ≠ [] :=
        List.mem_filter.mpr ⟨List.mem_cons_self, by simpa using hne⟩
      rw [hpaths, distinctNames, if_neg (List.ne_nil_of_mem hmem), Option.getD_some,
        List.mem_eraseDups]
      exact hmem
    · refine Or.inr ⟨?_, by rw [hpaths]; rfl⟩
      rcases holdsSeparator_of_candidate hcandidate hother with h | h
      · exact h
      · exact List.IsInfix.trans h (prefix_rstrip path).isInfix

theorem headerNames_modeChange_quoted {path : Text} (h : ¬ path.all isPlainNameChar) :
    (FileDiff.modeChange path).headerNames = (sideName path).toList := by
  rw [FileDiff.headerNames, gitHeaderPaths_modeChange_quoted h]
  cases sideName path <;> rfl

theorem readable_modeChange (path : Text) :
    ∃ names, gitHeaderPaths (FileDiff.modeChange path).headerRest = .ok names := by
  by_cases h : path.all isPlainNameChar
  · exact ⟨_, gitHeaderPaths_modeChange_plain h⟩
  · exact ⟨_, gitHeaderPaths_modeChange_quoted h⟩

/-- The names of mode changes that agree with the commit. -/
theorem mem_readNames_modeChanges {paths : List Text}
    (h : ScopesAgree paths (modeChanges paths)) (name : Text) :
    name ∈ readNames (printNames paths) ↔
      ∃ path ∈ paths, name ∈ (FileDiff.modeChange path).headerNames := by
  obtain ⟨files, hscan, hagree⟩ := h
  obtain ⟨files', hscan', hfiles⟩ := changedFiles_printPatch (wellFormed_modeChanges paths) (by
    intro diff hdiff
    obtain ⟨path, -, rfl⟩ := List.mem_map.mp hdiff
    exact readable_modeChange path)
  obtain rfl : files' = files := Except.ok.inj (hscan'.symm.trans hscan)
  rw [← hagree, hfiles]
  constructor
  · rintro ⟨diff, hdiff, hname⟩
    obtain ⟨path, hpath, rfl⟩ := List.mem_map.mp hdiff
    have hlabels : (FileDiff.modeChange path).labelNames = [] := if_pos rfl
    rw [hlabels, List.append_nil] at hname
    exact ⟨path, hpath, hname⟩
  · rintro ⟨path, hpath, hname⟩
    exact ⟨_, List.mem_map.mpr ⟨path, hpath, rfl⟩, List.mem_append_left _ hname⟩

theorem length_quoteNameChar (c : Char) : 1 ≤ (quoteNameChar c).length := by
  rw [quoteNameChar]
  by_cases hplain : isPlainNameChar c
  · rw [if_pos hplain]
    exact Nat.le_refl _
  · rw [if_neg hplain]
    split
    case h_10 =>
      cases hbytes : String.utf8EncodeChar c with
      | nil => exact absurd hbytes String.utf8EncodeChar_ne_nil
      | cons byte bytes =>
          have hfour : (octalByte byte.toNat).length = 4 := rfl
          rw [List.flatMap_cons, List.length_append, hfour]
          omega
    all_goals decide

theorem length_le_quotedBody (path : Text) : path.length ≤ (path.flatMap quoteNameChar).length := by
  induction path with
  | nil => exact Nat.le_refl _
  | cons c path ih =>
      have hone := length_quoteNameChar c
      rw [List.flatMap_cons, List.length_append, List.length_cons]
      omega

/-- A quoted path is printed longer than it is. -/
theorem length_lt_quoteName {path : Text} (h : ¬ path.all isPlainNameChar) :
    path.length < (quoteName path).length := by
  have hbody := length_le_quotedBody path
  rw [quoteName_of_quoted h, List.length_cons, List.length_append]
  omega

/-! ## When the readings agree -/

/-- Git quotes none of the paths: of the quoted ones the longest printed name is no file. -/
theorem plain_of_scopesAgree {paths : List Text} (h : ScopesAgree paths (modeChanges paths)) : ∀ path ∈ paths, path.all isPlainNameChar := by
  by_contra hquoted
  let quoted := paths.toFinset.filter fun path => ¬ path.all isPlainNameChar
  have hnonempty : quoted.Nonempty := by
    rw [not_forall] at hquoted
    obtain ⟨path, hpath⟩ := hquoted
    rw [Classical.not_imp] at hpath
    exact ⟨path, Finset.mem_filter.mpr ⟨List.mem_toFinset.mpr hpath.1, hpath.2⟩⟩
  -- among the quoted paths, the one that is longest in quotes
  obtain ⟨path, hmem, hlongest⟩ := quoted.exists_max_image (fun path => (quoteName path).length)
    hnonempty
  obtain ⟨hpath, hnot⟩ := Finset.mem_filter.mp hmem
  have hprinted : quoteName path ∈ readNames (printNames paths) :=
    mem_readNames.mpr ⟨path, List.mem_toFinset.mp hpath, isBlank_quoteName_of_quoted hnot,
      (strip_quoteName_of_quoted hnot).symm⟩
  obtain ⟨other, hother, hname⟩ := (mem_readNames_modeChanges h _).mp hprinted
  by_cases hplain : other.all isPlainNameChar
  · -- a plain path gives no quote
    have hread : (FileDiff.modeChange other).headerNames =
        (unquotedHeaderPaths (headerSides other (rstrip other))).getD [] := by
      rw [FileDiff.headerNames, gitHeaderPaths_modeChange_plain hplain]
    have hend : (rstrip other).all isPlainNameChar :=
      List.all_eq_true.mpr fun c hc =>
        List.all_eq_true.mp hplain c ((prefix_rstrip other).subset hc)
    rw [hread] at hname
    have hall := plain_of_mem_unquotedHeaderPaths hplain hend hname
    rw [quoteName_of_quoted hnot, List.all_cons] at hall
    exact absurd hall (by simp [isPlainNameChar])
  · -- a quoted path gives a name that is not longer than the path
    rw [headerNames_modeChange_quoted hplain, sideName] at hname
    have hshort : (quoteName path).length ≤ other.length := by
      by_cases hnil : rstrip other = []
      · rw [if_pos hnil] at hname
        cases hname
      · rw [if_neg hnil] at hname
        rw [List.mem_singleton.mp hname]
        exact (prefix_rstrip other).length_le
    have hlong := hlongest other (Finset.mem_filter.mpr ⟨List.mem_toFinset.mpr hother, hplain⟩)
    have hgrow := length_lt_quoteName hplain
    omega

/-- The names of a rename and mode changes that agree with the commit. -/
theorem mem_readNames_renamePatch {source path : Text} {paths : List Text}
    (hplain : ∀ path ∈ paths, path.all isPlainNameChar) (hsource : source ∈ paths)
    (hpath : path ∈ paths) (h : ScopesAgree paths (renamePatch source path paths)) (name : Text) :
    name ∈ readNames (printNames paths) ↔
      name ∈ (unquotedHeaderPaths (headerSides source (rstrip path))).getD [] ∨
        ∃ other ∈ paths, other ≠ source ∧ other ≠ path ∧
          name ∈ (FileDiff.modeChange other).headerNames := by
  -- the header of the rename, and no labels, as there are no hunks
  have hheader : gitHeaderPaths (FileDiff.pureRename source path).headerRest =
      .ok (unquotedHeaderPaths (headerSides source (rstrip path))) := by
    rw [@headerRest_of_plain (FileDiff.pureRename source path) (hplain _ hsource) (hplain _ hpath)]
    exact gitHeaderPaths_headerSides source path
  have hrename : (FileDiff.pureRename source path).headerNames =
      (unquotedHeaderPaths (headerSides source (rstrip path))).getD [] := by
    rw [FileDiff.headerNames, hheader]
  obtain ⟨files, hscan, hagree⟩ := h
  obtain ⟨files', hscan', hfiles⟩ := @changedFiles_printPatch (renamePatch source path paths)
    (List.forall_mem_cons.mpr ⟨wellFormed_pureRename source path, wellFormed_modeChanges _⟩)
    (List.forall_mem_cons.mpr ⟨⟨_, hheader⟩, by
      intro diff hdiff
      obtain ⟨other, -, rfl⟩ := List.mem_map.mp hdiff
      exact readable_modeChange other⟩)
  obtain rfl : files' = files := Except.ok.inj (hscan'.symm.trans hscan)
  rw [← hagree, hfiles, renamePatch]
  simp only [List.exists_mem_cons_iff]
  have hlabels : ∀ diff : FileDiff, diff.hunks = [] → diff.labelNames = [] := fun _ h => if_pos h
  rw [hlabels _ rfl, List.append_nil, hrename]
  refine or_congr_right ?_
  constructor
  · rintro ⟨diff, hdiff, hname⟩
    obtain ⟨other, hother, rfl⟩ := List.mem_map.mp hdiff
    obtain ⟨hmem, hne⟩ := List.mem_filter.mp hother
    rw [hlabels _ rfl, List.append_nil] at hname
    have hboth : other ≠ source ∧ other ≠ path := by simpa using hne
    exact ⟨other, hmem, hboth.1, hboth.2, hname⟩
  · rintro ⟨other, hother, hsourceNe, hpathNe, hname⟩
    refine ⟨_, List.mem_map.mpr ⟨other, List.mem_filter.mpr ⟨hother, by simp [hsourceNe, hpathNe]⟩,
      rfl⟩, List.mem_append_left _ hname⟩

/-- A pure rename from a path that holds a separator is not read as its two names. -/
theorem unquotedHeaderPaths_of_holdsSeparator {left : Text} (h : HoldsSeparator left) (right : Text) :
    unquotedHeaderPaths (headerSides left right) = none ∨
      ∃ name, headerSides left right = headerSides name name ∧
        unquotedHeaderPaths (headerSides left right) = some [name] := by
  obtain ⟨candidate, hcandidate, hother⟩ := @exists_candidate_of_holdsSeparator left right h
  rcases unquotedHeaderPaths_cases left right with
    ⟨name, -, hsides, hpaths⟩ | ⟨honly, -⟩ | ⟨-, hpaths⟩
  · exact Or.inr ⟨name, hsides, hpaths⟩
  · rw [honly, List.mem_singleton] at hcandidate
    exact absurd hcandidate hother
  · exact Or.inl hpaths

/-- No path has white space at an end. -/
theorem stripped_of_scopesAgree {paths : List Text} (hpaths : ∀ path ∈ paths, path ≠ [])
    (hplain : ∀ path ∈ paths, path.all isPlainNameChar)
    (h : ∀ patch, (∀ diff ∈ patch, diff.WellFormed) → Touches patch paths →
      ScopesAgree paths patch) : ∀ path ∈ paths, strip path = path := by
  intro path hpath
  by_contra hends
  have hmodes := h _ (wellFormed_modeChanges paths) (touches_modeChanges paths)
  -- each path gives itself, or nothing at all
  have hcases : ∀ other ∈ paths, (FileDiff.modeChange other).headerNames = [other] ∨
      (HoldsSeparator other ∧ (FileDiff.modeChange other).headerNames = []) := by
    intro other hother
    rcases headerNames_modeChange_plain (hpaths other hother) (hplain other hother) with
      ⟨-, hnames⟩ | ⟨name, hname, hstrip⟩ | hnone
    · exact Or.inl hnames
    · have hread := (mem_readNames_modeChanges hmodes name).mpr ⟨other, hother, hname⟩
      exact absurd (strip_of_mem_readNames hread) hstrip
    · exact Or.inr hnone
  -- the path itself gives nothing, as the commit has no such name
  have hseparator : HoldsSeparator path := by
    rcases hcases path hpath with hnames | ⟨hseparator, -⟩
    · have hread := (mem_readNames_modeChanges hmodes path).mpr
        ⟨path, hpath, by rw [hnames]; exact List.mem_cons_self⟩
      exact absurd (strip_of_mem_readNames hread) hends
    · exact hseparator
  -- so its stripped name, which the commit has, is another path
  have hquote : quoteName path = path := quoteName_of_plain (hplain path hpath)
  have hblank : isBlank path = false :=
    not_isBlank_of_mem (c := 'b') (hseparator.subset (by decide)) rfl
  have hcommitted : strip path ∈ readNames (printNames paths) :=
    mem_readNames.mpr ⟨path, hpath, by rw [hquote, hblank], by rw [hquote]⟩
  have hstripped : strip path ∈ paths := by
    obtain ⟨other, hother, hname⟩ := (mem_readNames_modeChanges hmodes _).mp hcommitted
    rcases hcases other hother with hnames | ⟨-, hnames⟩
    · rw [hnames, List.mem_singleton] at hname
      exact hname ▸ hother
    · rw [hnames] at hname
      cases hname
  -- renamed to it, the path hides its name
  have hrename := h _ (List.forall_mem_cons.mpr
    ⟨wellFormed_pureRename path (strip path), wellFormed_modeChanges _⟩)
    (touches_renamePatch hpath hstripped)
  rcases (mem_readNames_renamePatch hplain hpath hstripped hrename _).mp hcommitted with
    hname | ⟨other, hother, -, hne, hname⟩
  · rcases unquotedHeaderPaths_of_holdsSeparator hseparator (rstrip (strip path)) with
      hnone | ⟨name, hsides, hsome⟩
    · rw [hnone] at hname
      cases hname
    · rw [hsome, Option.getD_some, List.mem_singleton] at hname
      have hlength := congrArg List.length hsides
      rw [length_headerSides, length_headerSides, strip_eq_self_of_rstrip (strip_strip path),
        ← hname] at hlength
      have hequal : (strip path).length = path.length := by omega
      exact hends ((strip_sublist path).eq_of_length hequal)
  · rcases hcases other hother with hnames | ⟨-, hnames⟩
    · rw [hnames, List.mem_singleton] at hname
      exact hne hname.symm
    · rw [hnames] at hname
      cases hname

/-- No path that may be renamed holds a separator. -/
theorem separator_of_scopesAgree {paths : List Text} (hpaths : ∀ path ∈ paths, path ≠ [])
    (hplain : ∀ path ∈ paths, path.all isPlainNameChar)
    (hstripped : ∀ path ∈ paths, strip path = path)
    (h : ∀ patch, (∀ diff ∈ patch, diff.WellFormed) → Touches patch paths →
      ScopesAgree paths patch) {path other : Text} (hpath : path ∈ paths) (hother : other ∈ paths)
    (hne : path ≠ other) : ¬ HoldsSeparator path := by
  intro hseparator
  have hrename := h _ (List.forall_mem_cons.mpr
    ⟨wellFormed_pureRename path other, wellFormed_modeChanges _⟩)
    (touches_renamePatch hpath hother)
  have hcommitted : ∀ name ∈ paths, name ∈ readNames (printNames paths) := by
    intro name hname
    have hquote : quoteName name = name := quoteName_of_plain (hplain name hname)
    refine mem_readNames.mpr ⟨name, hname, ?_, by rw [hquote, hstripped name hname]⟩
    rw [hquote]
    by_contra hblank
    have hall : name.all isSpace = true := by simpa [isBlank] using hblank
    have hempty : strip name = [] := by
      rw [strip, lstrip, List.dropWhile_eq_nil_iff.mpr (List.all_eq_true.mp hall)]
      rfl
    exact hpaths name hname ((hstripped name hname).symm.trans hempty)
  -- the other sections name neither side
  -- either side of the rename must then be read from its header
  have hside : ∀ name, name = path ∨ name = other → name ∈ paths →
      name ∈ (unquotedHeaderPaths (headerSides path (rstrip other))).getD [] := by
    intro name hnamed hmem
    rcases (mem_readNames_renamePatch hplain hpath hother hrename _).mp (hcommitted name hmem) with
      hname | ⟨third, hthird, hnePath, hneOther, hname⟩
    · exact hname
    · have hend := strip_eq_self_of_rstrip (hstripped third hthird)
      have hnames : (FileDiff.modeChange third).headerNames = [third] := by
        rw [FileDiff.headerNames, gitHeaderPaths_modeChange_plain (hplain third hthird), hend,
          unquotedHeaderPaths_twice (hpaths third hthird) rfl]
        rfl
      rw [hnames, List.mem_singleton] at hname
      rcases hnamed with rfl | rfl
      · exact absurd hname.symm hnePath
      · exact absurd hname.symm hneOther
  have hfirst := hside path (Or.inl rfl) hpath
  have hsecond := hside other (Or.inr rfl) hother
  -- a name with a separator leaves the header with one name at most
  rcases unquotedHeaderPaths_of_holdsSeparator hseparator (rstrip other) with
    hnone | ⟨name, -, hsome⟩
  · rw [hnone] at hfirst
    cases hfirst
  · rw [hsome, Option.getD_some, List.mem_singleton] at hfirst hsecond
    exact hne (hfirst.trans hsecond.symm)

/-- **The commit and the patch name the same files**, whatever patch Git prints for
    the paths, exactly when the paths are read alike. -/
theorem scopesAgree_iff {paths : List Text} (hpaths : ∀ path ∈ paths, path ≠ []) :
    (∀ patch : List FileDiff, (∀ diff ∈ patch, diff.WellFormed) → Touches patch paths →
      ScopesAgree paths patch) ↔ ReadAlike paths := by
  constructor
  · intro h
    have hmodes := h _ (wellFormed_modeChanges paths) (touches_modeChanges paths)
    have hplain := plain_of_scopesAgree hmodes
    have hstripped := stripped_of_scopesAgree hpaths hplain h
    exact ⟨hplain, hstripped, fun path hpath other hother hne =>
      separator_of_scopesAgree hpaths hplain hstripped h hpath hother hne⟩
  · intro h patch hpatch htouches
    exact scopesAgree_of_readAlike hpaths h hpatch htouches

/-- A file renamed to a name with a space, and changed. -/
def renamedSample : FileDiff :=
  ⟨"src/b c.py".toList, .renamed "src/a.py".toList,
    ["similarity index 90%".toList, "rename from src/a.py".toList,
      "rename to src/b c.py".toList, "index 83db48f..bf269f4 100644".toList],
    [⟨1, 1, [], [.removed "old".toList, .added "new".toList, .context "kept".toList]⟩]⟩

theorem scopesAgree_renamed :
    ScopesAgree ["src/a.py".toList, "src/b c.py".toList] [renamedSample] := by
  have halike : ReadAlike ["src/a.py".toList, "src/b c.py".toList] :=
    ⟨by decide, by decide, by decide +kernel⟩
  have htouched : touchedPaths [renamedSample] = ["src/a.py".toList, "src/b c.py".toList] := by
    decide
  refine (scopesAgree_iff (by decide)).mpr halike [renamedSample] ?_ ?_
  · intro diff hdiff
    obtain rfl := List.mem_singleton.mp hdiff
    exact ⟨by decide, by decide, by decide, by decide⟩
  · intro path
    rw [htouched]

/-- A name with one letter outside ASCII: the commit has the quoted name, the patch the path. -/
theorem not_scopesAgree_nonAscii :
    Touches [FileDiff.modeChange "é.txt".toList] ["é.txt".toList] ∧
      readNames (printNames ["é.txt".toList]) = ["\"\\303\\251.txt\"".toList] ∧
      "é.txt".toList ∈ (FileDiff.modeChange "é.txt".toList).headerNames ∧
      ¬ ScopesAgree ["é.txt".toList] [FileDiff.modeChange "é.txt".toList] := by
  have hquoted : ¬ "é.txt".toList.all isPlainNameChar := by decide
  refine ⟨touches_modeChanges ["é.txt".toList], by decide +kernel, ?_, fun h => ?_⟩
  · rw [headerNames_modeChange_quoted hquoted, sideName_of_stripped (by decide) (by decide)]
    exact List.mem_singleton_self _
  · exact hquoted (plain_of_scopesAgree h "é.txt".toList List.mem_cons_self)

end LlmHarness
