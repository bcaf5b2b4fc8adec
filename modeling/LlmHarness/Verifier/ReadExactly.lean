/-
  LlmHarness.Verifier.ReadExactly

  When `scan_patch` reads one of Git's own patches exactly: no problem, and the old
  and new names of the changed files.

  The scan of a section is followed with its problems: the header may stay pending
  until the labels, if there are any, and the labels may name nothing.  What a header
  is read as depends on which of its two names Git quotes; `FileDiff.NamesRead` says,
  for each case, when the names read are the names of the section.
-/

import LlmHarness.Verifier.HunkPieces
import LlmHarness.Verifier.ScopeNames

namespace LlmHarness

open Python

/-! ## The problems of a section -/

/-- No problem so far, and no header that was not read. -/
def ScanState.Clean (state : ScanState) : Prop := state.problems = [] ∧ state.pendingHeader = none

theorem reportPending_problems (state : ScanState) : state.reportPending.problems = [] ↔ state.Clean := by
  rw [ScanState.reportPending, ScanState.Clean]
  cases state.pendingHeader with
  | none => simp
  | some header => simp

theorem reportPending_files (state : ScanState) : state.reportPending.files = state.files := by
  rw [ScanState.reportPending]
  cases state.pendingHeader <;> rfl

theorem reportPending_inHunk (state : ScanState) : state.reportPending.inHunk ↔ state.inHunk := by
  rw [ScanState.reportPending]
  cases state.pendingHeader <;> rfl

/-- What the sections of a patch are: Git's metadata lines, each on a line of its own, and names. -/
structure FileDiff.Printed (diff : FileDiff) : Prop where
  metadata : ∀ line ∈ diff.metadata, isMetadataLine line
  metadataLine : ∀ line ∈ diff.metadata, OneLine line
  path : diff.path ≠ []
  renamed : ∀ source, diff.change = .renamed source → source ≠ [] ∧ source ≠ diff.path

/-- No contents of the file are read as a header. -/
def FileDiff.Quiet (diff : FileDiff) : Prop := ∀ hunk ∈ diff.hunks, hunk.Quiet

/-- The scan reports no problem about the section. -/
def FileDiff.Clear (diff : FileDiff) : Prop :=
  if diff.hunks = [] then ∃ names, gitHeaderPaths diff.headerRest = .ok (some names)
  else diff.labelNames ≠ []

/-- The lines of a section are pieces but for its hunks. -/
theorem pieces_lines {diff : FileDiff} (h : diff.Printed) :
    diff.lines.flatMap pieces = diff.header :: (diff.metadata ++
      if diff.hunks = [] then []
      else labelLine "--- " diff.oldLabel :: labelLine "+++ " diff.newLabel ::
        (diff.hunks.flatMap Hunk.lines).flatMap pieces) := by
  -- the header and the metadata are lines of their own: nothing in them splits
  have hheader : OneLine diff.header := by
    have hmark : OneLine "diff --git ".toList := by decide
    exact hmark.append ((oneLine_quoteName _).append ((oneLine_quoteName _).cons rfl))
  have hmetadata : diff.metadata.flatMap pieces = diff.metadata := by
    have hsingle : diff.metadata.flatMap pieces = diff.metadata.flatMap fun line => [line] :=
      List.flatMap_congr fun line hline => pieces_of_oneLine (h.metadataLine line hline)
    rw [hsingle, List.flatMap_singleton']
  rw [FileDiff.lines, List.flatMap_cons, pieces_of_oneLine hheader, List.flatMap_append, hmetadata,
    FileDiff.unified]
  by_cases hhunks : diff.hunks = []
  · rw [if_pos hhunks, if_pos hhunks]
    rfl
  · rw [if_neg hhunks, if_neg hhunks, List.flatMap_cons, List.flatMap_cons,
      pieces_of_oneLine (oneLine_labelLine diff).1, pieces_of_oneLine (oneLine_labelLine diff).2]
    rfl

/-- The header of a section, whose names are read or pending. -/
theorem scanLines_header {diff : FileDiff} {names : Option (List Text)}
    (h : gitHeaderPaths diff.headerRest = .ok names) {state : ScanState} (hhunk : ¬ state.inHunk)
    (rest : List Text) :
    ∃ state', scanLines state (diff.header :: rest) = scanLines state' rest ∧ ¬ state'.inHunk ∧
      state'.files = state.files ++ names.getD [] ∧ (state'.problems = [] ↔ state.Clean) ∧
      (state'.pendingHeader = none ↔ names.isSome) := by
  have hkind : ∀ next, lineKind diff.header next = .gitHeader := fun _ => rfl
  have hdrop : diff.header.drop "diff --git ".length = diff.headerRest := rfl
  -- a pending header is reported when the next one is met
  have hout : ¬ state.reportPending.inHunk := fun hin => hhunk ((reportPending_inHunk state).mp hin)
  have hnone : state.reportPending.pendingHeader = none := by
    rw [ScanState.reportPending]
    cases hpending : state.pendingHeader with
    | none => exact hpending
    | some header => rfl
  rw [scanLines_outside hhunk, hkind]
  simp only [ScanState.gitHeader, hdrop, h]
  -- a header that cannot be read stays pending until labels are met
  cases names with
  | none =>
      refine ⟨_, rfl, hout, ?_, reportPending_problems state, ?_⟩
      · rw [Option.getD_none, List.append_nil]
        exact reportPending_files state
      · exact iff_of_false (Option.some_ne_none _) Bool.false_ne_true
  | some names =>
      refine ⟨_, rfl, hout, ?_, reportPending_problems state, ?_⟩
      · rw [Option.getD_some]
        exact congrArg (· ++ names) (reportPending_files state)
      · exact ⟨fun _ => rfl, fun _ => hnone⟩

/-- The labels of a section, which settle a pending header. -/
theorem scanLines_labels {diff : FileDiff} (hhunks : diff.hunks ≠ []) {state : ScanState}
    (hhunk : ¬ state.inHunk) (rest : List Text) :
    ∃ state', scanLines state (labelLine "--- " diff.oldLabel :: labelLine "+++ " diff.newLabel :: rest) =
        scanLines state' rest ∧ ¬ state'.inHunk ∧ state'.files = state.files ++ diff.labelNames ∧
      (state'.Clean ↔ state.problems = [] ∧ diff.labelNames ≠ []) := by
  have hkind : lineKind (labelLine "--- " diff.oldLabel) (some (labelLine "+++ " diff.newLabel)) =
      .unifiedHeader (labelLine "+++ " diff.newLabel) := rfl
  have hlabels : diff.labelNames = (if diff.change = .added then none else sideName diff.oldPath).toList ++
      (if diff.change = .deleted then none else sideName diff.path).toList := if_neg hhunks
  rw [scanLines_outside hhunk, List.head?_cons, hkind]
  simp only [ScanState.unifiedHeader, decodePathToken_oldLabel, decodePathToken_newLabel, List.tail_cons]
  -- a side that does not exist, or has only white space, has no name
  rw [hlabels]
  generalize (if diff.change = .added then none else sideName diff.oldPath) = old
  generalize (if diff.change = .deleted then none else sideName diff.path) = new
  cases old with
  | none =>
      cases new with
      | none => exact ⟨_, rfl, hhunk, (List.append_nil _).symm, by simp [ScanState.Clean]⟩
      | some new => exact ⟨_, rfl, hhunk, rfl, by simp [ScanState.Clean]⟩
  | some old => exact ⟨_, rfl, hhunk, rfl, by simp [ScanState.Clean]⟩

/-- **A section adds the names of its header and labels, and its problem if it has one.** -/
theorem scanLines_section {diff : FileDiff} (hprinted : diff.Printed) (hquiet : diff.Quiet)
    {names : Option (List Text)} (h : gitHeaderPaths diff.headerRest = .ok names) {state : ScanState}
    (hhunk : ¬ state.inHunk) {rest : List Text} (hrest : NotLabel rest.head?) :
    ∃ state', scanLines state (diff.lines.flatMap pieces ++ rest) = scanLines state' rest ∧
      ¬ state'.inHunk ∧ state'.files = state.files ++ (diff.headerNames ++ diff.labelNames) ∧
      (state'.Clean ↔ state.Clean ∧ diff.Clear) := by
  have hnames : diff.headerNames = names.getD [] := by rw [FileDiff.headerNames, h]
  -- the header counts as read when it has names
  have hread : names.isSome ↔ ∃ names, gitHeaderPaths diff.headerRest = .ok (some names) := by
    rw [h]
    cases names <;> simp
  rw [pieces_lines hprinted, FileDiff.Clear, ← hread, hnames]
  by_cases hhunks : diff.hunks = []
  · have hlabels : diff.labelNames = [] := if_pos hhunks
    rw [if_pos hhunks, if_pos hhunks, List.append_nil, hlabels, List.append_nil]
    obtain ⟨state', hscan, hout, hfiles, hproblems, hpending⟩ := scanLines_header h hhunk (diff.metadata ++ rest)
    refine ⟨state', ?_, hout, hfiles, ?_⟩
    · rw [List.cons_append, hscan, scanLines_metadata hout hprinted.metadata]
    · rw [ScanState.Clean, hproblems, hpending]
  · rw [if_neg hhunks, if_neg hhunks]
    -- the labels are met outside a hunk, and the hunks behind them hide nothing
    generalize hhunkLines : (diff.hunks.flatMap Hunk.lines).flatMap pieces = hunkLines
    obtain ⟨state', hscan, hout, hfiles, hproblems, -⟩ := scanLines_header h hhunk
      (diff.metadata ++ (labelLine "--- " diff.oldLabel :: labelLine "+++ " diff.newLabel :: (hunkLines ++ rest)))
    obtain ⟨final, hlabels, hfinal, hadded, hclean⟩ := scanLines_labels hhunks hout (hunkLines ++ rest)
    refine ⟨final, ?_, hfinal, ?_, ?_⟩
    · rw [List.cons_append, List.append_assoc, List.cons_append, List.cons_append, hscan,
        scanLines_metadata hout hprinted.metadata, hlabels, ← hhunkLines]
      exact scanLines_quiet_hunks hfinal hquiet hrest
    · rw [hadded, hfiles, List.append_assoc]
    · rw [hclean, hproblems]

/-! ## The header, by the quoting of its names -/

theorem rstrip_quoted {name : Text} (h : ¬ name.all isPlainNameChar) (before : Text) :
    rstrip (before ++ quoteName name) = before ++ quoteName name := by
  have hquote : isSpace '"' = false := rfl
  have hlast := rstrip_append_of_not_isSpace (before ++ '"' :: name.flatMap quoteNameChar) [] hquote
  have hsplit : before ++ quoteName name = (before ++ '"' :: name.flatMap quoteNameChar) ++ ['"'] := by
    rw [quoteName_of_quoted h]
    simp
  rw [hsplit]
  exact hlast

theorem head_quoted {name : Text} (h : ¬ name.all isPlainNameChar) (tail : Text) :
    (quoteName name ++ tail).head? = some '"' := by
  rw [quoteName_of_quoted h]
  rfl

/-- An old name that Git does not quote leaves the header to be cut at its spaces. -/
theorem gitHeaderPaths_of_plain {diff : FileDiff} (h : diff.oldPath.all isPlainNameChar) :
    gitHeaderPaths diff.headerRest = .ok (unquotedHeaderPaths (rstrip diff.headerRest)) := by
  have hold : ('a' :: '/' :: diff.oldPath).all isPlainNameChar := by rwa [all_side (Or.inl rfl)]
  have hstrip : ∃ tail, rstrip diff.headerRest = 'a' :: '/' :: tail := by
    refine ⟨rstrip (diff.oldPath ++ ' ' :: quoteName ('b' :: '/' :: diff.path)), ?_⟩
    rw [FileDiff.headerRest, quoteName_of_plain hold]
    exact rstrip_side 'a' _
  obtain ⟨tail, htail⟩ := hstrip
  rw [gitHeaderPaths]
  simp only [htail]
  rw [if_neg (by simp), if_neg (by simp)]

/-- A quoted old name is read, and what stands after it is the new name. -/
theorem gitHeaderPaths_of_quoted {diff : FileDiff} (h : ¬ diff.oldPath.all isPlainNameChar) :
    gitHeaderPaths diff.headerRest = .ok (distinctNames ([diff.oldPath, diff.path].filterMap sideName)) := by
  have hold : ¬ ('a' :: '/' :: diff.oldPath).all isPlainNameChar := by rwa [all_side (Or.inl rfl)]
  have hspace : isSpace ' ' = true := by decide
  have hsides : [diff.oldPath, diff.path].filterMap sideName =
      ['a' :: '/' :: diff.oldPath, 'b' :: '/' :: diff.path].filterMap stripDiffPrefix := by
    simp only [List.filterMap_cons, stripDiffPrefix_side (Or.inl rfl), stripDiffPrefix_side (Or.inr rfl),
      List.filterMap_nil]
  -- the new name may be plain; the header is then cut behind the quoted one
  by_cases hnew : diff.path.all isPlainNameChar
  · have hplain : ('b' :: '/' :: diff.path).all isPlainNameChar := by rwa [all_side (Or.inr rfl)]
    have hend : rstrip diff.headerRest =
        quoteName ('a' :: '/' :: diff.oldPath) ++ ' ' :: 'b' :: '/' :: rstrip diff.path := by
      have hslash : isSpace '/' = false := rfl
      have hsplit : diff.headerRest = (quoteName ('a' :: '/' :: diff.oldPath) ++ [' ', 'b']) ++ '/' :: diff.path := by
        rw [FileDiff.headerRest, quoteName_of_plain hplain]
        simp
      rw [hsplit, rstrip_append_of_not_isSpace _ _ hslash]
      simp
    -- what is left behind the quoted name is the other side, but for white space
    have hremainder : strip (' ' :: 'b' :: '/' :: rstrip diff.path) = 'b' :: '/' :: rstrip diff.path := by
      have hlstrip : lstrip (' ' :: 'b' :: '/' :: rstrip diff.path) = 'b' :: '/' :: rstrip diff.path := by
        rw [lstrip, List.dropWhile_cons_of_pos hspace, List.dropWhile_cons_of_neg (by decide)]
      rw [strip, hlstrip, rstrip_side, rstrip_rstrip]
    have hagain : stripDiffPrefix ('b' :: '/' :: rstrip diff.path) = stripDiffPrefix ('b' :: '/' :: diff.path) := by
      rw [stripDiffPrefix_side (Or.inr rfl), stripDiffPrefix_side (Or.inr rfl), sideName, sideName, rstrip_rstrip]
    rw [gitHeaderPaths]
    simp only [hend]
    rw [if_neg (by simp), if_pos (head_quoted hold _), quotedHeaderPaths, readQuotedToken_quoteName hold]
    show (if strip (' ' :: 'b' :: '/' :: rstrip diff.path) = [] then _ else _) = _
    rw [hremainder, if_neg (List.cons_ne_nil _ _), if_neg (by simp), hsides]
    simp only [List.filterMap_cons, hagain]
    rfl
  -- both names are quoted, and the second is read up to its closing quote
  · have hquoted : ¬ ('b' :: '/' :: diff.path).all isPlainNameChar := by rwa [all_side (Or.inr rfl)]
    have hend : rstrip diff.headerRest = diff.headerRest := by
      have hsplit : diff.headerRest =
          (quoteName ('a' :: '/' :: diff.oldPath) ++ [' ']) ++ quoteName ('b' :: '/' :: diff.path) := by
        rw [FileDiff.headerRest]
        simp
      rw [hsplit, rstrip_quoted hquoted]
    have hremainder : strip (' ' :: quoteName ('b' :: '/' :: diff.path)) = quoteName ('b' :: '/' :: diff.path) := by
      have hlstrip : lstrip (' ' :: quoteName ('b' :: '/' :: diff.path)) =
          lstrip (quoteName ('b' :: '/' :: diff.path)) := by
        rw [lstrip, List.dropWhile_cons_of_pos hspace, lstrip]
      have hhead : lstrip (quoteName ('b' :: '/' :: diff.path)) = quoteName ('b' :: '/' :: diff.path) := by
        rw [quoteName_of_quoted hquoted]
        exact List.dropWhile_cons_of_neg (by decide)
      rw [strip, hlstrip, hhead]
      exact rstrip_quoted hquoted []
    have hsecond := readQuotedToken_quoteName hquoted []
    rw [List.append_nil] at hsecond
    have hne : quoteName ('b' :: '/' :: diff.path) ≠ [] := by
      rw [quoteName_of_quoted hquoted]
      exact List.cons_ne_nil _ _
    have hhead : (quoteName ('b' :: '/' :: diff.path)).head? = some '"' := by
      have hhead := head_quoted hquoted []
      rwa [List.append_nil] at hhead
    rw [gitHeaderPaths]
    simp only [hend]
    rw [FileDiff.headerRest, if_neg (by simp), if_pos (head_quoted hold _), quotedHeaderPaths,
      readQuotedToken_quoteName hold]
    show (if strip (' ' :: quoteName ('b' :: '/' :: diff.path)) = [] then _ else _) = _
    rw [hremainder, if_neg hne, if_pos hhead, hsecond, hsides]
    rfl

theorem gitHeaderPaths_printed (diff : FileDiff) : ∃ names, gitHeaderPaths diff.headerRest = .ok names := by
  by_cases h : diff.oldPath.all isPlainNameChar
  · exact ⟨_, gitHeaderPaths_of_plain h⟩
  · exact ⟨_, gitHeaderPaths_of_quoted h⟩

/-! ## The whole patch -/

theorem scanLines_sections {patch : List FileDiff} (hprinted : ∀ diff ∈ patch, diff.Printed)
    (hquiet : ∀ diff ∈ patch, diff.Quiet) {state : ScanState} (hhunk : ¬ state.inHunk) :
    ∃ state', scanLines state ((patch.flatMap FileDiff.lines).flatMap pieces) = .ok state' ∧
      state'.files = state.files ++ patch.flatMap (fun diff => diff.headerNames ++ diff.labelNames) ∧
      (state'.Clean ↔ state.Clean ∧ ∀ diff ∈ patch, diff.Clear) := by
  induction patch generalizing state with
  | nil =>
      refine ⟨state, ?_, (List.append_nil _).symm, by simp⟩
      rw [List.flatMap_nil, List.flatMap_nil, scanLines]
  | cons diff patch ih =>
      obtain ⟨hdiff, hothers⟩ := List.forall_mem_cons.mp hprinted
      obtain ⟨hdiffQuiet, hothersQuiet⟩ := List.forall_mem_cons.mp hquiet
      obtain ⟨names, hnames⟩ := gitHeaderPaths_printed diff
      -- a section begins with its header, which is no label
      have hnext : NotLabel ((patch.flatMap FileDiff.lines).flatMap pieces).head? := by
        cases patch with
        | nil =>
            intro line hline
            cases hline
        | cons next patch =>
            rw [List.flatMap_cons, List.flatMap_append, pieces_lines (List.forall_mem_cons.mp hothers).1]
            rintro line ⟨⟩ ⟨tail, hlabel⟩
            have hhead : some '+' = some 'd' := congrArg List.head? hlabel
            exact absurd hhead (by decide)
      obtain ⟨middle, hscan, hmiddle, hfiles, hclean⟩ :=
        scanLines_section hdiff hdiffQuiet hnames hhunk hnext
      obtain ⟨final, hrest, hadded, hfinal⟩ := ih hothers hothersQuiet hmiddle
      refine ⟨final, ?_, ?_, ?_⟩
      · rw [List.flatMap_cons, List.flatMap_append, hscan, hrest]
      · rw [hadded, hfiles, List.flatMap_cons, List.append_assoc]
      · rw [hfinal, hclean, List.forall_mem_cons, and_assoc]

theorem distinctNames_ne_nil {names found : List Text} (h : distinctNames names = some found) : found ≠ [] := by
  rw [distinctNames] at h
  split_ifs at h with hnil
  obtain ⟨name, others, rfl⟩ := List.exists_cons_of_ne_nil hnil
  have hfound : (name :: others).eraseDups = found := by simpa using h
  rw [← hfound, List.eraseDups_cons]
  exact List.cons_ne_nil _ _

theorem unquotedHeaderPaths_ne_nil {rest : Text} {names : List Text}
    (h : unquotedHeaderPaths rest = some names) : names ≠ [] := by
  rw [unquotedHeaderPaths] at h
  dsimp only at h
  split at h
  · obtain rfl := Option.some.inj h
    exact List.cons_ne_nil _ _
  · split at h
    · exact distinctNames_ne_nil h
    · cases h

/-- A section without a problem has a name. -/
theorem names_ne_nil_of_clear {diff : FileDiff} (h : diff.Clear) : diff.headerNames ++ diff.labelNames ≠ [] := by
  rw [FileDiff.Clear] at h
  by_cases hhunks : diff.hunks = []
  · rw [if_pos hhunks] at h
    obtain ⟨names, hnames⟩ := h
    have hheader : diff.headerNames = names := by
      rw [FileDiff.headerNames, hnames]
      rfl
    have hne : names ≠ [] := by
      by_cases hold : diff.oldPath.all isPlainNameChar
      · rw [gitHeaderPaths_of_plain hold] at hnames
        exact unquotedHeaderPaths_ne_nil (Except.ok.inj hnames)
      · rw [gitHeaderPaths_of_quoted hold] at hnames
        exact distinctNames_ne_nil (Except.ok.inj hnames)
    rw [hheader]
    exact List.append_ne_nil_of_left_ne_nil hne _
  · rw [if_neg hhunks] at h
    exact List.append_ne_nil_of_right_ne_nil _ h

/-- **What the scan reports for one of Git's patches.** -/
theorem scanPatch_printPatch {patch : List FileDiff} (hprinted : ∀ diff ∈ patch, diff.Printed)
    (hquiet : ∀ diff ∈ patch, diff.Quiet) :
    ∃ scan, scanPatch (printPatch patch) = .ok scan ∧
      (scan.problems = [] ↔ ∀ diff ∈ patch, diff.Clear) ∧
      ∀ name, name ∈ scan.files ↔ ∃ diff ∈ patch, name ∈ diff.headerNames ++ diff.labelNames := by
  -- the scan starts clean, outside every hunk
  have hempty : ¬ ({} : ScanState).inHunk := by
    rintro (h | h) <;> cases h
  obtain ⟨final, hscan, hfiles, hclean⟩ := scanLines_sections hprinted hquiet hempty
  have hstart : ({} : ScanState).Clean := ⟨rfl, rfl⟩
  have hlines : splitlines (printPatch patch) = (patch.flatMap FileDiff.lines).flatMap pieces :=
    splitlines_printLines_pieces _
  have hproblems : final.reportPending.problems = [] ↔ ∀ diff ∈ patch, diff.Clear := by
    rw [reportPending_problems, hclean]
    exact ⟨fun h => h.2, fun h => ⟨hstart, h⟩⟩
  have hnames : final.reportPending.files = patch.flatMap fun diff => diff.headerNames ++ diff.labelNames := by
    rw [reportPending_files, hfiles]
    rfl
  rw [scanPatch, hlines, hscan]
  refine ⟨_, rfl, ?_, fun name => ?_⟩
  · dsimp only
    rw [← hproblems]
    by_cases hreported : final.reportPending.problems = []
    · -- without a problem there is a name, unless the patch is empty
      have hsome : isBlank (printPatch patch) = true ∨ final.reportPending.files ≠ [] ∨
          final.reportPending.problems ≠ [] := by
        cases patch with
        | nil => exact .inl rfl
        | cons diff patch =>
            have hclear := (List.forall_mem_cons.mp (hproblems.mp hreported)).1
            refine .inr (.inl ?_)
            rw [hnames, List.flatMap_cons]
            exact List.append_ne_nil_of_left_ne_nil (names_ne_nil_of_clear hclear) _
      rw [if_pos hsome]
    · rw [if_pos (.inr (.inr hreported))]
  · dsimp only
    rw [List.mem_eraseDups, hnames, List.mem_flatMap]

/-- The patch is read without a problem, as exactly its old and new names. -/
def ScansExactly (patch : List FileDiff) : Prop :=
  ∃ scan, scanPatch (printPatch patch) = .ok scan ∧ scan.problems = [] ∧
    ∀ name, name ∈ scan.files ↔ name ∈ touchedPaths patch

/-- The section is read exactly. -/
def FileDiff.SectionExact (diff : FileDiff) : Prop :=
  diff.Clear ∧ ∀ name, name ∈ diff.headerNames ++ diff.labelNames ↔ name ∈ diff.touched

theorem scansExactly_of_sections {patch : List FileDiff} (hprinted : ∀ diff ∈ patch, diff.Printed)
    (hquiet : ∀ diff ∈ patch, diff.Quiet) (h : ∀ diff ∈ patch, diff.SectionExact) : ScansExactly patch := by
  obtain ⟨scan, hscan, hproblems, hfiles⟩ := scanPatch_printPatch hprinted hquiet
  refine ⟨scan, hscan, hproblems.mpr fun diff hdiff => (h diff hdiff).1, fun name => ?_⟩
  rw [hfiles, touchedPaths, List.mem_flatMap]
  constructor
  · rintro ⟨diff, hdiff, hname⟩
    exact ⟨diff, hdiff, ((h diff hdiff).2 name).mp hname⟩
  · rintro ⟨diff, hdiff, hname⟩
    exact ⟨diff, hdiff, ((h diff hdiff).2 name).mpr hname⟩

theorem sectionExact_of_single {diff : FileDiff} (hprinted : diff.Printed) (hquiet : diff.Quiet)
    (h : ScansExactly [diff]) : diff.SectionExact := by
  have hsingle {p : FileDiff → Prop} (hp : p diff) : ∀ other ∈ [diff], p other := fun other hother => by
    rw [List.mem_singleton.mp hother]
    exact hp
  obtain ⟨scan, hscan, hproblems, hfiles⟩ := scanPatch_printPatch (hsingle hprinted) (hsingle hquiet)
  obtain ⟨scan', hscan', hnone, hexact⟩ := h
  obtain rfl : scan' = scan := Except.ok.inj (hscan'.symm.trans hscan)
  refine ⟨hproblems.mp hnone diff (List.mem_singleton_self diff), fun name => ?_⟩
  have hname := (hfiles name).symm.trans (hexact name)
  rw [touchedPaths, List.flatMap_singleton] at hname
  rw [← hname]
  simp

/-! ## When a section is read exactly -/

/-- No white space stands at the end of the name. -/
def Kept (name : Text) : Prop := rstrip name = name

instance (name : Text) : Decidable (Kept name) := inferInstanceAs (Decidable (_ = _))

namespace FileDiff

/-- The ways to cut the header, after `diff --git `, into `a/LEFT b/RIGHT`. -/
def cuts (diff : FileDiff) : List (Text × Text) := headerCandidates (rstrip diff.headerRest)

/-- The header is cut between its names and nowhere else, and the labels name nothing else. -/
def ReadFromHeader (diff : FileDiff) : Prop :=
  diff.cuts = [(diff.oldPath, diff.path)] ∧
    (diff.hunks = [] ∨ rstrip diff.oldPath ∈ [diff.oldPath, diff.path, []])

/-- The header is not read, and the labels are. -/
def ReadFromLabels (diff : FileDiff) : Prop :=
  diff.hunks ≠ [] ∧ Kept diff.oldPath ∧ diff.cuts.length ≠ 1 ∧ ∀ cut ∈ diff.cuts, cut.1 = cut.2 → cut.1 = []

/-- The names of the section are those that are read. -/
def NamesRead (diff : FileDiff) : Prop :=
  match diff.change with
  | .renamed source =>
    Kept diff.path ∧
      if source.all isPlainNameChar then diff.ReadFromHeader ∨ diff.ReadFromLabels else Kept source
  | _ => Kept diff.path ∨ (diff.path.all isPlainNameChar ∧ diff.hunks = [] ∧ isBlank diff.path)

end FileDiff

theorem sideName_eq_some {path name : Text} : sideName path = some name ↔ rstrip path = name ∧ name ≠ [] := by
  rw [sideName]
  by_cases hnil : rstrip path = []
  · rw [if_pos hnil]
    constructor
    · intro h
      cases h
    · rintro ⟨rfl, hne⟩
      exact absurd hnil hne
  · rw [if_neg hnil, Option.some_inj]
    exact ⟨fun h => ⟨h, h ▸ hnil⟩, fun h => h.1⟩

theorem kept_of_sideName {path name : Text} (h : sideName path = some name) : Kept name := by
  rw [Kept, ← (sideName_eq_some.mp h).1, rstrip_rstrip]

theorem sideName_of_kept {path : Text} (hne : path ≠ []) (h : Kept path) : sideName path = some path :=
  sideName_eq_some.mpr ⟨h, hne⟩

theorem mem_labelNames {diff : FileDiff} {name : Text} :
    name ∈ diff.labelNames ↔
      diff.hunks ≠ [] ∧ (sideName diff.oldPath = some name ∨ sideName diff.path = some name) := by
  rw [FileDiff.labelNames]
  by_cases hhunks : diff.hunks = []
  · simp [hhunks]
  · rw [if_neg hhunks, List.mem_append]
    have hsame : diff.change = .added ∨ diff.change = .deleted → diff.oldPath = diff.path := by
      rintro (h | h) <;> rw [FileDiff.oldPath, h]
    by_cases hadded : diff.change = .added
    · simp [hhunks, hadded, hsame (.inl hadded)]
    · by_cases hdeleted : diff.change = .deleted
      · simp [hhunks, hdeleted, hsame (.inr hdeleted)]
      · simp [hhunks, hadded, hdeleted]

theorem mem_distinctNames {names : List Text} {name : Text} :
    name ∈ (distinctNames names).getD [] ↔ name ∈ names := by
  rw [distinctNames]
  by_cases hnil : names = []
  · rw [if_pos hnil, hnil]
    rfl
  · rw [if_neg hnil]
    exact List.mem_eraseDups

/-- A label names a path without white space at its end. -/
theorem kept_of_label {diff : FileDiff} {name : Text} (h : name ∈ diff.labelNames) : Kept name :=
  (mem_labelNames.mp h).2.elim kept_of_sideName kept_of_sideName

theorem mem_touched {diff : FileDiff} {name : Text} :
    name ∈ diff.touched ↔ name = diff.oldPath ∨ name = diff.path := by
  simp [FileDiff.touched]

theorem oldPath_ne_nil {diff : FileDiff} (h : diff.Printed) : diff.oldPath ≠ [] := by
  rw [FileDiff.oldPath]
  split
  · exact (h.renamed _ ‹_›).1
  · exact h.path

/-- What an unquoted header is read as, by the ways to cut it. -/
theorem unquotedHeaderPaths_cuts (rest : Text) :
    (∃ name ≠ [], (name, name) ∈ headerCandidates rest ∧ unquotedHeaderPaths rest = some [name]) ∨
    ((∀ cut ∈ headerCandidates rest, cut.1 = cut.2 → cut.1 = []) ∧
      ((∃ left right, headerCandidates rest = [(left, right)] ∧
          unquotedHeaderPaths rest = distinctNames ([left, right].filter fun name => name ≠ [])) ∨
        ((headerCandidates rest).length ≠ 1 ∧ unquotedHeaderPaths rest = none))) := by
  cases hfind : (headerCandidates rest).find? fun cut => cut.1 = cut.2 ∧ cut.1 ≠ [] with
  | some cut =>
      obtain ⟨name, other⟩ := cut
      have hequal := List.find?_some hfind
      obtain ⟨rfl, hname⟩ : name = other ∧ name ≠ [] := by simpa using hequal
      have hmem := List.mem_of_find?_eq_some hfind
      exact .inl ⟨name, hname, hmem, unquotedHeaderPaths_twice hname (mem_headerCandidates.mp hmem)⟩
  | none =>
      have hnone : ∀ cut ∈ headerCandidates rest, cut.1 = cut.2 → cut.1 = [] := by
        intro cut hcut hequal
        have hfalse := List.find?_eq_none.mp hfind cut hcut
        by_contra hne
        exact hfalse (by simpa using ⟨hequal, hne⟩)
      refine .inr ⟨hnone, ?_⟩
      rw [unquotedHeaderPaths_eq, hfind]
      rcases headerCandidates rest with _ | ⟨cut, _ | ⟨other, others⟩⟩
      · exact .inr ⟨Nat.zero_ne_one, rfl⟩
      · exact .inl ⟨cut.1, cut.2, rfl, rfl⟩
      · exact .inr ⟨by simp, rfl⟩

theorem rstrip_eq_nil_iff {cs : Text} : rstrip cs = [] ↔ isBlank cs = true := by
  rw [rstrip, List.rdropWhile_eq_nil_iff, isBlank, List.all_eq_true]

theorem clear_of_labels {diff : FileDiff} (hhunks : diff.hunks ≠ []) {name : Text}
    (h : name ∈ diff.labelNames) : diff.Clear := by
  rw [FileDiff.Clear, if_neg hhunks]
  exact List.ne_nil_of_mem h

theorem clear_of_header {diff : FileDiff} (hhunks : diff.hunks = []) {name : Text}
    (h : name ∈ diff.headerNames) : diff.Clear := by
  obtain ⟨names, hnames⟩ := gitHeaderPaths_printed diff
  rw [FileDiff.headerNames, hnames] at h
  rw [FileDiff.Clear, if_pos hhunks]
  cases names with
  | none => cases h
  | some names => exact ⟨names, hnames⟩

/-- A quoted old name: what is read of either name is the name without the white space at its end. -/
theorem mem_headerNames_of_quoted {diff : FileDiff} (h : ¬ diff.oldPath.all isPlainNameChar) {name : Text} :
    name ∈ diff.headerNames ↔ sideName diff.oldPath = some name ∨ sideName diff.path = some name := by
  rw [FileDiff.headerNames, gitHeaderPaths_of_quoted h]
  have hmem : name ∈ [diff.oldPath, diff.path].filterMap sideName ↔
      sideName diff.oldPath = some name ∨ sideName diff.path = some name := by
    rw [List.mem_filterMap]
    simp
  rw [← hmem]
  exact mem_distinctNames

/-- **A section with a quoted old name is read exactly when neither name ends in white space.** -/
theorem sectionExact_of_quoted {diff : FileDiff} (hprinted : diff.Printed)
    (h : ¬ diff.oldPath.all isPlainNameChar) : diff.SectionExact ↔ Kept diff.oldPath ∧ Kept diff.path := by
  have hread (name : Text) : name ∈ diff.headerNames ++ diff.labelNames ↔
      sideName diff.oldPath = some name ∨ sideName diff.path = some name := by
    rw [List.mem_append, mem_headerNames_of_quoted h, mem_labelNames]
    exact ⟨fun hname => hname.elim id And.right, Or.inl⟩
  constructor
  · rintro ⟨-, hexact⟩
    have hkept {name : Text} (hname : name ∈ diff.touched) : Kept name := by
      rcases (hread name).mp ((hexact name).mpr hname) with hside | hside
      · exact kept_of_sideName hside
      · exact kept_of_sideName hside
    exact ⟨hkept (oldPath_mem_touched diff), hkept (path_mem_touched diff)⟩
  · rintro ⟨hold, hnew⟩
    have holdSide := sideName_of_kept (oldPath_ne_nil hprinted) hold
    have hnewSide := sideName_of_kept hprinted.path hnew
    refine ⟨?_, fun name => ?_⟩
    · by_cases hhunks : diff.hunks = []
      · exact clear_of_header hhunks ((mem_headerNames_of_quoted h).mpr (.inr hnewSide))
      · exact clear_of_labels hhunks (mem_labelNames.mpr ⟨hhunks, .inr hnewSide⟩)
    · rw [hread, mem_touched, holdSide, hnewSide, Option.some_inj, Option.some_inj, eq_comm (b := name),
        eq_comm (b := name)]

/-! ### One plain path -/

/-- The header of one path is read as the path: white space at its end is stripped with the line, and
    a blank path leaves only one side. -/
theorem unquotedHeaderPaths_same {path : Text} (hne : path ≠ []) (h : Kept path ∨ isBlank path = true) :
    unquotedHeaderPaths (headerSides path (rstrip path)) = some [path] := by
  rcases h with hkept | hblank
  · rw [show rstrip path = path from hkept]
    exact unquotedHeaderPaths_twice hne rfl
  · -- no second way to cut the header: the blank path holds no separator
    have hnil : rstrip path = [] := rstrip_eq_nil_iff.mpr hblank
    have hseparator : ¬ HoldsSeparator path ∧ ¬ HoldsSeparator ([] : Text) := by
      refine ⟨fun hholds => ?_, fun hholds => ?_⟩
      · have hb : 'b' ∈ path := hholds.subset (by decide)
        exact absurd (List.all_eq_true.mp hblank 'b' hb) (by decide)
      · exact absurd (hholds.subset (show 'b' ∈ " b/".toList by decide)) (List.not_mem_nil)
    have honly : ∀ cut ∈ headerCandidates (headerSides path []), cut = (path, []) := by
      intro cut hcut
      by_contra hother
      exact (holdsSeparator_of_candidate hcut hother).elim hseparator.1 hseparator.2
    rw [hnil]
    rcases unquotedHeaderPaths_cases path [] with
      ⟨name, hname, hsides, -⟩ | ⟨-, hpaths⟩ | ⟨⟨cut, hcut, hother⟩, -⟩
    · exact absurd (Prod.mk.inj (honly (name, name) (mem_headerCandidates.mpr hsides))).2 hname
    · have hfilter : [path, []].filter (fun name => name ≠ []) = [path] := by simp [hne]
      rw [hpaths, hfilter, distinctNames, if_neg (List.cons_ne_nil _ _)]
      simp [List.eraseDups_cons]
    · exact absurd (honly cut hcut) hother

/-- A header of one path that is read as nothing but the path is read without stripping it. -/
theorem kept_of_unquotedHeaderPaths {path : Text} (hblank : rstrip path ≠ [])
    (hsome : unquotedHeaderPaths (headerSides path (rstrip path)) ≠ none)
    (honly : ∀ name ∈ (unquotedHeaderPaths (headerSides path (rstrip path))).getD [], name = path) :
    Kept path := by
  rcases unquotedHeaderPaths_cases path (rstrip path) with
    ⟨name, -, hsides, hpaths⟩ | ⟨-, hpaths⟩ | ⟨-, hpaths⟩
  · have hname : name = path := honly name (by rw [hpaths]; exact List.mem_cons_self)
    -- a header of twice the path is longer than the one that is printed
    have hlength := congrArg List.length hsides
    rw [length_headerSides, length_headerSides, hname] at hlength
    exact (prefix_rstrip path).eq_of_length (by omega)
  · refine honly (rstrip path) ?_
    rw [hpaths, mem_distinctNames, List.mem_filter]
    exact ⟨by simp, by simpa using hblank⟩
  · exact absurd hpaths hsome

/-- A section whose paths are one plain path. -/
theorem sectionExact_of_same {diff : FileDiff} (hprinted : diff.Printed) (hsame : diff.oldPath = diff.path)
    (hplain : diff.path.all isPlainNameChar) :
    diff.SectionExact ↔ Kept diff.path ∨ (diff.hunks = [] ∧ isBlank diff.path = true) := by
  have hold : diff.oldPath.all isPlainNameChar := by rwa [hsame]
  have hheader : gitHeaderPaths diff.headerRest =
      .ok (unquotedHeaderPaths (headerSides diff.path (rstrip diff.path))) := by
    rw [headerRest_of_plain hold hplain, hsame, gitHeaderPaths_headerSides]
  have hnames : diff.headerNames = (unquotedHeaderPaths (headerSides diff.path (rstrip diff.path))).getD [] := by
    rw [FileDiff.headerNames, hheader]
  have htouched (name : Text) : name ∈ diff.touched ↔ name = diff.path := by
    rw [mem_touched, hsame, or_self]
  have hlabel (name : Text) : name ∈ diff.labelNames ↔ diff.hunks ≠ [] ∧ sideName diff.path = some name := by
    rw [mem_labelNames, hsame, or_self]
  constructor
  · rintro ⟨hclear, hexact⟩
    have honly {name : Text} (hname : name ∈ diff.headerNames ++ diff.labelNames) : name = diff.path :=
      (htouched _).mp ((hexact _).mp hname)
    by_cases hhunks : diff.hunks = []
    · -- without hunks only the header is read
      by_cases hnil : rstrip diff.path = []
      · exact .inr ⟨hhunks, rstrip_eq_nil_iff.mp hnil⟩
      · rw [FileDiff.Clear, if_pos hhunks, hheader] at hclear
        obtain ⟨names, hread⟩ := hclear
        have hsome : unquotedHeaderPaths (headerSides diff.path (rstrip diff.path)) ≠ none := by
          rw [Except.ok.inj hread]
          exact Option.some_ne_none names
        exact .inl (kept_of_unquotedHeaderPaths hnil hsome fun name hname =>
          honly (List.mem_append_left _ (hnames ▸ hname)))
    · -- a label that is read is kept as it stands
      rw [FileDiff.Clear, if_neg hhunks] at hclear
      obtain ⟨name, others, hlabels⟩ := List.exists_cons_of_ne_nil hclear
      have hmem : name ∈ diff.labelNames := by rw [hlabels]; exact List.mem_cons_self
      exact .inl (honly (List.mem_append_right _ hmem) ▸ kept_of_label hmem)
  · intro hread
    -- the header names the path, and so does every label
    have hheaderNames : diff.headerNames = [diff.path] := by
      rw [hnames, unquotedHeaderPaths_same hprinted.path (hread.imp_right And.right)]
      rfl
    have hside {name : Text} (hname : name ∈ diff.labelNames) : name = diff.path := by
      obtain ⟨hhunks, hsome⟩ := (hlabel name).mp hname
      have hkept : Kept diff.path := hread.resolve_right fun hblank => hhunks hblank.1
      rw [sideName_of_kept hprinted.path hkept] at hsome
      exact (Option.some.inj hsome).symm
    refine ⟨?_, fun name => ?_⟩
    · by_cases hhunks : diff.hunks = []
      · exact clear_of_header hhunks (by rw [hheaderNames]; exact List.mem_cons_self)
      · have hkept : Kept diff.path := hread.resolve_right fun hblank => hhunks hblank.1
        exact clear_of_labels hhunks ((hlabel _).mpr ⟨hhunks, sideName_of_kept hprinted.path hkept⟩)
    · rw [htouched, hheaderNames, List.mem_append, List.mem_singleton]
      exact ⟨fun hname => hname.elim id hside, Or.inl⟩

/-! ### Renames of an unquoted name -/

theorem rstrip_headerRest_of_plain {diff : FileDiff} (hold : diff.oldPath.all isPlainNameChar)
    (hnew : diff.path.all isPlainNameChar) :
    rstrip diff.headerRest = headerSides diff.oldPath (rstrip diff.path) := by
  have hslash : isSpace '/' = false := rfl
  have hsplit (tail : Text) : headerSides diff.oldPath tail =
      ('a' :: '/' :: (diff.oldPath ++ [' ', 'b'])) ++ '/' :: tail := by
    simp [headerSides]
  rw [headerRest_of_plain hold hnew, hsplit, hsplit, rstrip_append_of_not_isSpace _ _ hslash]

/-- An unquoted name before a quoted one. -/
theorem headerRest_of_mixed {diff : FileDiff} (hold : diff.oldPath.all isPlainNameChar)
    (hnew : ¬ diff.path.all isPlainNameChar) :
    rstrip diff.headerRest = diff.headerRest ∧
      diff.headerRest = 'a' :: '/' :: (diff.oldPath ++
        ' ' :: '"' :: 'b' :: '/' :: (diff.path.flatMap quoteNameChar ++ ['"'])) := by
  have hplain : ('a' :: '/' :: diff.oldPath).all isPlainNameChar := by rwa [all_side (Or.inl rfl)]
  have hquoted : ¬ ('b' :: '/' :: diff.path).all isPlainNameChar := by rwa [all_side (Or.inr rfl)]
  have hslash : quoteNameChar '/' = ['/'] := by decide
  have hmark : quoteNameChar 'b' = ['b'] := by decide
  constructor
  · have hsplit : diff.headerRest =
        (quoteName ('a' :: '/' :: diff.oldPath) ++ [' ']) ++ quoteName ('b' :: '/' :: diff.path) := by
      rw [FileDiff.headerRest]
      simp
    rw [hsplit, rstrip_quoted hquoted]
  · rw [FileDiff.headerRest, quoteName_of_plain hplain, quoteName_of_quoted hquoted, List.flatMap_cons,
      List.flatMap_cons, hmark, hslash]
    simp

theorem headerSides_injective {left right right' : Text} (h : headerSides left right = headerSides left right') :
    right = right' := by
  rw [headerSides, headerSides] at h
  have htail := List.append_cancel_left (List.cons.inj (List.cons.inj h).2).2
  exact (List.cons.inj (List.cons.inj (List.cons.inj htail).2).2).2

theorem length_quoteNameChar_of_printable {c : Char} (h : isPlainNameChar c ∨ c = '"' ∨ c = '\\') :
    (quoteNameChar c).length ≤ 2 := by
  rcases h with hplain | rfl | rfl
  · rw [quoteNameChar, if_pos hplain]
    exact Nat.le_succ 1
  · decide
  · decide

theorem length_quotedBody_of_printable {cs : Text} (h : ∀ c ∈ cs, isPlainNameChar c ∨ c = '"' ∨ c = '\\') :
    (cs.flatMap quoteNameChar).length ≤ 2 * cs.length := by
  induction cs with
  | nil => exact Nat.le_refl _
  | cons c cs ih =>
      obtain ⟨hc, hcs⟩ := List.forall_mem_cons.mp h
      have hone := length_quoteNameChar_of_printable hc
      have hrest := ih hcs
      rw [List.flatMap_cons, List.length_append, List.length_cons]
      omega

theorem quotedBody_of_plain {cs : Text} (h : cs.all isPlainNameChar) : cs.flatMap quoteNameChar = cs := by
  induction cs with
  | nil => rfl
  | cons c cs ih =>
      rw [List.all_cons, Bool.and_eq_true] at h
      rw [List.flatMap_cons, quoteNameChar, if_pos h.1, ih h.2]
      rfl

/-- A quoted name does not stand on both sides of a cut of the header that prints it second: the
    quoting of what is printed at most doubles it. -/
theorem not_cut_twice_mixed {diff : FileDiff} (hold : diff.oldPath.all isPlainNameChar)
    (hnew : ¬ diff.path.all isPlainNameChar) : diff.headerRest ≠ headerSides diff.path diff.path := by
  intro htwice
  have hbody := (headerRest_of_mixed hold hnew).2.symm.trans htwice
  rw [headerSides] at hbody
  have htail := (List.cons.inj (List.cons.inj hbody).2).2
  rcases List.append_eq_append_iff.mp htail with ⟨middle, hpath, hafter⟩ | ⟨middle, hpath, -⟩
  · -- the path goes on after the old name with what separates it from the quoted name
    rcases middle with _ | ⟨a, _ | ⟨b, _ | ⟨c, _ | ⟨d, inner⟩⟩⟩⟩
    · simp at hafter
    · simp at hafter
    · simp at hafter
    · simp at hafter
    -- both ways to cut the header give the same lengths, which the quoting of the rest contradicts
    · simp only [List.cons_append, List.cons.injEq] at hafter
      obtain ⟨rfl, rfl, rfl, rfl, hinner⟩ := hafter
      have hprinted : ∀ e ∈ inner, isPlainNameChar e ∨ e = '"' ∨ e = '\\' := by
        intro e he
        have hmem : e ∈ quoteName diff.path := by
          rw [quoteName_of_quoted hnew, hinner]
          exact List.mem_cons_of_mem _ (List.mem_append_left _ he)
        exact printable_quoteName hmem
      have hdouble := length_quotedBody_of_printable hprinted
      have hquoted : (diff.path.flatMap quoteNameChar).length =
          diff.oldPath.length + 5 + (inner.flatMap quoteNameChar).length := by
        have hmarks : (" \"b/".toList.flatMap quoteNameChar).length = 5 := by decide
        have hsplit : diff.path = diff.oldPath ++ (" \"b/".toList ++ inner) := hpath
        rw [hsplit, List.flatMap_append, List.flatMap_append, quotedBody_of_plain hold, List.length_append,
          List.length_append, hmarks]
        omega
      have hlength := congrArg List.length hinner
      have hwhole := congrArg List.length hpath
      simp only [List.length_append, List.length_cons, List.length_nil] at hlength hwhole
      omega
  · -- the path would be a part of the old name, which is not quoted
    refine hnew (List.all_eq_true.mpr fun e he => ?_)
    rw [hpath] at hold
    exact List.all_eq_true.mp hold e (List.mem_append_left _ he)

/-- **Every cut of a header that quotes only its second name gives a wrong name.** -/
theorem exists_wrong_of_mixed {diff : FileDiff} (hold : diff.oldPath.all isPlainNameChar)
    (hnew : ¬ diff.path.all isPlainNameChar) {left right : Text} (hcut : (left, right) ∈ diff.cuts) :
    ∃ name ∈ [left, right].filter (fun name => name ≠ []), name ∉ diff.touched := by
  obtain ⟨hend, hrest⟩ := headerRest_of_mixed hold hnew
  rw [FileDiff.cuts, hend] at hcut
  have hsides := mem_headerCandidates.mp hcut
  have hwhole := hrest.symm.trans hsides
  -- the right side ends with the closing quote
  have hquote : '"' ∈ right := by
    have hlast := congrArg List.getLast? hwhole
    rcases List.eq_nil_or_concat right with rfl | ⟨front, last, rfl⟩
    · simp [headerSides, List.getLast?_append, List.getLast?_cons] at hlast
    · have hlast' : '"' = last := by
        simpa [headerSides, List.getLast?_append, List.getLast?_cons] using hlast
      rw [hlast', List.concat_eq_append]
      exact List.mem_append_right _ (List.mem_singleton_self _)
  have hright : right ≠ [] := List.ne_nil_of_mem hquote
  have hmem : right ∈ [left, right].filter fun name => name ≠ [] :=
    List.mem_filter.mpr ⟨by simp, by simpa using hright⟩
  -- the right side is the new name only if the left side is no name of the patch
  by_cases htouched : right ∈ diff.touched
  · have hnotOld : right ≠ diff.oldPath := by
      rintro rfl
      exact absurd (List.all_eq_true.mp hold _ hquote) (by decide)
    have hpath : right = diff.path := (mem_touched.mp htouched).resolve_left hnotOld
    have hleft : left ≠ [] := by
      rintro rfl
      have hbody := length_le_quotedBody diff.path
      have hlength := congrArg List.length hwhole
      rw [length_headerSides, hpath] at hlength
      simp only [List.length_cons, List.length_append, List.length_nil] at hlength
      omega
    refine ⟨left, List.mem_filter.mpr ⟨by simp, by simpa using hleft⟩, fun hleftTouched => ?_⟩
    rcases mem_touched.mp hleftTouched with rfl | rfl
    · -- after the old name a quote is printed, no second mark
      rw [headerSides] at hwhole
      have htail := List.append_cancel_left (List.cons.inj (List.cons.inj hwhole).2).2
      simp at htail
    · exact not_cut_twice_mixed hold hnew (hpath ▸ hsides)
  · exact ⟨right, hmem, htouched⟩

/-- A plain name does not stand on both sides of the header of a rename. -/
theorem not_cut_twice_plain {diff : FileDiff} (hne : diff.oldPath ≠ diff.path)
    (hold : diff.oldPath.all isPlainNameChar) (hnew : diff.path.all isPlainNameChar) {name : Text}
    (hcut : (name, name) ∈ diff.cuts) (hname : diff.headerNames = [name]) : ¬ diff.SectionExact := by
  rintro ⟨-, hexact⟩
  have hrest := rstrip_headerRest_of_plain hold hnew
  rw [FileDiff.cuts, hrest] at hcut
  have hsides := mem_headerCandidates.mp hcut
  have hread : diff.path ∈ diff.headerNames ++ diff.labelNames := (hexact _).mpr (path_mem_touched diff)
  have htouched : name ∈ diff.touched := (hexact _).mp (by rw [hname]; exact List.mem_cons_self)
  rcases mem_touched.mp htouched with rfl | rfl
  · -- the new name is the old one but for white space, and so is read nowhere
    have hstripped : rstrip diff.path = diff.oldPath := headerSides_injective hsides
    have hkept : Kept diff.oldPath := by rw [Kept, ← hstripped, rstrip_rstrip]
    rw [hname, List.singleton_append] at hread
    rcases List.mem_cons.mp hread with hsame | hlabel
    · exact hne hsame.symm
    · rcases (mem_labelNames.mp hlabel).2 with hside | hside
      · exact hne (hkept.symm.trans (sideName_eq_some.mp hside).1)
      · exact hne (hstripped.symm.trans (sideName_eq_some.mp hside).1)
  -- the new name is kept as it stands, so the two halves of the header are equal
  · have hlength := congrArg List.length hsides
    have hkept : rstrip diff.path = diff.path := by
      have htwice := congrArg rstrip hsides
      have hslash : isSpace '/' = false := rfl
      have hstrip (left tail : Text) : rstrip (headerSides left tail) = headerSides left (rstrip tail) := by
        have hsplit : ∀ tail, headerSides left tail = ('a' :: '/' :: (left ++ [' ', 'b'])) ++ '/' :: tail := by
          simp [headerSides]
        rw [hsplit, hsplit, rstrip_append_of_not_isSpace _ _ hslash]
      rw [hstrip, hstrip, rstrip_rstrip] at htwice
      exact headerSides_injective (htwice.symm.trans hsides)
    rw [hkept] at hsides hlength
    rw [length_headerSides, length_headerSides] at hlength
    rw [headerSides, headerSides] at hsides
    have hparts := List.append_inj (List.cons.inj (List.cons.inj hsides).2).2 (by omega)
    exact hne hparts.1

theorem headerNames_of_plain {diff : FileDiff} (hold : diff.oldPath.all isPlainNameChar) :
    diff.headerNames = (unquotedHeaderPaths (rstrip diff.headerRest)).getD [] := by
  rw [FileDiff.headerNames, gitHeaderPaths_of_plain hold]

/-- A header that is cut in one place, with two different sides, names the sides that are not empty. -/
theorem mem_headerNames_of_cut {diff : FileDiff} (hold : diff.oldPath.all isPlainNameChar)
    {left right : Text} (hcuts : diff.cuts = [(left, right)]) (hsides : left = right → left = []) {name : Text} :
    name ∈ diff.headerNames ↔ name ∈ [left, right].filter fun name => name ≠ [] := by
  rw [FileDiff.cuts] at hcuts
  rw [headerNames_of_plain hold]
  rcases unquotedHeaderPaths_cuts (rstrip diff.headerRest) with
    ⟨twice, htwice, hcut, -⟩ | ⟨-, ⟨left', right', hsingle, hpaths⟩ | ⟨hlength, -⟩⟩
  · rw [hcuts, List.mem_singleton] at hcut
    obtain ⟨rfl, rfl⟩ := Prod.mk.inj hcut
    exact absurd (hsides rfl) htwice
  · obtain ⟨rfl, rfl⟩ := Prod.mk.inj (List.singleton_injective (hcuts.symm.trans hsingle))
    rw [hpaths]
    exact mem_distinctNames
  · exact absurd (by rw [hcuts]; rfl) hlength

/-- A header that is cut in no place or in several, with no name twice, names nothing. -/
theorem headerNames_of_uncut {diff : FileDiff} (hold : diff.oldPath.all isPlainNameChar)
    (hcuts : diff.cuts.length ≠ 1) (hnone : ∀ cut ∈ diff.cuts, cut.1 = cut.2 → cut.1 = []) :
    diff.headerNames = [] := by
  rw [headerNames_of_plain hold]
  rcases unquotedHeaderPaths_cuts (rstrip diff.headerRest) with
    ⟨name, hname, hcut, -⟩ | ⟨-, ⟨left, right, hsingle, -⟩ | ⟨-, hpaths⟩⟩
  · exact absurd (hnone (name, name) hcut rfl) hname
  · exact absurd (by rw [FileDiff.cuts, hsingle]; rfl) hcuts
  · rw [hpaths]
    rfl

/-- A rename is not read exactly from a header with one name on both sides of a cut. -/
theorem not_sectionExact_of_twice {diff : FileDiff} (hne : diff.oldPath ≠ diff.path)
    (hold : diff.oldPath.all isPlainNameChar) {name : Text} (hname : name ≠ [])
    (hcut : (name, name) ∈ diff.cuts) : ¬ diff.SectionExact := by
  have hsingle : diff.headerNames = [name] := by
    rw [headerNames_of_plain hold, unquotedHeaderPaths_twice hname (mem_headerCandidates.mp hcut)]
    rfl
  by_cases hnew : diff.path.all isPlainNameChar
  · exact not_cut_twice_plain hne hold hnew hcut hsingle
  · rintro ⟨-, hexact⟩
    obtain ⟨wrong, hwrong, hnot⟩ := exists_wrong_of_mixed hold hnew hcut
    have hequal : wrong = name := by simpa using (List.mem_filter.mp hwrong).1
    have hread : wrong ∈ diff.headerNames := by
      rw [hsingle, hequal]
      exact List.mem_cons_self
    exact hnot ((hexact wrong).mp (List.mem_append_left _ hread))

/-- A rename whose header is cut in one place is read exactly only if the cut is between its names. -/
theorem readFromHeader_of_exact {diff : FileDiff} (hne : diff.oldPath ≠ diff.path)
    (hold : diff.oldPath.all isPlainNameChar) {left right : Text} (hcuts : diff.cuts = [(left, right)])
    (hsides : left = right → left = []) (h : diff.SectionExact) : Kept diff.path ∧ diff.ReadFromHeader := by
  obtain ⟨-, hexact⟩ := h
  have hcut : (left, right) ∈ diff.cuts := by
    rw [hcuts]
    exact List.mem_singleton_self _
  have hnew : diff.path.all isPlainNameChar := by
    by_contra hquoted
    obtain ⟨wrong, hwrong, hnot⟩ := exists_wrong_of_mixed hold hquoted hcut
    have hread : wrong ∈ diff.headerNames := (mem_headerNames_of_cut hold hcuts hsides).mpr hwrong
    exact hnot ((hexact wrong).mp (List.mem_append_left _ hread))
  -- the cut between the names is a cut, and so the only one
  have hself : (diff.oldPath, rstrip diff.path) ∈ diff.cuts := by
    rw [FileDiff.cuts, rstrip_headerRest_of_plain hold hnew]
    exact mem_headerCandidates.mpr rfl
  rw [hcuts, List.mem_singleton] at hself
  obtain ⟨rfl, rfl⟩ := Prod.mk.inj hself
  have hkept : Kept diff.path := by
    rcases List.mem_append.mp ((hexact _).mpr (path_mem_touched diff)) with hmem | hmem
    · have hside := (List.mem_filter.mp ((mem_headerNames_of_cut hold hcuts hsides).mp hmem)).1
      rcases List.mem_cons.mp hside with hsame | hside
      · exact absurd hsame.symm hne
      · exact (List.mem_singleton.mp hside).symm
    · exact kept_of_label hmem
  refine ⟨hkept, ?_, ?_⟩
  · rw [hcuts, show rstrip diff.path = diff.path from hkept]
  · by_cases hhunks : diff.hunks = []
    · exact .inl hhunks
    · refine .inr ?_
      by_cases hnil : rstrip diff.oldPath = []
      · simp [hnil]
      · -- the label of the old name is one of the two names
        have hside : sideName diff.oldPath = some (rstrip diff.oldPath) := sideName_eq_some.mpr ⟨rfl, hnil⟩
        have hlabel : rstrip diff.oldPath ∈ diff.labelNames := mem_labelNames.mpr ⟨hhunks, .inl hside⟩
        rcases mem_touched.mp ((hexact _).mp (List.mem_append_right _ hlabel)) with h | h
        · simp [h]
        · simp [h]

/-- A rename whose header is not read is read exactly only from labels that keep both names. -/
theorem readFromLabels_of_exact {diff : FileDiff} (hold : diff.oldPath.all isPlainNameChar)
    (hcuts : diff.cuts.length ≠ 1) (hnone : ∀ cut ∈ diff.cuts, cut.1 = cut.2 → cut.1 = [])
    (h : diff.SectionExact) : Kept diff.path ∧ diff.ReadFromLabels := by
  obtain ⟨hclear, hexact⟩ := h
  have hlabel {name : Text} (hname : name ∈ diff.touched) : name ∈ diff.labelNames := by
    have hmem := (hexact name).mpr hname
    rwa [headerNames_of_uncut hold hcuts hnone, List.nil_append] at hmem
  have hold' := hlabel (oldPath_mem_touched diff)
  exact ⟨kept_of_label (hlabel (path_mem_touched diff)), (mem_labelNames.mp hold').1, kept_of_label hold',
    hcuts, hnone⟩

/-- A rename whose header is cut between its names is read exactly, with labels that name nothing else. -/
theorem sectionExact_of_readFromHeader {diff : FileDiff} (hprinted : diff.Printed)
    (hne : diff.oldPath ≠ diff.path) (hold : diff.oldPath.all isPlainNameChar) (hkept : Kept diff.path)
    (h : diff.ReadFromHeader) : diff.SectionExact := by
  obtain ⟨hcuts, hlabels⟩ := h
  have hpathSide := sideName_of_kept hprinted.path hkept
  have hheader {name : Text} : name ∈ diff.headerNames ↔ name ∈ diff.touched := by
    have hboth : ([diff.oldPath, diff.path].filter fun name => name ≠ []) = [diff.oldPath, diff.path] := by
      simp [oldPath_ne_nil hprinted, hprinted.path]
    rw [mem_headerNames_of_cut hold hcuts fun hsame => absurd hsame hne, hboth, mem_touched]
    simp
  refine ⟨?_, fun name => ?_⟩
  · by_cases hhunks : diff.hunks = []
    · exact clear_of_header hhunks (hheader.mpr (path_mem_touched diff))
    · exact clear_of_labels hhunks (mem_labelNames.mpr ⟨hhunks, .inr hpathSide⟩)
  · rw [List.mem_append, hheader]
    refine ⟨fun hname => hname.elim id fun hlabel => ?_, Or.inl⟩
    obtain ⟨hhunks, hside | hside⟩ := mem_labelNames.mp hlabel
    · obtain ⟨hname, hnil⟩ := sideName_eq_some.mp hside
      have hmem := hlabels.resolve_left hhunks
      rw [hname] at hmem
      have hcases : name = diff.oldPath ∨ name = diff.path ∨ name = [] := by simpa using hmem
      rcases hcases with h | h | h
      · exact mem_touched.mpr (.inl h)
      · exact mem_touched.mpr (.inr h)
      · exact absurd h hnil
    · rw [hpathSide] at hside
      exact mem_touched.mpr (.inr (Option.some.inj hside).symm)

/-- A rename whose header is not read is read exactly from labels that keep both names. -/
theorem sectionExact_of_readFromLabels {diff : FileDiff} (hprinted : diff.Printed)
    (hold : diff.oldPath.all isPlainNameChar) (hkept : Kept diff.path) (h : diff.ReadFromLabels) :
    diff.SectionExact := by
  obtain ⟨hhunks, holdKept, hcuts, hnone⟩ := h
  have holdSide := sideName_of_kept (oldPath_ne_nil hprinted) holdKept
  have hpathSide := sideName_of_kept hprinted.path hkept
  refine ⟨clear_of_labels hhunks (mem_labelNames.mpr ⟨hhunks, .inr hpathSide⟩), fun name => ?_⟩
  rw [headerNames_of_uncut hold hcuts hnone, List.nil_append, mem_labelNames, mem_touched, holdSide, hpathSide,
    Option.some_inj, Option.some_inj, eq_comm (b := name), eq_comm (b := name)]
  exact and_iff_right hhunks

/-- **A rename of an unquoted name is read exactly from its header, or from its labels.** -/
theorem sectionExact_of_renamed {diff : FileDiff} (hprinted : diff.Printed) (hne : diff.oldPath ≠ diff.path)
    (hold : diff.oldPath.all isPlainNameChar) :
    diff.SectionExact ↔ Kept diff.path ∧ (diff.ReadFromHeader ∨ diff.ReadFromLabels) := by
  constructor
  · intro hsection
    have hnone : ∀ cut ∈ diff.cuts, cut.1 = cut.2 → cut.1 = [] := by
      intro cut hcut hsame
      by_contra hname
      have htwice : (cut.1, cut.1) ∈ diff.cuts := (Prod.ext rfl hsame : (cut.1, cut.1) = cut) ▸ hcut
      exact not_sectionExact_of_twice hne hold hname htwice hsection
    by_cases hone : diff.cuts.length = 1
    · obtain ⟨cut, hcuts⟩ := List.length_eq_one_iff.mp hone
      have hsides : cut.1 = cut.2 → cut.1 = [] := hnone cut (by rw [hcuts]; exact List.mem_singleton_self _)
      obtain ⟨hkept, hread⟩ := readFromHeader_of_exact hne hold hcuts hsides hsection
      exact ⟨hkept, .inl hread⟩
    · obtain ⟨hkept, hread⟩ := readFromLabels_of_exact hold hone hnone hsection
      exact ⟨hkept, .inr hread⟩
  · rintro ⟨hkept, hread | hread⟩
    · exact sectionExact_of_readFromHeader hprinted hne hold hkept hread
    · exact sectionExact_of_readFromLabels hprinted hold hkept hread

theorem sectionExact_iff {diff : FileDiff} (hprinted : diff.Printed) : diff.SectionExact ↔ diff.NamesRead := by
  -- without a rename only the one name matters, plain or quoted
  have hunrenamed (hsame : diff.oldPath = diff.path) :
      diff.SectionExact ↔
        Kept diff.path ∨ (diff.path.all isPlainNameChar ∧ diff.hunks = [] ∧ isBlank diff.path) := by
    by_cases hplain : diff.path.all isPlainNameChar
    · rw [sectionExact_of_same hprinted hsame hplain]
      simp [hplain]
    · have hold : ¬ diff.oldPath.all isPlainNameChar := by rwa [hsame]
      rw [sectionExact_of_quoted hprinted hold, hsame, and_self]
      simp [hplain]
  cases hchange : diff.change with
  | modified =>
      have hsame : diff.oldPath = diff.path := by rw [FileDiff.oldPath, hchange]
      rw [hunrenamed hsame, FileDiff.NamesRead, hchange]
  | added =>
      have hsame : diff.oldPath = diff.path := by rw [FileDiff.oldPath, hchange]
      rw [hunrenamed hsame, FileDiff.NamesRead, hchange]
  | deleted =>
      have hsame : diff.oldPath = diff.path := by rw [FileDiff.oldPath, hchange]
      rw [hunrenamed hsame, FileDiff.NamesRead, hchange]
  | renamed source =>
      have hsource : diff.oldPath = source := by rw [FileDiff.oldPath, hchange]
      have hne : diff.oldPath ≠ diff.path := by
        rw [hsource]
        exact (hprinted.renamed source hchange).2
      rw [FileDiff.NamesRead, hchange]
      by_cases hplain : source.all isPlainNameChar
      · have hold : diff.oldPath.all isPlainNameChar := by rwa [hsource]
        rw [sectionExact_of_renamed hprinted hne hold]
        show _ ↔ Kept diff.path ∧ if source.all isPlainNameChar then _ else _
        rw [if_pos hplain]
      · have hold : ¬ diff.oldPath.all isPlainNameChar := by rwa [hsource]
        rw [sectionExact_of_quoted hprinted hold, hsource]
        show _ ↔ Kept diff.path ∧ if source.all isPlainNameChar then _ else _
        rw [if_neg hplain]
        exact and_comm

/-! ## When the patch is read exactly -/

/-- **Where no contents are read as headers, a set of changes and every part of it are read
    exactly when the names of each section are.** -/
theorem scansExactly_iff {patch : List FileDiff} (hprinted : ∀ diff ∈ patch, diff.Printed)
    (hquiet : ∀ diff ∈ patch, diff.Quiet) :
    (∀ part, part.Sublist patch → ScansExactly part) ↔ ∀ diff ∈ patch, diff.NamesRead := by
  constructor
  · intro h diff hdiff
    have hsingle := h [diff] (List.singleton_sublist.mpr hdiff)
    exact (sectionExact_iff (hprinted diff hdiff)).mp
      (sectionExact_of_single (hprinted diff hdiff) (hquiet diff hdiff) hsingle)
  · intro h part hpart
    exact scansExactly_of_sections (fun diff hdiff => hprinted diff (hpart.subset hdiff))
      (fun diff hdiff => hquiet diff (hpart.subset hdiff))
      fun diff hdiff => (sectionExact_iff (hprinted diff (hpart.subset hdiff))).mpr (h diff (hpart.subset hdiff))

/-- A line that holds a carriage return goes into a file with a space in its name. -/
def returnSample : FileDiff :=
  ⟨"read me.txt".toList, .modified, ["index 5626abf..f719efd 100644".toList],
    [⟨1, 1, [], [.removed "one".toList, .added "one\rtwo".toList, .context "kept".toList]⟩]⟩

theorem scansExactly_carriageReturn : ScansExactly [returnSample] := by
  have hprinted : ∀ diff ∈ [returnSample], diff.Printed := by
    intro diff hdiff
    obtain rfl := List.mem_singleton.mp hdiff
    exact ⟨by decide, by decide, by decide, fun _ h => nomatch h⟩
  have hquiet : ∀ diff ∈ [returnSample], diff.Quiet := by
    intro diff hdiff
    obtain rfl := List.mem_singleton.mp hdiff
    show ∀ hunk ∈ returnSample.hunks, hunk.Quiet
    decide
  have hnames : ∀ diff ∈ [returnSample], diff.NamesRead := by
    intro diff hdiff
    obtain rfl := List.mem_singleton.mp hdiff
    exact .inl (by decide)
  exact (scansExactly_iff hprinted hquiet).mpr hnames [returnSample] (List.Sublist.refl _)

theorem printed_modeChange {path : Text} (h : path ≠ []) : (FileDiff.modeChange path).Printed :=
  ⟨(wellFormed_modeChange path).metadata, (wellFormed_modeChange path).metadataLine, h, fun _ hrenamed => nomatch hrenamed⟩

/-- A file whose name ends in a no-break space changes its mode: another name is reported. -/
theorem not_scansExactly_noBreakSpace :
    ¬ ∀ patch : List FileDiff, (∀ diff ∈ patch, diff.Printed) → ScansExactly patch := by
  intro h
  have hprinted := printed_modeChange (show "notes\u00a0".toList ≠ [] by decide)
  have hexact := h [FileDiff.modeChange "notes\u00a0".toList] fun diff hdiff => by
    rw [List.mem_singleton.mp hdiff]
    exact hprinted
  have hquiet : (FileDiff.modeChange "notes\u00a0".toList).Quiet := fun _ hmem => nomatch hmem
  have hread := (sectionExact_iff hprinted).mp (sectionExact_of_single hprinted hquiet hexact)
  have hnot : ¬ (Kept "notes\u00a0".toList ∨
      ("notes\u00a0".toList.all isPlainNameChar ∧ ([] : List Hunk) = [] ∧ isBlank "notes\u00a0".toList)) := by
    decide
  exact hnot hread

end LlmHarness
