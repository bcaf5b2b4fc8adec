/-
  LlmHarness.Verifier.ScanPrinted

  The scan of a printed patch, section by section: the metadata lines are
  passed over, the counters of a hunk run out with its last line, and what is
  left are the names read from the header and from the labels.
-/

import LlmHarness.Verifier.HeaderNames

namespace LlmHarness

open Python

/-! ## Hunk headers -/

theorem readNumber_toDigits (n : Nat) {c : Char} (hc : isDecimal c = false) (rest : Text) :
    readNumber (Nat.toDigits 10 n ++ c :: rest) = some (n, c :: rest) := by
  have hdigits : ∀ d ∈ Nat.toDigits 10 n, isDecimal d := fun d hd => isDecimal_of_mem_toDigits hd
  have htake : (Nat.toDigits 10 n ++ c :: rest).takeWhile isDecimal = Nat.toDigits 10 n := by
    rw [List.takeWhile_append_of_pos hdigits, List.takeWhile_cons_of_neg (by simp [hc]),
      List.append_nil]
  have hdrop : (Nat.toDigits 10 n ++ c :: rest).dropWhile isDecimal = c :: rest := by
    rw [List.dropWhile_append_of_pos hdigits, List.dropWhile_cons_of_neg (by simp [hc])]
  rw [readNumber, htake, hdrop, if_neg Nat.toDigits_ne_nil, decimalNumber_toDigits]

theorem readRange_printRange (start count : Nat) (rest : Text) :
    readRange (printRange start count ++ ' ' :: rest) = some (count, ' ' :: rest) := by
  have hspace : isDecimal ' ' = false := by decide
  have hcomma : isDecimal ',' = false := by decide
  rw [printRange]
  by_cases hone : count = 1
  · rw [if_pos hone, List.append_nil, readRange, readNumber_toDigits start hspace, hone]
    rfl
  · rw [if_neg hone, List.append_assoc, List.cons_append, readRange,
      readNumber_toDigits start hcomma]
    simp only [Option.bind_eq_bind, Option.bind_some, readNumber_toDigits count hspace]

/-- **The counts of a printed hunk header are read back.** -/
theorem hunkCounts_header (hunk : Hunk) :
    hunkCounts hunk.header = some (hunk.oldCount, hunk.newCount) := by
  -- each mark is taken from the front of the header in turn
  have hmarks : hunk.header.dropPrefix? "@@".toList = some (" -".toList ++
      (printRange hunk.oldStart hunk.oldCount ++ (" +".toList ++
        (printRange hunk.newStart hunk.newCount ++ (" @@".toList ++ hunk.heading))))) := by
    rw [dropPrefix?_eq_some]
    rfl
  have hold : ∀ rest : Text, (" -".toList ++ rest).dropPrefix? " -".toList = some rest :=
    fun rest => dropPrefix?_eq_some.mpr rfl
  have hnew : ∀ rest : Text, (" +".toList ++ rest).dropPrefix? " +".toList = some rest :=
    fun rest => dropPrefix?_eq_some.mpr rfl
  have hend : ∀ rest : Text, (" @@".toList ++ rest).dropPrefix? " @@".toList = some rest :=
    fun rest => dropPrefix?_eq_some.mpr rfl
  -- the range is read up to the blank of the mark behind it
  have hread : ∀ start count mark tail, mark.head? = some ' ' →
      readRange (printRange start count ++ (mark ++ tail)) = some (count, mark ++ tail) := by
    intro start count mark tail hmark
    obtain ⟨mark, rfl⟩ : ∃ mark', mark = ' ' :: mark' := by
      cases mark with
      | nil => cases hmark
      | cons c mark => exact ⟨mark, by rw [Option.some.inj hmark]⟩
    exact readRange_printRange start count (mark ++ tail)
  have hmark : (" -".toList ++ (printRange hunk.oldStart hunk.oldCount ++ (" +".toList ++
      (printRange hunk.newStart hunk.newCount ++ (" @@".toList ++ hunk.heading))))).dropWhile
        (fun c => c = '@') = " -".toList ++ (printRange hunk.oldStart hunk.oldCount ++ (" +".toList ++
      (printRange hunk.newStart hunk.newCount ++ (" @@".toList ++ hunk.heading)))) := rfl
  rw [hunkCounts, hmarks]
  simp only [Option.bind_eq_bind, Option.bind_some, hmark, hold]
  rw [hread _ _ " +".toList _ rfl]
  simp only [Option.bind_some, hnew]
  rw [hread _ _ " @@".toList _ rfl]
  simp only [Option.bind_some, hend]

/-! ## One line of the scan -/

theorem scanLines_body {state : ScanState} {line : Text} {old new : Nat} (hhunk : state.inHunk)
    (hstep : hunkBodyStep line = some (old, new)) (rest : List Text) :
    scanLines state (line :: rest) = scanLines { state with
      remainingOld := state.remainingOld - old
      remainingNew := state.remainingNew - new } rest := by
  rw [scanLines, if_pos hhunk, hstep]

theorem scanLines_other {state : ScanState} (hhunk : ¬ state.inHunk) {line : Text}
    {rest : List Text} (h : lineKind line rest.head? = .other) :
    scanLines state (line :: rest) = scanLines state rest := by
  rw [scanLines_outside hhunk, h]

/-! ## Hunks -/

theorem hunkBodyStep_print (line : HunkLine) :
    hunkBodyStep line.print = some (line.oldCount, line.newCount) := by
  cases line <;> rfl

theorem lineKind_noNewline (next : Option Text) :
    lineKind HunkLine.noNewline.print next = .other := by
  cases next <;> rfl

/-- The counters run out with the last line of the body. -/
theorem scanLines_hunkBody (body : List HunkLine) (state : ScanState) (rest : List Text) :
    scanLines { state with
        remainingOld := (body.map HunkLine.oldCount).sum
        remainingNew := (body.map HunkLine.newCount).sum } (body.map HunkLine.print ++ rest) =
      scanLines { state with remainingOld := 0, remainingNew := 0 } rest := by
  induction body with
  | nil => rfl
  | cons line body ih =>
      rw [List.map_cons, List.map_cons, List.map_cons, List.cons_append, List.sum_cons,
        List.sum_cons]
      -- while lines of the hunk are due the line counts, whatever it says
      by_cases hhunk : ({ state with
          remainingOld := line.oldCount + (body.map HunkLine.oldCount).sum
          remainingNew := line.newCount + (body.map HunkLine.newCount).sum } : ScanState).inHunk
      · rw [scanLines_body hhunk (hunkBodyStep_print line)]
        simp only [Nat.add_sub_cancel_left]
        exact ih
      · -- only the note about a missing newline stands for no line
        have hnone : ¬ (0 < line.oldCount + (body.map HunkLine.oldCount).sum ∨
            0 < line.newCount + (body.map HunkLine.newCount).sum) := hhunk
        have hcounts : line.oldCount = 0 ∧ line.newCount = 0 := by omega
        have hsums : (body.map HunkLine.oldCount).sum = 0 ∧
            (body.map HunkLine.newCount).sum = 0 := by omega
        obtain rfl : line = .noNewline := by
          cases line with
          | context _ => exact absurd hcounts.1 Nat.one_ne_zero
          | removed _ => exact absurd hcounts.1 Nat.one_ne_zero
          | added _ => exact absurd hcounts.2 Nat.one_ne_zero
          | noNewline => rfl
        rw [scanLines_other hhunk (lineKind_noNewline _)]
        simp only [hsums.1, hsums.2] at ih ⊢
        exact ih

/-- **A printed hunk is passed over.** -/
theorem scanLines_hunk {state : ScanState} (hhunk : ¬ state.inHunk) (hunk : Hunk)
    (rest : List Text) : scanLines state (hunk.lines ++ rest) = scanLines state rest := by
  have hkind : ∀ next, lineKind hunk.header next = .hunkHeader := fun _ => rfl
  have hstate : { state with remainingOld := 0, remainingNew := 0 } = state := by
    obtain ⟨files, problems, pendingHeader, remainingOld, remainingNew⟩ := state
    have hzero : ¬ (0 < remainingOld ∨ 0 < remainingNew) := hhunk
    have hold : remainingOld = 0 := by omega
    have hnew : remainingNew = 0 := by omega
    rw [hold, hnew]
  rw [Hunk.lines, List.cons_append, scanLines_outside hhunk, hkind]
  simp only [ScanState.hunkHeader, hunkCounts_header]
  have hbody := scanLines_hunkBody hunk.body state rest
  rw [hstate] at hbody
  exact hbody

theorem scanLines_hunks {state : ScanState} (hhunk : ¬ state.inHunk) (hunks : List Hunk)
    (rest : List Text) :
    scanLines state (hunks.flatMap Hunk.lines ++ rest) = scanLines state rest := by
  induction hunks with
  | nil => rfl
  | cons hunk hunks ih =>
      rw [List.flatMap_cons, List.append_assoc, scanLines_hunk hhunk, ih]

/-! ## Metadata lines -/

/-- The marks the scan looks for at the start of a line. -/
def scanMarks : List Text :=
  ["@@".toList, "diff --git ".toList, "diff --cc ".toList, "diff --combined ".toList,
    "--- ".toList]

theorem lineKind_of_unmarked {line : Text} (h : ∀ mark ∈ scanMarks, ¬ mark <+: line)
    (next : Option Text) : lineKind line next = .other := by
  have hfalse : ∀ mark ∈ scanMarks, ¬ mark.isPrefixOf line = true := fun mark hmark hprefix =>
    h mark hmark (List.isPrefixOf_iff_prefix.mp hprefix)
  simp only [scanMarks, List.forall_mem_cons] at hfalse
  obtain ⟨hhunk, hgit, hcc, hcombined, hold, -⟩ := hfalse
  have hpair : ∀ next : Text, ¬ (("--- ".toList).isPrefixOf line ∧ ("+++ ".toList).isPrefixOf next) :=
    fun _ hboth => hold hboth.1
  rw [lineKind.eq_def, if_neg hhunk, if_neg hgit, if_neg hcc, if_neg hcombined]
  cases next with
  | none => rfl
  | some next => exact if_neg (hpair next)

/-- No metadata word and no mark of the scan begins with the other. -/
theorem metadataWords_unmarked : ∀ word ∈ metadataWords, ∀ mark ∈ scanMarks,
    ¬ word.toList <+: mark ∧ ¬ mark <+: word.toList := by
  decide

/-- **The scan passes over metadata lines.** -/
theorem lineKind_metadata {line : Text} (h : isMetadataLine line) (next : Option Text) :
    lineKind line next = .other := by
  refine lineKind_of_unmarked (fun mark hmark hprefix => ?_) next
  rw [isMetadataLine, Bool.or_eq_true, List.any_eq_true] at h
  rcases h with ⟨word, hword, hmatch⟩ | hrow
  -- a word that git writes before a section begins with no mark
  · have hwordPrefix := List.isPrefixOf_iff_prefix.mp hmatch
    obtain ⟨hfirst, hsecond⟩ := metadataWords_unmarked word hword mark hmark
    rcases List.prefix_or_prefix_of_prefix hwordPrefix hprefix with h | h
    · exact hfirst h
    · exact hsecond h
  · -- a row of a binary patch starts with a letter and holds no space
    have hmarks : ∀ mark ∈ scanMarks, (∃ c cs, mark = c :: cs ∧ c.isAlpha = false) ∨
        ∃ c cs, mark = c :: cs ∧ ' ' ∈ cs := by
      intro mark hmark
      simp only [scanMarks, List.mem_cons, List.not_mem_nil, or_false] at hmark
      rcases hmark with rfl | rfl | rfl | rfl | rfl
      · exact Or.inl ⟨'@', "@".toList, rfl, rfl⟩
      · exact Or.inr ⟨'d', "iff --git ".toList, rfl, by decide⟩
      · exact Or.inr ⟨'d', "iff --cc ".toList, rfl, by decide⟩
      · exact Or.inr ⟨'d', "iff --combined ".toList, rfl, by decide⟩
      · exact Or.inl ⟨'-', "-- ".toList, rfl, rfl⟩
    obtain ⟨tail, hline⟩ := hprefix
    rcases hmarks mark hmark with ⟨c, cs, rfl, hc⟩ | ⟨c, cs, rfl, hc⟩
    · rw [← hline] at hrow
      simp [isBinaryRow, hc] at hrow
    · rw [← hline] at hrow
      simp [isBinaryRow] at hrow
      exact hrow.2.1 ' ' hc rfl

theorem scanLines_metadata {state : ScanState} (hhunk : ¬ state.inHunk) {lines : List Text}
    (h : ∀ line ∈ lines, isMetadataLine line) (rest : List Text) :
    scanLines state (lines ++ rest) = scanLines state rest := by
  induction lines with
  | nil => rfl
  | cons line lines ih =>
      obtain ⟨hline, hlines⟩ := List.forall_mem_cons.mp h
      rw [List.cons_append, scanLines_other hhunk (lineKind_metadata hline _), ih hlines]

/-! ## Names as the scan reads them -/

/-- A path read from one side of a header or from a label. -/
def sideName (path : Text) : Option Text := if rstrip path = [] then none else some (rstrip path)

theorem quoteName_of_plain {name : Text} (h : name.all isPlainNameChar) : quoteName name = name :=
  if_pos h

theorem quoteName_of_quoted {name : Text} (h : ¬ name.all isPlainNameChar) :
    quoteName name = '"' :: (name.flatMap quoteNameChar ++ ['"']) := by
  rw [quoteName, if_neg h]
  rfl

theorem not_mem_quoteName_tab (name : Text) : '\t' ∉ quoteName name := by
  intro h
  rcases printable_quoteName h with h | h | h
  · exact absurd h (by decide)
  · exact absurd h (by decide)
  · exact absurd h (by decide)

/-- The two sides of a header are quoted when the path is. -/
theorem all_side {c : Char} (hc : c = 'a' ∨ c = 'b') (path : Text) :
    ((c :: '/' :: path).all isPlainNameChar) = path.all isPlainNameChar := by
  have hslash : isPlainNameChar '/' = true := by decide
  have hmark : isPlainNameChar c = true := by
    rcases hc with rfl | rfl <;> decide
  rw [List.all_cons, List.all_cons, hmark, hslash, Bool.true_and, Bool.true_and]

theorem rstrip_side (c : Char) (path : Text) :
    rstrip (c :: '/' :: path) = c :: '/' :: rstrip path := by
  have hslash : isSpace '/' = false := rfl
  exact rstrip_append_of_not_isSpace [c] path hslash

theorem stripDiffPrefix_side {c : Char} (hc : c = 'a' ∨ c = 'b') (path : Text) :
    stripDiffPrefix (c :: '/' :: path) = sideName path := by
  -- the prefix is `a/` or `b/`, so it is not `/dev/null` and is taken off
  have hspace : isSpace c = false := by
    rcases hc with rfl | rfl <;> rfl
  have hstrip : strip (c :: '/' :: path) = c :: '/' :: rstrip path := by
    rw [strip, lstrip, List.dropWhile_cons_of_neg (by simp [hspace]), rstrip_side]
  have hother : ¬ (c :: '/' :: rstrip path = [] ∨ c :: '/' :: rstrip path = "/dev/null".toList) := by
    rintro (h | h)
    · cases h
    · obtain ⟨hslash, -⟩ := List.cons.inj h
      rcases hc with rfl | rfl
      · exact absurd hslash (by decide)
      · exact absurd hslash (by decide)
  have hmark : "a/".toList.isPrefixOf (c :: '/' :: rstrip path) ∨
      "b/".toList.isPrefixOf (c :: '/' :: rstrip path) := by
    rcases hc with rfl | rfl
    · exact Or.inl rfl
    · exact Or.inr rfl
  rw [stripDiffPrefix]
  simp only [hstrip]
  rw [if_neg hother, if_pos hmark]
  rfl

/-- A label is read as the path it shows, without the white space at its end. -/
theorem decodePathToken_side {c : Char} (hc : c = 'a' ∨ c = 'b') (path tail : Text)
    (htail : tail = [] ∨ tail = ['\t']) :
    decodePathToken (quoteName (c :: '/' :: path) ++ tail) = .ok (sideName path) := by
  -- the token ends at a tabulator, which no printed name holds
  have htoken : (quoteName (c :: '/' :: path) ++ tail).takeWhile (fun d => d ≠ '\t') =
      quoteName (c :: '/' :: path) := by
    have hall : ∀ d ∈ quoteName (c :: '/' :: path), decide (d ≠ '\t') = true := by
      intro d hd
      have hne : d ≠ '\t' := fun h => not_mem_quoteName_tab _ (h ▸ hd)
      simpa using hne
    rw [List.takeWhile_append_of_pos hall]
    rcases htail with rfl | rfl
    · rw [List.takeWhile_nil, List.append_nil]
    · rw [List.takeWhile_cons_of_neg (by decide), List.append_nil]
  rw [decodePathToken]
  simp only [htoken]
  -- a plain name is read up to its white space, a quoted one up to its closing quote
  by_cases hplain : path.all isPlainNameChar
  · have hsideplain : (c :: '/' :: path).all isPlainNameChar := by rw [all_side hc, hplain]
    have hhead : ¬ (c :: '/' :: rstrip path).head? = some '"' := by
      rcases hc with rfl | rfl <;> simp
    rw [quoteName_of_plain hsideplain, rstrip_side, if_neg hhead, stripDiffPrefix_side hc]
    have hagain : sideName (rstrip path) = sideName path := by
      rw [sideName, sideName, rstrip_rstrip]
    rw [hagain]
    rfl
  · have hquoted : ¬ (c :: '/' :: path).all isPlainNameChar := by rwa [all_side hc]
    have hread := readQuotedToken_quoteName hquoted []
    rw [List.append_nil] at hread
    have hlast : rstrip (quoteName (c :: '/' :: path)) = quoteName (c :: '/' :: path) := by
      rw [quoteName_of_quoted hquoted]
      have hquote : isSpace '"' = false := rfl
      exact rstrip_append_of_not_isSpace ('"' :: (c :: '/' :: path).flatMap quoteNameChar) [] hquote
    have hhead : (quoteName (c :: '/' :: path)).head? = some '"' := by
      rw [quoteName_of_quoted hquoted]
      rfl
    rw [hlast, if_pos hhead, hread, ← stripDiffPrefix_side hc]
    rfl

/-! ## The sections of a patch -/

/-- Over these lines the scan adds `names` to the files. -/
def ScanReads (lines names : List Text) : Prop :=
  ∀ (state : ScanState) (rest : List Text), ¬ state.inHunk →
    ∃ state' : ScanState, scanLines state (lines ++ rest) = scanLines state' rest ∧
      ¬ state'.inHunk ∧ state'.files = state.files ++ names

theorem scanReads_nil : ScanReads [] [] := fun state _ hhunk =>
  ⟨state, rfl, hhunk, (List.append_nil _).symm⟩

theorem ScanReads.append {lines lines' names names' : List Text} (h : ScanReads lines names)
    (h' : ScanReads lines' names') : ScanReads (lines ++ lines') (names ++ names') := by
  intro state rest hhunk
  obtain ⟨middle, hscan, hmiddle, hfiles⟩ := h state (lines' ++ rest) hhunk
  obtain ⟨final, hscan', hfinal, hfiles'⟩ := h' middle rest hmiddle
  refine ⟨final, ?_, hfinal, ?_⟩
  · rw [List.append_assoc, hscan, hscan']
  · rw [hfiles', hfiles, List.append_assoc]

theorem reads_flatMap {α : Type} {lines names : α → List Text} {sections : List α}
    (h : ∀ part ∈ sections, ScanReads (lines part) (names part)) :
    ScanReads (sections.flatMap lines) (sections.flatMap names) := by
  induction sections with
  | nil => exact scanReads_nil
  | cons part sections ih =>
      obtain ⟨hpart, hrest⟩ := List.forall_mem_cons.mp h
      rw [List.flatMap_cons, List.flatMap_cons]
      exact hpart.append (ih hrest)

theorem reads_metadata {lines : List Text} (h : ∀ line ∈ lines, isMetadataLine line) :
    ScanReads lines [] := fun state rest hhunk =>
  ⟨state, scanLines_metadata hhunk h rest, hhunk, (List.append_nil _).symm⟩

namespace FileDiff

/-- The names of the header, after `diff --git `. -/
def headerRest (diff : FileDiff) : Text :=
  quoteName ('a' :: '/' :: diff.oldPath) ++ ' ' :: quoteName ('b' :: '/' :: diff.path)

/-- The names the scan reads from the header, if it reads any. -/
def headerNames (diff : FileDiff) : List Text :=
  match gitHeaderPaths diff.headerRest with
  | .ok names => names.getD []
  | .error _ => []

/-- The names the scan reads from the labels. -/
def labelNames (diff : FileDiff) : List Text :=
  if diff.hunks = [] then []
  else (if diff.change = .added then none else sideName diff.oldPath).toList ++
    (if diff.change = .deleted then none else sideName diff.path).toList

end FileDiff

/-- The header of a section that the scan reads, or does not yet. -/
theorem reads_header {diff : FileDiff} {names : Option (List Text)}
    (h : gitHeaderPaths diff.headerRest = .ok names) : ScanReads [diff.header] (names.getD []) := by
  intro state rest hhunk
  have hkind : ∀ next, lineKind diff.header next = .gitHeader := fun _ => rfl
  have hdrop : diff.header.drop "diff --git ".length = diff.headerRest := rfl
  have hreported : ¬ state.reportPending.inHunk ∧ state.reportPending.files = state.files := by
    rw [ScanState.reportPending]
    cases state.pendingHeader with
    | none => exact ⟨hhunk, rfl⟩
    | some header => exact ⟨hhunk, rfl⟩
  rw [List.singleton_append, scanLines_outside hhunk, hkind]
  simp only [ScanState.gitHeader, hdrop, h]
  cases names with
  | none => exact ⟨_, rfl, hreported.1, by rw [Option.getD_none, List.append_nil]; exact hreported.2⟩
  | some names =>
      exact ⟨_, rfl, hreported.1, by rw [Option.getD_some]; exact congrArg (· ++ names) hreported.2⟩

theorem decodePathToken_oldLabel (diff : FileDiff) :
    decodePathToken ((labelLine "--- " diff.oldLabel).drop 4) =
      .ok (if diff.change = .added then none else sideName diff.oldPath) := by
  have hdrop : (labelLine "--- " diff.oldLabel).drop 4 =
      diff.oldLabel ++ if ' ' ∈ diff.oldLabel then ['\t'] else [] := rfl
  rw [hdrop, FileDiff.oldLabel]
  by_cases hadded : diff.change = .added
  · rw [if_pos hadded, if_pos hadded]
    rfl
  · rw [if_neg hadded, if_neg hadded]
    refine decodePathToken_side (Or.inl rfl) _ _ ?_
    by_cases hspace : ' ' ∈ quoteName ('a' :: '/' :: diff.oldPath)
    · exact Or.inr (if_pos hspace)
    · exact Or.inl (if_neg hspace)

theorem decodePathToken_newLabel (diff : FileDiff) :
    decodePathToken ((labelLine "+++ " diff.newLabel).drop 4) =
      .ok (if diff.change = .deleted then none else sideName diff.path) := by
  have hdrop : (labelLine "+++ " diff.newLabel).drop 4 =
      diff.newLabel ++ if ' ' ∈ diff.newLabel then ['\t'] else [] := rfl
  rw [hdrop, FileDiff.newLabel]
  by_cases hdeleted : diff.change = .deleted
  · rw [if_pos hdeleted, if_pos hdeleted]
    rfl
  · rw [if_neg hdeleted, if_neg hdeleted]
    refine decodePathToken_side (Or.inr rfl) _ _ ?_
    by_cases hspace : ' ' ∈ quoteName ('b' :: '/' :: diff.path)
    · exact Or.inr (if_pos hspace)
    · exact Or.inl (if_neg hspace)

/-- The two label lines add the names they show. -/
theorem unifiedHeader_labels {state : ScanState} (hhunk : ¬ state.inHunk) (diff : FileDiff) :
    ∃ state', state.unifiedHeader (labelLine "--- " diff.oldLabel) (labelLine "+++ " diff.newLabel) =
        .ok state' ∧ ¬ state'.inHunk ∧
      state'.files = state.files ++
        ((if diff.change = .added then none else sideName diff.oldPath).toList ++
          (if diff.change = .deleted then none else sideName diff.path).toList) := by
  rw [ScanState.unifiedHeader, decodePathToken_oldLabel, decodePathToken_newLabel]
  generalize hold : (if diff.change = .added then none else sideName diff.oldPath) = old
  generalize hnew : (if diff.change = .deleted then none else sideName diff.path) = new
  cases old with
  | none =>
      cases new with
      | none => exact ⟨_, rfl, hhunk, (List.append_nil _).symm⟩
      | some new => exact ⟨_, rfl, hhunk, rfl⟩
  | some old => exact ⟨_, rfl, hhunk, rfl⟩

theorem scanReads_unified (diff : FileDiff) : ScanReads diff.unified diff.labelNames := by
  rw [FileDiff.unified, FileDiff.labelNames]
  by_cases hhunks : diff.hunks = []
  · rw [if_pos hhunks, if_pos hhunks]
    exact scanReads_nil
  · rw [if_neg hhunks, if_neg hhunks]
    intro state rest hhunk
    have hkind : lineKind (labelLine "--- " diff.oldLabel) (some (labelLine "+++ " diff.newLabel)) =
        .unifiedHeader (labelLine "+++ " diff.newLabel) := rfl
    obtain ⟨labelled, hlabels, hout, hfiles⟩ := unifiedHeader_labels hhunk diff
    refine ⟨labelled, ?_, hout, hfiles⟩
    rw [List.cons_append, List.cons_append, scanLines_outside hhunk, List.head?_cons, hkind]
    simp only [hlabels, List.tail_cons]
    exact scanLines_hunks hout diff.hunks rest

/-- **A section adds the names of its header and of its labels.** -/
theorem scanReads_section {diff : FileDiff} (hdiff : diff.WellFormed) {names : Option (List Text)}
    (h : gitHeaderPaths diff.headerRest = .ok names) :
    ScanReads diff.lines (names.getD [] ++ diff.labelNames) := by
  have hheader := reads_header h
  have hmetadata := (reads_metadata hdiff.metadata).append (scanReads_unified diff)
  exact hheader.append hmetadata

/-! ## The whole patch -/

/-- The text holds no line boundary. -/
def OneLine (line : Text) : Prop := ∀ c ∈ line, isLineBoundary c = false

instance (line : Text) : Decidable (OneLine line) := decidableForallMem _ _

theorem OneLine.append {line line' : Text} (h : OneLine line) (h' : OneLine line') :
    OneLine (line ++ line') := fun c hc => (List.mem_append.mp hc).elim (h c) (h' c)

theorem OneLine.cons {c : Char} {line : Text} (hc : isLineBoundary c = false) (h : OneLine line) :
    OneLine (c :: line) := List.forall_mem_cons.mpr ⟨hc, h⟩

theorem oneLine_quoteName (name : Text) : OneLine (quoteName name) :=
  fun _ hc => isLineBoundary_quoteName hc

theorem oneLine_toDigits (n : Nat) : OneLine (Nat.toDigits 10 n) := by
  intro c hc
  have hdigit := Char.isDigit_iff_toNat.mp (Nat.isDigit_of_mem_toDigits (by decide) (by decide) hc)
  have hlow : 0x30 ≤ c.toNat := hdigit.1
  have hhigh : c.toNat ≤ 0x39 := hdigit.2
  rw [Bool.eq_false_iff]
  intro hboundary
  simp only [isLineBoundary, Bool.or_eq_true, Bool.and_eq_true, decide_eq_true_eq,
    beq_iff_eq] at hboundary
  omega

theorem oneLine_printRange (start count : Nat) : OneLine (printRange start count) := by
  rw [printRange]
  refine (oneLine_toDigits start).append ?_
  by_cases hone : count = 1
  · rw [if_pos hone]
    exact fun _ hc => nomatch hc
  · rw [if_neg hone]
    exact (oneLine_toDigits count).cons rfl

theorem oneLine_labelLine (diff : FileDiff) :
    OneLine (labelLine "--- " diff.oldLabel) ∧ OneLine (labelLine "+++ " diff.newLabel) := by
  have hlabel : ∀ {mark label}, OneLine mark.toList → OneLine label → OneLine (labelLine mark label) := by
    intro mark label hmark hlabel
    have htab : OneLine (if ' ' ∈ label then ['\t'] else []) := by
      by_cases hspace : ' ' ∈ label
      · rw [if_pos hspace]
        decide
      · rw [if_neg hspace]
        decide
    exact hmark.append (hlabel.append htab)
  have hnull : OneLine "/dev/null".toList := by decide
  have hold : OneLine diff.oldLabel := by
    rw [FileDiff.oldLabel]
    by_cases hadded : diff.change = .added
    · rwa [if_pos hadded]
    · rw [if_neg hadded]
      exact oneLine_quoteName _
  have hnew : OneLine diff.newLabel := by
    rw [FileDiff.newLabel]
    by_cases hdeleted : diff.change = .deleted
    · rwa [if_pos hdeleted]
    · rw [if_neg hdeleted]
      exact oneLine_quoteName _
  exact ⟨hlabel (by decide) hold, hlabel (by decide) hnew⟩

/-- Where Git prints one line of a section, Python reads one. -/
theorem oneLine_lines {diff : FileDiff} (h : diff.WellFormed) :
    ∀ line ∈ diff.lines, OneLine line := by
  have hheader : OneLine diff.header := by
    have hmark : OneLine "diff --git ".toList := by decide
    exact hmark.append ((oneLine_quoteName _).append ((oneLine_quoteName _).cons rfl))
  -- A hunk is its range line and the lines of its body.
  have hhunk : ∀ hunk ∈ diff.hunks, ∀ line ∈ hunk.lines, OneLine line := by
    intro hunk hmem line hline
    rcases List.mem_cons.mp hline with rfl | hline
    · have hold : OneLine "@@ -".toList := by decide
      have hnew : OneLine " +".toList := by decide
      have hend : OneLine " @@".toList := by decide
      exact hold.append ((oneLine_printRange _ _).append (hnew.append
        ((oneLine_printRange _ _).append (hend.append (h.heading hunk hmem)))))
    · obtain ⟨body, hbody, rfl⟩ := List.mem_map.mp hline
      have htext := h.body hunk hmem body hbody
      cases body with
      | context text => exact OneLine.cons rfl htext
      | removed text => exact OneLine.cons rfl htext
      | added text => exact OneLine.cons rfl htext
      | noNewline => show OneLine "\\ No newline at end of file".toList; decide
  intro line hline
  rcases List.mem_cons.mp hline with rfl | hline
  · exact hheader
  · rcases List.mem_append.mp hline with hline | hline
    · exact h.metadataLine line hline
    · rw [FileDiff.unified] at hline
      by_cases hhunks : diff.hunks = []
      · rw [if_pos hhunks] at hline
        cases hline
      · rw [if_neg hhunks] at hline
        rcases List.mem_cons.mp hline with rfl | hline
        · exact (oneLine_labelLine diff).1
        · rcases List.mem_cons.mp hline with rfl | hline
          · exact (oneLine_labelLine diff).2
          · obtain ⟨hunk, hmem, hline⟩ := List.mem_flatMap.mp hline
            exact hhunk hunk hmem line hline

/-- **The files the scan reports for a printed patch.** -/
theorem changedFiles_printPatch {patch : List FileDiff} (hpatch : ∀ diff ∈ patch, diff.WellFormed)
    (h : ∀ diff ∈ patch, ∃ names, gitHeaderPaths diff.headerRest = .ok names) :
    ∃ files, changedFilesFromPatch (printPatch patch) = .ok files ∧
      ∀ name, name ∈ files ↔ ∃ diff ∈ patch, name ∈ diff.headerNames ++ diff.labelNames := by
  have hlines : splitlines (printPatch patch) = patch.flatMap FileDiff.lines := by
    refine splitlines_printLines fun line hline => ?_
    obtain ⟨diff, hdiff, hmem⟩ := List.mem_flatMap.mp hline
    exact oneLine_lines (hpatch diff hdiff) line hmem
  have hreads : ScanReads (patch.flatMap FileDiff.lines)
      (patch.flatMap fun diff => diff.headerNames ++ diff.labelNames) := by
    refine reads_flatMap fun diff hdiff => ?_
    obtain ⟨names, hnames⟩ := h diff hdiff
    have hheader : diff.headerNames = names.getD [] := by rw [FileDiff.headerNames, hnames]
    rw [hheader]
    exact scanReads_section (hpatch diff hdiff) hnames
  obtain ⟨final, hscan, -, hfiles⟩ := hreads {} [] (by rintro (h | h) <;> cases h)
  have hend : scanLines final [] = .ok final := by rw [scanLines]
  have hreported : final.reportPending.files = final.files := by
    rw [ScanState.reportPending]
    cases final.pendingHeader <;> rfl
  rw [List.append_nil, hend] at hscan
  refine ⟨final.files.eraseDups, ?_, fun name => ?_⟩
  · rw [changedFilesFromPatch, scanPatch, hlines, hscan]
    exact congrArg (fun files => Except.ok files.eraseDups) hreported
  · rw [List.mem_eraseDups, hfiles, List.nil_append, List.mem_flatMap]

end LlmHarness
