/-
  LlmHarness.Verifier.HunkPieces

  The scan of a printed hunk whose lines hold any characters but line feeds.

  Git ends its lines with a line feed alone; `str.splitlines` also ends one at a
  carriage return, a form feed or a Unicode separator.  So the scan sees the pieces
  of a line.  The counters never ask for more than the printed lines give: they run
  out within the hunk.  From the piece that no hunk line starts like, or that the
  counters no longer ask for, the scan looks for headers in what are contents: the
  strays of the hunk.
-/

import LlmHarness.Verifier.ScanPrinted

namespace LlmHarness

open Python

/-! ## Lines and pieces -/

/-- What `splitlines` makes of a line that a line feed ends. -/
def pieces (line : Text) : List Text := splitlines (line ++ ['\n'])

theorem splitlines_boundary {c : Char} {cs : Text} (h : ¬ (c = '\r' ∧ cs.head? = some '\n'))
    (hc : isLineBoundary c = true) : splitlines (c :: cs) = [] :: splitlines cs := by
  rw [splitlines, if_pos hc]
  rintro rest rfl rfl
  exact h ⟨rfl, rfl⟩

theorem splitlines_plain {c : Char} {cs line : Text} {lines : List Text} (hc : isLineBoundary c = false)
    (h : splitlines cs = line :: lines) : splitlines (c :: cs) = (c :: line) :: lines := by
  have hreturn : c ≠ '\r' := by
    rintro rfl
    exact absurd hc (by decide)
  rw [splitlines, if_neg (by simp [hc]), h]
  rintro rest rfl
  exact absurd rfl hreturn

/-- The first piece of a line goes on with the first piece of the rest. -/
theorem pieces_plain {c : Char} {cs piece : Text} {more : List Text} (hc : isLineBoundary c = false)
    (h : pieces cs = piece :: more) : pieces (c :: cs) = (c :: piece) :: more :=
  splitlines_plain hc h

/-- A line feed ends a line, whatever stands before it. -/
theorem splitlines_append_newline (line rest : Text) :
    splitlines (line ++ '\n' :: rest) = pieces line ++ splitlines rest ∧ pieces line ≠ [] := by
  -- a character that is no boundary goes into the first piece
  have hplain {c : Char} {cs : Text} (hc : ¬ isLineBoundary c = true)
      (ih : splitlines (cs ++ '\n' :: rest) = pieces cs ++ splitlines rest ∧ pieces cs ≠ []) :
      splitlines (c :: cs ++ '\n' :: rest) = pieces (c :: cs) ++ splitlines rest ∧ pieces (c :: cs) ≠ [] := by
    have hfalse : isLineBoundary c = false := by simpa using hc
    obtain ⟨piece, more, hpieces⟩ := List.exists_cons_of_ne_nil ih.2
    rw [hpieces, List.cons_append] at ih
    rw [List.cons_append, splitlines_plain hfalse ih.1, pieces_plain hfalse hpieces]
    exact ⟨rfl, List.cons_ne_nil _ _⟩
  induction line using splitlines.induct with
  | case1 => exact ⟨rfl, List.cons_ne_nil _ _⟩
  -- the induction is on the recursion of `splitlines`
  | case2 cs ih =>
      refine ⟨?_, List.cons_ne_nil _ _⟩
      show [] :: splitlines (cs ++ '\n' :: rest) = ([] :: pieces cs) ++ splitlines rest
      rw [ih.1, List.cons_append]
  | case3 c cs hreturn hboundary ih =>
      by_cases hlast : c = '\r' ∧ cs = []
      · -- the carriage return and the line feed are one boundary
        obtain ⟨rfl, rfl⟩ := hlast
        exact ⟨rfl, List.cons_ne_nil _ _⟩
      · have hpair (tail : Text) : ¬ (c = '\r' ∧ (cs ++ '\n' :: tail).head? = some '\n') := by
          rintro ⟨hc, hhead⟩
          cases cs with
          | nil => exact hlast ⟨hc, rfl⟩
          | cons d cs => exact hreturn cs hc (by simpa using hhead)
        have hpieces : pieces (c :: cs) = [] :: pieces cs := splitlines_boundary (hpair []) hboundary
        rw [List.cons_append, splitlines_boundary (hpair rest) hboundary, hpieces, ih.1]
        exact ⟨rfl, List.cons_ne_nil _ _⟩
  | case4 c cs hreturn hboundary hnil ih => exact hplain hboundary ih
  | case5 c cs hreturn hboundary line lines hcons ih => exact hplain hboundary ih

theorem exists_pieces (line : Text) : ∃ piece more, pieces line = piece :: more :=
  List.exists_cons_of_ne_nil (splitlines_append_newline line []).2

/-- Python reads the pieces of the lines Git prints. -/
theorem splitlines_printLines_pieces (lines : List Text) :
    splitlines (printLines lines) = lines.flatMap pieces := by
  induction lines with
  | nil => rfl
  | cons line lines ih =>
      have hcons : printLines (line :: lines) = line ++ '\n' :: printLines lines := by
        simp [printLines]
      rw [hcons, (splitlines_append_newline line _).1, ih, List.flatMap_cons]

theorem pieces_of_oneLine {line : Text} (h : OneLine line) : pieces line = [line] :=
  splitlines_append_boundary line [] h (by decide) (by decide)

theorem pieces_append {line rest piece : Text} {more : List Text} (h : OneLine line)
    (hrest : pieces rest = piece :: more) : pieces (line ++ rest) = (line ++ piece) :: more := by
  induction line with
  | nil => exact hrest
  | cons c line ih =>
      obtain ⟨hc, hline⟩ := List.forall_mem_cons.mp h
      rw [List.cons_append, List.cons_append]
      exact pieces_plain hc (ih hline)

/-! ## The strays of a hunk -/

/-- The pieces from the first one that is read outside the hunk. -/
def strays : Nat → Nat → List Text → List Text
  | _, _, [] => []
  | old, new, piece :: rest =>
    if 0 < old ∨ 0 < new then
      match hunkBodyStep piece with
      | some (o, n) => strays (old - o) (new - n) rest
      | none => piece :: rest
    else piece :: rest

/-- The counters after the pieces. -/
def countersAfter : Nat → Nat → List Text → Nat × Nat
  | old, new, [] => (old, new)
  | old, new, piece :: rest =>
    if 0 < old ∨ 0 < new then
      match hunkBodyStep piece with
      | some (o, n) => countersAfter (old - o) (new - n) rest
      | none => (0, 0)
    else (0, 0)

/-- No piece is a header to the scan. -/
def Quiet : List Text → Prop
  | [] => True
  | piece :: rest => lineKind piece rest.head? = .other ∧ Quiet rest

instance decidableQuiet : (lines : List Text) → Decidable (Quiet lines)
  | [] => .isTrue trivial
  | piece :: rest =>
    have := decidableQuiet rest
    decidable_of_iff ((match lineKind piece rest.head? with | .other => true | _ => false) = true ∧ Quiet rest) <| by
      rw [Quiet]
      cases lineKind piece rest.head? <;> simp

namespace Hunk

/-- The pieces after the first one of the header. -/
def contents (hunk : Hunk) : List Text :=
  (pieces hunk.heading).tail ++ (hunk.body.map HunkLine.print).flatMap pieces

/-- No contents of the hunk are read as a header. -/
def Quiet (hunk : Hunk) : Prop := LlmHarness.Quiet (strays hunk.oldCount hunk.newCount hunk.contents)

instance (hunk : Hunk) : Decidable hunk.Quiet := inferInstanceAs (Decidable (LlmHarness.Quiet _))

end Hunk

/-! ## The counters run out within the hunk -/

theorem countersAfter_append {old new : Nat} {rest : List Text}
    (h : ∀ o ≤ old, ∀ n ≤ new, countersAfter o n rest = (0, 0)) (more : List Text) :
    countersAfter old new (more ++ rest) = (0, 0) := by
  induction more generalizing old new with
  | nil => exact h old (Nat.le_refl _) new (Nat.le_refl _)
  | cons piece more ih =>
      rw [List.cons_append, countersAfter]
      by_cases hhunk : 0 < old ∨ 0 < new
      · rw [if_pos hhunk]
        cases hstep : hunkBodyStep piece with
        | none => rfl
        | some counts =>
            refine ih fun o ho n hn => h o ?_ n ?_
            · omega
            · omega
      · rw [if_neg hhunk]

/-- The first piece of a printed line counts as the line does. -/
theorem pieces_print (line : HunkLine) :
    ∃ first more, pieces line.print = first :: more ∧
      hunkBodyStep first = some (line.oldCount, line.newCount) := by
  cases line with
  | context text =>
      obtain ⟨piece, more, h⟩ := exists_pieces text
      exact ⟨' ' :: piece, more, pieces_plain (by decide) h, rfl⟩
  | removed text =>
      obtain ⟨piece, more, h⟩ := exists_pieces text
      exact ⟨'-' :: piece, more, pieces_plain (by decide) h, rfl⟩
  | added text =>
      obtain ⟨piece, more, h⟩ := exists_pieces text
      exact ⟨'+' :: piece, more, pieces_plain (by decide) h, rfl⟩
  | noNewline => exact ⟨HunkLine.noNewline.print, [], rfl, rfl⟩

theorem countersAfter_body (body : List HunkLine) {old new : Nat}
    (hold : old ≤ (body.map HunkLine.oldCount).sum) (hnew : new ≤ (body.map HunkLine.newCount).sum) :
    countersAfter old new ((body.map HunkLine.print).flatMap pieces) = (0, 0) := by
  induction body generalizing old new with
  | nil =>
      obtain rfl : old = 0 := Nat.le_zero.mp hold
      obtain rfl : new = 0 := Nat.le_zero.mp hnew
      rfl
  | cons line body ih =>
      obtain ⟨first, more, hpieces, hstep⟩ := pieces_print line
      rw [List.map_cons, List.flatMap_cons, hpieces, List.cons_append, countersAfter]
      by_cases hhunk : 0 < old ∨ 0 < new
      · rw [if_pos hhunk, hstep]
        rw [List.map_cons, List.sum_cons] at hold hnew
        refine countersAfter_append (fun o ho n hn => ih ?_ ?_) more
        · omega
        · omega
      · rw [if_neg hhunk]

/-- **Extra pieces make the counters of a hunk run out earlier, never later.** -/
theorem countersAfter_contents (hunk : Hunk) :
    countersAfter hunk.oldCount hunk.newCount hunk.contents = (0, 0) :=
  countersAfter_append (fun _ ho _ hn => countersAfter_body hunk.body ho hn) _

/-! ## The scan of a hunk -/

/-- A line that cannot be the second of two label lines. -/
def NotLabel (next : Option Text) : Prop := ∀ line ∈ next, ¬ "+++ ".toList <+: line

/-- The last of some quiet lines is no header either before what follows. -/
theorem lineKind_before {piece : Text} (h : lineKind piece none = .other) {next : Option Text}
    (hnext : NotLabel next) : lineKind piece next = .other := by
  cases next with
  | none => exact h
  | some line =>
      have hpair : ¬ ("--- ".toList.isPrefixOf piece = true ∧ "+++ ".toList.isPrefixOf line = true) := fun hboth =>
        hnext line rfl (List.isPrefixOf_iff_prefix.mp hboth.2)
      rw [lineKind.eq_def] at h ⊢
      split_ifs at h ⊢
      exact if_neg hpair

theorem scanLines_quiet {state : ScanState} (hhunk : ¬ state.inHunk) {lines rest : List Text}
    (h : Quiet lines) (hrest : NotLabel rest.head?) :
    scanLines state (lines ++ rest) = scanLines state rest := by
  induction lines with
  | nil => rfl
  | cons piece lines ih =>
      have hkind : lineKind piece (lines ++ rest).head? = .other := by
        cases lines with
        | nil => exact lineKind_before h.1 hrest
        | cons next lines => exact h.1
      rw [List.cons_append, scanLines_other hhunk hkind, ih h.2]

/-- A line that no hunk line starts like ends the hunk. -/
theorem scanLines_exit {state : ScanState} (hhunk : state.inHunk) {line : Text}
    (hstep : hunkBodyStep line = none) (rest : List Text) :
    scanLines state (line :: rest) =
      scanLines { state with remainingOld := 0, remainingNew := 0 } (line :: rest) := by
  have hout : ¬ ({ state with remainingOld := 0, remainingNew := 0 } : ScanState).inHunk := by
    rintro (h | h) <;> exact absurd h (Nat.lt_irrefl 0)
  rw [scanLines_outside hout, scanLines, if_pos hhunk]
  simp only [hstep]

theorem scanLines_pieces (state : ScanState) {lines : List Text} (rest : List Text) {old new : Nat}
    (h : Quiet (strays old new lines)) (hrest : NotLabel rest.head?) :
    scanLines { state with remainingOld := old, remainingNew := new } (lines ++ rest) =
      scanLines { state with
        remainingOld := (countersAfter old new lines).1
        remainingNew := (countersAfter old new lines).2 } rest := by
  have hout : ¬ ({ state with remainingOld := 0, remainingNew := 0 } : ScanState).inHunk := by
    rintro (h | h) <;> exact absurd h (Nat.lt_irrefl 0)
  -- the induction is on the pieces, with the counters free
  induction lines generalizing old new with
  | nil => rfl
  | cons piece lines ih =>
      rw [strays] at h
      rw [countersAfter]
      -- inside the hunk a piece is counted, unless it ends it
      by_cases hhunk : 0 < old ∨ 0 < new
      · have hin : ({ state with remainingOld := old, remainingNew := new } : ScanState).inHunk := hhunk
        rw [if_pos hhunk] at h ⊢
        cases hstep : hunkBodyStep piece with
        | none =>
            rw [hstep] at h
            rw [List.cons_append, scanLines_exit hin hstep]
            exact scanLines_quiet hout h hrest
        | some counts =>
            rw [hstep] at h
            rw [List.cons_append, scanLines_body hin hstep]
            exact ih h
      -- both counters are zero: the pieces are read outside a hunk
      · obtain ⟨rfl, rfl⟩ : old = 0 ∧ new = 0 := by omega
        rw [if_neg hhunk] at h ⊢
        exact scanLines_quiet hout h hrest

theorem pieces_header (hunk : Hunk) :
    ∃ piece, hunk.lines.flatMap pieces = ({ hunk with heading := piece } : Hunk).header :: hunk.contents := by
  obtain ⟨piece, more, hheading⟩ := exists_pieces hunk.heading
  have hmarks : OneLine ("@@ -".toList ++ (printRange hunk.oldStart hunk.oldCount ++
      (" +".toList ++ (printRange hunk.newStart hunk.newCount ++ " @@".toList)))) := by
    have hold : OneLine "@@ -".toList := by decide
    have hnew : OneLine " +".toList := by decide
    have hend : OneLine " @@".toList := by decide
    exact hold.append ((oneLine_printRange _ _).append (hnew.append ((oneLine_printRange _ _).append hend)))
  have hheader (heading : Text) : ({ hunk with heading := heading } : Hunk).header =
      ("@@ -".toList ++ (printRange hunk.oldStart hunk.oldCount ++
        (" +".toList ++ (printRange hunk.newStart hunk.newCount ++ " @@".toList)))) ++ heading := by
    simp only [Hunk.header, Hunk.oldCount, Hunk.newCount, List.append_assoc]
  have hfirst : pieces hunk.header = ({ hunk with heading := piece } : Hunk).header :: more := by
    rw [hheader piece]
    exact (congrArg pieces (hheader hunk.heading)).trans (pieces_append hmarks hheading)
  refine ⟨piece, ?_⟩
  rw [Hunk.lines, List.flatMap_cons, hfirst, Hunk.contents, hheading]
  rfl

/-- **The scan passes over a quiet hunk, whatever characters its lines hold.** -/
theorem scanLines_quiet_hunk {state : ScanState} (hhunk : ¬ state.inHunk) {hunk : Hunk} (h : hunk.Quiet)
    {rest : List Text} (hrest : NotLabel rest.head?) :
    scanLines state (hunk.lines.flatMap pieces ++ rest) = scanLines state rest := by
  obtain ⟨piece, hpieces⟩ := pieces_header hunk
  have hkind : ∀ next, lineKind ({ hunk with heading := piece } : Hunk).header next = .hunkHeader := fun _ => rfl
  have hzero : { state with remainingOld := 0, remainingNew := 0 } = state := by
    obtain ⟨files, problems, pendingHeader, remainingOld, remainingNew⟩ := state
    have hzero : ¬ (0 < remainingOld ∨ 0 < remainingNew) := hhunk
    have hold : remainingOld = 0 := by omega
    have hnew : remainingNew = 0 := by omega
    rw [hold, hnew]
  rw [hpieces, List.cons_append, scanLines_outside hhunk, hkind]
  simp only [ScanState.hunkHeader, hunkCounts_header]
  have hcontents := scanLines_pieces state rest h hrest
  rw [countersAfter_contents, hzero] at hcontents
  exact hcontents

theorem scanLines_quiet_hunks {state : ScanState} (hhunk : ¬ state.inHunk) {hunks : List Hunk}
    (h : ∀ hunk ∈ hunks, hunk.Quiet) {rest : List Text} (hrest : NotLabel rest.head?) :
    scanLines state ((hunks.flatMap Hunk.lines).flatMap pieces ++ rest) = scanLines state rest := by
  induction hunks with
  | nil => rfl
  | cons hunk hunks ih =>
      obtain ⟨hfirst, hothers⟩ := List.forall_mem_cons.mp h
      have hnext : NotLabel ((hunks.flatMap Hunk.lines).flatMap pieces ++ rest).head? := by
        cases hunks with
        | nil => exact hrest
        | cons next hunks =>
            obtain ⟨piece, hpieces⟩ := pieces_header next
            rw [List.flatMap_cons, List.flatMap_append, hpieces]
            rintro line ⟨⟩ ⟨tail, hlabel⟩
            have hhead : some '+' = some '@' := congrArg List.head? hlabel
            exact absurd hhead (by decide)
      rw [List.flatMap_cons, List.flatMap_append, List.append_assoc, scanLines_quiet_hunk hhunk hfirst hnext,
        ih hothers]

end LlmHarness
