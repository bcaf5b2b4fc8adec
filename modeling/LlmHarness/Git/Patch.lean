/-
  LlmHarness.Git.Patch

  The patch text Git prints for a set of changed files: a section for each
  file, with its header, the lines about modes, similarity and hashes or a
  binary patch, and the hunks.  Names are printed as `quoteName` prints them,
  and a label that holds a space is followed by a tab.

  A section names two paths, the old and the new one; they differ only for a
  rename.  The order and the number of the metadata lines and the agreement of
  the hunks with the files are not part of the model: a patch here is any text
  of this form.
-/

import Mathlib.Tactic.IntervalCases
import LlmHarness.Git.Repository

namespace LlmHarness

open Python

/-! ## Hunks -/

/-- A line of a hunk. -/
inductive HunkLine where
  | context (text : Text)
  | removed (text : Text)
  | added (text : Text)
  | noNewline
deriving DecidableEq, Repr

namespace HunkLine

/-- The line as it is printed. -/
def print : HunkLine → Text
  | context text => ' ' :: text
  | removed text => '-' :: text
  | added text => '+' :: text
  | noNewline => "\\ No newline at end of file".toList

/-- The text of the file the line shows. -/
def text : HunkLine → Text
  | context text | removed text | added text => text
  | noNewline => []

/-- The lines of the old file it stands for. -/
def oldCount : HunkLine → Nat
  | context _ | removed _ => 1
  | added _ | noNewline => 0

/-- The lines of the new file it stands for. -/
def newCount : HunkLine → Nat
  | context _ | added _ => 1
  | removed _ | noNewline => 0

end HunkLine

/-- A hunk, with the text Git prints after the second `@@`. -/
structure Hunk where
  oldStart : Nat
  newStart : Nat
  heading : Text
  body : List HunkLine
deriving DecidableEq, Repr

/-- A range of a hunk header: the count is left out when it is one. -/
def printRange (start count : Nat) : Text :=
  Nat.toDigits 10 start ++ if count = 1 then [] else ',' :: Nat.toDigits 10 count

namespace Hunk

/-- The lines of the old file the hunk covers. -/
def oldCount (hunk : Hunk) : Nat := (hunk.body.map HunkLine.oldCount).sum

/-- The lines of the new file the hunk covers. -/
def newCount (hunk : Hunk) : Nat := (hunk.body.map HunkLine.newCount).sum

/-- The header of the hunk. -/
def header (hunk : Hunk) : Text :=
  "@@ -".toList ++ (printRange hunk.oldStart hunk.oldCount ++
    (" +".toList ++ (printRange hunk.newStart hunk.newCount ++ (" @@".toList ++ hunk.heading))))

/-- The lines of the hunk. -/
def lines (hunk : Hunk) : List Text := hunk.header :: hunk.body.map HunkLine.print

end Hunk

/-! ## Sections -/

/-- What a section says about its file. -/
inductive FileChange where
  | modified
  | added
  | deleted
  | renamed (source : Text)
deriving DecidableEq, Repr

/-- The section of a file. -/
structure FileDiff where
  path : Text
  change : FileChange
  metadata : List Text
  hunks : List Hunk
deriving DecidableEq, Repr

/-- The labels and hunks of a text file: `mark` the label, a tab after a name with a space. -/
def labelLine (mark : String) (label : Text) : Text :=
  mark.toList ++ (label ++ if ' ' ∈ label then ['\t'] else [])

namespace FileDiff

/-- The path before the change. -/
def oldPath (diff : FileDiff) : Text :=
  match diff.change with
  | .renamed source => source
  | _ => diff.path

/-- The paths the section touches. -/
def touched (diff : FileDiff) : List Text := [diff.oldPath, diff.path]

/-- The first line of the section. -/
def header (diff : FileDiff) : Text :=
  "diff --git ".toList ++
    (quoteName ('a' :: '/' :: diff.oldPath) ++ ' ' :: quoteName ('b' :: '/' :: diff.path))

/-- The old side of the label lines. -/
def oldLabel (diff : FileDiff) : Text :=
  if diff.change = .added then "/dev/null".toList else quoteName ('a' :: '/' :: diff.oldPath)

/-- The new side of the label lines. -/
def newLabel (diff : FileDiff) : Text :=
  if diff.change = .deleted then "/dev/null".toList else quoteName ('b' :: '/' :: diff.path)

/-- The label lines and the hunks, which a change without text does not have. -/
def unified (diff : FileDiff) : List Text :=
  if diff.hunks = [] then []
  else labelLine "--- " diff.oldLabel :: labelLine "+++ " diff.newLabel ::
    diff.hunks.flatMap Hunk.lines

/-- The lines of the section. -/
def lines (diff : FileDiff) : List Text := diff.header :: (diff.metadata ++ diff.unified)

/-- A change of the mode alone. -/
def modeChange (path : Text) : FileDiff :=
  ⟨path, .modified, ["old mode 100644".toList, "new mode 100755".toList], []⟩

/-- A rename that changes nothing in the file. -/
def pureRename (source path : Text) : FileDiff :=
  ⟨path, .renamed source, ["similarity index 100%".toList,
    "rename from ".toList ++ quoteName source, "rename to ".toList ++ quoteName path], []⟩

end FileDiff

/-- Lines as they are printed, each ended by a line feed. -/
def printLines (lines : List Text) : Text := lines.flatMap fun line => line ++ ['\n']

/-- The patch text. -/
def printPatch (patch : List FileDiff) : Text := printLines (patch.flatMap FileDiff.lines)

/-- The paths a patch touches. -/
def touchedPaths (patch : List FileDiff) : List Text := patch.flatMap FileDiff.touched

/-- The paths as `git diff-tree --name-only` prints them. -/
def printNames (paths : List Text) : Text := printLines (paths.map quoteName)

/-! ## What Git prints between the header and the hunks -/

/-- The words a metadata line starts with. -/
def metadataWords : List String :=
  ["old mode ", "new mode ", "deleted file mode ", "new file mode ", "copy from ", "copy to ",
    "rename from ", "rename to ", "similarity index ", "dissimilarity index ", "index ",
    "GIT binary patch", "literal ", "delta "]

/-- A row of a binary patch: nothing, or a length letter and base 85 digits. -/
def isBinaryRow : Text → Bool
  | [] => true
  | c :: cs => c.isAlpha && cs.all fun d => d != ' '

/-- A line Git prints between the header of a section and its hunks. -/
def isMetadataLine (line : Text) : Bool :=
  metadataWords.any (fun word => word.toList.isPrefixOf line) || isBinaryRow line

/-- The metadata lines are Git's, and where Git prints one line Python reads one. -/
structure FileDiff.WellFormed (diff : FileDiff) : Prop where
  metadata : ∀ line ∈ diff.metadata, isMetadataLine line
  metadataLine : ∀ line ∈ diff.metadata, ∀ c ∈ line, isLineBoundary c = false
  heading : ∀ hunk ∈ diff.hunks, ∀ c ∈ hunk.heading, isLineBoundary c = false
  body : ∀ hunk ∈ diff.hunks, ∀ line ∈ hunk.body, ∀ c ∈ line.text, isLineBoundary c = false

/-! ## Names hold no line boundary -/

theorem isLineBoundary_of_isPlainNameChar {c : Char} (h : isPlainNameChar c) :
    isLineBoundary c = false := by
  simp only [isPlainNameChar, Bool.and_eq_true, decide_eq_true_eq] at h
  have hlow : 0x20 ≤ c.toNat := h.1.1.1
  have hhigh : c.toNat ≤ 0x7e := h.1.1.2
  rw [Bool.eq_false_iff]
  intro hboundary
  simp only [isLineBoundary, Bool.or_eq_true, Bool.and_eq_true, decide_eq_true_eq,
    beq_iff_eq] at hboundary
  omega

theorem isPlainNameChar_digitChar (n : Nat) : isPlainNameChar (Nat.digitChar (n % 8)) := by
  have hlt : n % 8 < 8 := Nat.mod_lt _ (by decide)
  generalize n % 8 = d at hlt
  interval_cases d <;> decide

/-- A quoted character is printed in printable ASCII. -/
theorem printable_quoteNameChar {c d : Char} (h : d ∈ quoteNameChar c) :
    isPlainNameChar d ∨ d = '"' ∨ d = '\\' := by
  rw [quoteNameChar] at h
  by_cases hplain : isPlainNameChar c
  · rw [if_pos hplain, List.mem_singleton] at h
    exact Or.inl (h ▸ hplain)
  · rw [if_neg hplain] at h
    split at h
    case h_10 =>
      obtain ⟨byte, -, hd⟩ := List.mem_flatMap.mp h
      simp only [octalByte, List.mem_cons, List.not_mem_nil, or_false] at hd
      rcases hd with rfl | rfl | rfl | rfl
      · exact Or.inr (Or.inr rfl)
      · exact Or.inl (isPlainNameChar_digitChar _)
      · exact Or.inl (isPlainNameChar_digitChar _)
      · exact Or.inl (isPlainNameChar_digitChar _)
    all_goals
      simp only [List.mem_cons, List.not_mem_nil, or_false] at h
      rcases h with rfl | rfl <;> decide

theorem printable_quoteName {name : Text} {d : Char} (h : d ∈ quoteName name) :
    isPlainNameChar d ∨ d = '"' ∨ d = '\\' := by
  rw [quoteName] at h
  by_cases hplain : name.all isPlainNameChar
  · rw [if_pos hplain] at h
    exact Or.inl (List.all_eq_true.mp hplain d h)
  · rw [if_neg hplain] at h
    rcases List.mem_append.mp h with h | h
    · rcases List.mem_cons.mp h with rfl | h
      · exact Or.inr (Or.inl rfl)
      · obtain ⟨c, -, hd⟩ := List.mem_flatMap.mp h
        exact printable_quoteNameChar hd
    · exact Or.inr (Or.inl (List.mem_singleton.mp h))

theorem isLineBoundary_quoteName {name : Text} {d : Char} (h : d ∈ quoteName name) :
    isLineBoundary d = false := by
  rcases printable_quoteName h with hplain | rfl | rfl
  · exact isLineBoundary_of_isPlainNameChar hplain
  · rfl
  · rfl

/-! ## Printed lines are read back -/

/-- Python reads the lines Git prints when none of them holds a line boundary. -/
theorem splitlines_printLines {lines : List Text}
    (h : ∀ line ∈ lines, ∀ c ∈ line, isLineBoundary c = false) :
    splitlines (printLines lines) = lines := by
  induction lines with
  | nil => rfl
  | cons line lines ih =>
      have hline : ∀ c ∈ line, isLineBoundary c = false := h line List.mem_cons_self
      have hrest := ih fun other hother => h other (List.mem_cons_of_mem _ hother)
      have hcons : printLines (line :: lines) = line ++ '\n' :: printLines lines := by
        simp [printLines]
      rw [hcons, splitlines_append_boundary line _ hline (by decide) (by decide), hrest]

theorem readNames_printNames (paths : List Text) :
    readNames (printNames paths) =
      ((paths.map quoteName).filter fun name => !isBlank name).map strip := by
  have hlines : ∀ line ∈ paths.map quoteName, ∀ c ∈ line, isLineBoundary c = false := by
    intro line hline c hc
    obtain ⟨path, -, rfl⟩ := List.mem_map.mp hline
    exact isLineBoundary_quoteName hc
  rw [readNames, printNames, splitlines_printLines hlines]

end LlmHarness
