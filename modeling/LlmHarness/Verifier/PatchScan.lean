/-
  LlmHarness.Verifier.PatchScan

  `scan_patch`: the gate's own reading of a patch text, line by line, with the
  counters of the hunk it is in and the header it could not read yet.  The two
  places where the source raises `ValueError` instead of reporting a problem are
  errors here: an octal escape above 255, and nothing else on texts whose
  numerals CPython converts.
-/

import LlmHarness.Python.Digits

namespace LlmHarness

open Python

/-! ## Hunk headers -/

/-- `(\d+)`: the number and what follows it. -/
def readNumber (cs : Text) : Option (Nat × Text) :=
  if cs.takeWhile isDecimal = [] then none
  else some (decimalNumber (cs.takeWhile isDecimal), cs.dropWhile isDecimal)

/-- `(\d+)(?:,(\d+))?`: the count, one when it is left out, and what follows. -/
def readRange (cs : Text) : Option (Nat × Text) := do
  let (_, rest) ← readNumber cs
  match rest with
  | ',' :: tail =>
    match readNumber tail with
    | some (count, after) => some (count, after)
    | none => some (1, rest)
  | _ => some (1, rest)

/-- `_hunk_counts`, which is `_HUNK_RE` and the counts it captures. -/
def hunkCounts (line : Text) : Option (Nat × Nat) := do
  let marks ← line.dropPrefix? "@@".toList
  let old ← (marks.dropWhile fun c => c = '@').dropPrefix? " -".toList
  let (oldCount, rest) ← readRange old
  let new ← rest.dropPrefix? " +".toList
  let (newCount, rest) ← readRange new
  let _ ← rest.dropPrefix? " @@".toList
  some (oldCount, newCount)

/-- `_hunk_body_step`. -/
def hunkBodyStep (line : Text) : Option (Nat × Nat) :=
  match line with
  | [] => some (1, 1)
  | ' ' :: _ => some (1, 1)
  | '-' :: _ => some (1, 0)
  | '+' :: _ => some (0, 1)
  | '\\' :: _ => some (0, 0)
  | _ => none

/-! ## Names -/

/-- `_C_ESCAPES`. -/
def cEscape? (c : Char) : Option UInt8 :=
  match c with
  | '"' => some 0x22
  | '\\' => some 0x5c
  | 'a' => some 0x07
  | 'b' => some 0x08
  | 'f' => some 0x0c
  | 'n' => some 0x0a
  | 'r' => some 0x0d
  | 't' => some 0x09
  | 'v' => some 0x0b
  | _ => none

/-- `bytes.decode("utf-8")`. -/
def decodeUtf8 (raw : List UInt8) : Option Text :=
  (String.fromUTF8? raw.toByteArray).map String.toList

/-- The value of an octal digit. -/
def octalValue? (c : Char) : Option Nat :=
  if 0x30 ≤ c.toNat ∧ c.toNat ≤ 0x37 then some (c.toNat - 0x30) else none

/-- The value of three octal digits. -/
def octalEscape? (cs : Text) : Option Nat :=
  match cs.take 3 with
  | [a, b, c] => do return 64 * (← octalValue? a) + 8 * (← octalValue? b) + (← octalValue? c)
  | _ => none

/-- The loop of `_read_quoted_token`, on the text after the opening quote, with
    at most `fuel` bytes to read.  The bytes read so far are `raw`. -/
def readQuotedBytes (raw : List UInt8) : Nat → Text → Except String (Option (Text × Text))
  | 0, _ => .ok none
  | _ + 1, [] => .ok none
  | fuel + 1, c :: rest =>
    if c = '"' then .ok ((decodeUtf8 raw).map fun text => (text, rest))
    else if c ≠ '\\' then readQuotedBytes (raw ++ String.utf8EncodeChar c) fuel rest
    else
      match rest with
      | [] => .ok none
      | escape :: tail =>
        match cEscape? escape with
        | some byte => readQuotedBytes (raw ++ [byte]) fuel tail
        | none =>
          match octalEscape? rest with
          | none => .ok none
          | some value =>
            if 255 < value then .error "byte must be in range(0, 256)"
            else readQuotedBytes (raw ++ [UInt8.ofNat value]) fuel (rest.drop 3)

/-- `_read_quoted_token`, on a text that starts with a quote: the name and what
    follows the closing quote. -/
def readQuotedToken (text : Text) : Except String (Option (Text × Text)) :=
  readQuotedBytes [] text.length (text.drop 1)

/-- `_strip_diff_prefix`. -/
def stripDiffPrefix (name : Text) : Option Text :=
  let candidate := strip name
  if candidate = [] ∨ candidate = "/dev/null".toList then none
  else
    let path :=
      if "a/".toList.isPrefixOf candidate ∨ "b/".toList.isPrefixOf candidate then candidate.drop 2
      else candidate
    if path = [] then none else some path

/-- `tuple(dict.fromkeys(names)) or None`. -/
def distinctNames (names : List Text) : Option (List Text) :=
  if names = [] then none else some names.eraseDups

/-- Every `(rest[:position], rest[position + 1:])` where `rest[position]` is a space. -/
def spaceSplits : Text → List (Text × Text)
  | [] => []
  | c :: cs =>
    (if c = ' ' then [([], cs)] else []) ++
      (spaceSplits cs).map fun (left, right) => (c :: left, right)

/-- The two names of an unquoted header: `a/LEFT b/RIGHT`. -/
def headerCandidates (rest : Text) : List (Text × Text) :=
  (spaceSplits rest).filterMap fun (left, right) => do
    return (← left.dropPrefix? "a/".toList, ← right.dropPrefix? "b/".toList)

/-- The branch of `_git_header_paths` for a header whose first name is not quoted. -/
def unquotedHeaderPaths (rest : Text) : Option (List Text) :=
  let candidates := headerCandidates rest
  match candidates.find? fun (left, right) => left = right ∧ left ≠ [] with
  | some (left, _) => some [left]
  | none =>
    match candidates with
    | [(left, right)] => distinctNames ([left, right].filter fun name => name ≠ [])
    | _ => none

/-- The branch of `_git_header_paths` for a header whose first name is quoted. -/
def quotedHeaderPaths (rest : Text) : Except String (Option (List Text)) := do
  match ← readQuotedToken rest with
  | none => return none
  | some (first, remainder) =>
    let remainder := strip remainder
    if remainder = [] then return none
    else if remainder.head? = some '"' then
      match ← readQuotedToken remainder with
      | none => return none
      | some (second, tail) =>
        if strip tail ≠ [] then return none
        else return distinctNames ([first, second].filterMap stripDiffPrefix)
    else return distinctNames ([first, remainder].filterMap stripDiffPrefix)

/-- `_git_header_paths`. -/
def gitHeaderPaths (rest : Text) : Except String (Option (List Text)) :=
  let rest := rstrip rest
  if rest = [] then .ok none
  else if rest.head? = some '"' then quotedHeaderPaths rest
  else .ok (unquotedHeaderPaths rest)

/-- `_decode_path_token`. -/
def decodePathToken (token : Text) : Except String (Option Text) := do
  let candidate := rstrip (token.takeWhile fun c => c ≠ '\t')
  if candidate.head? = some '"' then
    match ← readQuotedToken candidate with
    | none => return none
    | some (decoded, tail) =>
      if strip tail ≠ [] then return none else return stripDiffPrefix decoded
  else return stripDiffPrefix candidate

/-! ## The scan -/

/-- A part of a patch that could not be read, with the text it quotes. -/
inductive ScanProblem where
  | hunkHeader (line : Text)
  | diffHeader (line : Text)
  | unifiedDiffHeader (line : Text)
  | noFilePaths
deriving DecidableEq, Repr

/-- The text of a problem, with Python's `repr` of a string. -/
def ScanProblem.message (repr : Text → String) : ScanProblem → String
  | .hunkHeader line => "unreadable hunk header " ++ repr line
  | .diffHeader line => "unreadable diff header " ++ repr line
  | .unifiedDiffHeader line => "unreadable unified diff header " ++ repr line
  | .noFilePaths => "patch declares no file paths"

/-- `PatchScan`. -/
structure PatchScan where
  files : List Text := []
  problems : List ScanProblem := []
deriving DecidableEq, Repr

/-- The local variables of the loop of `scan_patch`. -/
structure ScanState where
  files : List Text := []
  problems : List ScanProblem := []
  pendingHeader : Option Text := none
  remainingOld : Nat := 0
  remainingNew : Nat := 0
deriving DecidableEq, Repr

namespace ScanState

/-- `remaining_old > 0 or remaining_new > 0`. -/
def inHunk (state : ScanState) : Prop := 0 < state.remainingOld ∨ 0 < state.remainingNew

instance (state : ScanState) : Decidable state.inHunk := inferInstanceAs (Decidable (_ ∨ _))

/-- The problem of a header that was not read. -/
def reportPending (state : ScanState) : ScanState :=
  match state.pendingHeader with
  | none => state
  | some header => { state with
      problems := state.problems ++ [.diffHeader header]
      pendingHeader := none }

/-- A line starting with `@@`. -/
def hunkHeader (state : ScanState) (line : Text) : ScanState :=
  match hunkCounts line with
  | none => { state with problems := state.problems ++ [.hunkHeader (strip line)] }
  | some (old, new) => { state with remainingOld := old, remainingNew := new }

/-- A line starting with `diff --git `. -/
def gitHeader (state : ScanState) (line : Text) : Except String ScanState := do
  let state := state.reportPending
  match ← gitHeaderPaths (line.drop "diff --git ".length) with
  | none => return { state with pendingHeader := some (strip line) }
  | some names => return { state with files := state.files ++ names }

/-- A line starting with `diff --cc ` or `diff --combined `, whose third word is `token`. -/
def combinedHeader (state : ScanState) (line token : Text) : Except String ScanState := do
  let state := state.reportPending
  match ← decodePathToken token with
  | none => return { state with problems := state.problems ++ [.diffHeader (strip line)] }
  | some name => return { state with files := state.files ++ [name] }

/-- A line starting with `--- ` and the next one, starting with `+++ `. -/
def unifiedHeader (state : ScanState) (line next : Text) : Except String ScanState := do
  let oldName ← decodePathToken (line.drop 4)
  let newName ← decodePathToken (next.drop 4)
  match oldName.toList ++ newName.toList with
  | [] => return { state with
      problems := state.problems ++ [.unifiedDiffHeader (strip line)]
      pendingHeader := none }
  | names => return { state with files := state.files ++ names, pendingHeader := none }

end ScanState

/-- What a line outside a hunk does. -/
inductive LineKind where
  | hunkHeader
  | gitHeader
  | combinedHeader (token : Text)
  | unifiedHeader (next : Text)
  | other

/-- The tests of the loop of `scan_patch` on a line outside a hunk, in order. -/
def lineKind (line : Text) (next : Option Text) : LineKind :=
  if "@@".toList.isPrefixOf line then .hunkHeader
  else if "diff --git ".toList.isPrefixOf line then .gitHeader
  else if "diff --cc ".toList.isPrefixOf line then
    .combinedHeader (line.drop "diff --cc ".length)
  else if "diff --combined ".toList.isPrefixOf line then
    .combinedHeader (line.drop "diff --combined ".length)
  else
    match next with
    | some next =>
      if "--- ".toList.isPrefixOf line ∧ "+++ ".toList.isPrefixOf next then .unifiedHeader next
      else .other
    | none => .other

/-- The loop of `scan_patch`. -/
def scanLines : ScanState → List Text → Except String ScanState
  | state, [] => .ok state
  | state, line :: rest =>
    let body := if state.inHunk then hunkBodyStep line else none
    match body with
    | some (old, new) =>
      scanLines { state with
        remainingOld := state.remainingOld - old
        remainingNew := state.remainingNew - new } rest
    | none =>
      let state := { state with remainingOld := 0, remainingNew := 0 }
      match lineKind line rest.head? with
      | .hunkHeader => scanLines (state.hunkHeader line) rest
      | .gitHeader =>
        match state.gitHeader line with
        | .error e => .error e
        | .ok state => scanLines state rest
      | .combinedHeader token =>
        match state.combinedHeader line token with
        | .error e => .error e
        | .ok state => scanLines state rest
      | .unifiedHeader next =>
        match state.unifiedHeader line next with
        | .error e => .error e
        | .ok state => scanLines state rest.tail
      | .other => scanLines state rest
termination_by _ lines => lines.length
decreasing_by all_goals simp_wf; try omega

/-- Outside a hunk a line is read by its kind. -/
theorem scanLines_outside {state : ScanState} (hhunk : ¬ state.inHunk) (line : Text)
    (rest : List Text) :
    scanLines state (line :: rest) =
      match lineKind line rest.head? with
      | .hunkHeader => scanLines (state.hunkHeader line) rest
      | .gitHeader =>
        match state.gitHeader line with
        | .error e => .error e
        | .ok state => scanLines state rest
      | .combinedHeader token =>
        match state.combinedHeader line token with
        | .error e => .error e
        | .ok state => scanLines state rest
      | .unifiedHeader next =>
        match state.unifiedHeader line next with
        | .error e => .error e
        | .ok state => scanLines state rest.tail
      | .other => scanLines state rest := by
  have hzero : { state with remainingOld := 0, remainingNew := 0 } = state := by
    obtain ⟨files, problems, pendingHeader, remainingOld, remainingNew⟩ := state
    have hzero : ¬ (0 < remainingOld ∨ 0 < remainingNew) := hhunk
    have hold : remainingOld = 0 := by omega
    have hnew : remainingNew = 0 := by omega
    rw [hold, hnew]
  rw [scanLines, if_neg hhunk]
  simp only [hzero]

/-- `scan_patch`. -/
def scanPatch (patch : Text) : Except String PatchScan := do
  let state := (← scanLines {} (splitlines patch)).reportPending
  let problems :=
    if isBlank patch ∨ state.files ≠ [] ∨ state.problems ≠ [] then state.problems
    else [.noFilePaths]
  return ⟨state.files.eraseDups, problems⟩

/-- `changed_files_from_patch`. -/
def changedFilesFromPatch (patch : Text) : Except String (List Text) :=
  (scanPatch patch).map PatchScan.files

end LlmHarness
