/-
  LlmHarness.A2A.RemotePatch

  `_result_patch` and `_validate_patch` of `a2a_adapters.py`: the patch text a
  remote worker answers with.
-/

import LlmHarness.A2A.Result
import LlmHarness.Python.Strip

namespace LlmHarness.A2A

open Python

/-- `A2AAdapterError`. -/
structure A2AAdapterError where
  message : String
deriving DecidableEq, Repr

/-- The text without the fence of a `diff` block. -/
def unfence (candidate : Text) : Text :=
  if "```diff".toList.isPrefixOf candidate ∧ "```".toList.isSuffixOf candidate then
    strip (sliceInner 7 3 candidate)
  else candidate

/-- The text from its first `diff --git ` header on. -/
def fromGitHeader (candidate : Text) : Text :=
  match find "diff --git ".toList candidate with
  | some index => candidate.drop index
  | none => candidate

/-- A text `_validate_patch` takes for a patch. -/
def startsPatch (candidate : Text) : Bool :=
  "diff --git ".toList.isPrefixOf candidate ||
    ("--- ".toList.isPrefixOf candidate && (find "\n+++ ".toList candidate).isSome)

/-- `_validate_patch`. -/
def validatePatch (value : Text) : Except A2AAdapterError Text :=
  let candidate := fromGitHeader (unfence (strip value))
  if startsPatch candidate then
    .ok (candidate ++ if "\n".toList.isSuffixOf candidate then [] else ['\n'])
  else .error ⟨"Remote A2A Worker returned no unified Git diff."⟩

/-- `A2AResult.text`. -/
def A2AResult.text (result : A2AResult) : Text :=
  strip ("\n".intercalate (result.texts.filter (· ≠ ""))).toList

/-! ## Diff texts -/

/-- A diff text: it ends in a line feed, and its first line is a `diff --git` header or the
    first of two file headers.  What the lines after that hold is free. -/
structure IsDiff (d : Text) : Prop where
  ends : ∃ body, d = body ++ ['\n']
  header : "diff --git ".toList <+: d ∨ ("--- ".toList <+: d ∧ "\n+++ ".toList <:+: d)

/-- A diff text in a fenced block. -/
def fenced (d : Text) : Text := "```diff\n".toList ++ d ++ "```".toList

/-- The last line has a character after which only its line feed follows. -/
def EndsInText (d : Text) : Prop := ∃ body c, d = body ++ [c, '\n'] ∧ isSpace c = false

/-- Every header of the text is its first. -/
def NoInnerHeader (d : Text) : Prop :=
  "diff --git ".toList <+: d ∨ ¬ "diff --git ".toList <:+: d

/-- A pattern that does not end in a line feed starts the text without its last line feed. -/
theorem isPrefix_concat_lf {pattern text : Text} (hp : ∀ front, pattern ≠ front ++ ['\n']) :
    pattern <+: text ++ ['\n'] ↔ pattern <+: text := by
  rw [List.prefix_concat_iff]
  exact or_iff_right (hp text)

/-- ... and occurs in it. -/
theorem isInfix_concat_lf {pattern text : Text} (hp : ∀ front, pattern ≠ front ++ ['\n'])
    (hne : pattern ≠ []) : pattern <:+: text ++ ['\n'] ↔ pattern <:+: text := by
  rw [List.infix_concat_iff]
  refine or_iff_right fun hsuffix => ?_
  rcases List.suffix_concat_iff.mp hsuffix with hnil | ⟨front, rfl, -⟩
  · exact hne hnil
  · exact hp front rfl

namespace IsDiff

variable {d : Text}

/-- The first character is the one of a header. -/
theorem head (h : IsDiff d) : ∃ c cs, d = c :: cs ∧ (c = 'd' ∨ c = '-') := by
  rcases h.header with ⟨rest, rfl⟩ | ⟨⟨rest, rfl⟩, -⟩
  · exact ⟨'d', _, rfl, Or.inl rfl⟩
  · exact ⟨'-', _, rfl, Or.inr rfl⟩

/-- Stripping a diff text takes white space from its end only. -/
theorem strip_eq (h : IsDiff d) : strip d = rstrip d := by
  obtain ⟨c, cs, rfl, hc⟩ := h.head
  have hspace : isSpace c = false := by rcases hc with rfl | rfl <;> decide
  rw [strip, lstrip_of_head hspace]

/-- The strip leaves a text that is not fenced. -/
theorem unfence_rstrip (h : IsDiff d) : unfence (rstrip d) = rstrip d := by
  obtain ⟨c, cs, rfl, hc⟩ := h.head
  refine if_neg fun hfence => ?_
  have hstarts := (List.isPrefixOf_iff_prefix.mp hfence.1).trans (prefix_rstrip _)
  obtain ⟨rest, hrest⟩ := hstarts
  cases hrest
  rcases hc with hc | hc <;> exact absurd hc (by decide)

/-- The fence is taken off before anything else is looked at. -/
theorem unfence_fenced (h : IsDiff d) : unfence (strip (fenced d)) = rstrip d := by
  -- the fence as characters, so that its length and its ends compute
  have hfence : fenced d = ['`', '`', '`', 'd', 'i', 'f', 'f', '\n'] ++ d ++ ['`', '`', '`'] := by
    have hopen : "```diff\n".toList = ['`', '`', '`', 'd', 'i', 'f', 'f', '\n'] := by decide
    have hclose : "```".toList = ['`', '`', '`'] := by decide
    show "```diff\n".toList ++ d ++ "```".toList = _
    rw [hopen, hclose]
  have hfront : lstrip (fenced d) = fenced d := by
    rw [hfence]
    exact lstrip_of_head (by decide)
  have hback : rstrip (fenced d) = fenced d := by
    have hconcat : fenced d =
        (['`', '`', '`', 'd', 'i', 'f', 'f', '\n'] ++ d ++ ['`', '`']) ++ ['`'] := by
      rw [hfence, List.append_assoc, List.append_assoc, List.append_assoc]
      rfl
    rw [hconcat, rstrip_append_singleton (by decide)]
  -- the slice cuts `7` characters in front and `3` behind, and leaves the line end of the first
  -- line
  have hslice : sliceInner 7 3 (fenced d) = '\n' :: d := by
    have hlength : (fenced d).length - 3 =
        (['`', '`', '`', 'd', 'i', 'f', 'f', '\n'] ++ d).length := by
      rw [hfence, List.length_append, List.length_append]
      exact Nat.add_sub_cancel _ 3
    rw [sliceInner, hlength, hfence, List.take_left]
    rfl
  have hstarts : "```diff".toList.isPrefixOf (fenced d) := by
    rw [List.isPrefixOf_iff_prefix, hfence]
    exact ⟨'\n' :: d ++ ['`', '`', '`'], by simp⟩
  -- both ends of the fence are recognised
  have hends : "```".toList.isSuffixOf (fenced d) := by
    rw [List.isSuffixOf_iff_suffix, hfence]
    exact ⟨['`', '`', '`', 'd', 'i', 'f', 'f', '\n'] ++ d, by simp⟩
  rw [strip, hfront, hback, unfence, if_pos ⟨hstarts, hends⟩, hslice, ← h.strip_eq, strip, strip]
  rw [lstrip, List.dropWhile_cons_of_pos (by decide), lstrip]

/-- A fence changes nothing. -/
theorem validatePatch_fenced (h : IsDiff d) : validatePatch (fenced d) = validatePatch d := by
  rw [validatePatch, validatePatch, h.unfence_fenced, h.strip_eq, h.unfence_rstrip]

/-- What is validated: the text without the white space at its end. -/
theorem validatePatch_eq (h : IsDiff d) : validatePatch d =
    if startsPatch (fromGitHeader (rstrip d)) then
      .ok (fromGitHeader (rstrip d) ++
        if "\n".toList.isSuffixOf (fromGitHeader (rstrip d)) then [] else ['\n'])
    else .error ⟨"Remote A2A Worker returned no unified Git diff."⟩ := by
  rw [validatePatch, h.strip_eq, h.unfence_rstrip]

end IsDiff

/-- No header ends in a line feed. -/
theorem gitMark_ne (front : Text) : "diff --git ".toList ≠ front ++ ['\n'] := fun h =>
  absurd (congrArg (fun text => text.getLast?) h) (by simp)

theorem plusMark_ne (front : Text) : "\n+++ ".toList ≠ front ++ ['\n'] := fun h =>
  absurd (congrArg (fun text => text.getLast?) h) (by simp)

theorem minusMark_ne (front : Text) : "--- ".toList ≠ front ++ ['\n'] := fun h =>
  absurd (congrArg (fun text => text.getLast?) h) (by simp)

/-- The cut leaves the end of the text. -/
theorem fromGitHeader_isSuffix (text : Text) : fromGitHeader text <:+ text := by
  rw [fromGitHeader]
  split
  · exact List.drop_suffix _ _
  · exact List.suffix_refl _

/-- Nothing is cut exactly when every header is the first. -/
theorem fromGitHeader_eq_self_iff (text : Text) : fromGitHeader text = text ↔ NoInnerHeader text := by
  rw [fromGitHeader, NoInnerHeader]
  cases hfind : find "diff --git ".toList text with
  | none => exact iff_of_true rfl (Or.inr (find_eq_none_iff.mp hfind))
  | some index =>
      obtain ⟨hhere, hle⟩ := isPrefix_drop_of_find hfind
      have hoccurs : "diff --git ".toList <:+: text := by
        by_contra hnone
        rw [find_eq_none_iff.mpr hnone] at hfind
        cases hfind
      constructor
      · intro hsame
        have hlength := congrArg List.length hsame
        dsimp only at hlength
        rw [List.length_drop] at hlength
        have hzero : index = 0 := by
          have := hhere.length_le
          rw [List.length_drop] at this
          have hmark : "diff --git ".toList.length = 11 := by decide
          omega
        subst hzero
        exact Or.inl (isPrefix_of_find_eq_zero hfind)
      · rintro (hstarts | hnone)
        · rw [find_eq_zero_of_isPrefix hstarts] at hfind
          cases hfind
          rfl
        · exact absurd hoccurs hnone

/-- The last line feed of a text belongs to no header. -/
theorem noInnerHeader_concat_lf (text : Text) : NoInnerHeader (text ++ ['\n']) ↔ NoInnerHeader text := by
  rw [NoInnerHeader, NoInnerHeader, isPrefix_concat_lf gitMark_ne,
    isInfix_concat_lf gitMark_ne (by decide)]

/-- A diff text without its last line feed still starts as a patch. -/
theorem startsPatch_of_isDiff {text : Text} (h : IsDiff (text ++ ['\n'])) : startsPatch text := by
  rw [startsPatch, Bool.or_eq_true, Bool.and_eq_true]
  rcases h.header with hgit | ⟨hminus, hplus⟩
  · exact Or.inl (List.isPrefixOf_iff_prefix.mpr ((isPrefix_concat_lf gitMark_ne).mp hgit))
  · refine Or.inr ⟨List.isPrefixOf_iff_prefix.mpr ((isPrefix_concat_lf minusMark_ne).mp hminus), ?_⟩
    rw [Option.isSome_iff_ne_none, ne_eq, find_eq_none_iff, not_not]
    exact (isInfix_concat_lf plusMark_ne (by decide)).mp hplus

/-- **Patch fidelity.**  A diff text arrives unchanged, bare and fenced, exactly when its last
    line does not end in white space and no `diff --git` text stands after its start. -/
theorem validatePatch_eq_self_iff {d : Text} (h : IsDiff d) :
    (validatePatch d = .ok d ∧ validatePatch (fenced d) = .ok d) ↔ EndsInText d ∧ NoInnerHeader d := by
  rw [h.validatePatch_fenced, and_self, h.validatePatch_eq]
  constructor
  · intro hsame
    -- a text that does not start a patch is refused
    split at hsame
    rotate_left
    · cases hsame
    rename_i hstarts
    have hd := Except.ok.inj hsame
    -- what is left ends where the stripped text ends, so not in a line feed
    obtain ⟨front, hfront⟩ := fromGitHeader_isSuffix (rstrip d)
    rcases List.eq_nil_or_concat (fromGitHeader (rstrip d)) with hnil | ⟨body, c, hcut⟩
    · rw [hnil] at hstarts
      exact absurd hstarts (by decide)
    rw [List.concat_eq_append] at hcut
    have hspace : isSpace c = false := not_isSpace_of_rstrip d (front ++ body) (by
      rw [← hfront, hcut, List.append_assoc])
    have hnotLf : ¬ "\n".toList.isSuffixOf (fromGitHeader (rstrip d)) := by
      rw [List.isSuffixOf_iff_suffix, hcut]
      rintro ⟨other, hother⟩
      obtain ⟨-, rfl⟩ := List.append_inj' hother rfl |>.imp id List.singleton_inj.mp
      exact absurd hspace (by decide)
    rw [if_neg hnotLf] at hd
    -- so nothing but the line feed was taken from the end, and nothing from the front
    have hwhole : fromGitHeader (rstrip d) = rstrip d := by
      obtain ⟨whole, hwhole⟩ := h.ends
      have hshort : rstrip d = rstrip whole := by rw [hwhole, rstrip_append_space (by decide)]
      have hle := (prefix_rstrip whole).length_le
      have hlength := congrArg List.length (hd.trans hwhole)
      rw [List.length_append, List.length_append] at hlength
      refine (fromGitHeader_isSuffix (rstrip d)).eq_of_length_le ?_
      rw [hshort] at hlength ⊢
      omega
    refine ⟨⟨body, c, ?_, hspace⟩, ?_⟩
    · rw [← hd, hcut, List.append_assoc]
      rfl
    · rw [← hd, noInnerHeader_concat_lf, hwhole, ← fromGitHeader_eq_self_iff]
      exact hwhole
  -- the text ends in a character and its line feed, with no header inside
  · rintro ⟨⟨body, c, hbody, hspace⟩, hheader⟩
    have hd : d = (body ++ [c]) ++ ['\n'] := by rw [hbody, List.append_assoc]; rfl
    have hstrip : rstrip d = body ++ [c] := by
      rw [hd, rstrip_append_space (by decide), rstrip_append_singleton hspace]
    have hcut : fromGitHeader (body ++ [c]) = body ++ [c] := by
      rw [fromGitHeader_eq_self_iff, ← noInnerHeader_concat_lf, ← hd]
      exact hheader
    have hnotLf : ¬ "\n".toList.isSuffixOf (body ++ [c]) := by
      rw [List.isSuffixOf_iff_suffix]
      rintro ⟨other, hother⟩
      obtain ⟨-, rfl⟩ := List.append_inj' hother rfl |>.imp id List.singleton_inj.mp
      exact absurd hspace (by decide)
    have hstarts : startsPatch (body ++ [c]) := by
      apply startsPatch_of_isDiff
      rw [← hd]
      exact h
    rw [hstrip, hcut, if_pos hstarts, if_neg hnotLf, ← hd]

/-- A change of one line, after its `diff --git` header. -/
def oneLineDiff : Text :=
  "diff --git a/x b/x\n--- a/x\n+++ b/x\n@@ -1 +1 @@\n-a\n+b\n".toList

theorem validatePatch_oneLineDiff :
    validatePatch oneLineDiff = .ok oneLineDiff ∧ validatePatch (fenced oneLineDiff) = .ok oneLineDiff :=
  (validatePatch_eq_self_iff ⟨⟨oneLineDiff.dropLast, by decide +kernel⟩, Or.inl (by decide +kernel)⟩).mpr
    ⟨⟨oneLineDiff.take 51, 'b', by decide +kernel, by decide⟩, Or.inl (by decide +kernel)⟩

/-- A change whose last line is an empty line of context: the space that marks it is lost. -/
theorem not_validatePatch_blankContext :
    ¬ ∀ d, IsDiff d → validatePatch d = .ok d ∧ validatePatch (fenced d) = .ok d := by
  intro hall
  let d := "--- a/x\n+++ b/x\n@@ -1,2 +1,2 @@\n-a\n+b\n \n".toList
  have hdiff : IsDiff d :=
    ⟨⟨d.dropLast, by decide +kernel⟩, Or.inr ⟨by decide +kernel, by decide +kernel⟩⟩
  exact absurd (hall d hdiff).1 (by decide +kernel)

end LlmHarness.A2A
