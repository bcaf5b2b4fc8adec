/-
  LlmHarness.Python.Search

  `str.find`, `str.replace` and the end slice, on the character lists of texts.
-/

import LlmHarness.Python.Str

namespace LlmHarness.Python

/-- `text.find(pattern)`, `none` for `-1`. -/
def find (pattern : Text) : Text → Option Nat
  | [] => if pattern.isPrefixOf [] then some 0 else none
  | c :: cs => if pattern.isPrefixOf (c :: cs) then some 0 else (find pattern cs).map (· + 1)

/-- `text.replace(pattern, replacement)` for a pattern that is not empty, `skip`
    characters of an occurrence still to be passed over. -/
def replaceFrom (pattern replacement : Text) : Nat → Text → Text
  | _, [] => []
  | skip + 1, _ :: cs => replaceFrom pattern replacement skip cs
  | 0, c :: cs =>
    if pattern.isPrefixOf (c :: cs) then
      replacement ++ replaceFrom pattern replacement (pattern.length - 1) cs
    else c :: replaceFrom pattern replacement 0 cs

/-- `text.replace(pattern, replacement)`. -/
def replace (pattern replacement text : Text) : Text := replaceFrom pattern replacement 0 text

/-- `text[start:-back]`, for a positive `back`. -/
def sliceInner (start back : Nat) (text : Text) : Text := (text.take (text.length - back)).drop start

theorem find_eq_zero_of_isPrefix {pattern text : Text} (h : pattern <+: text) :
    find pattern text = some 0 := by
  have hstarts := List.isPrefixOf_iff_prefix.mpr h
  cases text with
  | nil => rw [find, if_pos hstarts]
  | cons c cs => rw [find, if_pos hstarts]

/-- `-1` stands for a pattern that does not occur. -/
theorem find_eq_none_iff {pattern text : Text} : find pattern text = none ↔ ¬ pattern <:+: text := by
  induction text with
  | nil => simp [find]
  | cons c cs ih =>
      by_cases hstarts : pattern <+: c :: cs
      · rw [find_eq_zero_of_isPrefix hstarts]
        simp [hstarts.isInfix]
      · rw [find, if_neg (fun h => hstarts (List.isPrefixOf_iff_prefix.mp h)), Option.map_eq_none_iff,
          ih, List.infix_cons_iff, not_or]
        exact (and_iff_right hstarts).symm

/-- An index is found at 0 only where the text starts with the pattern. -/
theorem isPrefix_of_find_eq_zero {pattern text : Text} (h : find pattern text = some 0) :
    pattern <+: text := by
  cases text with
  | nil =>
      rw [find] at h
      split at h
      · rename_i hstarts
        exact List.isPrefixOf_iff_prefix.mp hstarts
      · cases h
  | cons c cs =>
      rw [find] at h
      split at h
      · rename_i hstarts
        exact List.isPrefixOf_iff_prefix.mp hstarts
      · cases hrest : find pattern cs with
        | none => simp [hrest] at h
        | some i => simp [hrest] at h

/-- The pattern starts at the index that is found. -/
theorem isPrefix_drop_of_find {pattern text : Text} {i : Nat} (h : find pattern text = some i) :
    pattern <+: text.drop i ∧ i ≤ text.length := by
  induction text generalizing i with
  | nil =>
      rw [find] at h
      split at h
      · rename_i hstarts
        cases h
        exact ⟨List.isPrefixOf_iff_prefix.mp hstarts, Nat.le_refl _⟩
      · cases h
  | cons c cs ih =>
      rw [find] at h
      split at h
      · rename_i hstarts
        cases h
        exact ⟨List.isPrefixOf_iff_prefix.mp hstarts, Nat.zero_le _⟩
      · obtain ⟨j, hj, rfl⟩ := Option.map_eq_some_iff.mp h
        obtain ⟨hpattern, hle⟩ := ih hj
        exact ⟨hpattern, Nat.succ_le_succ hle⟩

end LlmHarness.Python
