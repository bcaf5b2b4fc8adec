/-
  LlmHarness.Python.Str

  The string operations of the Python runtime: the white space of
  `str.isspace`, the line boundaries of `str.splitlines`, `str.strip`, `str.split`
  and the newline translation of text-mode reading.  Text is a list of Unicode scalar
  values, so every function here is a list function.
-/

import Mathlib.Data.List.DropRight

namespace LlmHarness.Python

/-- A decoded text. -/
abbrev Text := List Char

-- A property of all characters of a text is decided by the text, not by all of Unicode.
instance (priority := high) decidableForallMem (p : Char → Prop) [DecidablePred p] (cs : Text) :
    Decidable (∀ c ∈ cs, p c) :=
  List.decidableBAll p cs

-- One name for it, so that deciding membership is the same term wherever it is used.
instance lawfulBEqText : LawfulBEq Text := inferInstance

/-- `str.isspace` on one character. -/
def isSpace (c : Char) : Bool :=
  let n := c.toNat
  (9 ≤ n && n ≤ 13) || (28 ≤ n && n ≤ 32) || n == 0x85 || n == 0xA0 || n == 0x1680 ||
    (0x2000 ≤ n && n ≤ 0x200A) || n == 0x2028 || n == 0x2029 || n == 0x202F ||
    n == 0x205F || n == 0x3000

/-- The documented line boundaries of `str.splitlines`. -/
def isLineBoundary (c : Char) : Bool :=
  let n := c.toNat
  (10 ≤ n && n ≤ 13) || (28 ≤ n && n ≤ 30) || n == 0x85 || n == 0x2028 || n == 0x2029

/-- `str.lstrip()`. -/
def lstrip (cs : Text) : Text := cs.dropWhile isSpace

/-- `str.rstrip()`. -/
def rstrip (cs : Text) : Text := cs.rdropWhile isSpace

/-- `str.strip()`. -/
def strip (cs : Text) : Text := rstrip (lstrip cs)

/-- `not str.strip()`: nothing but white space. -/
def isBlank (cs : Text) : Bool := cs.all isSpace

/-- `str.split()`: the runs of other characters between white space. -/
def split (cs : Text) : List Text := (cs.splitOnP isSpace).filter (· ≠ [])

/-- `str.splitlines()`: a boundary ends its line, `\r\n` is one boundary, and
    a text that ends in a boundary has no empty last line. -/
def splitlines : Text → List Text
  | [] => []
  | '\r' :: '\n' :: cs => [] :: splitlines cs
  | c :: cs =>
    if isLineBoundary c then [] :: splitlines cs
    else match splitlines cs with
      | [] => [[c]]
      | line :: lines => (c :: line) :: lines

/-- Text-mode reading: `\r\n` and a lone `\r` arrive as `\n`. -/
def universalNewlines : Text → Text
  | [] => []
  | '\r' :: '\n' :: cs => '\n' :: universalNewlines cs
  | c :: cs => (if c = '\r' then '\n' else c) :: universalNewlines cs

/-! ## White space -/

theorem isSpace_of_isLineBoundary {c : Char} (h : isLineBoundary c) : isSpace c := by
  simp only [isLineBoundary, isSpace, Bool.or_eq_true, Bool.and_eq_true, decide_eq_true_eq,
    beq_iff_eq] at h ⊢
  omega

theorem not_isBlank_of_mem {c : Char} {cs : Text} (hc : c ∈ cs) (hs : isSpace c = false) :
    isBlank cs = false := by
  rw [isBlank, List.all_eq_false]
  exact ⟨c, hc, by simp [hs]⟩

/-! ## Lines -/

/-- The first boundary of a text, when it is not a carriage return, ends the
    first line. -/
theorem splitlines_append_boundary (cs rest : Text) {b : Char}
    (h : ∀ c ∈ cs, isLineBoundary c = false) (hb : isLineBoundary b) (hcr : b ≠ '\r') :
    splitlines (cs ++ b :: rest) = cs :: splitlines rest := by
  induction cs with
  | nil =>
      rw [List.nil_append, splitlines, if_pos hb]
      rintro _ rfl
      exact absurd rfl hcr
  | cons c cs ih =>
      have hc : isLineBoundary c = false := h c (by simp)
      have hcr' : c ≠ '\r' := by rintro rfl; simp [isLineBoundary] at hc
      have ih' := ih fun d hd => h d (by simp [hd])
      rw [List.cons_append, splitlines, if_neg (by simp [hc]), ih']
      rintro _ rfl
      exact absurd rfl hcr'

theorem universalNewlines_of_no_return (cs : Text) (h : ∀ c ∈ cs, c ≠ '\r') :
    universalNewlines cs = cs := by
  induction cs with
  | nil => rfl
  | cons c cs ih =>
      have hc : c ≠ '\r' := h c (by simp)
      rw [universalNewlines, if_neg hc, ih fun d hd => h d (by simp [hd])]
      rintro _ rfl
      exact absurd rfl hc

end LlmHarness.Python
