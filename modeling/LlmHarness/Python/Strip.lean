/-
  LlmHarness.Python.Strip

  What `str.lstrip`, `str.rstrip` and `str.strip` leave: the white space at an
  end goes, one character that is none stays with all that is behind it.
-/

import LlmHarness.Python.Str

namespace LlmHarness.Python

/-! ## The end -/

theorem rstrip_append_singleton {cs : Text} {c : Char} (hc : isSpace c = false) :
    rstrip (cs ++ [c]) = cs ++ [c] := by
  rw [rstrip, List.rdropWhile_concat_neg _ _ _ (by simp [hc])]

theorem rstrip_append_space {cs : Text} {c : Char} (hc : isSpace c = true) :
    rstrip (cs ++ [c]) = rstrip cs := by
  rw [rstrip, List.rdropWhile_concat_pos _ _ _ hc, rstrip]

theorem rstrip_append_of_not_isSpace (xs ys : Text) {c : Char} (h : isSpace c = false) :
    rstrip (xs ++ c :: ys) = xs ++ c :: rstrip ys := by
  induction ys using List.reverseRecOn with
  | nil => exact rstrip_append_singleton h
  | append_singleton ys d ih =>
      have hassoc : xs ++ c :: (ys ++ [d]) = (xs ++ c :: ys) ++ [d] := by simp
      rw [hassoc]
      by_cases hd : isSpace d
      · rw [rstrip_append_space hd, rstrip_append_space hd, ih]
      · have hd : isSpace d = false := by simpa using hd
        rw [rstrip_append_singleton hd, rstrip_append_singleton hd, List.append_assoc,
          List.cons_append]

theorem prefix_rstrip (cs : Text) : rstrip cs <+: cs := List.rdropWhile_prefix isSpace cs

theorem rstrip_rstrip (cs : Text) : rstrip (rstrip cs) = rstrip cs :=
  List.rdropWhile_idempotent isSpace cs

/-- What `rstrip` leaves out is white space. -/
theorem exists_rstrip_append (cs : Text) : ∃ blank, cs = rstrip cs ++ blank ∧ isBlank blank := by
  refine ⟨cs.rtakeWhile isSpace, List.rdropWhile_append_rtakeWhile.symm, ?_⟩
  rw [isBlank, List.all_eq_true]
  intro c hc
  exact List.mem_rtakeWhile_imp hc

theorem rstrip_append_blank (cs : Text) {blank : Text} (h : isBlank blank) :
    rstrip (cs ++ blank) = rstrip cs := by
  induction blank using List.reverseRecOn with
  | nil => rw [List.append_nil]
  | append_singleton blank c ih =>
      rw [isBlank, List.all_append, Bool.and_eq_true] at h
      have hc : isSpace c := by simpa using h.2
      rw [← List.append_assoc, rstrip_append_space hc, ih h.1]

/-- What `rstrip` leaves does not end in white space. -/
theorem not_isSpace_of_rstrip (cs body : Text) {c : Char} (h : rstrip cs = body ++ [c]) :
    isSpace c = false := by
  have hkept := rstrip_rstrip cs
  by_contra hspace
  rw [h, rstrip_append_space (by simpa using hspace)] at hkept
  have hlength := (prefix_rstrip body).length_le
  rw [hkept, List.length_append, List.length_singleton] at hlength
  omega

/-! ## Both ends -/

theorem lstrip_of_head {c : Char} {cs : Text} (hc : isSpace c = false) :
    lstrip (c :: cs) = c :: cs := by
  rw [lstrip, List.dropWhile_cons_of_neg (by simp [hc])]

/-- A text that is not blank keeps its first character that is no white space. -/
theorem strip_of_lstrip_cons {cs rest : Text} {c : Char} (h : lstrip cs = c :: rest) :
    isSpace c = false ∧ strip cs = c :: rstrip rest := by
  have hc : isSpace c = false := by
    have hhead := List.head?_dropWhile_not isSpace cs
    rw [lstrip] at h
    simpa [h] using hhead
  refine ⟨hc, ?_⟩
  rw [strip, h]
  exact rstrip_append_of_not_isSpace [] rest hc

theorem strip_strip (cs : Text) : strip (strip cs) = strip cs := by
  cases hcs : lstrip cs with
  | nil =>
      have hnil : strip cs = [] := by rw [strip, hcs]; rfl
      rw [hnil]
      rfl
  | cons c rest =>
      obtain ⟨hc, hstrip⟩ := strip_of_lstrip_cons hcs
      have hrstrip : rstrip (c :: rstrip rest) = c :: rstrip (rstrip rest) :=
        rstrip_append_of_not_isSpace [] _ hc
      rw [hstrip, strip, lstrip_of_head hc, hrstrip, rstrip_rstrip]

theorem strip_sublist (cs : Text) : (strip cs).Sublist cs :=
  (prefix_rstrip (lstrip cs)).sublist.trans (List.dropWhile_suffix isSpace).sublist

/-- Stripping leaves nothing exactly of a blank text. -/
theorem strip_eq_nil_iff {cs : Text} : strip cs = [] ↔ isBlank cs := by
  have hblank : lstrip cs = [] ↔ isBlank cs := by
    rw [lstrip, List.dropWhile_eq_nil_iff, isBlank, List.all_eq_true]
  rw [← hblank]
  cases hcs : lstrip cs with
  | nil => exact iff_of_true (by rw [strip, hcs]; rfl) rfl
  | cons c rest =>
      have hstrip := (strip_of_lstrip_cons hcs).2
      exact iff_of_false (by rw [hstrip]; exact List.cons_ne_nil _ _) (List.cons_ne_nil _ _)

/-- A text without white space is left as it is. -/
theorem strip_of_no_space {cs : Text} (h : ∀ c ∈ cs, isSpace c = false) : strip cs = cs := by
  have hlstrip : lstrip cs = cs := by
    cases cs with
    | nil => rfl
    | cons c cs => exact lstrip_of_head (h c List.mem_cons_self)
  rw [strip, hlstrip]
  rcases List.eq_nil_or_concat' cs with rfl | ⟨front, c, rfl⟩
  · rfl
  · exact rstrip_append_singleton (h c (by simp))

end LlmHarness.Python
