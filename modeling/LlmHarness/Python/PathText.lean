/-
  LlmHarness.Python.PathText

  `pathlib.PurePosixPath` as a value: its parts are what `PurePosixPath(text)` can
  yield, so its text reads back as the path, and `root / path.relative_to(root)`
  is the path again.
-/

import LlmHarness.Python.PosixPath

namespace LlmHarness.Python

/-- One part of a path: not empty, not `.`, without a slash. -/
structure IsPart (part : Text) : Prop where
  ne_nil : part ≠ []
  ne_dot : part ≠ ['.']
  no_slash : '/' ∉ part

/-- What reading a text makes of a path. -/
structure PosixPath.WellFormed (path : PosixPath) : Prop where
  root : path.root = [] ∨ path.root = ['/'] ∨ path.root = ['/', '/']
  parts : ∀ part ∈ path.parts, IsPart part

/-- A `PurePosixPath`. -/
abbrev PurePath := {path : PosixPath // path.WellFormed}

theorem no_slash_of_mem_splitOn {cs part : Text} (h : part ∈ cs.splitOn '/') : '/' ∉ part := by
  induction cs generalizing part with
  | nil =>
      rw [List.splitOn_nil, List.mem_singleton] at h
      rw [h]
      exact List.not_mem_nil
  | cons c cs ih =>
      rw [List.splitOn_cons_eq_if_modifyHead] at h
      by_cases hc : c = '/'
      · rw [if_pos (by simp [hc])] at h
        rcases List.mem_cons.mp h with rfl | h
        · exact List.not_mem_nil
        · exact ih h
      · rw [if_neg (by simp [hc])] at h
        obtain ⟨first, rest, hsplit⟩ := List.exists_cons_of_ne_nil (List.splitOn_ne_nil '/' cs)
        rw [hsplit, List.modifyHead_cons] at h
        rcases List.mem_cons.mp h with rfl | h
        · rw [List.mem_cons, not_or]
          exact ⟨fun heq => hc heq.symm, ih (hsplit ▸ List.mem_cons_self)⟩
        · exact ih (hsplit ▸ List.mem_cons_of_mem _ h)

theorem isPart_of_mem_filter {cs part : Text}
    (h : part ∈ (cs.splitOn '/').filter fun part => !(part == []) && !(part == ['.'])) :
    IsPart part := by
  obtain ⟨hmem, hkept⟩ := List.mem_filter.mp h
  simp only [Bool.and_eq_true, Bool.not_eq_true', beq_eq_false_iff_ne] at hkept
  exact ⟨hkept.1, hkept.2, no_slash_of_mem_splitOn hmem⟩

theorem wellFormed_parse (text : Text) : (PosixPath.parse text).WellFormed := by
  constructor
  · unfold PosixPath.parse
    dsimp only
    split
    · exact Or.inr (Or.inl rfl)
    · exact Or.inr (Or.inr rfl)
    · exact Or.inr (Or.inl rfl)
    · exact Or.inl rfl
  · intro part hpart
    exact isPart_of_mem_filter hpart

namespace PurePath

/-- `PurePosixPath(text)`. -/
def ofText (text : Text) : PurePath := ⟨PosixPath.parse text, wellFormed_parse text⟩

/-- `path.as_posix()`. -/
def asPosix (path : PurePath) : Text := path.val.toText

/-- `path.is_absolute()`. -/
def isAbsolute (path : PurePath) : Bool := path.val.isAbsolute

/-- `path.is_relative_to(base)`. -/
def IsRelativeTo (path base : PurePath) : Prop :=
  path.val.root = base.val.root ∧ base.val.parts <+: path.val.parts

instance (path base : PurePath) : Decidable (path.IsRelativeTo base) :=
  inferInstanceAs (Decidable (_ ∧ _))

/-- `path.relative_to(base)`, `none` where it raises `ValueError`. -/
def relativeTo? (path base : PurePath) : Option PurePath :=
  if path.IsRelativeTo base then
    some ⟨⟨[], path.val.parts.drop base.val.parts.length⟩, Or.inl rfl, fun part hpart =>
      path.property.parts part (List.mem_of_mem_drop hpart)⟩
  else none

/-- `base / path`. -/
def join (base path : PurePath) : PurePath :=
  if path.isAbsolute then path
  else ⟨⟨base.val.root, base.val.parts ++ path.val.parts⟩, base.property.root, fun part hpart =>
    (List.mem_append.mp hpart).elim (base.property.parts part) (path.property.parts part)⟩

/-! ## Texts of paths -/

/-- The parts of a path, joined, start with no slash. -/
theorem dropWhile_intercalate {parts : List Text} (h : ∀ part ∈ parts, IsPart part) :
    (['/'].intercalate parts).dropWhile (· == '/') = ['/'].intercalate parts := by
  cases parts with
  | nil => rfl
  | cons part parts =>
      obtain ⟨c, cs, rfl⟩ := List.exists_cons_of_ne_nil (h part List.mem_cons_self).ne_nil
      have hc : c ≠ '/' := fun heq =>
        (h (c :: cs) List.mem_cons_self).no_slash (heq ▸ List.mem_cons_self)
      obtain ⟨rest, hrest⟩ : ∃ rest, ['/'].intercalate ((c :: cs) :: parts) = c :: rest := by
        cases parts with
        | nil => exact ⟨cs, by rw [List.intercalate_singleton]⟩
        | cons next parts => exact ⟨_, by rw [List.intercalate_cons_cons, List.cons_append]; rfl⟩
      rw [hrest, List.dropWhile_cons_of_neg (by simp [hc])]

theorem filter_splitOn_intercalate {parts : List Text} (h : ∀ part ∈ parts, IsPart part) :
    ((['/'].intercalate parts).splitOn '/').filter (fun part => !(part == []) && !(part == ['.'])) =
      parts := by
  cases parts with
  | nil => rfl
  | cons part parts =>
      rw [List.splitOn_intercalate '/' (fun part hpart => (h part hpart).no_slash)
        (List.cons_ne_nil _ _), List.filter_eq_self]
      intro part hpart
      simp [(h part hpart).ne_nil, (h part hpart).ne_dot]

/-- No slash follows the root. -/
theorem intercalate_ne_slash {parts : List Text} (h : ∀ part ∈ parts, IsPart part) (rest : Text) :
    ['/'].intercalate parts ≠ '/' :: rest := by
  intro heq
  have hdrop := dropWhile_intercalate h
  rw [heq, List.dropWhile_cons_of_pos (by decide)] at hdrop
  have hlength := (List.dropWhile_suffix (l := rest) (· == '/')).length_le
  rw [hdrop, List.length_cons] at hlength
  omega

/-- The parts of a text do not depend on its leading slashes. -/
theorem parts_parse (slashes : Nat) {parts : List Text} (h : ∀ part ∈ parts, IsPart part) :
    (PosixPath.parse (List.replicate slashes '/' ++ ['/'].intercalate parts)).parts = parts := by
  have hdrop : (List.replicate slashes '/' ++ ['/'].intercalate parts).dropWhile (· == '/') =
      ['/'].intercalate parts := by
    rw [List.dropWhile_append_of_pos, dropWhile_intercalate h]
    intro c hc
    rw [List.eq_of_mem_replicate hc]
    rfl
  show ((List.dropWhile _ _).splitOn '/').filter _ = parts
  rw [hdrop]
  exact filter_splitOn_intercalate h

/-- The root of a text is read off its leading slashes, of which a path has at most two. -/
theorem root_parse {joined : Text} (h : ∀ rest, joined ≠ '/' :: rest) :
    (PosixPath.parse joined).root = [] ∧ (PosixPath.parse ('/' :: joined)).root = ['/'] ∧
      (PosixPath.parse ('/' :: '/' :: joined)).root = ['/', '/'] := by
  unfold PosixPath.parse
  dsimp only
  cases joined with
  | nil => exact ⟨rfl, rfl, rfl⟩
  | cons c cs =>
      have hc : c ≠ '/' := fun heq => h cs (by rw [heq])
      refine ⟨?_, ?_, ?_⟩
      · split <;> simp_all
      · split <;> simp_all
      · split
        · rename_i heq
          simp [hc] at heq
        · rfl
        · rename_i hdouble heq
          exact absurd (List.cons.inj heq).2.symm (hdouble (c :: cs))
        · rename_i hnone
          exact absurd rfl (hnone ('/' :: c :: cs))

/-- **The text of a path reads back as the path.** -/
theorem ofText_asPosix (path : PurePath) : ofText path.asPosix = path := by
  obtain ⟨⟨root, parts⟩, hroot, hparts⟩ := path
  apply Subtype.ext
  show PosixPath.parse (PosixPath.toText ⟨root, parts⟩) = ⟨root, parts⟩
  obtain ⟨hrelative, habsolute, hdouble⟩ := root_parse (intercalate_ne_slash hparts)
  rcases hroot with rfl | rfl | rfl
  · cases hjoined : ['/'].intercalate parts with
    | nil =>
        -- the empty path is written as a dot
        have hnil := parts_parse 0 hparts
        rw [hjoined] at hnil
        rw [PosixPath.toText, List.nil_append, hjoined]
        exact congrArg (PosixPath.mk []) hnil
    | cons c cs =>
        have htext : PosixPath.toText ⟨[], parts⟩ = ['/'].intercalate parts := by
          rw [PosixPath.toText, List.nil_append, hjoined]
        rw [htext]
        exact congrArg₂ PosixPath.mk hrelative (parts_parse 0 hparts)
  · exact congrArg₂ PosixPath.mk habsolute (parts_parse 1 hparts)
  · exact congrArg₂ PosixPath.mk hdouble (parts_parse 2 hparts)

theorem isAbsolute_relativeTo {path base relative : PurePath}
    (h : path.relativeTo? base = some relative) : relative.isAbsolute = false := by
  rw [relativeTo?] at h
  split at h
  · rw [← Option.some.inj h]
    rfl
  · cases h

/-- `base / path.relative_to(base)` is the path. -/
theorem join_relativeTo {path base relative : PurePath} (h : path.relativeTo? base = some relative) :
    base.join relative = path := by
  rw [join, if_neg (by simp [isAbsolute_relativeTo h])]
  rw [relativeTo?] at h
  split at h
  · rename_i hbelow
    rw [← Option.some.inj h]
    apply Subtype.ext
    show PosixPath.mk base.val.root (base.val.parts ++ path.val.parts.drop base.val.parts.length) = _
    rw [← hbelow.1, List.prefix_iff_eq_append.mp hbelow.2]
  · cases h

end PurePath

end LlmHarness.Python
