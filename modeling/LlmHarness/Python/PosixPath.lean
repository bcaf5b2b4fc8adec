/-
  LlmHarness.Python.PosixPath

  `pathlib.PurePosixPath` on text, and the order "equal or below" on
  slash-separated names.
-/

import LlmHarness.Python.Str

namespace LlmHarness.Python

/-- `str.strip(c)` for one character. -/
def stripChar (c : Char) (s : Text) : Text :=
  (s.dropWhile (· == c)).rdropWhile (· == c)

/-- `str.replace(old, new)` for single characters. -/
def replaceChar (old new : Char) (s : Text) : Text :=
  s.map fun c => if c = old then new else c

/-- A `PurePosixPath`: its root and the parts below it. -/
structure PosixPath where
  root : Text
  parts : List Text
deriving DecidableEq, Repr

namespace PosixPath

/-- `PurePosixPath(s)`: exactly two leading slashes are a root of their own,
    empty and `.` parts are dropped. -/
def parse (s : Text) : PosixPath where
  root :=
    match s with
    | '/' :: '/' :: '/' :: _ => ['/']
    | '/' :: '/' :: _ => ['/', '/']
    | '/' :: _ => ['/']
    | _ => []
  parts := ((s.dropWhile (· == '/')).splitOn '/').filter fun part =>
    !(part == []) && !(part == ['.'])

/-- `str(path)`. -/
def toText (path : PosixPath) : Text :=
  match path.root ++ ['/'].intercalate path.parts with
  | [] => ['.']
  | text => text

/-- `path.is_absolute()`. -/
def isAbsolute (path : PosixPath) : Bool :=
  !(path.root == [])

end PosixPath

/-! ## Equal or below -/

/-- `path == base or path.startswith(base + "/")`. -/
def covers (base path : Text) : Bool :=
  path == base || (base ++ ['/']).isPrefixOf path

theorem covers_iff (base path : Text) :
    covers base path ↔ path = base ∨ base ++ ['/'] <+: path := by
  simp [covers]

theorem covers_refl (path : Text) : covers path path := by
  simp [covers]

/-- Two names above one name are above one another. -/
theorem covers_comparable {a b c : Text} (hac : covers a c) (hbc : covers b c) :
    covers a b ∨ covers b a := by
  -- of two prefixes that end in a slash, the shorter one is a prefix of the longer name
  have hshorter : ∀ {a b : Text}, a ++ ['/'] <+: c → b ++ ['/'] <+: c →
      a.length ≤ b.length → covers a b := by
    intro a b ha hb hle
    have hab : a ++ ['/'] <+: b ++ ['/'] :=
      List.prefix_of_prefix_length_le ha hb (by simpa using hle)
    rw [covers_iff]
    rcases Nat.lt_or_eq_of_le hle with hlt | heq
    · right
      exact List.prefix_of_prefix_length_le hab (List.prefix_append b ['/'])
        (by rw [List.length_append, List.length_singleton]; omega)
    · left
      have heq' : a ++ ['/'] = b ++ ['/'] := hab.eq_of_length (by simpa using heq)
      exact (List.append_cancel_right heq').symm
  rw [covers_iff] at hac hbc
  rcases hac with rfl | hac
  · exact Or.inr ((covers_iff b c).mpr hbc)
  · rcases hbc with rfl | hbc
    · exact Or.inl ((covers_iff a c).mpr (Or.inr hac))
    · rcases Nat.le_total a.length b.length with hle | hle
      · exact Or.inl (hshorter hac hbc hle)
      · exact Or.inr (hshorter hbc hac hle)

end LlmHarness.Python
