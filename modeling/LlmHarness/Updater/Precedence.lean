/-
  LlmHarness.Updater.Precedence

  What `check_for_update` offers, measured by the precedence of semantic versions.

  Versions are compared by `_version_tuple`, which orders pre-release identifiers as
  text.  On the versions of a catalog and the current one this is precedence exactly
  when their numbers are short enough for `int` and identifiers that differ first are
  spelled in the order of their precedence; then the offer is the newest artifact.
-/

import LlmHarness.Lib.Guards
import LlmHarness.Lib.Semver
import LlmHarness.Python.Strip
import LlmHarness.Updater.Catalog

namespace LlmHarness

open Python Semver

/-! ## The tuple of a version -/

/-- The suffix of a version in its tuple. -/
def suffixKey : List Identifier → List Text
  | [] => ["~".toList]
  | ids => ids.map Identifier.text

/-- The tuple of a version. -/
def tupleOf (v : Version) : VersionTuple :=
  toLex (v.major, toLex (v.minor, toLex (v.patch, suffixKey v.prerelease)))

/-- `int` reads the numbers of the version. -/
structure ShortNumbers (v : Version) : Prop where
  major : (Nat.toDigits 10 v.major).length ≤ maxStrDigits
  minor : (Nat.toDigits 10 v.minor).length ≤ maxStrDigits
  patch : (Nat.toDigits 10 v.patch).length ≤ maxStrDigits

instance (v : Version) : Decidable (ShortNumbers v) :=
  decidable_of_iff (_ ∧ _ ∧ _) ⟨fun h => ⟨h.1, h.2.1, h.2.2⟩, fun h => ⟨h.major, h.minor, h.patch⟩⟩

/-! ## The tuple of a version's text -/

theorem toNat_of_isAlphanum {c : Char} (h : c.isAlphanum) : 48 ≤ c.toNat ∧ c.toNat ≤ 122 := by
  have hranges : c.isAlphanum = (decide (c.val ≥ 65 ∧ c.val ≤ 90) ||
      decide (c.val ≥ 97) && decide (c.val ≤ 122) || decide (c.val ≥ 48) && decide (c.val ≤ 57)) := rfl
  have hc : c.val.toNat = c.toNat := rfl
  rw [hranges] at h
  simp only [Bool.or_eq_true, Bool.and_eq_true, decide_eq_true_eq, ge_iff_le,
    UInt32.le_iff_toNat_le, hc] at h
  rcases h with (⟨h, h'⟩ | ⟨h, h'⟩) | ⟨h, h'⟩ <;> constructor <;> simp at h h' <;> omega

theorem not_isSpace_of_isAlphanum {c : Char} (h : c.isAlphanum) : isSpace c = false := by
  have hbounds := toNat_of_isAlphanum h
  simp only [isSpace, Bool.or_eq_false_iff, Bool.and_eq_false_iff, decide_eq_false_iff_not,
    beq_eq_false_iff_ne]
  omega

theorem coreText_eq_intercalate (v : Version) :
    v.coreText = ['.'].intercalate
      [Nat.toDigits 10 v.major, Nat.toDigits 10 v.minor, Nat.toDigits 10 v.patch] := by
  simp [Version.coreText, List.intercalate]

/-- The characters of the three numbers. -/
theorem digit_or_dot_of_mem_coreText {v : Version} {c : Char} (h : c ∈ v.coreText) :
    c.isDigit ∨ c = '.' := by
  have hdigit : ∀ n, c ∈ Nat.toDigits 10 n → c.isDigit := fun n hn =>
    Nat.isDigit_of_mem_toDigits (by decide) (by decide) hn
  rw [Version.coreText] at h
  rcases List.mem_append.mp h with h | h
  · exact Or.inl (hdigit _ h)
  rcases List.mem_cons.mp h with h | h
  · exact Or.inr h
  rcases List.mem_append.mp h with h | h
  · exact Or.inl (hdigit _ h)
  rcases List.mem_cons.mp h with h | h
  · exact Or.inr h
  · exact Or.inl (hdigit _ h)

theorem ne_hyphen_of_mem_coreText {v : Version} {c : Char} (h : c ∈ v.coreText) : c ≠ '-' := by
  rintro rfl
  rcases digit_or_dot_of_mem_coreText h with h | h
  · exact absurd h (by decide)
  · exact absurd h (by decide)

theorem mem_intercalate {c : Char} {sep : Text} {parts : List Text}
    (h : c ∈ sep.intercalate parts) : c ∈ sep ∨ ∃ part ∈ parts, c ∈ part := by
  induction parts with
  | nil => cases h
  | cons part parts ih =>
      cases parts with
      | nil =>
          rw [List.intercalate_singleton] at h
          exact Or.inr ⟨part, List.mem_cons_self, h⟩
      | cons next parts =>
          rw [List.intercalate_cons_cons, List.mem_append, List.mem_append] at h
          rcases h with (h | h) | h
          · exact Or.inr ⟨part, List.mem_cons_self, h⟩
          · exact Or.inl h
          · exact (ih h).imp_right fun ⟨other, hmem, hc⟩ => ⟨other, List.mem_cons_of_mem _ hmem, hc⟩

/-- A version has no white space. -/
theorem not_isSpace_of_mem_text {v : Version} {c : Char} (h : c ∈ v.text) : isSpace c = false := by
  -- the numbers and the dots between them
  have hcore : c ∈ v.coreText → isSpace c = false := by
    intro h
    rcases digit_or_dot_of_mem_coreText h with h | rfl
    · exact not_isSpace_of_isAlphanum (by rw [Char.isAlphanum, h, Bool.or_true])
    · rfl
  rw [Version.text] at h
  by_cases hpre : v.prerelease = []
  · rw [if_pos hpre] at h
    exact hcore h
  · rw [if_neg hpre] at h
    rcases List.mem_append.mp h with h | h
    · exact hcore h
    rcases List.mem_cons.mp h with rfl | h
    · rfl
    -- the characters of the identifiers and the dots between them
    rcases mem_intercalate h with h | ⟨text, htext, hc⟩
    · rw [List.mem_singleton.mp h]
      rfl
    · obtain ⟨a, -, rfl⟩ := List.mem_map.mp htext
      rcases a.chars c hc with h | rfl
      · exact not_isSpace_of_isAlphanum h
      · rfl

theorem partitionAt_of_notMem {c : Char} {value : Text} (h : ∀ d ∈ value, d ≠ c) :
    partitionAt c value = (value, none) := by
  have hdrop : value.dropWhile (fun d => decide (d ≠ c)) = [] :=
    List.dropWhile_eq_nil_iff.mpr fun d hd => decide_eq_true (h d hd)
  rw [partitionAt, hdrop]

theorem partitionAt_append {c : Char} {value : Text} (h : ∀ d ∈ value, d ≠ c) (rest : Text) :
    partitionAt c (value ++ c :: rest) = (value, some rest) := by
  have hall : ∀ d ∈ value, decide (d ≠ c) = true := fun d hd => decide_eq_true (h d hd)
  have hdrop : (value ++ c :: rest).dropWhile (fun d => decide (d ≠ c)) = c :: rest := by
    rw [List.dropWhile_append_of_pos hall, List.dropWhile_cons_of_neg (by simp)]
  have htake : (value ++ c :: rest).takeWhile (fun d => decide (d ≠ c)) = value := by
    rw [List.takeWhile_append_of_pos hall, List.takeWhile_cons_of_neg (by simp), List.append_nil]
  rw [partitionAt, hdrop, htake]

theorem versionNumber_toDigits (n : Nat) :
    versionNumber (Nat.toDigits 10 n) =
      if (Nat.toDigits 10 n).length ≤ maxStrDigits then .ok n else .error .valueError := by
  rw [versionNumber, intOfDigits_toDigits]
  by_cases hshort : (Nat.toDigits 10 n).length ≤ maxStrDigits
  · rw [if_pos hshort, if_pos hshort]
  · rw [if_neg hshort, if_neg hshort]

/-- The suffix that is left of a version's text. -/
theorem suffixKey_eq (v : Version) :
    ∃ suffix, partitionAt '-' v.text = (v.coreText, suffix) ∧
      (match suffix with
        | none => ["~".toList]
        | some suffix => suffix.splitOn '.') = suffixKey v.prerelease := by
  have hcore : ∀ d ∈ v.coreText, d ≠ '-' := fun d hd => ne_hyphen_of_mem_coreText hd
  rw [Version.text]
  cases hpre : v.prerelease with
  | nil => exact ⟨none, by rw [if_pos rfl, partitionAt_of_notMem hcore], rfl⟩
  | cons a as =>
      refine ⟨some (['.'].intercalate ((a :: as).map Identifier.text)), ?_, ?_⟩
      · rw [if_neg (List.cons_ne_nil a as), partitionAt_append hcore]
      · refine List.splitOn_intercalate '.' (fun text htext => ?_) (by simp)
        obtain ⟨b, -, rfl⟩ := List.mem_map.mp htext
        intro hdot
        rcases b.chars '.' hdot with h | h
        · exact absurd h (by decide)
        · exact absurd h (by decide)

/-- **The tuple of a version's text**, or the `ValueError` of a number that is too long. -/
theorem versionTuple_text (v : Version) :
    versionTuple v.text = if ShortNumbers v then .ok (tupleOf v) else .error .valueError := by
  have hstrip : strip v.text = v.text := strip_of_no_space fun c hc => not_isSpace_of_mem_text hc
  -- the core is split at its dots, since no digit is one
  have hparts : v.coreText.splitOn '.' =
      [Nat.toDigits 10 v.major, Nat.toDigits 10 v.minor, Nat.toDigits 10 v.patch] := by
    rw [coreText_eq_intercalate]
    refine List.splitOn_intercalate '.' (fun text htext hdot => ?_) (by simp)
    have hdigit : ∀ n, '.' ∉ Nat.toDigits 10 n := fun n hn =>
      absurd (Nat.isDigit_of_mem_toDigits (by decide) (by decide) hn) (by decide)
    rcases List.mem_cons.mp htext with rfl | htext
    · exact hdigit _ hdot
    rcases List.mem_cons.mp htext with rfl | htext
    · exact hdigit _ hdot
    · exact hdigit _ (List.mem_singleton.mp htext ▸ hdot)
  obtain ⟨suffix, hpartition, hsuffix⟩ := suffixKey_eq v
  rw [versionTuple, hstrip, hpartition]
  dsimp only
  rw [hparts]
  -- the three parts are digits, so only their length can be refused
  have hdigits : (isDigitText (Nat.toDigits 10 v.major) && isDigitText (Nat.toDigits 10 v.minor) &&
      isDigitText (Nat.toDigits 10 v.patch)) = true := by
    rw [isDigitText_toDigits, isDigitText_toDigits, isDigitText_toDigits]
    rfl
  simp only [hdigits, if_true, versionNumber_toDigits]
  by_cases hshort : ShortNumbers v
  · rw [if_pos hshort.major, if_pos hshort.minor, if_pos hshort.patch, if_pos hshort, tupleOf,
      ← hsuffix]
    rfl
  · rw [if_neg hshort]
    -- the first number that is too long raises
    by_cases hmajor : (Nat.toDigits 10 v.major).length ≤ maxStrDigits
    · by_cases hminor : (Nat.toDigits 10 v.minor).length ≤ maxStrDigits
      · have hpatch : ¬ (Nat.toDigits 10 v.patch).length ≤ maxStrDigits :=
          fun h => hshort ⟨hmajor, hminor, h⟩
        rw [if_pos hmajor, if_pos hminor, if_neg hpatch]
        rfl
      · rw [if_pos hmajor, if_neg hminor]
        rfl
    · rw [if_neg hmajor]
      rfl

/-! ## Tuples and precedence -/

/-- Tuples compare the numbers first. -/
theorem tupleOf_lt_iff (v w : Version) :
    tupleOf v < tupleOf w ↔
      v.core < w.core ∨ v.core = w.core ∧ suffixKey v.prerelease < suffixKey w.prerelease := by
  have hcore : v.core = w.core ↔ v.major = w.major ∧ v.minor = w.minor ∧ v.patch = w.patch := by
    rw [Version.core, Version.core, toLex_inj, Prod.mk.injEq, toLex_inj, Prod.mk.injEq]
  rw [hcore, tupleOf, tupleOf, Version.core, Version.core, Prod.Lex.toLex_lt_toLex,
    Prod.Lex.toLex_lt_toLex, Prod.Lex.toLex_lt_toLex, Prod.Lex.toLex_lt_toLex,
    Prod.Lex.toLex_lt_toLex]
  tauto

/-- The texts of identifiers compare as lists of texts do. -/
theorem map_text_lt_iff (as bs : List Identifier) :
    as.map Identifier.text < bs.map Identifier.text ↔
      List.Lex (fun a b : Identifier => a.text < b.text) as bs := by
  induction as generalizing bs with
  | nil =>
      -- the induction is on the first list, with the second one free
      cases bs with
      | nil => exact iff_of_false (List.lt_irrefl _) (nomatch ·)
      | cons b bs => exact iff_of_true (List.nil_lt_cons _ _) .nil
  | cons a as ih =>
      cases bs with
      | nil => exact iff_of_false (List.not_lt_nil _) (nomatch ·)
      | cons b bs =>
          -- identifiers with one text are one
          have htext : a.text = b.text ↔ a = b := by
            obtain ⟨text, _, _, _⟩ := a
            obtain ⟨text', _, _, _⟩ := b
            rw [Identifier.mk.injEq]
          rw [List.map_cons, List.map_cons, List.cons_lt_cons_iff, htext, ih,
            lex_cons_iff fun a => List.lt_irrefl a.text]
          by_cases hab : a = b
          · subst hab
            rw [if_pos rfl]
            exact ⟨fun h => h.elim (fun h => absurd h (List.lt_irrefl _)) And.right,
              fun h => Or.inr ⟨rfl, h⟩⟩
          · rw [if_neg hab]
            exact ⟨fun h => h.elim id fun h => absurd h.1 hab, Or.inl⟩

/-- Every identifier is spelled before the mark of a stable release. -/
theorem text_lt_tilde (a : Identifier) : a.text < "~".toList := by
  obtain ⟨c, cs, htext⟩ := List.exists_cons_of_ne_nil a.nonempty
  have hc : c.isAlphanum ∨ c = '-' := a.chars c (by rw [htext]; exact List.mem_cons_self)
  have hlt : c < '~' := by
    rcases hc with h | rfl
    · have hhigh := (toNat_of_isAlphanum h).2
      show c.toNat < 126
      omega
    · decide
  rw [htext]
  exact List.cons_lt_cons_iff.mpr (Or.inl hlt)

/-- **The suffixes of two versions** compare by precedence exactly when their identifiers
    are spelled in order. -/
theorem suffixKey_alike_iff (as bs : List Identifier) :
    Alike (fun as bs => suffixKey as < suffixKey bs) PrereleaseLower as bs ↔
      SpelledInOrder as bs := by
  have hstable : ∀ (a : Identifier) (as : List Identifier),
      suffixKey (a :: as) < suffixKey [] := fun a as =>
    List.cons_lt_cons_iff.mpr (Or.inl (text_lt_tilde a))
  -- a version without a prerelease sorts above every one with it, as in the precedence rule
  cases as with
  | nil =>
      refine iff_of_true ?_ (by cases bs <;> trivial)
      cases bs with
      | nil => exact ⟨iff_of_false (List.lt_irrefl _) id, iff_of_false (List.lt_irrefl _) id⟩
      | cons b bs =>
          exact ⟨iff_of_false (lt_asymm (hstable b bs)) id, iff_of_true (hstable b bs) trivial⟩
  | cons a as =>
      cases bs with
      | nil =>
          refine iff_of_true ?_ trivial
          exact ⟨iff_of_true (hstable a as) trivial, iff_of_false (lt_asymm (hstable a as)) id⟩
      | cons b bs =>
          -- two prereleases: the lists agree where their first difference does
          have hlists := lex_alike_iff (r := fun a b : Identifier => a.text < b.text)
            (fun a => List.lt_irrefl a.text) Identifier.lower_irrefl (a :: as) (b :: bs)
          have hfirst : Alike (fun a b : Identifier => a.text < b.text) Identifier.Lower =
              Identifier.SpelledInOrder := by
            funext a b
            exact propext (Identifier.alike_iff a b)
          rw [hfirst] at hlists
          rw [SpelledInOrder, ← hlists, Alike, Alike, ← map_text_lt_iff, ← map_text_lt_iff]
          exact Iff.rfl

/-- Versions that `_version_tuple` orders as precedence does: with the same numbers, their
    identifiers are spelled in order. -/
def OrderedAsSpelled (v w : Version) : Prop :=
  v.core = w.core → SpelledInOrder v.prerelease w.prerelease

/-- **Two versions.** -/
theorem tupleOf_alike_iff (v w : Version) :
    Alike (fun v w => tupleOf v < tupleOf w) Version.Lower v w ↔ OrderedAsSpelled v w := by
  rw [Alike, tupleOf_lt_iff, tupleOf_lt_iff, Version.Lower, Version.Lower, OrderedAsSpelled,
    ← suffixKey_alike_iff, Alike]
  by_cases hcore : v.core = w.core
  · have hlt : ¬ v.core < w.core := by rw [hcore]; exact lt_irrefl _
    have hgt : ¬ w.core < v.core := by rw [hcore]; exact lt_irrefl _
    rw [or_iff_right hlt, or_iff_right hlt, or_iff_right hgt, or_iff_right hgt]
    simp only [hcore, true_and, forall_const]
  · refine iff_of_true ⟨?_, ?_⟩ fun h => absurd h hcore
    · simp only [hcore, false_and, or_false]
    · simp only [Ne.symm hcore, false_and, or_false]

/-! ## Catalogs of versions -/

/-- A release catalog whose artifacts for a platform are complete and have versions
    without build metadata: the payload, and each artifact with its version. -/
structure ReleaseCatalog (target : String) where
  payload : List (String × Json)
  entries : List (ReleaseArtifact × Version)
  items : List Json
  listed : dictGet? payload "artifacts" = some (.arr items)
  complete : List.Forall₂ (fun item entry => readArtifact item = .ok entry.1 ∧
    hasSha256 entry.1 ∧ entry.1.version = entry.2.text) (items.filterMap (platformItem target)) entries

variable {target : String}

namespace ReleaseCatalog

/-- The current version and those of the catalog. -/
def versions (catalog : ReleaseCatalog target) (current : Version) : List Version :=
  current :: catalog.entries.map Prod.snd

theorem version_text {catalog : ReleaseCatalog target} {entry : ReleaseArtifact × Version}
    (h : entry ∈ catalog.entries) : entry.1.version = entry.2.text := by
  obtain ⟨item, -, -, htext⟩ := Guards.exists_of_forall₂ catalog.complete h
  exact htext

theorem mem_versions {catalog : ReleaseCatalog target} {entry : ReleaseArtifact × Version}
    (h : entry ∈ catalog.entries) (current : Version) : entry.2 ∈ catalog.versions current :=
  List.mem_cons_of_mem _ (List.mem_map_of_mem h)

end ReleaseCatalog

/-- `check_for_update` offers an artifact exactly when the catalog has one of higher
    precedence, and offers one of the highest. -/
def OffersNewest (catalog : ReleaseCatalog target) (current : Version) : Prop :=
  ∃ offer, checkForUpdate catalog.payload current.text target = .ok offer ∧
    (offer.isSome ↔ ∃ entry ∈ catalog.entries, current.Lower entry.2) ∧
    ∀ artifact, offer = some artifact → ∃ entry ∈ catalog.entries, entry.1 = artifact ∧
      current.Lower entry.2 ∧ ∀ other ∈ catalog.entries, ¬ entry.2.Lower other.2

/-- `_version_tuple` orders two versions as precedence does. -/
def TupleOrders (v w : Version) : Prop :=
  ∃ key key', versionTuple v.text = .ok key ∧ versionTuple w.text = .ok key' ∧
    (key < key' ↔ v.Lower w) ∧ (key' < key ↔ w.Lower v)

/-- **Update ordering**: the offer is the newest artifact, and the order it rests on is
    precedence on the versions at hand. -/
structure UpdateOrdering (catalog : ReleaseCatalog target) (current : Version) : Prop where
  offers : OffersNewest catalog current
  orders : ∀ v ∈ catalog.versions current, ∀ w ∈ catalog.versions current, TupleOrders v w

theorem tupleOrders_iff (v w : Version) :
    TupleOrders v w ↔ ShortNumbers v ∧ ShortNumbers w ∧ OrderedAsSpelled v w := by
  rw [← tupleOf_alike_iff, TupleOrders, versionTuple_text, versionTuple_text]
  constructor
  · rintro ⟨key, key', hkey, hkey', horder⟩
    by_cases hv : ShortNumbers v
    · by_cases hw : ShortNumbers w
      · rw [if_pos hv] at hkey
        rw [if_pos hw] at hkey'
        cases hkey
        cases hkey'
        exact ⟨hv, hw, horder⟩
      · rw [if_neg hw] at hkey'
        cases hkey'
    · rw [if_neg hv] at hkey
      cases hkey
  · rintro ⟨hv, hw, horder⟩
    exact ⟨tupleOf v, tupleOf w, if_pos hv, if_pos hw, horder⟩

/-- The artifacts of a catalog whose numbers are short. -/
theorem platformArtifacts_eq (catalog : ReleaseCatalog target)
    (hshort : ∀ entry ∈ catalog.entries, ShortNumbers entry.2) :
    platformArtifacts catalog.payload target = .ok (catalog.entries.map Prod.fst) := by
  rw [platformArtifacts, catalog.listed]
  show List.mapM artifactFromPayload _ = _
  rw [Guards.mapM_eq_ok, List.forall₂_map_right_iff]
  refine List.forall₂_iff_zip.mpr ⟨catalog.complete.length_eq, fun {item entry} hmem => ?_⟩
  -- each entry is read: its digest is one, and its version has a tuple
  obtain ⟨hread, hsha, htext⟩ := List.forall₂_zip catalog.complete hmem
  have htuple := versionTuple_text entry.2
  rw [if_pos (hshort entry (List.of_mem_zip hmem).2), ← htext] at htuple
  rw [artifactFromPayload, hread]
  show (if hasSha256 entry.1 then versionTuple entry.1.version >>= fun _ => pure entry.1
    else _) = _
  rw [if_pos hsha, htuple]
  rfl

/-- An entry with the keys it is compared by. -/
def keyedEntry (current : Version) (entry : ReleaseArtifact × Version) :
    ReleaseArtifact × VersionTuple × VersionTuple :=
  (entry.1, tupleOf entry.2, tupleOf current)

/-- The offer of a catalog whose numbers are short. -/
theorem checkForUpdate_eq (catalog : ReleaseCatalog target) {current : Version}
    (hshort : ∀ v ∈ catalog.versions current, ShortNumbers v) :
    checkForUpdate catalog.payload current.text target =
      .ok ((((catalog.entries.map (keyedEntry current)).filter
        fun (_, key, current) => current < key).argmax fun (_, key, _) => key).map Prod.fst) := by
  have hentries : ∀ entry ∈ catalog.entries, ShortNumbers entry.2 := fun entry hentry =>
    hshort entry.2 (ReleaseCatalog.mem_versions hentry current)
  have hcurrent : versionTuple current.text = .ok (tupleOf current) := by
    rw [versionTuple_text, if_pos (hshort current List.mem_cons_self)]
  -- every entry is keyed, since no number of the catalog is too long
  have hkeyed : (catalog.entries.map Prod.fst).mapM (keyedArtifact current.text) =
      .ok (catalog.entries.map (keyedEntry current)) := by
    rw [Guards.mapM_eq_ok, List.forall₂_map_left_iff, List.forall₂_map_right_iff,
      List.forall₂_same]
    intro entry hentry
    rw [keyedArtifact, ReleaseCatalog.version_text hentry, versionTuple_text,
      if_pos (hentries entry hentry), hcurrent]
    rfl
  rw [checkForUpdate, platformArtifacts_eq catalog hentries]
  show ((catalog.entries.map Prod.fst).mapM (keyedArtifact current.text) >>= _) = _
  rw [hkeyed]
  rfl

/-- The candidates of `check_for_update` are the entries above the current version. -/
theorem mem_newer_iff {catalog : ReleaseCatalog target} {current : Version}
    {keyed : ReleaseArtifact × VersionTuple × VersionTuple} :
    keyed ∈ (catalog.entries.map (keyedEntry current)).filter
        (fun (_, key, current) => current < key) ↔
      ∃ entry ∈ catalog.entries, keyedEntry current entry = keyed ∧
        tupleOf current < tupleOf entry.2 := by
  constructor
  · intro hkeyed
    obtain ⟨hmem, hnewer⟩ := List.mem_filter.mp hkeyed
    obtain ⟨entry, hentry, rfl⟩ := List.mem_map.mp hmem
    exact ⟨entry, hentry, rfl, of_decide_eq_true hnewer⟩
  · rintro ⟨entry, hentry, rfl, hnewer⟩
    exact List.mem_filter.mpr ⟨List.mem_map_of_mem hentry, decide_eq_true hnewer⟩

/-- An order that agrees with precedence offers the newest artifact. -/
theorem offersNewest_of_ordered {catalog : ReleaseCatalog target} {current : Version}
    (hshort : ∀ v ∈ catalog.versions current, ShortNumbers v)
    (hordered : ∀ v ∈ catalog.versions current, ∀ w ∈ catalog.versions current,
      OrderedAsSpelled v w) : OffersNewest catalog current := by
  -- on ordered versions the tuples compare as the versions do
  have hlower : ∀ v ∈ catalog.versions current, ∀ w ∈ catalog.versions current,
      (tupleOf v < tupleOf w ↔ v.Lower w) := fun v hv w hw =>
    ((tupleOf_alike_iff v w).mpr (hordered v hv w hw)).1
  have hcurrent : current ∈ catalog.versions current := List.mem_cons_self
  have hversion : ∀ entry ∈ catalog.entries, entry.2 ∈ catalog.versions current :=
    fun entry hentry => ReleaseCatalog.mem_versions hentry current
  refine ⟨_, checkForUpdate_eq catalog hshort, ?_, ?_⟩
  · -- an offer is made when some entry is above the current version
    rw [Option.isSome_map, ← Option.ne_none_iff_isSome, Ne, List.argmax_eq_none]
    constructor
    · intro hne
      obtain ⟨keyed, hkeyed⟩ := List.exists_mem_of_ne_nil _ hne
      obtain ⟨entry, hentry, -, hnewer⟩ := mem_newer_iff.mp hkeyed
      exact ⟨entry, hentry, (hlower current hcurrent _ (hversion entry hentry)).mp hnewer⟩
    · rintro ⟨entry, hentry, hnewer⟩
      have hnewer := (hlower current hcurrent _ (hversion entry hentry)).mpr hnewer
      exact List.ne_nil_of_mem (mem_newer_iff.mpr ⟨entry, hentry, rfl, hnewer⟩)
  · intro artifact hoffer
    obtain ⟨keyed, hargmax, rfl⟩ := Option.map_eq_some_iff.mp hoffer
    obtain ⟨entry, hentry, rfl, hnewer⟩ := mem_newer_iff.mp (List.argmax_mem hargmax)
    refine ⟨entry, hentry, rfl, (hlower current hcurrent _ (hversion entry hentry)).mp hnewer, ?_⟩
    -- what is above the offer would be among the newer ones, and above the maximum
    intro other hother habove
    have habove := (hlower _ (hversion entry hentry) _ (hversion other hother)).mpr habove
    have hcandidate := mem_newer_iff.mpr ⟨other, hother, rfl, lt_trans hnewer habove⟩
    exact List.not_lt_of_mem_argmax hcandidate hargmax habove

/-- **Update ordering.**  It holds exactly of the catalogs and current versions whose
    numbers `int` reads and whose identifiers are spelled in order. -/
theorem updateOrdering_iff (catalog : ReleaseCatalog target) (current : Version) :
    UpdateOrdering catalog current ↔
      (∀ v ∈ catalog.versions current, ShortNumbers v) ∧
        ∀ v ∈ catalog.versions current, ∀ w ∈ catalog.versions current, OrderedAsSpelled v w := by
  constructor
  · rintro ⟨-, horders⟩
    refine ⟨fun v hv => ?_, fun v hv w hw => ?_⟩
    · exact ((tupleOrders_iff v v).mp (horders v hv v hv)).1
    · exact ((tupleOrders_iff v w).mp (horders v hv w hw)).2.2
  · rintro ⟨hshort, hordered⟩
    refine ⟨offersNewest_of_ordered hshort hordered, fun v hv w hw => ?_⟩
    exact (tupleOrders_iff v w).mpr ⟨hshort v hv, hshort w hw, hordered v hv w hw⟩

/-! ## A tenth alpha -/

/-- The pre-release part `alpha.9`. -/
def alphaNine : List Identifier := [
  ⟨"alpha".toList, by decide, by decide, by decide⟩,
  ⟨"9".toList, by decide, by decide, by decide⟩]

/-- The pre-release part `alpha.10`. -/
def alphaTen : List Identifier := [
  ⟨"alpha".toList, by decide, by decide, by decide⟩,
  ⟨"10".toList, by decide, by decide, by decide⟩]

/-- A digest, in capitals or not. -/
def sampleDigest (c : Char) : Text := List.replicate 64 c

/-- A catalog with the tenth alpha. -/
def alphaCatalog : ReleaseCatalog "linux-x86_64" where
  payload := [("artifacts", .arr [.obj [
    ("version", .str "1.0.0-alpha.10"),
    ("platform", .str "linux-x86_64"),
    ("url", .str "https://example.invalid/hoh.zip"),
    ("sha256", .str (String.ofList (sampleDigest 'C'))),
    ("bytes", .int 4)]])]
  entries := [(⟨"1.0.0-alpha.10".toList, "linux-x86_64".toList,
    "https://example.invalid/hoh.zip".toList, sampleDigest 'c', 4, []⟩, ⟨1, 0, 0, alphaTen⟩)]
  items := _
  listed := rfl
  complete := .cons ⟨by decide, by decide, by decide⟩ .nil

/-- The tenth alpha is not offered to the ninth. -/
theorem not_updateOrdering_alphaTen : ¬ UpdateOrdering alphaCatalog ⟨1, 0, 0, alphaNine⟩ := by
  rintro ⟨⟨offer, hoffer, hnewer, -⟩, -⟩
  -- the versions of the catalog have short numbers
  have hshort : ∀ v ∈ alphaCatalog.versions ⟨1, 0, 0, alphaNine⟩, ShortNumbers v := by
    intro v hv
    rcases List.mem_cons.mp hv with rfl | hv
    · exact ⟨by decide, by decide, by decide⟩
    · rw [List.mem_singleton.mp hv]
      exact ⟨by decide, by decide, by decide⟩
  have hbelow : ¬ tupleOf ⟨1, 0, 0, alphaNine⟩ < tupleOf ⟨1, 0, 0, alphaTen⟩ := by decide
  have hnumber : Identifier.Lower ⟨"9".toList, by decide, by decide, by decide⟩
      ⟨"10".toList, by decide, by decide, by decide⟩ := by decide
  have hsome := hnewer.mpr ⟨_, List.mem_cons_self, Or.inr ⟨rfl, .cons (.rel hnumber)⟩⟩
  -- the tuple of the tenth is below that of the ninth, so nothing is newer
  rw [checkForUpdate_eq alphaCatalog hshort] at hoffer
  cases hoffer
  rw [Option.isSome_map, Option.isSome_iff_exists] at hsome
  obtain ⟨keyed, hkeyed⟩ := hsome
  obtain ⟨entry, hentry, -, hnewer⟩ := mem_newer_iff.mp (List.argmax_mem hkeyed)
  rw [List.mem_singleton.mp hentry] at hnewer
  exact hbelow hnewer

end LlmHarness
