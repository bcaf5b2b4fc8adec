/-
  LlmHarness.Verifier.HeaderNames

  How the scan reads the names of a `diff --git` line.  A quoted name is read
  back exactly.  An unquoted header `a/LEFT b/RIGHT` can be split at every
  ` b/` it holds: the scan takes the split whose sides are equal, else the only
  split, else it gives up.
-/

import Mathlib.Data.List.Basic
import LlmHarness.Git.Patch
import LlmHarness.Python.Strip
import LlmHarness.Verifier.PatchScan

namespace LlmHarness

open Python

/-! ## Quoted names -/

theorem decodeUtf8_encode (name : Text) :
    decodeUtf8 (name.flatMap String.utf8EncodeChar) = some name := by
  have hvalid : name.utf8Encode.IsValidUTF8 := ByteArray.isValidUTF8_utf8Encode
  show (String.fromUTF8? name.utf8Encode).map String.toList = some name
  rw [String.fromUTF8?, dif_pos hvalid]
  exact congrArg some (String.toList_ofList (l := name))

theorem octalValue?_digitChar {d : Nat} (h : d < 8) : octalValue? (Nat.digitChar d) = some d := by
  interval_cases d <;> rfl

theorem cEscape?_digitChar {d : Nat} (h : d < 8) : cEscape? (Nat.digitChar d) = none := by
  interval_cases d <;> rfl

/-- Three octal digits give the byte back. -/
theorem octalEscape?_digits (byte : UInt8) (rest : Text) :
    octalEscape? (Nat.digitChar (byte.toNat / 64 % 8) :: Nat.digitChar (byte.toNat / 8 % 8) ::
      Nat.digitChar (byte.toNat % 8) :: rest) = some byte.toNat := by
  have hbyte : byte.toNat < 256 := byte.toNat_lt
  have hvalue : 64 * (byte.toNat / 64 % 8) + 8 * (byte.toNat / 8 % 8) + byte.toNat % 8 =
      byte.toNat := by omega
  simp only [octalEscape?, List.take_succ_cons, List.take_zero]
  rw [octalValue?_digitChar (by omega), octalValue?_digitChar (by omega),
    octalValue?_digitChar (by omega)]
  exact congrArg some hvalue

theorem readQuotedBytes_quote (raw : List UInt8) (fuel : Nat) (rest : Text) :
    readQuotedBytes raw (fuel + 1) ('"' :: rest) =
      .ok ((decodeUtf8 raw).map fun text => (text, rest)) :=
  if_pos rfl

theorem readQuotedBytes_plain {c : Char} (hquote : c ≠ '"') (hslash : c ≠ '\\')
    (raw : List UInt8) (fuel : Nat) (rest : Text) :
    readQuotedBytes raw (fuel + 1) (c :: rest) =
      readQuotedBytes (raw ++ String.utf8EncodeChar c) fuel rest :=
  (if_neg hquote).trans (if_pos hslash)

theorem readQuotedBytes_octalByte (raw : List UInt8) (fuel : Nat) (byte : UInt8) (rest : Text) :
    readQuotedBytes raw (fuel + 1) (octalByte byte.toNat ++ rest) =
      readQuotedBytes (raw ++ [byte]) fuel rest := by
  have hbyte : byte.toNat < 256 := byte.toNat_lt
  have hescape : cEscape? (Nat.digitChar (byte.toNat / 64 % 8)) = none :=
    cEscape?_digitChar (Nat.mod_lt _ (by decide))
  have hvalue := octalEscape?_digits byte rest
  have hsmall : ¬ 255 < byte.toNat := by omega
  rw [octalByte]
  simp only [List.cons_append, List.nil_append, readQuotedBytes]
  rw [if_neg (by decide), if_neg (by simp), hescape]
  simp only [hvalue, if_neg hsmall, UInt8.ofNat_toNat, List.drop_succ_cons, List.drop_zero]

theorem readQuotedBytes_octalBytes (bytes : List UInt8) (raw : List UInt8) (fuel : Nat)
    (rest : Text) :
    readQuotedBytes raw (fuel + bytes.length)
        (bytes.flatMap (fun byte => octalByte byte.toNat) ++ rest) =
      readQuotedBytes (raw ++ bytes) fuel rest := by
  induction bytes generalizing raw with
  | nil => simp
  | cons byte bytes ih =>
      have hfuel : fuel + (byte :: bytes).length = fuel + bytes.length + 1 := by
        rw [List.length_cons]
        omega
      rw [hfuel, List.flatMap_cons, List.append_assoc, readQuotedBytes_octalByte, ih,
        List.append_assoc, List.singleton_append]

theorem readQuotedBytes_cEscape {c : Char} {byte : UInt8} (h : cEscape? c = some byte)
    (raw : List UInt8) (fuel : Nat) (rest : Text) :
    readQuotedBytes raw (fuel + 1) ('\\' :: c :: rest) =
      readQuotedBytes (raw ++ [byte]) fuel rest := by
  refine (if_neg (by decide)).trans ((if_neg (by simp)).trans ?_)
  simp only [h]

/-- One character of a quoted name is read back as its bytes. -/
theorem readQuotedBytes_quoteNameChar (c : Char) :
    ∃ n ≤ (quoteNameChar c).length, ∀ raw fuel rest,
      readQuotedBytes raw (fuel + n) (quoteNameChar c ++ rest) =
        readQuotedBytes (raw ++ String.utf8EncodeChar c) fuel rest := by
  rw [quoteNameChar]
  -- a plain character is read as itself, one with a letter as its escape, any other byte by byte
  by_cases hplain : isPlainNameChar c
  · rw [if_pos hplain]
    refine ⟨1, Nat.le_refl _, fun raw fuel rest => ?_⟩
    simp only [isPlainNameChar, Bool.and_eq_true, bne_iff_ne] at hplain
    exact readQuotedBytes_plain hplain.1.2 hplain.2 raw fuel rest
  · rw [if_neg hplain]
    have hchar : ∀ n, c.toNat = n → c = Char.ofNat n := fun n h => by rw [← h, Char.ofNat_toNat]
    split
    case h_10 =>
      refine ⟨(String.utf8EncodeChar c).length, ?_, fun raw fuel rest =>
        readQuotedBytes_octalBytes _ raw fuel rest⟩
      rw [List.length_flatMap]
      -- an octal byte takes four characters, so the bytes are no more than these
      have hone : ∀ bytes : List UInt8,
          bytes.length ≤ (bytes.map fun byte => (octalByte byte.toNat).length).sum := by
        intro bytes
        induction bytes with
        | nil => exact Nat.le_refl _
        | cons byte bytes ih =>
            have hfour : (octalByte byte.toNat).length = 4 := rfl
            rw [List.length_cons, List.map_cons, List.sum_cons, hfour]
            omega
      exact hone _
    all_goals
      rename_i heq
      rw [hchar _ heq]
      exact ⟨1, by decide, fun raw fuel rest => readQuotedBytes_cEscape (by rfl) raw fuel rest⟩

theorem readQuotedBytes_name (name : Text) (raw : List UInt8) (fuel : Nat) (rest : Text)
    (h : (name.flatMap quoteNameChar).length < fuel) :
    readQuotedBytes raw fuel (name.flatMap quoteNameChar ++ '"' :: rest) =
      .ok ((decodeUtf8 (raw ++ name.flatMap String.utf8EncodeChar)).map fun text => (text, rest)) := by
  induction name generalizing raw fuel with
  | nil =>
      obtain ⟨fuel, rfl⟩ : ∃ m, fuel = m + 1 := ⟨fuel - 1, by
        simp only [List.flatMap_nil, List.length_nil] at h
        omega⟩
      rw [List.flatMap_nil, List.nil_append, readQuotedBytes_quote, List.flatMap_nil,
        List.append_nil]
  | cons c name ih =>
      obtain ⟨n, hn, hread⟩ := readQuotedBytes_quoteNameChar c
      rw [List.flatMap_cons, List.length_append] at h
      have hfuel : fuel = (fuel - n) + n := by omega
      have hrest : (name.flatMap quoteNameChar).length < fuel - n := by omega
      rw [List.flatMap_cons, List.append_assoc, hfuel, hread, ih _ _ hrest, List.flatMap_cons,
        List.append_assoc]

/-- **A quoted name is read back**, with what follows it. -/
theorem readQuotedToken_quoteName {name : Text} (h : ¬ name.all isPlainNameChar) (rest : Text) :
    readQuotedToken (quoteName name ++ rest) = .ok (some (name, rest)) := by
  have hquote : quoteName name ++ rest = '"' :: (name.flatMap quoteNameChar ++ '"' :: rest) := by
    rw [quoteName, if_neg h]
    simp
  have hfuel : (name.flatMap quoteNameChar).length <
      ('"' :: (name.flatMap quoteNameChar ++ '"' :: rest)).length := by
    simp only [List.length_cons, List.length_append]
    omega
  rw [hquote, readQuotedToken, List.drop_succ_cons, List.drop_zero,
    readQuotedBytes_name name [] _ rest hfuel, List.nil_append, decodeUtf8_encode]
  rfl

/-! ## White space at the end -/

/-- Between a text and what `rstrip` leaves of it nothing but white space is cut. -/
theorem rstrip_of_between {cs left : Text} (h : left <+: cs)
    (hle : (rstrip cs).length ≤ left.length) : rstrip left = rstrip cs := by
  obtain ⟨blank, hcs, hblank⟩ := exists_rstrip_append cs
  have hprefix : rstrip cs <+: left :=
    List.prefix_of_prefix_length_le (prefix_rstrip cs) h hle
  obtain ⟨middle, hleft⟩ := hprefix
  obtain ⟨tail, hwhole⟩ := h
  have hmiddle : middle ++ tail = blank := by
    have heq : rstrip cs ++ (middle ++ tail) = rstrip cs ++ blank := by
      rw [← List.append_assoc, hleft, hwhole, ← hcs]
    exact List.append_cancel_left heq
  have hspace : isBlank middle := by
    rw [isBlank, List.all_eq_true] at hblank ⊢
    intro c hc
    exact hblank c (hmiddle ▸ List.mem_append_left _ hc)
  rw [← hleft, rstrip_append_blank _ hspace, rstrip_rstrip]

/-! ## The splits of an unquoted header -/

/-- An unquoted header, after `diff --git `. -/
def headerSides (left right : Text) : Text :=
  'a' :: '/' :: (left ++ ' ' :: 'b' :: '/' :: right)

theorem headerSides_eq (left right : Text) :
    headerSides left right = 'a' :: '/' :: (left ++ ' ' :: 'b' :: '/' :: right) := rfl

/-- The name holds what separates the two sides of a header. -/
def HoldsSeparator (name : Text) : Prop := " b/".toList <:+: name

instance (name : Text) : Decidable (HoldsSeparator name) := inferInstanceAs (Decidable (_ <:+: _))

theorem spaceSplits_nil : spaceSplits [] = [] := rfl

theorem spaceSplits_cons (c : Char) (cs : Text) : spaceSplits (c :: cs) =
    (if c = ' ' then [([], cs)] else []) ++
      (spaceSplits cs).map fun split => (c :: split.1, split.2) := rfl

theorem mem_spaceSplits {cs left right : Text} :
    (left, right) ∈ spaceSplits cs ↔ cs = left ++ ' ' :: right := by
  induction cs generalizing left with
  | nil => simp [spaceSplits_nil]
  | cons c cs ih =>
      rw [spaceSplits_cons, List.mem_append, List.mem_map]
      constructor
      -- the blank at hand, or one further on
      · rintro (h | ⟨⟨left', right'⟩, hmem, heq⟩)
        · by_cases hc : c = ' '
          · rw [if_pos hc, List.mem_singleton] at h
            obtain ⟨rfl, rfl⟩ := Prod.mk.inj h
            rw [hc, List.nil_append]
          · rw [if_neg hc] at h
            cases h
        · obtain ⟨rfl, rfl⟩ := Prod.mk.inj heq
          rw [ih.mp hmem, List.cons_append]
      · intro h
        cases left with
        | nil =>
            obtain ⟨rfl, rfl⟩ := List.cons.inj h
            exact Or.inl (by simp)
        | cons d left =>
            obtain ⟨rfl, hcs⟩ := List.cons.inj h
            exact Or.inr ⟨(left, right), ih.mpr hcs, rfl⟩

theorem nodup_spaceSplits (cs : Text) : (spaceSplits cs).Nodup := by
  induction cs with
  | nil => exact List.nodup_nil
  | cons c cs ih =>
      have hinj : Function.Injective fun split : Text × Text => (c :: split.1, split.2) := by
        rintro ⟨a, b⟩ ⟨a', b'⟩ h
        obtain ⟨hfirst, rfl⟩ := Prod.mk.inj h
        obtain ⟨-, rfl⟩ := List.cons.inj hfirst
        rfl
      have hmap := ih.map hinj
      rw [spaceSplits_cons]
      by_cases hc : c = ' '
      · rw [if_pos hc, List.singleton_append, List.nodup_cons]
        refine ⟨fun hmem => ?_, hmap⟩
        obtain ⟨split, -, heq⟩ := List.mem_map.mp hmem
        cases (Prod.mk.inj heq).1
      · rw [if_neg hc, List.nil_append]
        exact hmap

theorem dropPrefix?_eq_some {cs mark rest : Text} :
    cs.dropPrefix? mark = some rest ↔ cs = mark ++ rest := by
  rw [List.dropPrefix?_eq_some_iff]
  constructor
  · rintro ⟨mark', rfl, hmark⟩
    rw [beq_iff_eq.mp hmark]
  · intro h
    exact ⟨mark, h, beq_self_eq_true _⟩

theorem headerCandidate_eq_some {before after left right : Text} :
    (do return (← before.dropPrefix? "a/".toList, ← after.dropPrefix? "b/".toList) :
      Option (Text × Text)) = some (left, right) ↔
      before = 'a' :: '/' :: left ∧ after = 'b' :: '/' :: right := by
  -- both sides begin with their mark, or there is no candidate
  cases hfirst : before.dropPrefix? "a/".toList with
  | none =>
      constructor
      · intro h
        cases h
      · rintro ⟨h, -⟩
        rw [dropPrefix?_eq_some.mpr h] at hfirst
        cases hfirst
  | some first =>
      have hleft := dropPrefix?_eq_some.mp hfirst
      cases hsecond : after.dropPrefix? "b/".toList with
      | none =>
          constructor
          · intro h
            cases h
          · rintro ⟨-, h⟩
            rw [dropPrefix?_eq_some.mpr h] at hsecond
            cases hsecond
      | some second =>
          have hright := dropPrefix?_eq_some.mp hsecond
          rw [hleft, hright]
          show some (first, second) = some (left, right) ↔
            'a' :: '/' :: first = 'a' :: '/' :: left ∧ 'b' :: '/' :: second = 'b' :: '/' :: right
          simp

theorem mem_headerCandidates {rest left right : Text} :
    (left, right) ∈ headerCandidates rest ↔ rest = headerSides left right := by
  rw [headerCandidates, List.mem_filterMap]
  constructor
  · rintro ⟨⟨first, second⟩, hmem, h⟩
    obtain ⟨rfl, rfl⟩ := headerCandidate_eq_some.mp h
    exact mem_spaceSplits.mp hmem
  · intro h
    exact ⟨('a' :: '/' :: left, 'b' :: '/' :: right), mem_spaceSplits.mpr h,
      headerCandidate_eq_some.mpr ⟨rfl, rfl⟩⟩

example : headerCandidates "a/x b/y b/z".toList =
    [("x".toList, "y b/z".toList), ("x b/y".toList, "z".toList)] := by
  decide +kernel

theorem nodup_headerCandidates (rest : Text) : (headerCandidates rest).Nodup := by
  refine (nodup_spaceSplits rest).filterMap ?_
  intro split split' candidate h h'
  obtain ⟨h₁, h₂⟩ := headerCandidate_eq_some.mp h
  obtain ⟨h₁', h₂'⟩ := headerCandidate_eq_some.mp h'
  exact Prod.ext (h₁.trans h₁'.symm) (h₂.trans h₂'.symm)

theorem length_headerSides (left right : Text) :
    (headerSides left right).length = left.length + right.length + 5 := by
  simp only [headerSides_eq, List.length_cons, List.length_append]
  omega

/-- The halves of a cut by projection. -/
theorem unquotedHeaderPaths_eq (rest : Text) : unquotedHeaderPaths rest =
    match (headerCandidates rest).find? fun cut => cut.1 = cut.2 ∧ cut.1 ≠ [] with
    | some (left, _) => some [left]
    | none =>
      match headerCandidates rest with
      | [(left, right)] => distinctNames ([left, right].filter fun name => name ≠ [])
      | _ => none := rfl

/-- A header with equal sides is split that way. -/
theorem unquotedHeaderPaths_twice {rest name : Text} (hname : name ≠ [])
    (h : rest = headerSides name name) : unquotedHeaderPaths rest = some [name] := by
  have hsome : ((headerCandidates rest).find? fun cut => cut.1 = cut.2 ∧ cut.1 ≠ []).isSome := by
    rw [List.find?_isSome]
    exact ⟨(name, name), mem_headerCandidates.mpr h, by simp [hname]⟩
  obtain ⟨⟨left, right⟩, hfind⟩ := Option.isSome_iff_exists.mp hsome
  have hequal := List.find?_some hfind
  have hmem := mem_headerCandidates.mp (List.mem_of_find?_eq_some hfind)
  obtain ⟨rfl, -⟩ : left = right ∧ left ≠ [] := by simpa using hequal
  -- both splits are in the middle of the text
  have hsplit : headerSides name name = headerSides left left := h.symm.trans hmem
  have hlength : name.length = left.length := by
    have hboth := congrArg List.length hsplit
    rw [length_headerSides, length_headerSides] at hboth
    omega
  have hleft : name = left := by
    rw [headerSides_eq, headerSides_eq] at hsplit
    have htail := (List.cons.inj (List.cons.inj hsplit).2).2
    exact (List.append_inj htail hlength).1
  rw [unquotedHeaderPaths_eq, hfind, hleft]

/-- What the scan makes of an unquoted header. -/
theorem unquotedHeaderPaths_cases (left right : Text) :
    (∃ name ≠ [], headerSides left right = headerSides name name ∧
        unquotedHeaderPaths (headerSides left right) = some [name]) ∨
      (headerCandidates (headerSides left right) = [(left, right)] ∧
        unquotedHeaderPaths (headerSides left right) =
          distinctNames ([left, right].filter fun name => name ≠ [])) ∨
      ((∃ candidate ∈ headerCandidates (headerSides left right), candidate ≠ (left, right)) ∧
        unquotedHeaderPaths (headerSides left right) = none) := by
  have hself : (left, right) ∈ headerCandidates (headerSides left right) :=
    mem_headerCandidates.mpr rfl
  have hnodup := nodup_headerCandidates (headerSides left right)
  -- a name found twice, else the only candidate, else none or several
  cases hfind : (headerCandidates (headerSides left right)).find?
      fun cut => cut.1 = cut.2 ∧ cut.1 ≠ [] with
  | some candidate =>
      obtain ⟨name, other⟩ := candidate
      have hequal := List.find?_some hfind
      have hmem := mem_headerCandidates.mp (List.mem_of_find?_eq_some hfind)
      obtain ⟨rfl, hname⟩ : name = other ∧ name ≠ [] := by simpa using hequal
      exact Or.inl ⟨name, hname, hmem, unquotedHeaderPaths_twice hname hmem⟩
  | none =>
      refine Or.inr ?_
      rw [unquotedHeaderPaths_eq, hfind]
      generalize headerCandidates (headerSides left right) = candidates at hself hnodup
      -- with a second candidate there is one besides the two sides
      rcases candidates with _ | ⟨first, _ | ⟨second, others⟩⟩
      · cases hself
      · rw [List.mem_singleton] at hself
        subst hself
        exact Or.inl ⟨rfl, rfl⟩
      · refine Or.inr ⟨?_, rfl⟩
        rw [List.nodup_cons] at hnodup
        by_cases hfirst : first = (left, right)
        · refine ⟨second, by simp, fun hsecond => hnodup.1 ?_⟩
          rw [hfirst, ← hsecond]
          exact List.mem_cons_self
        · exact ⟨first, List.mem_cons_self, hfirst⟩

/-- A second split lies inside one of the names. -/
theorem holdsSeparator_of_candidate {left right : Text} {candidate : Text × Text}
    (h : candidate ∈ headerCandidates (headerSides left right)) (hne : candidate ≠ (left, right)) :
    HoldsSeparator left ∨ HoldsSeparator right := by
  obtain ⟨left', right'⟩ := candidate
  have hsides := mem_headerCandidates.mp h
  rw [headerSides_eq, headerSides_eq] at hsides
  have htail := (List.cons.inj (List.cons.inj hsides).2).2
  -- the separator cannot overlap itself
  have hmiddle : ∀ {middle after after' : Text},
      middle ++ ' ' :: 'b' :: '/' :: after = ' ' :: 'b' :: '/' :: after' → middle ≠ [] →
        ∃ tail, middle = " b/".toList ++ tail := by
    intro middle after after' heq hmiddle
    match middle, hmiddle with
    | [_], _ => simp at heq
    | [_, _], _ => simp at heq
    | a :: b :: c :: tail, _ =>
        simp only [List.cons_append, List.cons.injEq] at heq
        obtain ⟨rfl, rfl, rfl, -⟩ := heq
        exact ⟨tail, rfl⟩
  rcases List.append_eq_append_iff.mp htail with ⟨middle, hleft', hafter⟩ | ⟨middle, hleft, hafter⟩
  · -- the other split is further right
    by_cases hnil : middle = []
    · rw [hnil, List.append_nil] at hleft'
      have hright : right = right' := by simpa [hnil] using hafter
      exact absurd (Prod.ext hleft' hright.symm) hne
    · obtain ⟨tail, htail⟩ := hmiddle hafter.symm hnil
      rw [htail] at hafter
      have hright : right = tail ++ ' ' :: 'b' :: '/' :: right' := by simpa using hafter
      exact Or.inr ⟨tail, right', by rw [hright]; simp⟩
  · -- the other split is further left
    by_cases hnil : middle = []
    · rw [hnil, List.append_nil] at hleft
      have hright : right' = right := by simpa [hnil] using hafter
      exact absurd (Prod.ext hleft.symm hright) hne
    · obtain ⟨tail, htail⟩ := hmiddle hafter.symm hnil
      exact Or.inl ⟨left', tail, by rw [hleft, htail, List.append_assoc]⟩

/-- A separator inside one of the names is a second split. -/
theorem exists_candidate_of_holdsSeparator {left right : Text} (h : HoldsSeparator left) :
    ∃ candidate ∈ headerCandidates (headerSides left right), candidate ≠ (left, right) := by
  obtain ⟨before, after, hleft⟩ := h
  have hsides : headerSides left right =
      headerSides before (after ++ ' ' :: 'b' :: '/' :: right) := by
    rw [headerSides_eq, headerSides_eq, ← hleft]
    simp
  refine ⟨(before, after ++ ' ' :: 'b' :: '/' :: right), mem_headerCandidates.mpr hsides, ?_⟩
  intro heq
  have hlength := congrArg List.length (Prod.mk.inj heq).1
  rw [← hleft] at hlength
  simp at hlength

/-- `_git_header_paths` of an unquoted header, whose end is stripped. -/
theorem gitHeaderPaths_headerSides (left right : Text) :
    gitHeaderPaths (headerSides left right) =
      .ok (unquotedHeaderPaths (headerSides left (rstrip right))) := by
  have hstrip : rstrip (headerSides left right) = headerSides left (rstrip right) := by
    have hslash : isSpace '/' = false := rfl
    have hsplit : ∀ tail, headerSides left tail = ('a' :: '/' :: (left ++ [' ', 'b'])) ++ '/' :: tail := by
      intro tail
      simp [headerSides_eq]
    rw [hsplit, hsplit, rstrip_append_of_not_isSpace _ _ hslash]
  rw [gitHeaderPaths]
  simp only [hstrip]
  rw [if_neg (by simp [headerSides_eq]), if_neg (by simp [headerSides_eq])]

/-! ## The header of one path -/

theorem strip_eq_self_of_rstrip {name : Text} (h : strip name = name) : rstrip name = name := by
  have hidem := rstrip_rstrip (lstrip name)
  rw [strip] at h
  rwa [h] at hidem

/-- An unquoted path without white space at its end is read from its own header. -/
theorem gitHeaderPaths_same {name : Text} (hname : name ≠ []) (h : rstrip name = name) :
    gitHeaderPaths (headerSides name name) = .ok (some [name]) := by
  rw [gitHeaderPaths_headerSides, h, unquotedHeaderPaths_twice hname rfl]

/-- Two unquoted names are read from their header when neither holds a separator. -/
theorem gitHeaderPaths_both {left right : Text} (hleft : left ≠ []) (hright : right ≠ [])
    (hstrip : rstrip right = right) (hne : left ≠ right) (hsepLeft : ¬ HoldsSeparator left)
    (hsepRight : ¬ HoldsSeparator right) :
    gitHeaderPaths (headerSides left right) = .ok (some [left, right]) := by
  have hself : (left, right) ∈ headerCandidates (headerSides left right) :=
    mem_headerCandidates.mpr rfl
  -- without a separator in either side the two sides are the only candidate
  have honly : ∀ candidate ∈ headerCandidates (headerSides left right), candidate = (left, right) := by
    intro candidate hcandidate
    by_contra hother
    rcases holdsSeparator_of_candidate hcandidate hother with h | h
    · exact hsepLeft h
    · exact hsepRight h
  rw [gitHeaderPaths_headerSides, hstrip]
  rcases unquotedHeaderPaths_cases left right with
    ⟨name, -, hsides, -⟩ | ⟨-, hpaths⟩ | ⟨⟨candidate, hcandidate, hother⟩, -⟩
  · have hequal := honly (name, name) (mem_headerCandidates.mpr hsides)
    obtain ⟨rfl, rfl⟩ := Prod.mk.inj hequal
    exact absurd rfl hne
  · rw [hpaths]
    have hfilter : [left, right].filter (fun name => name ≠ []) = [left, right] := by
      simp [hleft, hright]
    have hdups : [left, right].eraseDups = [left, right] := by
      simp [List.eraseDups_cons, Ne.symm hne]
    rw [hfilter, distinctNames, if_neg (by simp), hdups]
  · exact absurd (honly candidate hcandidate) hother

end LlmHarness
