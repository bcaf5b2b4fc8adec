/-
  LlmHarness.Journal.Shapes

  The patterns of journal.py are tokens, and their substitutions have edges: each by its
  classes, its first character and what its last run is.
-/

import LlmHarness.Journal.Edges

namespace LlmHarness.Journal

open Python Regex Substitution

/-! ## Characters -/

theorem firsts_text {c : Char} {cs : List Char} {p : Char → Bool} (hp : p ∈ (text (c :: cs)).firsts)
    {d : Char} (hd : p d = true) : d = c := by
  rw [List.mem_singleton.mp (show p ∈ [fun d => decide (d = c)] from hp)] at hd
  exact of_decide_eq_true hd

/-- The code points of white space. -/
def spaceCodes : List Nat :=
  [9, 10, 11, 12, 13, 28, 29, 30, 31, 32, 0x85, 0xA0, 0x1680, 0x2000, 0x2001, 0x2002, 0x2003, 0x2004,
    0x2005, 0x2006, 0x2007, 0x2008, 0x2009, 0x200A, 0x2028, 0x2029, 0x202F, 0x205F, 0x3000]

theorem mem_spaceCodes {c : Char} (h : isSpace c = true) : c.toNat ∈ spaceCodes := by
  simp only [isSpace, Bool.or_eq_true, Bool.and_eq_true, decide_eq_true_eq, beq_iff_eq] at h
  simp only [spaceCodes, List.mem_cons, List.not_mem_nil, or_false]
  omega

theorem of_isSpace {P : Char → Prop} (h : ∀ n ∈ spaceCodes, P (Char.ofNat n)) {c : Char}
    (hc : isSpace c = true) : P c := by
  have hat := h c.toNat (mem_spaceCodes hc)
  rwa [Char.ofNat_toNat] at hat

/-- Outside ASCII only four letters are taken for a letter of a pattern. -/
theorem ignoringCase_large {p : Char → Bool} {c : Char} (hc : 128 ≤ c.toNat)
    (h : ignoringCase p c = true) :
    p c = true ∨ ∃ d ∈ ['i', 's', 'k'], p d = true ∨ p d.toUpper = true := by
  have hupper : c.toUpper = c := dif_neg fun hrange => by
    have hhigh : c.toNat ≤ 122 := hrange.2
    omega
  have hlower : c.toLower = c := dif_neg fun hrange => by
    have hhigh : c.toNat ≤ 90 := hrange.2
    omega
  rw [ignoringCase, Bool.or_eq_true, Bool.or_eq_true] at h
  by_cases hfold : foldCase c = c
  · rw [hfold, hupper] at h
    exact .inl (by simpa using h)
  · have hletter : foldCase c ∈ ['i', 's', 'k'] := by
      rw [foldCase] at hfold ⊢
      split
      · simp
      · split
        · simp
        · split
          · simp
          · simp_all
    obtain (h | h) | h := h
    · exact .inl h
    · exact .inr ⟨_, hletter, .inl h⟩
    · exact .inr ⟨_, hletter, .inr h⟩

/-- A letter under `re.IGNORECASE`, if it is none of the three with a variant outside ASCII. -/
theorem of_ignoringCase_letter {P : Char → Prop} {letter : Char} (hascii : letter.toNat < 128)
    (hplain : ∀ d ∈ ['i', 's', 'k'], d ≠ letter ∧ d.toUpper ≠ letter)
    (h : ∀ n < 128, ignoringCase (· == letter) (Char.ofNat n) = true → P (Char.ofNat n)) {c : Char}
    (hc : ignoringCase (· == letter) c = true) : P c := by
  by_cases hsmall : c.toNat < 128
  · have hat := h c.toNat hsmall
    rw [Char.ofNat_toNat] at hat
    exact hat hc
  · obtain hsame | ⟨d, hd, hletter | hletter⟩ := ignoringCase_large (Nat.le_of_not_lt hsmall) hc
    · rw [beq_iff_eq] at hsame
      rw [hsame] at hsmall
      exact absurd hascii hsmall
    · exact absurd (beq_iff_eq.mp hletter) (hplain d hd).1
    · exact absurd (beq_iff_eq.mp hletter) (hplain d hd).2

/-! ## The shapes of keys -/

/-- The bearer token as a shape of key: what follows its last character is an equals sign or
    no character of it. -/
def bearerKey : KeyShape :=
  ⟨.seq (ignoringCaseText "Bearer") (.seq (.one isSpace) (.many isSpace)), 1, bearerChar, "<redacted>"⟩

/-- The shapes that can expose a bot token. -/
def exposingShapes : List KeyShape :=
  [bearerKey, anthropicKey, openaiKey, githubToken, githubPat, slackToken, googleKey, jwt]

/-- No label is taken for a key. -/
theorem unlabelled_exposingShapes : ∀ shape ∈ exposingShapes, ∀ label ∈ labels,
    shape.rule.pattern.search isWord (some '<') (label.toList ++ ['>']) = false ∧
      shape.exposed.search isWord (some '<') (label.toList ++ ['>']) = false := by
  decide +kernel

theorem tokenChar_of_isAsciiAlnum (c : Char) (h : isAsciiAlnum c = true) : tokenChar c = true := by
  rw [tokenChar, h]
  rfl

theorem fine_anthropicKey : anthropicKey.Fine where
  length := by decide
  front := by decide
  inKey := tokenChar_of_isAsciiAlnum
  brackets := by decide
  classes := by decide
  firsts p hp c hc := by
    rw [firsts_text hp hc]
    decide
  mark := ⟨"redacted-anthropic-key", by decide, by decide⟩
  unlabelled label h := (unlabelled_exposingShapes anthropicKey (by simp [exposingShapes]) label h).1
  unlabelledExposed label h := (unlabelled_exposingShapes anthropicKey (by simp [exposingShapes]) label h).2

theorem fine_openaiKey : openaiKey.Fine where
  length := by decide
  front := by decide
  inKey := tokenChar_of_isAsciiAlnum
  brackets := by decide
  classes := by decide
  firsts p hp c hc := by
    rw [firsts_text (show p ∈ (text ['s', 'k', '-']).firsts from hp) hc]
    decide
  mark := ⟨"redacted-openai-key", by decide, by decide⟩
  unlabelled label h := (unlabelled_exposingShapes openaiKey (by simp [exposingShapes]) label h).1
  unlabelledExposed label h := (unlabelled_exposingShapes openaiKey (by simp [exposingShapes]) label h).2

theorem fine_githubToken : githubToken.Fine where
  length := by decide
  front := by decide
  inKey := fun _ h => h
  brackets := by decide
  classes := by decide
  firsts p hp c hc := by
    rw [firsts_text (show p ∈ (text ['g', 'h']).firsts from hp) hc]
    decide
  mark := ⟨"redacted-github-token", by decide, by decide⟩
  unlabelled label h := (unlabelled_exposingShapes githubToken (by simp [exposingShapes]) label h).1
  unlabelledExposed label h := (unlabelled_exposingShapes githubToken (by simp [exposingShapes]) label h).2

theorem fine_githubPat : githubPat.Fine where
  length := by decide
  front := by decide
  inKey := fun c h => by
    show (isAsciiAlnum c || c == '_') = true
    rw [h]
    rfl
  brackets := by decide
  classes := by decide
  firsts p hp c hc := by
    rw [firsts_text hp hc]
    decide
  mark := ⟨"redacted-github-token", by decide, by decide⟩
  unlabelled label h := (unlabelled_exposingShapes githubPat (by simp [exposingShapes]) label h).1
  unlabelledExposed label h := (unlabelled_exposingShapes githubPat (by simp [exposingShapes]) label h).2

theorem fine_slackToken : slackToken.Fine where
  length := by decide
  front := by decide
  inKey := fun c h => by
    show (isAsciiAlnum c || c == '-') = true
    rw [h]
    rfl
  brackets := by decide
  classes := by decide
  firsts p hp c hc := by
    rw [firsts_text (show p ∈ (text ['x', 'o', 'x']).firsts from hp) hc]
    decide
  mark := ⟨"redacted-slack-token", by decide, by decide⟩
  unlabelled label h := (unlabelled_exposingShapes slackToken (by simp [exposingShapes]) label h).1
  unlabelledExposed label h := (unlabelled_exposingShapes slackToken (by simp [exposingShapes]) label h).2

theorem fine_googleKey : googleKey.Fine where
  length := by decide
  front := by decide
  inKey := tokenChar_of_isAsciiAlnum
  brackets := by decide
  classes := by decide
  firsts p hp c hc := by
    rw [firsts_text hp hc]
    decide
  mark := ⟨"redacted-google-key", by decide, by decide⟩
  unlabelled label h := (unlabelled_exposingShapes googleKey (by simp [exposingShapes]) label h).1
  unlabelledExposed label h := (unlabelled_exposingShapes googleKey (by simp [exposingShapes]) label h).2

theorem fine_jwt : jwt.Fine where
  length := by decide
  front := by decide
  inKey := tokenChar_of_isAsciiAlnum
  brackets := by decide
  classes := by decide
  firsts p hp c hc := by
    rw [firsts_text (show p ∈ (text ['e', 'y', 'J']).firsts from hp) hc]
    decide
  mark := ⟨"redacted-jwt", by decide, by decide⟩
  unlabelled label h := (unlabelled_exposingShapes jwt (by simp [exposingShapes]) label h).1
  unlabelledExposed label h := (unlabelled_exposingShapes jwt (by simp [exposingShapes]) label h).2

theorem bearerChar_of_isAsciiAlnum (c : Char) (h : isAsciiAlnum c = true) : bearerChar c = true := by
  rw [bearerChar, ignoringCase, h]
  rfl

theorem fine_bearerKey : bearerKey.Fine where
  length := by decide
  front := by decide
  inKey := bearerChar_of_isAsciiAlnum
  brackets := by decide
  classes := by decide
  firsts p hp c hc := by
    rw [List.mem_singleton.mp (show p ∈ [ignoringCase (· == 'B')] from hp)] at hc
    exact of_ignoringCase_letter (P := fun c => isAsciiAlnum c = true) (by decide) (by decide)
      (by decide) hc
  mark := ⟨"redacted", by decide, by decide⟩
  unlabelled label h := (unlabelled_exposingShapes bearerKey (by simp [exposingShapes]) label h).1
  unlabelledExposed label h := (unlabelled_exposingShapes bearerKey (by simp [exposingShapes]) label h).2

theorem fine_exposingShapes : ∀ shape ∈ exposingShapes, shape.Fine := by
  simp only [exposingShapes, List.forall_mem_cons]
  exact ⟨fine_bearerKey, fine_anthropicKey, fine_openaiKey, fine_githubToken, fine_githubPat,
    fine_slackToken, fine_googleKey, fine_jwt, List.forall_mem_nil _⟩

/-! ## The other patterns -/

/-- No label is taken for another token. -/
theorem unlabelled_tokens : ∀ rule ∈ [botTokenRe, bearerRe, awsKeyRe], ∀ label ∈ labels,
    rule.pattern.search isWord (some '<') (label.toList ++ ['>']) = false := by
  decide +kernel

theorem token_botToken : Token isDecimal botTokenRe.pattern where
  nonempty := by decide
  classes := by decide
  firsts p hp c hc := by
    rwa [List.mem_singleton.mp (show p ∈ [isDecimal] from hp)] at hc
  last _ u c hlang := by
    obtain ⟨_, _, hsplit, rfl, hbody⟩ := hlang
    rw [List.nil_append] at hsplit
    rw [← hsplit] at hbody
    exact hbody.last_mem
  unlabelled := unlabelled_tokens botTokenRe (by simp)

theorem edged_botToken : Edged botTokenRe :=
  edged_whole (by decide) (.inl rfl) ⟨"redacted-bot-token", by decide, by decide⟩

theorem token_awsKey : Token isAsciiAlnum awsKeyRe.pattern where
  nonempty := by decide
  classes := by decide
  firsts p hp c hc := by
    rw [firsts_text (show p ∈ (text "AKIA".toList).firsts from hp) hc]
    decide
  last _ u c hlang := by
    obtain ⟨_, _, hsplit, rfl, x, y, rfl, -, hy⟩ := hlang
    obtain ⟨hlong, -, hall⟩ := lang_between.mp hy
    rw [List.nil_append] at hsplit
    have hc : awsChar c = true := by
      obtain rfl | ⟨y, d, rfl⟩ := y.eq_nil_or_concat
      · cases hlong
      · rw [List.concat_eq_append, ← List.append_assoc] at hsplit
        have hd := (List.append_inj' hsplit rfl).2
        cases hd
        exact hall c (by simp)
    rw [awsChar, Bool.or_eq_true] at hc
    refine tokenChar_of_isAsciiAlnum c ?_
    rw [isAsciiAlnum, Bool.or_eq_true, Bool.or_eq_true]
    exact .inl hc
  unlabelled := unlabelled_tokens awsKeyRe (by simp)

theorem edged_awsKey : Edged awsKeyRe :=
  edged_whole (by decide) (.inl rfl) ⟨"redacted-aws-key-id", by decide, by decide⟩

theorem edged_envSecret : Edged envSecretRe where
  nonempty := by decide
  keep_self _ _ := rfl
  kept_last w c hlang := by
    obtain ⟨a, _, hsplit, -, b, _, rfl, -, d, _, rfl, -, e, _, rfl, -, _, spaces, rfl, ⟨sign, rfl, hsign⟩,
      hspaces⟩ := hlang
    obtain rfl : sign = '=' := by simpa using hsign
    obtain rfl | ⟨spaces, space, rfl⟩ := spaces.eq_nil_or_concat
    · have hc : w ++ [c] = (a ++ (b ++ (d ++ e))) ++ ['='] := by simpa using hsplit
      cases (List.append_inj' hc rfl).2
      decide
    · rw [List.concat_eq_append] at hsplit hspaces
      have hc : w ++ [c] = (a ++ (b ++ (d ++ (e ++ (['='] ++ spaces))))) ++ [space] := by
        simpa using hsplit
      cases (List.append_inj' hc rfl).2
      exact of_isSpace (P := fun c => tokenChar c = false) (by decide) (hspaces c (by simp))
  back := by
    refine .inr fun g v r hg _ hkeep => ?_
    rw [show g = [] from hkeep] at hg
    exact absurd hg.minLength_le (by decide)
  mark := ⟨"redacted", by decide, by decide⟩

theorem isWord_semicolon : isWord ';' = false := by
  rw [isWord_of_ascii (by decide)]
  decide

theorem sealed_envSecret : Sealed isWord envSecretRe := by
  refine sealed_of_greedy (p := envValueChar) rfl ((greedy_many envValueChar).seq _) fun c hc => ?_
  rw [envValueChar, Bool.and_eq_true, Bool.not_eq_true', bne_iff_ne]
  constructor
  · cases hspace : isSpace c with
    | false => rfl
    | true =>
        rw [isWord_of_isSpace hspace] at hc
        cases hc
  · rintro rfl
    rw [isWord_semicolon] at hc
    cases hc

theorem isWord_equals : isWord '=' = false := by
  rw [isWord_of_ascii (by decide)]
  decide

theorem isWord_dash : isWord '-' = false := by
  rw [isWord_of_ascii (by decide)]
  decide

theorem edged_privateKey : Edged privateKeyRe := by
  show Edged (wholeRule false (.seq (keyLabel "BEGIN") (.seq (.few fun _ => true) (keyLabel "END")))
    false "<redacted-private-key>")
  refine edged_whole (by decide) (.inr fun v r hv => ?_) ⟨"redacted-private-key", by decide, by decide⟩
  obtain ⟨_, w, rfl, ⟨x, y, rfl, hx, -⟩, -⟩ := hv
  have hhead : x.head? = some '-' := by
    rw [lang_text.mp hx]
    decide
  rw [List.append_assoc, List.append_assoc, List.head?_append, hhead, Option.some_or, Option.any_some]
  exact isWord_dash

theorem sealed_privateKey : Sealed isWord privateKeyRe := by
  refine sealed_of_last fun v hv => ?_
  obtain ⟨x, _, rfl, -, m, _, rfl, -, y, _, rfl, -, z, t, rfl, -, ht⟩ := hv
  rw [lang_text.mp ht]
  exact ⟨x ++ (m ++ (y ++ (z ++ "PRIVATE KEY----".toList))), '-', by simp, isWord_dash⟩

/-! ## The bearer token -/

/-- White space as a space and the letters of the name in lower case: what the template
    makes of the text that it writes again. -/
def bearFold (c : Char) : Char :=
  if c ∈ ['B', 'E', 'A', 'R'] then c.toLower else if isSpace c then ' ' else c

theorem bearFold_respects {p : Char → Bool} (hletters : ∀ c ∈ ['B', 'E', 'A', 'R'], p c.toLower = p c)
    (hspace : ∀ n ∈ spaceCodes, p ' ' = p (Char.ofNat n)) (c : Char) : p (bearFold c) = p c := by
  rw [bearFold]
  split
  · next hc => exact hletters c hc
  · split
    · next hc => exact of_isSpace (P := fun c => p ' ' = p c) hspace hc
    · rfl

theorem isWord_bearFold (c : Char) : isWord (bearFold c) = isWord c := by
  rw [bearFold]
  split
  · next hc =>
      have hletters : ∀ c ∈ ['B', 'E', 'A', 'R'], isAsciiAlnum c.toLower = true ∧ isAsciiAlnum c = true := by
        decide
      obtain ⟨hlower, hsame⟩ := hletters c hc
      rw [isWord_of_isAsciiAlnum hlower, isWord_of_isAsciiAlnum hsame]
  · split
    · next hc => rw [isWord_of_isSpace hc, isWord_of_isSpace (by decide)]
    · rfl

theorem tokenChar_bearFold (c : Char) : tokenChar (bearFold c) = tokenChar c :=
  bearFold_respects (by decide) (by decide) c

theorem respects_bearer : ∀ p ∈ bearerRe.pattern.body.classesOf, ∀ c, p (bearFold c) = p c := by
  have hclasses : ∀ p ∈ bearerRe.pattern.body.classesOf,
      (∀ c ∈ ['B', 'E', 'A', 'R'], p c.toLower = p c) ∧ ∀ n ∈ spaceCodes, p ' ' = p (Char.ofNat n) := by
    decide +kernel
  intro p hp
  exact bearFold_respects (hclasses p hp).1 (hclasses p hp).2

/-- A letter of the name is read in either case. -/
theorem bearFold_of_letter {letter : Char} (hletter : letter ∈ "Bear".toList) {c : Char}
    (hc : ignoringCase (· == letter) c = true) : bearFold c = bearFold letter := by
  have hletters : ∀ letter ∈ "Bear".toList, letter.toNat < 128 ∧
      (∀ d ∈ ['i', 's', 'k'], d ≠ letter ∧ d.toUpper ≠ letter) ∧
      ∀ n < 128, ignoringCase (· == letter) (Char.ofNat n) = true →
        bearFold (Char.ofNat n) = bearFold letter := by
    decide +kernel
  obtain ⟨hascii, hplain, hsmall⟩ := hletters letter hletter
  exact of_ignoringCase_letter (P := fun c => bearFold c = bearFold letter) hascii hplain hsmall hc

/-- The name and the character after it are written again up to case and white space. -/
theorem map_bearFold_kept {g : List Char} (hg : bearerRe.kept.Lang g) :
    ("Bearer ".toList).map bearFold = g.map bearFold := by
  obtain ⟨_, _, rfl, ⟨_, _, rfl, ⟨c₁, rfl, h₁⟩, _, _, rfl, ⟨c₂, rfl, h₂⟩, _, _, rfl, ⟨c₃, rfl, h₃⟩, _, _, rfl,
    ⟨c₄, rfl, h₄⟩, _, _, rfl, ⟨c₅, rfl, h₅⟩, _, _, rfl, ⟨c₆, rfl, h₆⟩, rfl⟩, space, rfl, hspace⟩ := hg
  have hblank : bearFold space = bearFold ' ' :=
    of_isSpace (P := fun c => bearFold c = bearFold ' ') (by decide) hspace
  show _ = [bearFold c₁, bearFold c₂, bearFold c₃, bearFold c₄, bearFold c₅, bearFold c₆, bearFold space]
  rw [bearFold_of_letter (by decide) h₁, bearFold_of_letter (by decide) h₂,
    bearFold_of_letter (by decide) h₃, bearFold_of_letter (by decide) h₄,
    bearFold_of_letter (by decide) h₅, bearFold_of_letter (by decide) h₆, hblank]
  rfl

end LlmHarness.Journal
