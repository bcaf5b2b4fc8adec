/-
  LlmHarness.Journal.Edges

  What one substitution of journal.py leaves of the patterns before it.  A match of one
  of them has no angle bracket, and what follows a match does not continue it, so no
  placeholder gives an edge to a letter; only a digit outside ASCII can follow a key.
-/

import LlmHarness.Journal.Patterns

namespace LlmHarness.Journal

open Python Regex Substitution

/-- Neither angle bracket. -/
def plainChar (c : Char) : Bool := c != '<' && c != '>'

/-- The placeholders without their brackets. -/
def labels : List String :=
  ["redacted-bot-token", "redacted", "redacted-anthropic-key", "redacted-openai-key",
    "redacted-github-token", "redacted-slack-token", "redacted-aws-key-id", "redacted-google-key",
    "redacted-jwt", "redacted-private-key"]

/-- A pattern that starts at a word, has no bracket, and has no match in a placeholder. -/
structure Token (first : Char → Bool) (pattern : Pattern Char) : Prop where
  nonempty : 0 < pattern.body.minLength
  classes : ∀ p ∈ pattern.body.classesOf, p '<' = false ∧ p '>' = false
  firsts : ∀ p ∈ pattern.body.firsts, ∀ c, p c = true → first c = true
  last : pattern.stop = true → ∀ u c, pattern.body.Lang (u ++ [c]) → tokenChar c = true
  unlabelled : ∀ label ∈ labels, pattern.search isWord (some '<') (label.toList ++ ['>']) = false

/-- A substitution that keeps the first part of its match as it is, and writes a placeholder. -/
structure Edged (rule : Rule Char) : Prop where
  nonempty : 0 < (rule.kept.seq rule.dropped).minLength
  keep_self : ∀ g, rule.kept.Lang g → rule.keep g = g
  kept_last : ∀ w c, rule.kept.Lang (w ++ [c]) → tokenChar c = false
  back : rule.start = true ∨ ∀ g v r, rule.kept.Lang g → rule.dropped.Lang v → rule.keep g = [] →
    (g ++ v ++ r).head?.any isWord = false
  mark : ∃ label ∈ labels, rule.placeholder = '<' :: (label.toList ++ ['>'])

/-- No character of the class follows the last character of a match, if that is a word's. -/
def Sealed (first : Char → Bool) (rule : Rule Char) : Prop :=
  ∀ prev s g v r c, rule.find isWord prev s = some (g, v, r) → r.head? = some c → first c = true →
    (lastOf prev (g ++ v)).any isWord = false

variable {first : Char → Bool} {pattern : Pattern Char} {rule : Rule Char}
  {H : Option Char → List Char → Prop}

theorem Token.all_plain (h : Token first pattern) (w : List Char) (hw : pattern.body.Lang w) :
    ∀ c ∈ w, plainChar c = true := by
  intro c hc
  obtain ⟨p, hp, hpc⟩ := hw.mem_classesOf hc
  have hbrackets := h.classes p hp
  rw [plainChar, Bool.and_eq_true, bne_iff_ne, bne_iff_ne]
  constructor
  · rintro rfl
    rw [hbrackets.1] at hpc
    cases hpc
  · rintro rfl
    rw [hbrackets.2] at hpc
    cases hpc

theorem Token.head (h : Token first pattern) {x : List Char} (hx : pattern.body.Lang x) :
    ∃ c, x.head? = some c ∧ first c = true := by
  cases x with
  | nil => exact absurd h.nonempty (Nat.not_lt.mpr hx.minLength_le)
  | cons c x =>
      obtain ⟨p, hp, hpc⟩ := hx.mem_firsts
      exact ⟨c, rfl, h.firsts p hp c hpc⟩

theorem Token.placeholder (h : Token first pattern) {label : String} (hlabel : label ∈ labels) :
    ¬ pattern.Occurs isWord (some '<') (label.toList ++ ['>']) := by
  rw [← Pattern.search_iff, h.unlabelled label hlabel]
  exact Bool.false_ne_true

/-- A word does not begin where a sealed substitution ends. -/
theorem Sealed.seam (hseal : Sealed first rule) (hp : Token first pattern) {prev : Option Char}
    {s g v r : List Char} (hfind : rule.find isWord prev s = some (g, v, r))
    (hword : ∀ c, first c = true → isWord c = true) :
    pattern.Seam isWord (some '>') (lastOf prev (g ++ v)) r := by
  rintro x r' rfl hx - - -
  obtain ⟨c, hc, hfirst⟩ := hp.head hx
  have hhead : (x ++ r').head? = some c := by rw [List.head?_append, hc, Option.some_or]
  have hlast := hseal prev s g v (x ++ r') c hfind hhead hfirst
  rw [wordBoundary, hlast, hhead, Option.any_some, hword c hfirst]
  rfl

theorem isWord_bracket : isWord '<' = false := by
  rw [isWord_of_ascii (by decide)]
  decide

/-- A substitution spares the patterns of tokens, where none begins at its end. -/
theorem Edged.spares (hrule : Edged rule) (hp : Token first pattern)
    (hseam : ∀ prev s g v r, H prev s → rule.find isWord prev s = some (g, v, r) →
      pattern.Seam isWord (some '>') (lastOf prev (g ++ v)) r) :
    rule.Spares isWord plainChar id H pattern where
  nonempty := hp.nonempty
  all_plain := hp.all_plain
  placeholder := by
    obtain ⟨label, hlabel, hmark⟩ := hrule.mark
    exact ⟨'<', label.toList, '>', hmark, by decide, by decide, isWord_bracket, hp.placeholder hlabel,
      hseam⟩
  word_image _ := rfl
  keep_image g hg := by rw [hrule.keep_self g hg]
  stable g hg q p t hkeep u p' hp' hlang := by
    rw [List.map_id, List.map_id] at hp'
    rwa [hp']
  last hstop g hg w u c hkeep hlang := by
    rw [hrule.keep_self g hg] at hkeep
    rw [hkeep] at hg
    have hc := hp.last hstop u c hlang
    rw [hrule.kept_last w c hg] at hc
    cases hc
  back := hrule.back

/-! ## Substitutions that replace a match as a whole -/

theorem edged_whole {start stop : Bool} {body : Regex Char} {placeholder : String}
    (hbody : 0 < body.minLength)
    (hback : start = true ∨ ∀ v r, body.Lang v → (v ++ r).head?.any isWord = false)
    (hmark : ∃ label ∈ labels, placeholder.toList = '<' :: (label.toList ++ ['>'])) :
    Edged (wholeRule start body stop placeholder) where
  nonempty := by
    show 0 < 0 + body.minLength
    rwa [Nat.zero_add]
  keep_self g hg := (show g = [] from hg).symm
  kept_last w c hg := absurd (show w ++ [c] = [] from hg) (by simp)
  back := by
    obtain hstart | hnonword := hback
    · exact .inl hstart
    · refine .inr fun g v r hg hv _ => ?_
      rw [show g = [] from hg]
      exact hnonword v r hv
  mark := hmark

/-- A match that ends at a boundary ends a word before a word. -/
theorem sealed_of_stop (hstop : rule.stop = true) : Sealed isWord rule := by
  intro prev s g v r c hfind hr hc
  obtain ⟨-, -, -, -, hboundary⟩ := Rule.find_eq_some hfind
  have hb := hboundary hstop
  rw [wordBoundary, hr, Option.any_some, hc] at hb
  simpa using hb

theorem Sealed.mono {first' : Char → Bool} (h : Sealed first rule)
    (hfirst : ∀ c, first' c = true → first c = true) : Sealed first' rule :=
  fun prev s g v r c hfind hr hc => h prev s g v r c hfind hr (hfirst c hc)

/-- The longest run of a class is not followed by one of its characters. -/
theorem sealed_of_greedy {p : Char → Bool} (hstop : rule.stop = false) (hgreedy : Greedy p rule.dropped)
    (hfirst : ∀ c, first c = true → p c = true) : Sealed first rule := by
  intro prev s g v r c hfind hr hc
  obtain ⟨q, hhead⟩ := Rule.find_first hstop hfind
  have hnot := hgreedy q v r hhead c hr
  rw [hfirst c hc] at hnot
  cases hnot

theorem sealed_of_last (hlast : ∀ v, rule.dropped.Lang v → ∃ w c, v = w ++ [c] ∧ isWord c = false) :
    Sealed first rule := by
  intro prev s g v r c hfind _ _
  obtain ⟨-, -, hv, -, -⟩ := Rule.find_eq_some hfind
  obtain ⟨w, d, rfl, hd⟩ := hlast v hv
  rw [← List.append_assoc, lastOf_append]
  exact hd

/-! ## A bot token that a key exposes -/

/-- A key whose last character is a word's, and a bot token whose first digit is outside
    ASCII: no word begins between them until the key is replaced. -/
def KeyShape.exposed (shape : KeyShape) : Pattern Char where
  start := true
  body :=
    .seq
      (.seq shape.front <| .seq (atLeast (shape.length - 1) shape.inKey) <|
        .seq (.one fun c => shape.inKey c && isWord c) <|
        .seq (.one fun c => isDecimal c && !isAsciiAlnum c) <|
        .seq (between 5 8 isDecimal) (.one (· == ':')))
      (atLeast 20 tokenChar)
  stop := true

/-- What is asked of a shape of key. -/
structure KeyShape.Fine (shape : KeyShape) : Prop where
  length : 0 < shape.length
  front : 0 < shape.front.minLength
  inKey : ∀ c, isAsciiAlnum c = true → shape.inKey c = true
  brackets : shape.inKey '<' = false ∧ shape.inKey '>' = false
  classes : ∀ p ∈ shape.front.classesOf, p '<' = false ∧ p '>' = false
  firsts : ∀ p ∈ shape.front.firsts, ∀ c, p c = true → isAsciiAlnum c = true
  mark : ∃ label ∈ labels, shape.placeholder.toList = '<' :: (label.toList ++ ['>'])
  unlabelled : ∀ label ∈ labels,
    shape.rule.pattern.search isWord (some '<') (label.toList ++ ['>']) = false
  unlabelledExposed : ∀ label ∈ labels,
    shape.exposed.search isWord (some '<') (label.toList ++ ['>']) = false

theorem eq_of_mem_classesOf_replicate {n : Nat} {p q : Char → Bool}
    (h : p ∈ (classes (List.replicate n q)).classesOf) : p = q := by
  induction n with
  | zero => cases h
  | succ n ih =>
      obtain rfl | h := List.mem_cons.mp (show p ∈ q :: (classes (List.replicate n q)).classesOf from h)
      · rfl
      · exact ih h

theorem eq_of_mem_classesOf_atLeast {n : Nat} {p q : Char → Bool} (h : p ∈ (atLeast n q).classesOf) :
    p = q :=
  (List.mem_append.mp h).elim eq_of_mem_classesOf_replicate List.mem_singleton.mp

theorem eq_of_mem_classesOf_upTo {n : Nat} {p q : Char → Bool} (h : p ∈ (upTo q n).classesOf) :
    p = q := by
  induction n with
  | zero => cases h
  | succ n ih =>
      rw [upTo, classesOf, List.mem_append] at h
      obtain h | h := h
      · obtain h | h := List.mem_append.mp h
        · exact List.mem_singleton.mp h
        · exact ih h
      · cases h

theorem eq_of_mem_classesOf_between {n more : Nat} {p q : Char → Bool}
    (h : p ∈ (between n more q).classesOf) : p = q :=
  (List.mem_append.mp h).elim eq_of_mem_classesOf_replicate eq_of_mem_classesOf_upTo

variable {shape : KeyShape}

theorem KeyShape.Fine.token (h : shape.Fine) : Token isAsciiAlnum shape.rule.pattern where
  nonempty := by
    show 0 < 0 + (shape.front.minLength + _)
    have := h.front
    omega
  classes p hp := by
    obtain hp | hp := List.mem_append.mp (show p ∈ shape.front.classesOf ++
      (atLeast shape.length shape.inKey).classesOf from hp)
    · exact h.classes p hp
    · rw [eq_of_mem_classesOf_atLeast hp]
      exact h.brackets
  firsts p hp := by
    refine h.firsts p ?_
    have hfirsts : (Regex.seq shape.front (atLeast shape.length shape.inKey)).firsts =
        shape.front.firsts := if_neg (Nat.ne_of_gt h.front)
    rw [← hfirsts]
    exact hp
  last hstop := absurd hstop Bool.false_ne_true
  unlabelled := h.unlabelled

theorem KeyShape.Fine.token_exposed (h : shape.Fine) : Token isAsciiAlnum shape.exposed where
  nonempty := by
    show 0 < shape.front.minLength + _ + _
    have := h.front
    omega
  classes p hp := by
    simp only [KeyShape.exposed, classesOf, List.mem_append, List.mem_singleton] at hp
    -- the classes in the order of the pattern
    obtain (hp | hp | rfl | rfl | hp | rfl) | hp := hp
    · exact h.classes p hp
    · rw [eq_of_mem_classesOf_atLeast hp]
      exact h.brackets
    · show (shape.inKey '<' && isWord '<') = false ∧ (shape.inKey '>' && isWord '>') = false
      rw [h.brackets.1, h.brackets.2]
      exact ⟨rfl, rfl⟩
    · decide
    · rw [eq_of_mem_classesOf_between hp]
      decide
    · decide
    · rw [eq_of_mem_classesOf_atLeast hp]
      decide
  firsts p hp := by
    refine h.firsts p ?_
    -- the first classes are those of the front, which is not empty
    have hfront : ∀ e e' : Regex Char, ((shape.front.seq e).seq e').firsts = shape.front.firsts := by
      intro e e'
      have := h.front
      rw [Regex.firsts, if_neg (by rw [minLength]; omega), Regex.firsts, if_neg (by omega)]
    rw [← hfront]
    exact hp
  last _ u c hlang := hlang.last_mem
  unlabelled := h.unlabelledExposed

theorem KeyShape.Fine.edged (h : shape.Fine) : Edged shape.rule := by
  refine edged_whole ?_ (.inl rfl) h.mark
  have := h.front
  show 0 < shape.front.minLength + _
  omega

theorem KeyShape.Fine.sealed (h : shape.Fine) : Sealed isAsciiAlnum shape.rule :=
  sealed_of_greedy rfl ((greedy_many shape.inKey).seq _ |>.seq _) h.inKey

/-- What a bot token is made of. -/
theorem lang_botToken {x : List Char} :
    botTokenRe.pattern.body.Lang x ↔ ∃ digits key, x = digits ++ ':' :: key ∧
      (between 6 8 isDecimal).Lang digits ∧ (atLeast 20 tokenChar).Lang key := by
  constructor
  · rintro ⟨_, _, rfl, rfl, _, key, rfl, ⟨digits, _, rfl, hdigits, c, rfl, hc⟩, hkey⟩
    obtain rfl : c = ':' := by simpa using hc
    exact ⟨digits, key, by simp, hdigits, hkey⟩
  · rintro ⟨digits, key, rfl, hdigits, hkey⟩
    exact ⟨[], _, rfl, rfl, digits ++ [':'], key, by simp, ⟨digits, [':'], rfl, hdigits, ':', rfl, rfl⟩, hkey⟩

theorem head_botToken {x : List Char} (hx : botTokenRe.pattern.body.Lang x) :
    ∃ c w, x = c :: w ∧ isDecimal c = true := by
  obtain ⟨digits, key, rfl, hdigits, -⟩ := lang_botToken.mp hx
  obtain ⟨hlong, -, hall⟩ := lang_between.mp hdigits
  cases digits with
  | nil => cases hlong
  | cons c digits => exact ⟨c, _, rfl, hall c List.mem_cons_self⟩

/-- A key and a bot token that starts with a digit outside ASCII are one exposed match. -/
theorem KeyShape.Fine.exposed_at (h : shape.Fine) {prev : Option Char} {f w x r : List Char}
    (hf : shape.front.Lang f) (hw : (atLeast shape.length shape.inKey).Lang w)
    (hlast : w.getLast?.any isWord = true) (hx : botTokenRe.pattern.body.Lang x)
    (hdigit : ∀ c, x.head? = some c → isAsciiAlnum c = false)
    (hstart : wordBoundary isWord prev (f ++ w ++ (x ++ r)).head? = true)
    (hstop : wordBoundary isWord x.getLast? r.head? = true) :
    shape.exposed.At isWord prev (f ++ w ++ (x ++ r)) := by
  -- the word before the sign is long enough for the exposed part
  obtain ⟨hlong, hall⟩ := lang_atLeast.mp hw
  obtain rfl | ⟨w, last, rfl⟩ := w.eq_nil_or_concat
  · exact absurd h.length (Nat.not_lt.mpr hlong)
  rw [List.concat_eq_append] at hlong hall hlast hstart ⊢
  obtain ⟨digits, key, rfl, hdigits, hkey⟩ := lang_botToken.mp hx
  -- what follows is a bot token: digits, a colon and its key
  obtain ⟨hdlow, hdhigh, hdall⟩ := lang_between.mp hdigits
  cases digits with
  | nil => cases hdlow
  | cons c digits =>
      have hc : (isDecimal c && !isAsciiAlnum c) = true := by
        rw [hdall c List.mem_cons_self, hdigit c rfl]
        rfl
      -- the last character of the word is in the key and no digit
      have hword : isWord last = true := by simpa using hlast
      refine ⟨f ++ (w ++ [last]) ++ (c :: digits ++ ':' :: key), r, by simp, ?_, fun _ => hstart, fun _ => ?_⟩
      · refine ⟨f ++ (w ++ ([last] ++ ([c] ++ (digits ++ [':'])))), key, by simp, ?_, hkey⟩
        refine ⟨f, _, rfl, hf, w, _, rfl, lang_atLeast.mpr ⟨?_, ?_⟩, [last], _, rfl, ⟨last, rfl, ?_⟩, [c], _,
          rfl, ⟨c, rfl, hc⟩, digits, [':'], rfl, lang_between.mpr ⟨?_, ?_, ?_⟩, ':', rfl, rfl⟩
        -- each part has the length its pattern asks for
        · rw [List.length_append, List.length_singleton] at hlong
          omega
        · exact fun d hd => hall d (List.mem_append_left _ hd)
        · show (shape.inKey last && isWord last) = true
          rw [hall last (by simp), hword]
          rfl
        · exact Nat.le_of_succ_le_succ hdlow
        · exact Nat.le_of_succ_le_succ hdhigh
        · exact fun d hd => hdall d (List.mem_cons_of_mem c hd)
      · rw [lastOf_append, lastOf_of_ne_nil (by simp)]
        exact hstop

/-- A bot token begins after a key only where the two are exposed. -/
theorem KeyShape.Fine.seam (h : shape.Fine) {prev : Option Char} {f w r : List Char}
    (hf : shape.front.Lang f) (hw : (atLeast shape.length shape.inKey).Lang w)
    (hstart : wordBoundary isWord prev (f ++ w ++ r).head? = true)
    (hnext : ∀ c, r.head? = some c → isAsciiAlnum c = false)
    (hhidden : ¬ shape.exposed.Occurs isWord prev (f ++ w ++ r)) :
    botTokenRe.pattern.Seam isWord (some '>') (lastOf prev (f ++ w)) r := by
  rintro x r' rfl hx hstop - -
  obtain ⟨c, x', rfl, hc⟩ := head_botToken hx
  have hne : w ≠ [] := by
    rintro rfl
    exact absurd h.length (Nat.not_lt.mpr (lang_atLeast.mp hw).1)
  rw [lastOf_append, lastOf_of_ne_nil hne, wordBoundary, List.cons_append, List.head?_cons,
    Option.any_some, isWord_of_isDecimal hc]
  cases hlast : w.getLast?.any isWord with
  | false => rfl
  | true =>
      refine absurd (h.exposed_at hf hw hlast hx ?_ hstart (hstop rfl)).occurs hhidden
      intro d hd
      exact hnext d hd

end LlmHarness.Journal
