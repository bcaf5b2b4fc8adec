/-
  LlmHarness.Python.Shlex

  `shlex.shlex` with `posix=True` and `whitespace_split=True`: the lexer of
  `shlex.split`, and the one with `punctuation_chars=True` and the comment
  character `#`.

  Apart from comments both read quotes and escapes alike: `marks` says what each
  character of a text is to them, and their tokens are a grouping of the marks.
  `uncomment` cuts the comments out.
-/

import LlmHarness.Python.Str

namespace LlmHarness.Python

/-! ## The lexer -/

/-- `shlex.whitespace`. -/
def isShlexSpace (c : Char) : Bool := c = ' ' || c = '\t' || c = '\r' || c = '\n'

/-- `shlex.quotes`. -/
def isQuote (c : Char) : Bool := c = '\'' || c = '"'

/-- The characters of `punctuation_chars=True`. -/
def isPunctuation (c : Char) : Bool :=
  c = '(' || c = ')' || c = ';' || c = '<' || c = '>' || c = '|' || c = '&'

/-- `ValueError` of the lexer. -/
inductive ShlexError where
  | noClosingQuotation
  | noEscapedCharacter
deriving DecidableEq, Repr

/-- The text of the error. -/
def ShlexError.text : ShlexError → String
  | .noClosingQuotation => "No closing quotation"
  | .noEscapedCharacter => "No escaped character"

/-- What the two lexers differ in. -/
structure LexConfig where
  comments : Bool
  punctuation : Bool

/-- `self.state`, with `escapedstate` in the escape state (`none` for a word); `comment`
    while `readline` runs. -/
inductive LexState where
  | space
  | comment
  | word
  | punctuation
  | quote (q : Char)
  | escape (back : Option Char)
deriving DecidableEq

section

variable (config : LexConfig)

/-- A character that starts a comment. -/
def LexConfig.isComment (c : Char) : Bool := config.comments && c = '#'

/-- A character that is a token with its neighbours. -/
def LexConfig.isControl (c : Char) : Bool := config.punctuation && isPunctuation c

/-- The state and the token after a character in the space state. -/
def LexConfig.start (c : Char) : LexState × Text :=
  if isShlexSpace c then (.space, [])
  else if config.isComment c then (.comment, [])
  else if c = '\\' then (.escape none, [])
  else if config.isControl c then (.punctuation, [c])
  else if isQuote c then (.quote c, [])
  else (.word, [c])

/-- What an escaped character adds to the token: in quotes only the quote and the
    backslash lose the backslash before them. -/
def escaped : Option Char → Char → Text
  | some q, c => if c ≠ '\\' ∧ c ≠ q then ['\\', c] else [c]
  | none, c => [c]

/-- The token is returned when it is not empty or was quoted. -/
def emit (token : Text) (quoted : Bool) (tokens : List Text) : List Text :=
  if token = [] ∧ quoted = false then tokens else token :: tokens

/-- `read_token` until the end of the text.  A character that ends a token without
    belonging to it is read again in the space state. -/
def lexFrom (state : LexState) (token : Text) (quoted : Bool) : Text → Except ShlexError (List Text)
  | [] =>
    match state with
    | .space | .comment => .ok []
    | .word | .punctuation => .ok (emit token quoted [])
    | .quote _ => .error .noClosingQuotation
    | .escape _ => .error .noEscapedCharacter
  | c :: cs =>
    match state with
    | .space => lexFrom (config.start c).1 (config.start c).2 false cs
    | .comment => lexFrom (if c = '\n' then .space else .comment) [] false cs
    | .word =>
      if isShlexSpace c || config.isComment c || config.isControl c then
        (lexFrom (config.start c).1 (config.start c).2 false cs).map (emit token quoted)
      else if isQuote c then lexFrom (.quote c) token quoted cs
      else if c = '\\' then lexFrom (.escape none) token quoted cs
      else lexFrom .word (token ++ [c]) quoted cs
    | .punctuation =>
      if config.isControl c then lexFrom .punctuation (token ++ [c]) quoted cs
      else (lexFrom (config.start c).1 (config.start c).2 false cs).map (emit token quoted)
    | .quote q =>
      if c = q then lexFrom .word token true cs
      else if c = '\\' ∧ q = '"' then lexFrom (.escape (some q)) token true cs
      else lexFrom (.quote q) (token ++ [c]) true cs
    | .escape back => lexFrom (back.elim .word .quote) (token ++ escaped back c) quoted cs

theorem lexFrom_word_boundary (token : Text) (quoted : Bool) {c : Char} (cs : Text)
    (hc : (isShlexSpace c || config.isComment c || config.isControl c) = true) :
    lexFrom config .word token quoted (c :: cs) =
      (lexFrom config .space [] false (c :: cs)).map (emit token quoted) := if_pos hc

theorem lexFrom_word_inside (token : Text) (quoted : Bool) {c : Char} (cs : Text)
    (hc : ¬ (isShlexSpace c || config.isComment c || config.isControl c) = true) :
    lexFrom config .word token quoted (c :: cs) =
      if isQuote c then lexFrom config (.quote c) token quoted cs
      else if c = '\\' then lexFrom config (.escape none) token quoted cs
      else lexFrom config .word (token ++ [c]) quoted cs := if_neg hc

theorem lexFrom_punctuation_inside (token : Text) (quoted : Bool) {c : Char} (cs : Text)
    (hc : config.isControl c = true) :
    lexFrom config .punctuation token quoted (c :: cs) =
      lexFrom config .punctuation (token ++ [c]) quoted cs := if_pos hc

theorem lexFrom_punctuation_boundary (token : Text) (quoted : Bool) {c : Char}
    (cs : Text) (hc : ¬ config.isControl c = true) :
    lexFrom config .punctuation token quoted (c :: cs) =
      (lexFrom config .space [] false (c :: cs)).map (emit token quoted) := if_neg hc

end

/-- `shlex.split(text)`. -/
def shlexSplit (text : Text) : Except ShlexError (List Text) := lexFrom ⟨false, false⟩ .space [] false text

/-- `list(lexer)` of the lexer with punctuation and comments. -/
def punctuationTokens (text : Text) : Except ShlexError (List Text) :=
  lexFrom ⟨true, true⟩ .space [] false text

/-! ## Quoting -/

/-- Where a reader of quotes and escapes stands. -/
inductive Quoting where
  | outside
  | escaped
  | quotation (q : Char)
  | escapedIn (q : Char)
deriving DecidableEq

/-- ... after one more character. -/
def Quoting.next : Quoting → Char → Quoting
  | .outside, c => if c = '\\' then .escaped else if isQuote c then .quotation c else .outside
  | .escaped, _ => .outside
  | .quotation q, c =>
    if c = q then .outside else if c = '\\' ∧ q = '"' then .escapedIn q else .quotation q
  | .escapedIn q, _ => .quotation q

/-- The text holds a character with the property outside quotes and not escaped. -/
def HasUnquoted (p : Char → Bool) (text : Text) : Prop :=
  ∃ before c after, text = before ++ c :: after ∧
    before.foldl Quoting.next .outside = .outside ∧ p c = true

/-- ... read from a place in the text. -/
def unquotedFrom (p : Char → Bool) : Quoting → Text → Bool
  | _, [] => false
  | state, c :: cs => (decide (state = .outside) && p c) || unquotedFrom p (state.next c) cs

theorem unquotedFrom_iff (p : Char → Bool) (state : Quoting) (text : Text) :
    unquotedFrom p state text = true ↔ ∃ before c after, text = before ++ c :: after ∧
      before.foldl Quoting.next state = .outside ∧ p c = true := by
  induction text generalizing state with
  | nil => simp [unquotedFrom]
  | cons d cs ih =>
      rw [unquotedFrom, Bool.or_eq_true, Bool.and_eq_true, decide_eq_true_eq, ih]
      constructor
      · rintro (⟨hstate, hd⟩ | ⟨before, c, after, rfl, hbefore, hc⟩)
        · exact ⟨[], d, cs, rfl, hstate, hd⟩
        · exact ⟨d :: before, c, after, rfl, hbefore, hc⟩
      · rintro ⟨before, c, after, htext, hbefore, hc⟩
        cases before with
        | nil =>
            obtain ⟨rfl, rfl⟩ := List.cons.inj htext
            exact .inl ⟨hbefore, hc⟩
        | cons e before =>
            obtain ⟨rfl, rfl⟩ := List.cons.inj htext
            exact .inr ⟨before, c, after, rfl, hbefore, hc⟩

theorem hasUnquoted_iff (p : Char → Bool) (text : Text) :
    HasUnquoted p text ↔ unquotedFrom p .outside text = true := (unquotedFrom_iff p .outside text).symm

instance (p : Char → Bool) (text : Text) : Decidable (HasUnquoted p text) :=
  decidable_of_iff _ (hasUnquoted_iff p text).symm

/-- What a character is to the lexers: unquoted, the content of a word whatever it is,
    or a quotation mark, which makes a word of its own. -/
inductive Mark where
  | plain (c : Char)
  | kept (c : Char)
  | quotes
deriving DecidableEq

/-- The marks of one character. -/
def Quoting.mark : Quoting → Char → List Mark
  | .outside, c => if c = '\\' then [] else if isQuote c then [.quotes] else [.plain c]
  | .escaped, c => [.kept c]
  | .quotation q, c => if c = q then [] else if c = '\\' ∧ q = '"' then [] else [.kept c]
  | .escapedIn q, c => (Python.escaped (some q) c).map .kept

/-- The marks of a text, if no quotation or escape is left open. -/
def marksFrom : Quoting → Text → Option (List Mark)
  | state, [] => if state = .outside then some [] else none
  | state, c :: cs => (marksFrom (state.next c) cs).map (state.mark c ++ ·)

/-- The token the grouping is in. -/
inductive Cell where
  | idle
  | word (token : Text)
  | punctuation (token : Text)

/-- The tokens of a list of marks. -/
def group (punctuation : Bool) : Cell → List Mark → List Text
  | .idle, [] => []
  | .word token, [] | .punctuation token, [] => [token]
  | .idle, .plain c :: ms =>
    if isShlexSpace c then group punctuation .idle ms
    else if punctuation && isPunctuation c then group punctuation (.punctuation [c]) ms
    else group punctuation (.word [c]) ms
  | .idle, .kept c :: ms => group punctuation (.word [c]) ms
  | .idle, .quotes :: ms => group punctuation (.word []) ms
  | .word token, .plain c :: ms =>
    if isShlexSpace c then token :: group punctuation .idle ms
    else if punctuation && isPunctuation c then token :: group punctuation (.punctuation [c]) ms
    else group punctuation (.word (token ++ [c])) ms
  | .word token, .kept c :: ms => group punctuation (.word (token ++ [c])) ms
  | .word token, .quotes :: ms => group punctuation (.word token) ms
  | .punctuation token, .plain c :: ms =>
    if isShlexSpace c then token :: group punctuation .idle ms
    else if punctuation && isPunctuation c then group punctuation (.punctuation (token ++ [c])) ms
    else token :: group punctuation (.word [c]) ms
  | .punctuation token, .kept c :: ms => token :: group punctuation (.word [c]) ms
  | .punctuation token, .quotes :: ms => token :: group punctuation (.word []) ms

/-! ## The tokens are a grouping of the marks -/

/-- The quoting a state of the lexer stands for. -/
def LexState.quoting : LexState → Quoting
  | .space | .comment | .word | .punctuation => .outside
  | .quote q => .quotation q
  | .escape none => .escaped
  | .escape (some q) => .escapedIn q

/-- The token a state of the lexer stands for.  An escape that opens a word has no token yet. -/
def LexState.cell (token : Text) (quoted : Bool) : LexState → Cell
  | .space | .comment => .idle
  | .word | .quote _ | .escape (some _) => .word token
  | .punctuation => .punctuation token
  | .escape none => if token = [] ∧ quoted = false then .idle else .word token

/-- A state that a lexer without comments reaches with the token. -/
def LexState.Live (token : Text) (quoted : Bool) : LexState → Prop
  | .comment => False
  | .word => ¬ (token = [] ∧ quoted = false)
  | .punctuation => token ≠ []
  | .space | .quote _ | .escape _ => True

theorem emit_of_live {token : Text} {quoted : Bool} (h : ¬ (token = [] ∧ quoted = false))
    (tokens : List Text) : emit token quoted tokens = token :: tokens := by
  rw [emit, if_neg h]

theorem toOption_map_emit {token : Text} {quoted : Bool} (h : ¬ (token = [] ∧ quoted = false))
    (tokens : Except ShlexError (List Text)) :
    (tokens.map (emit token quoted)).toOption = tokens.toOption.map (token :: ·) := by
  have hemit : emit token quoted = (token :: ·) := funext (emit_of_live h)
  rw [hemit]
  cases tokens <;> rfl

theorem not_backslash_of_space {c : Char} (h : isShlexSpace c = true) : c ≠ '\\' ∧ isQuote c = false := by
  constructor
  · rintro rfl
    exact absurd h (by decide)
  · simp only [isShlexSpace, Bool.or_eq_true, decide_eq_true_eq] at h
    rcases h with ((rfl | rfl) | rfl) | rfl <;> decide

theorem not_backslash_of_punctuation {c : Char} (h : isPunctuation c = true) :
    c ≠ '\\' ∧ isQuote c = false ∧ isShlexSpace c = false := by
  refine ⟨?_, ?_⟩
  · rintro rfl
    exact absurd h (by decide)
  · simp only [isPunctuation, Bool.or_eq_true, decide_eq_true_eq] at h
    rcases h with (((((rfl | rfl) | rfl) | rfl) | rfl) | rfl) | rfl <;> decide

section

variable (punctuation : Bool)

/-- What a character does in the space state. -/
theorem start_spec (c : Char) :
    ((LexConfig.mk false punctuation).start c).1.Live ((LexConfig.mk false punctuation).start c).2 false ∧
    ((LexConfig.mk false punctuation).start c).1.quoting = Quoting.next .outside c ∧
    ∀ ms, group punctuation .idle (Quoting.mark .outside c ++ ms) =
      group punctuation
        (((LexConfig.mk false punctuation).start c).1.cell ((LexConfig.mk false punctuation).start c).2 false) ms := by
  unfold LexConfig.start
  by_cases hspace : isShlexSpace c = true
  · have hc := not_backslash_of_space hspace
    simp [hspace, LexState.Live, LexState.quoting, LexState.cell, Quoting.next, Quoting.mark, hc.1, hc.2, group]
  · by_cases hback : c = '\\'
    · subst hback
      simp [isShlexSpace, LexConfig.isComment, LexState.Live, LexState.quoting, LexState.cell,
        Quoting.next, Quoting.mark]
    · by_cases hcontrol : (LexConfig.mk false punctuation).isControl c = true
      · have hparts : punctuation = true ∧ isPunctuation c = true := by
          simpa [LexConfig.isControl] using hcontrol
        obtain ⟨rfl, hpunctuation⟩ := hparts
        have hc := not_backslash_of_punctuation hpunctuation
        simp [hspace, hback, hcontrol, LexConfig.isComment, LexState.Live, LexState.quoting, LexState.cell,
          Quoting.next, Quoting.mark, hc.2.1, group, hpunctuation]
      · have hplain : (punctuation && isPunctuation c) = false := by
          simpa [LexConfig.isControl] using hcontrol
        by_cases hquote : isQuote c = true
        · simp [hspace, hback, hcontrol, hquote, LexConfig.isComment, LexState.Live, LexState.quoting,
            LexState.cell, Quoting.next, Quoting.mark, group]
        · simp [hspace, hback, hcontrol, hquote, LexConfig.isComment, LexState.Live, LexState.quoting,
            LexState.cell, Quoting.next, Quoting.mark, group, hplain]

theorem marksFrom_cons {state : Quoting} {c : Char} {cs : Text} {ms : List Mark}
    (h : marksFrom state (c :: cs) = some ms) :
    ∃ rest, marksFrom (state.next c) cs = some rest ∧ ms = state.mark c ++ rest := by
  rw [marksFrom, Option.map_eq_some_iff] at h
  obtain ⟨rest, hrest, hms⟩ := h
  exact ⟨rest, hrest, hms.symm⟩

/-- The character after a backslash is kept, and so begins or continues a word. -/
theorem marksFrom_escaped {cs : Text} {ms : List Mark} (h : marksFrom .escaped cs = some ms) :
    ∃ c rest, ms = .kept c :: rest := by
  cases cs with
  | nil => simp [marksFrom] at h
  | cons c cs =>
      obtain ⟨rest, -, hms⟩ := marksFrom_cons h
      exact ⟨c, rest, hms⟩

theorem group_word_kept (token kept : Text) (ms : List Mark) :
    group punctuation (.word token) (kept.map .kept ++ ms) = group punctuation (.word (token ++ kept)) ms := by
  induction kept generalizing token with
  | nil => simp
  | cons c kept ih =>
      show group punctuation (.word (token ++ [c])) (kept.map .kept ++ ms) = _
      rw [ih, List.append_assoc]
      rfl

/-- A character that ends a word is read again after it. -/
theorem group_word_boundary {token cs : Text} {c : Char} {ms : List Mark}
    (hc : (isShlexSpace c || (punctuation && isPunctuation c)) = true)
    (h : marksFrom .outside (c :: cs) = some ms) :
    group punctuation (.word token) ms = token :: group punctuation .idle ms := by
  obtain ⟨rest, -, rfl⟩ := marksFrom_cons h
  by_cases hspace : isShlexSpace c = true
  · have hplain := not_backslash_of_space hspace
    simp [Quoting.mark, hplain.1, hplain.2, group, hspace]
  · have hcontrol : punctuation = true ∧ isPunctuation c = true := by simpa [hspace] using hc
    obtain ⟨rfl, hpunctuation⟩ := hcontrol
    have hplain := not_backslash_of_punctuation hpunctuation
    simp [Quoting.mark, hplain.1, hplain.2.1, group, hspace, hpunctuation]

/-- A character that is no punctuation ends a token of it. -/
theorem group_punctuation_boundary {token cs : Text} {c : Char} {ms : List Mark}
    (hc : (punctuation && isPunctuation c) = false) (h : marksFrom .outside (c :: cs) = some ms) :
    group punctuation (.punctuation token) ms = token :: group punctuation .idle ms := by
  obtain ⟨rest, hrest, rfl⟩ := marksFrom_cons h
  by_cases hback : c = '\\'
  · subst hback
    obtain ⟨d, tail, rfl⟩ := marksFrom_escaped hrest
    rfl
  · by_cases hquote : isQuote c = true
    · simp [Quoting.mark, hback, hquote, group]
    · by_cases hspace : isShlexSpace c = true <;>
        simp [Quoting.mark, hback, hquote, group, hspace, hc]

theorem start_comments {comments : Bool} {c : Char} (h : comments = true → c ≠ '#') :
    (LexConfig.mk comments punctuation).start c = (LexConfig.mk false punctuation).start c := by
  have hcomment : (LexConfig.mk comments punctuation).isComment c = false := by
    cases comments with
    | false => rfl
    | true => simp [LexConfig.isComment, h rfl]
  simp only [LexConfig.start, hcomment]
  rfl

/-- The character goes on with the token: the lexers with and without comments take it
    into the same live state, which stands for the quoting and the token after it. -/
structure LexState.Continues (state : LexState) (token : Text) (quoted : Bool) (c : Char)
    (state' : LexState) (token' : Text) (quoted' : Bool) : Prop where
  live : state'.Live token' quoted'
  quoting : state'.quoting = state.quoting.next c
  marks : ∀ ms, group punctuation (state.cell token quoted) (state.quoting.mark c ++ ms) =
    group punctuation (state'.cell token' quoted') ms
  reads : ∀ comments, (comments = true → ¬ (state.quoting = .outside ∧ c = '#')) → ∀ cs,
    lexFrom ⟨comments, punctuation⟩ state token quoted (c :: cs) =
      lexFrom ⟨comments, punctuation⟩ state' token' quoted' cs

/-- The character ends the token: it is read again in the space state. -/
structure LexState.Ends (state : LexState) (token : Text) (quoted : Bool) (c : Char) : Prop where
  outside : state.quoting = .outside
  given : ¬ (token = [] ∧ quoted = false)
  marks : ∀ cs ms, marksFrom .outside (c :: cs) = some ms →
    group punctuation (state.cell token quoted) ms = token :: group punctuation .idle ms
  reads : ∀ comments cs, lexFrom ⟨comments, punctuation⟩ state token quoted (c :: cs) =
    (lexFrom ⟨comments, punctuation⟩ .space [] false (c :: cs)).map (emit token quoted)

/-- The live states one character can lead to from a live state. -/
def LexState.Reads (state : LexState) (token : Text) (quoted : Bool) (c : Char) : Prop :=
  (∃ state' token' quoted', LexState.Continues punctuation state token quoted c state' token' quoted') ∨
    LexState.Ends punctuation state token quoted c

theorem continues_space (token : Text) (quoted : Bool) (c : Char) :
    LexState.Continues punctuation .space token quoted c ((LexConfig.mk false punctuation).start c).1
      ((LexConfig.mk false punctuation).start c).2 false where
  live := (start_spec punctuation c).1
  quoting := (start_spec punctuation c).2.1
  marks := (start_spec punctuation c).2.2
  reads := by
    intro comments hplain cs
    have hc : comments = true → c ≠ '#' := fun hcomments hc => hplain hcomments ⟨rfl, hc⟩
    rw [lexFrom, start_comments punctuation hc]

/-- A word ends at white space and at punctuation, and goes on with everything else. -/
theorem reads_word {token : Text} {quoted : Bool} (hlive : LexState.word.Live token quoted) (c : Char) :
    LexState.Reads punctuation .word token quoted c := by
  by_cases hend : (isShlexSpace c || (punctuation && isPunctuation c)) = true
  · refine .inr ⟨rfl, hlive, fun cs ms hms => group_word_boundary punctuation hend hms, fun comments cs => ?_⟩
    -- The token ends here.
    refine lexFrom_word_boundary _ _ _ _ ?_
    rcases Bool.or_eq_true_iff.mp hend with hspace | hcontrol
    · rw [hspace, Bool.true_or, Bool.true_or]
    · exact Bool.or_eq_true_iff.mpr (.inr hcontrol)
  · have hinside : isShlexSpace c = false ∧ (punctuation && isPunctuation c) = false := by
      simpa using hend
    -- A character that is no boundary stays in the word, and no comment begins at it.
    have hword : ∀ comments, (comments = true → ¬ (LexState.word.quoting = .outside ∧ c = '#')) →
        ¬ (isShlexSpace c || (LexConfig.mk comments punctuation).isComment c ||
          (LexConfig.mk comments punctuation).isControl c) = true := by
      intro comments hplain
      have hcomment : (LexConfig.mk comments punctuation).isComment c = false := by
        rw [LexConfig.isComment, Bool.and_eq_false_iff]
        cases comments with
        | false => exact .inl rfl
        | true => exact .inr (decide_eq_false fun hc => hplain rfl ⟨rfl, hc⟩)
      rw [hcomment, Bool.or_false]
      exact hend
    by_cases hquote : isQuote c = true
    -- A quote opens a quoted part of the same word.
    · have hback : c ≠ '\\' := by
        rintro rfl
        exact absurd hquote (by decide)
      refine .inl ⟨.quote c, token, quoted, trivial, ?_, fun ms => ?_, fun comments hplain cs => ?_⟩
      · simp only [LexState.quoting, Quoting.next, if_neg hback, if_pos hquote]
      · simp only [LexState.quoting, Quoting.mark, if_neg hback, if_pos hquote]
        rfl
      · rw [lexFrom_word_inside _ _ _ _ (hword comments hplain), if_pos hquote]
    · by_cases hback : c = '\\'
      -- A backslash takes the next character into the word.
      · have hcell : (LexState.escape none).cell token quoted = .word token := if_neg hlive
        refine .inl ⟨.escape none, token, quoted, trivial, ?_, fun ms => ?_, fun comments hplain cs => ?_⟩
        · simp only [LexState.quoting, Quoting.next, if_pos hback]
        · simp only [LexState.quoting, Quoting.mark, if_pos hback, hcell]
          rfl
        · rw [lexFrom_word_inside _ _ _ _ (hword comments hplain), if_neg hquote, if_pos hback]
      · refine .inl ⟨.word, token ++ [c], quoted, fun hempty => by simp at hempty, ?_, fun ms => ?_,
          fun comments hplain cs => ?_⟩
        · simp only [LexState.quoting, Quoting.next, if_neg hback, if_neg hquote]
        · simp [LexState.quoting, Quoting.mark, hback, hquote, LexState.cell, group, hinside.1, hinside.2]
        · rw [lexFrom_word_inside _ _ _ _ (hword comments hplain), if_neg hquote, if_neg hback]

/-- A token of punctuation ends where it does. -/
theorem reads_punctuation {token : Text} (quoted : Bool) (hlive : token ≠ []) (c : Char) :
    LexState.Reads punctuation .punctuation token quoted c := by
  by_cases hcontrol : (punctuation && isPunctuation c) = true
  · obtain ⟨rfl, hpunctuation⟩ := Bool.and_eq_true_iff.mp hcontrol
    have hplain := not_backslash_of_punctuation hpunctuation
    refine .inl ⟨.punctuation, token ++ [c], quoted, by simp [LexState.Live], ?_, fun ms => ?_,
      fun comments _ cs => lexFrom_punctuation_inside _ _ _ _ hcontrol⟩
    · simp only [LexState.quoting, Quoting.next, if_neg hplain.1, hplain.2.1]
      rfl
    · simp [LexState.quoting, Quoting.mark, hplain.1, hplain.2.1, LexState.cell, group, hplain.2.2, hpunctuation]
  · exact .inr ⟨rfl, fun hempty => hlive hempty.1,
      fun cs ms hms => group_punctuation_boundary punctuation (Bool.not_eq_true _ ▸ hcontrol) hms,
      fun comments cs => lexFrom_punctuation_boundary _ _ _ _ hcontrol⟩

/-- A quotation goes on until its mark, and makes a word of what is in it. -/
theorem reads_quote (q : Char) (token : Text) (quoted : Bool) (c : Char) :
    LexState.Reads punctuation (.quote q) token quoted c := by
  refine .inl ?_
  by_cases hclose : c = q
  · have hclosed : LexState.word.Live token true := fun hempty => nomatch hempty.2
    refine ⟨.word, token, true, hclosed, ?_, fun ms => ?_, fun comments _ cs => ?_⟩
    · simp only [LexState.quoting, Quoting.next, if_pos hclose]
    · simp only [LexState.quoting, Quoting.mark, if_pos hclose]
      rfl
    · rw [lexFrom, if_pos hclose]
  · by_cases hback : c = '\\' ∧ q = '"'
    · refine ⟨.escape (some q), token, true, trivial, ?_, fun ms => ?_, fun comments _ cs => ?_⟩
      · simp only [LexState.quoting, Quoting.next, if_neg hclose, if_pos hback]
      · simp only [LexState.quoting, Quoting.mark, if_neg hclose, if_pos hback]
        rfl
      · rw [lexFrom, if_neg hclose, if_pos hback]
    · refine ⟨.quote q, token ++ [c], true, trivial, ?_, fun ms => ?_, fun comments _ cs => ?_⟩
      · simp only [LexState.quoting, Quoting.next, if_neg hclose, if_neg hback]
      · simp only [LexState.quoting, Quoting.mark, if_neg hclose, if_neg hback]
        rfl
      · rw [lexFrom, if_neg hclose, if_neg hback]

/-- An escaped character is content of the word or of the quotation, whatever it is. -/
theorem reads_escape (back : Option Char) (token : Text) (quoted : Bool) (c : Char) :
    LexState.Reads punctuation (.escape back) token quoted c := by
  cases back with
  | none =>
      refine .inl ⟨.word, token ++ [c], quoted, fun hempty => by simp at hempty, rfl, fun ms => ?_,
        fun comments _ cs => rfl⟩
      show group punctuation ((LexState.escape none).cell token quoted) (.kept c :: ms) =
        group punctuation (.word (token ++ [c])) ms
      -- the escape opens the word, or is in it
      by_cases hempty : token = [] ∧ quoted = false
      · rw [LexState.cell, if_pos hempty, hempty.1]
        rfl
      · rw [LexState.cell, if_neg hempty]
        rfl
  | some q =>
      exact .inl ⟨.quote q, token ++ escaped (some q) c, quoted, trivial, rfl,
        fun ms => group_word_kept punctuation token _ ms, fun comments _ cs => rfl⟩

/-- What one character does in a live state, with comments or without. -/
theorem reads_of_live {state : LexState} {token : Text} {quoted : Bool} (hlive : state.Live token quoted)
    (c : Char) : LexState.Reads punctuation state token quoted c := by
  cases state with
  | space => exact .inl ⟨_, _, _, continues_space punctuation token quoted c⟩
  | comment => exact absurd hlive not_false
  | word => exact reads_word punctuation hlive c
  | punctuation => exact reads_punctuation punctuation quoted hlive c
  | quote q => exact reads_quote punctuation q token quoted c
  | escape back => exact reads_escape punctuation back token quoted c

/-- Without comments the lexer returns the grouping of the marks, and fails where a
    quotation or an escape is left open. -/
theorem lexFrom_toOption (cs : Text) (state : LexState) (token : Text) (quoted : Bool)
    (hlive : state.Live token quoted) :
    (lexFrom ⟨false, punctuation⟩ state token quoted cs).toOption =
      (marksFrom state.quoting cs).map (group punctuation (state.cell token quoted)) := by
  induction cs generalizing state token quoted with
  | nil =>
      cases state with
      | space => rfl
      | comment => exact absurd hlive not_false
      | word =>
          show some (emit token quoted []) = some [token]
          rw [emit_of_live hlive]
      | punctuation =>
          show some (emit token quoted []) = some [token]
          rw [emit_of_live fun hempty => hlive hempty.1]
      | quote q => rfl
      | escape back => cases back <;> rfl
  | cons c cs ih =>
      -- Where the token goes on, the induction is used on the rest as it is.
      have hcontinues {state : LexState} {token : Text} {quoted : Bool} {state' : LexState} {token' : Text}
          {quoted' : Bool} (h : LexState.Continues punctuation state token quoted c state' token' quoted') :
          (lexFrom ⟨false, punctuation⟩ state token quoted (c :: cs)).toOption =
            (marksFrom state.quoting (c :: cs)).map (group punctuation (state.cell token quoted)) := by
        rw [h.reads false (fun hfalse => absurd hfalse Bool.false_ne_true), ih _ _ _ h.live, h.quoting,
          marksFrom, Option.map_map]
        exact Option.map_congr fun ms _ => (h.marks ms).symm
      rcases reads_of_live punctuation hlive c with ⟨state', token', quoted', h⟩ | h
      · exact hcontinues h
      · -- the character that ends the token is the first one of the rest
        have hspace : (lexFrom ⟨false, punctuation⟩ .space [] false (c :: cs)).toOption =
            (marksFrom .outside (c :: cs)).map (group punctuation .idle) :=
          hcontinues (continues_space punctuation [] false c)
        rw [h.reads, toOption_map_emit h.given, hspace, h.outside, Option.map_map]
        exact Option.map_congr fun ms hms => (h.marks cs ms hms).symm

end

/-! ## Comments -/

/-- The text without its comments, from a place in a comment (`none`) or not.  The line
    end that closes a comment stays. -/
def uncommentFrom : Option Quoting → Text → Text
  | _, [] => []
  | none, c :: cs => if c = '\n' then c :: uncommentFrom (some .outside) cs else uncommentFrom none cs
  | some state, c :: cs =>
    if state = .outside ∧ c = '#' then uncommentFrom none cs
    else c :: uncommentFrom (some (state.next c)) cs

/-- The text without the comments of a lexer with the comment character `#`. -/
def uncomment (text : Text) : Text := uncommentFrom (some .outside) text

section

variable (punctuation : Bool)

/-- The space state has no token. -/
theorem lexFrom_space (config : LexConfig) (token : Text) (quoted : Bool) (cs : Text) :
    lexFrom config .space token quoted cs = lexFrom config .space [] false cs := by
  cases cs <;> rfl

/-- What is left of a text after a comment begins with the line end, if with anything. -/
theorem uncommentFrom_none (cs : Text) :
    uncommentFrom none cs = [] ∨ ∃ rest, uncommentFrom none cs = '\n' :: rest := by
  induction cs with
  | nil => exact .inl rfl
  | cons c cs ih =>
      rw [uncommentFrom]
      by_cases hc : c = '\n'
      · rw [if_pos hc, hc]
        exact .inr ⟨_, rfl⟩
      · rw [if_neg hc]
        exact ih

theorem lexFrom_word_uncommented (token : Text) (quoted : Bool) (cs : Text) :
    lexFrom ⟨false, punctuation⟩ .word token quoted (uncommentFrom none cs) =
      (lexFrom ⟨false, punctuation⟩ .space [] false (uncommentFrom none cs)).map (emit token quoted) := by
  rcases uncommentFrom_none cs with hnil | ⟨rest, hrest⟩
  · rw [hnil]
    rfl
  · rw [hrest]
    rfl

theorem lexFrom_punctuation_uncommented (token : Text) (quoted : Bool) (cs : Text) :
    lexFrom ⟨false, punctuation⟩ .punctuation token quoted (uncommentFrom none cs) =
      (lexFrom ⟨false, punctuation⟩ .space [] false (uncommentFrom none cs)).map (emit token quoted) := by
  rcases uncommentFrom_none cs with hnil | ⟨rest, hrest⟩
  · rw [hnil]
    rfl
  · rw [hrest]
    cases punctuation <;> rfl

/-- A lexer with comments reads a text as one without reads it uncommented. -/
theorem lexFrom_uncomment (cs : Text) :
    (∀ state token quoted, LexState.Live token quoted state →
      lexFrom ⟨true, punctuation⟩ state token quoted cs =
        lexFrom ⟨false, punctuation⟩ state token quoted (uncommentFrom (some state.quoting) cs)) ∧
    lexFrom ⟨true, punctuation⟩ .comment [] false cs =
      lexFrom ⟨false, punctuation⟩ .space [] false (uncommentFrom none cs) := by
  induction cs with
  | nil => exact ⟨fun state token quoted _ => by cases state <;> rfl, rfl⟩
  | cons c cs ih =>
      obtain ⟨ihtoken, ihcomment⟩ := ih
      refine ⟨fun state token quoted hlive => ?_, ?_⟩
      · by_cases hcomment : state.quoting = .outside ∧ c = '#'
        · -- the comment ends the token
          obtain ⟨hquoting, rfl⟩ := hcomment
          rw [uncommentFrom, if_pos ⟨hquoting, rfl⟩]
          cases state with
          | space =>
              rw [lexFrom_space ⟨false, punctuation⟩]
              exact ihcomment
          | comment => exact absurd hlive not_false
          | word =>
              rw [lexFrom_word_uncommented, ← ihcomment]
              rfl
          | punctuation =>
              rw [lexFrom_punctuation_uncommented, ← ihcomment]
              cases punctuation <;> rfl
          | quote q => exact absurd hquoting (by simp [LexState.quoting])
          | escape back => cases back <;> exact absurd hquoting (by simp [LexState.quoting])
        · -- the lexers take the same step, and the text keeps the character
          rw [uncommentFrom, if_neg hcomment]
          have hplain : false = true → ¬ (state.quoting = .outside ∧ c = '#') :=
            fun hfalse => absurd hfalse Bool.false_ne_true
          rcases reads_of_live punctuation hlive c with ⟨state', token', quoted', h⟩ | h
          · rw [h.reads true fun _ => hcomment, h.reads false hplain, ihtoken _ _ _ h.live, h.quoting]
          · have hspace := continues_space punctuation [] false c
            rw [h.outside] at hcomment hplain ⊢
            rw [h.reads, h.reads, hspace.reads true fun _ => hcomment, hspace.reads false hplain,
              ihtoken _ _ _ hspace.live, hspace.quoting]
            rfl
      · rw [lexFrom, uncommentFrom]
        -- Inside a comment only the end of the line matters.
        by_cases hc : c = '\n'
        · rw [if_pos hc, if_pos hc, hc, ihtoken .space [] false trivial]
          rfl
        · rw [if_neg hc, if_neg hc]
          exact ihcomment

end

/-- A text without an unquoted `#` has no comment. -/
theorem uncommentFrom_of_no_comment {text : Text} {state : Quoting}
    (h : unquotedFrom (fun c => decide (c = '#')) state text = false) :
    uncommentFrom (some state) text = text := by
  induction text generalizing state with
  | nil => rfl
  | cons c cs ih =>
      rw [unquotedFrom, Bool.or_eq_false_iff] at h
      have hplain : ¬ (state = .outside ∧ c = '#') := by simpa using h.1
      rw [uncommentFrom, if_neg hplain, ih h.2]

theorem uncomment_of_no_comment {text : Text} (h : ¬ HasUnquoted (fun c => decide (c = '#')) text) :
    uncomment text = text := by
  rw [hasUnquoted_iff, Bool.not_eq_true] at h
  exact uncommentFrom_of_no_comment h

/-! ## Operators -/

/-- A token of punctuation only. -/
def IsOperator (token : Text) : Prop := token ≠ [] ∧ ∀ c ∈ token, isPunctuation c = true

instance (token : Text) : Decidable (IsOperator token) := inferInstanceAs (Decidable (_ ∧ _))

/-- The plain marks are the unquoted characters, other than backslashes and quotation marks. -/
theorem plain_mem_marks_iff {p : Char → Bool} (hp : ∀ c, p c = true → c ≠ '\\' ∧ isQuote c = false)
    {state : Quoting} {cs : Text} {ms : List Mark} (h : marksFrom state cs = some ms) :
    (∃ c, .plain c ∈ ms ∧ p c = true) ↔ unquotedFrom p state cs = true := by
  induction cs generalizing state ms with
  | nil =>
      have hms : ms = [] := by
        rw [marksFrom] at h
        split_ifs at h
        exact (Option.some.inj h).symm
      simp [hms, unquotedFrom]
  | cons d cs ih =>
      obtain ⟨rest, hrest, rfl⟩ := marksFrom_cons h
      rw [unquotedFrom, Bool.or_eq_true, Bool.and_eq_true, decide_eq_true_eq, ← ih hrest]
      -- Only outside of quotes is a mark plain, and then for this character itself.
      have hmark : (∃ c, .plain c ∈ state.mark d ∧ p c = true) ↔ state = .outside ∧ p d = true := by
        cases state with
        | outside =>
            simp only [Quoting.mark]
            split_ifs with hback hquote
            · have hd : p d = false := Bool.eq_false_iff.mpr fun hd => (hp d hd).1 hback
              simp [hd]
            · have hd : p d = false := Bool.eq_false_iff.mpr fun hd => by simp [(hp d hd).2] at hquote
              simp [hd]
            · simp
        | escaped => simp [Quoting.mark]
        | quotation q =>
            simp only [Quoting.mark]
            split_ifs <;> simp
        | escapedIn q => simp [Quoting.mark]
      rw [← hmark]
      simp only [List.mem_append, or_and_right, exists_or]

/-- Without unquoted punctuation the two lexers group alike. -/
theorem group_of_no_punctuation {ms : List Mark} (h : ∀ c, .plain c ∈ ms → isPunctuation c = false) :
    group true .idle ms = group false .idle ms ∧
    ∀ token, group true (.word token) ms = group false (.word token) ms := by
  induction ms with
  | nil => exact ⟨rfl, fun _ => rfl⟩
  | cons m ms ih =>
      obtain ⟨ihidle, ihword⟩ := ih fun c hc => h c (List.mem_cons_of_mem m hc)
      cases m with
      | plain c =>
          have hc : isPunctuation c = false := h c List.mem_cons_self
          simp [group, hc, ihidle, ihword]
      | kept c => simp [group, ihword]
      | quotes => simp [group, ihword]

theorem exists_operator_of_punctuation {token : Text} (h : IsOperator token) (ms : List Mark) :
    ∃ found ∈ group true (.punctuation token) ms, IsOperator found := by
  induction ms generalizing token with
  | nil => exact ⟨token, List.mem_singleton_self token, h⟩
  | cons m ms ih =>
      cases m with
      | plain c =>
          rw [group]
          split_ifs with hspace hc
          · exact ⟨token, List.mem_cons_self, h⟩
          · have hgrown : IsOperator (token ++ [c]) := by
              refine ⟨by simp, fun d hd => ?_⟩
              rcases List.mem_append.mp hd with hd | hd
              · exact h.2 d hd
              · rw [List.mem_singleton.mp hd]
                simpa using hc
            exact ih hgrown
          · exact ⟨token, List.mem_cons_self, h⟩
      | kept c => exact ⟨token, List.mem_cons_self, h⟩
      | quotes => exact ⟨token, List.mem_cons_self, h⟩

/-- Unquoted punctuation is a token of its own, or part of one. -/
theorem exists_operator_of_plain {ms : List Mark} {c : Char} (hmem : .plain c ∈ ms)
    (hc : isPunctuation c = true) :
    (∃ found ∈ group true .idle ms, IsOperator found) ∧
    ∀ token, ∃ found ∈ group true (.word token) ms, IsOperator found := by
  have hoperator : ∀ d, isPunctuation d = true → IsOperator [d] := fun d hd =>
    ⟨List.cons_ne_nil d [], fun e he => by rw [List.mem_singleton.mp he, hd]⟩
  induction ms with
  | nil => simp at hmem
  | cons m ms ih =>
      -- The character is this mark, or stands further on.
      by_cases hpunctuation : ∃ d, m = .plain d ∧ isPunctuation d = true
      · obtain ⟨d, rfl, hd⟩ := hpunctuation
        have hspace := (not_backslash_of_punctuation hd).2.2
        -- Punctuation begins a token, which later punctuation only extends.
        obtain ⟨found, hfound, hop⟩ := exists_operator_of_punctuation (hoperator d hd) ms
        constructor
        · exact ⟨found, by simpa [group, hspace, hd] using hfound, hop⟩
        · exact fun token => ⟨found, by simp [group, hspace, hd, hfound], hop⟩
      · have hrest : .plain c ∈ ms := by
          rcases List.mem_cons.mp hmem with hm | hm
          · exact absurd ⟨c, hm.symm, hc⟩ hpunctuation
          · exact hm
        obtain ⟨ihidle, ihword⟩ := ih hrest
        cases m with
        | plain d =>
            have hd : isPunctuation d = false := by simpa using hpunctuation
            by_cases hspace : isShlexSpace d = true
            · obtain ⟨found, hfound, hop⟩ := ihidle
              constructor
              · exact ⟨found, by simpa [group, hspace] using hfound, hop⟩
              · exact fun token => ⟨found, by simp [group, hspace, hfound], hop⟩
            · constructor
              · simpa [group, hspace, hd] using ihword [d]
              · exact fun token => by simpa [group, hspace, hd] using ihword (token ++ [d])
        | kept d => exact ⟨ihword [d], fun token => ihword (token ++ [d])⟩
        | quotes => exact ⟨ihword [], ihword⟩

/-- The lexer with punctuation finds an operator where one stands unquoted, and where a
    word consists of punctuation. -/
theorem exists_operator_group_iff (ms : List Mark) :
    (∃ found ∈ group true .idle ms, IsOperator found) ↔
      (∃ c, .plain c ∈ ms ∧ isPunctuation c = true) ∨ ∃ found ∈ group false .idle ms, IsOperator found := by
  by_cases hplain : ∃ c, .plain c ∈ ms ∧ isPunctuation c = true
  · obtain ⟨c, hmem, hc⟩ := hplain
    have hfound := (exists_operator_of_plain hmem hc).1
    exact ⟨fun _ => .inl ⟨c, hmem, hc⟩, fun _ => hfound⟩
  · have hnone : ∀ c, .plain c ∈ ms → isPunctuation c = false := fun c hmem =>
      Bool.eq_false_iff.mpr fun hc => hplain ⟨c, hmem, hc⟩
    have hsame := (group_of_no_punctuation hnone).1
    rw [hsame]
    exact ⟨.inr, fun h => h.resolve_left hplain⟩

/-- The operators of a text: unquoted punctuation, and the words that consist of punctuation. -/
def HasOperator (text : Text) : Prop :=
  ∃ words, shlexSplit text = .ok words ∧ (HasUnquoted isPunctuation text ∨ ∃ word ∈ words, IsOperator word)

instance (text : Text) : Decidable (HasOperator text) :=
  match h : shlexSplit text with
  | .ok words =>
    decidable_of_iff (HasUnquoted isPunctuation text ∨ ∃ word ∈ words, IsOperator word)
      ⟨fun found => ⟨words, h, found⟩, fun ⟨_, hwords, found⟩ => Except.ok.inj (h.symm.trans hwords) ▸ found⟩
  | .error _ => .isFalse fun ⟨_, hwords, _⟩ => nomatch h.symm.trans hwords

theorem ok_iff_toOption {tokens : Except ShlexError (List Text)} {words : List Text} :
    tokens = .ok words ↔ tokens.toOption = some words := by
  cases tokens <;> simp [Except.toOption]

theorem shlexSplit_ok_iff {text : Text} {words : List Text} :
    shlexSplit text = .ok words ↔ ∃ ms, marksFrom .outside text = some ms ∧ group false .idle ms = words := by
  have hlex := lexFrom_toOption false text .space [] false trivial
  rw [ok_iff_toOption, shlexSplit, hlex, Option.map_eq_some_iff]
  rfl

theorem punctuationTokens_ok_iff {text : Text} {tokens : List Text} :
    punctuationTokens text = .ok tokens ↔
      ∃ ms, marksFrom .outside (uncomment text) = some ms ∧ group true .idle ms = tokens := by
  have hlex := lexFrom_toOption true (uncomment text) .space [] false trivial
  have huncomment := (lexFrom_uncomment true text).1 .space [] false trivial
  rw [ok_iff_toOption, punctuationTokens, huncomment]
  exact (congrArg (· = some tokens) hlex).to_iff.trans Option.map_eq_some_iff

/-- The lexer with punctuation and comments returns an operator exactly when the text
    without its comments has one. -/
theorem exists_operator_punctuationTokens_iff (text : Text) :
    (∃ tokens, punctuationTokens text = .ok tokens ∧ ∃ found ∈ tokens, IsOperator found) ↔
      HasOperator (uncomment text) := by
  simp only [HasOperator, punctuationTokens_ok_iff, shlexSplit_ok_iff]
  have hunquoted {ms : List Mark} (h : marksFrom .outside (uncomment text) = some ms) :
      (∃ c, .plain c ∈ ms ∧ isPunctuation c = true) ↔ HasUnquoted isPunctuation (uncomment text) := by
    rw [hasUnquoted_iff]
    exact plain_mem_marks_iff (fun c hc => ⟨(not_backslash_of_punctuation hc).1,
      (not_backslash_of_punctuation hc).2.1⟩) h
  constructor
  · rintro ⟨_, ⟨ms, hms, rfl⟩, hfound⟩
    refine ⟨_, ⟨ms, hms, rfl⟩, ?_⟩
    rw [← hunquoted hms]
    exact (exists_operator_group_iff ms).mp hfound
  · rintro ⟨_, ⟨ms, hms, rfl⟩, hfound⟩
    refine ⟨_, ⟨ms, hms, rfl⟩, ?_⟩
    rw [← hunquoted hms] at hfound
    exact (exists_operator_group_iff ms).mpr hfound

/-! ## Texts without words -/

theorem group_word_ne_nil (punctuation : Bool) (token : Text) (ms : List Mark) :
    group punctuation (.word token) ms ≠ [] := by
  induction ms generalizing token with
  | nil => exact List.cons_ne_nil _ _
  | cons m ms ih =>
      cases m with
      | plain c =>
          rw [group]
          split_ifs
          · exact List.cons_ne_nil _ _
          · exact List.cons_ne_nil _ _
          · exact ih _
      | kept c => exact ih _
      | quotes => exact ih _

/-- A text without words has no unquoted character but blanks. -/
theorem space_of_group_nil {ms : List Mark} (h : group false .idle ms = []) :
    ∀ c, .plain c ∈ ms → isShlexSpace c = true := by
  induction ms with
  | nil => simp
  | cons m ms ih =>
      cases m with
      | plain d =>
          by_cases hspace : isShlexSpace d = true
          · have hrest : group false .idle ms = [] := by simpa [group, hspace] using h
            intro c hc
            rcases List.mem_cons.mp hc with heq | hc
            · cases heq
              exact hspace
            · exact ih hrest c hc
          · have hword : group false (.word [d]) ms = [] := by simpa [group, hspace] using h
            exact absurd hword (group_word_ne_nil _ _ _)
      | kept d => exact absurd h (group_word_ne_nil _ _ _)
      | quotes => exact absurd h (group_word_ne_nil _ _ _)

theorem HasUnquoted.exists_mem {p : Char → Bool} {text : Text} (h : HasUnquoted p text) :
    ∃ c ∈ text, p c = true := by
  obtain ⟨before, c, after, rfl, -, hc⟩ := h
  exact ⟨c, by simp, hc⟩

/-- A text of which the lexer with comments and punctuation returns an operator has words. -/
theorem shlexSplit_ne_nil {text : Text} (h : HasOperator (uncomment text)) : shlexSplit text ≠ .ok [] := by
  intro hnil
  obtain ⟨ms, hms, hgroup⟩ := shlexSplit_ok_iff.mp hnil
  have hspace := space_of_group_nil hgroup
  have hnone {p : Char → Bool}
      (hp : ∀ c, p c = true → c ≠ '\\' ∧ isQuote c = false ∧ isShlexSpace c = false) :
      ¬ HasUnquoted p text := by
    rw [hasUnquoted_iff, ← plain_mem_marks_iff (fun c hc => ⟨(hp c hc).1, (hp c hc).2.1⟩) hms]
    rintro ⟨c, hmem, hc⟩
    exact absurd (hspace c hmem) (by rw [(hp c hc).2.2]; decide)
  have huncomment : uncomment text = text := uncomment_of_no_comment <| hnone fun c hc => by
    rw [of_decide_eq_true hc]
    decide
  rw [huncomment] at h
  obtain ⟨words, hwords, hunquoted | ⟨word, hmem, -⟩⟩ := h
  · exact hnone (fun c hc => not_backslash_of_punctuation hc) hunquoted
  · obtain rfl : words = [] := Except.ok.inj (hwords.symm.trans hnil)
    simp at hmem

/-- The characters of the tokens are those of the marks. -/
theorem mem_group {ms : List Mark} {P : Char → Prop} (hmarks : ∀ c, .plain c ∈ ms ∨ .kept c ∈ ms → P c) :
    (∀ word ∈ group false .idle ms, ∀ c ∈ word, P c) ∧
    ∀ token : Text, (∀ c ∈ token, P c) → ∀ word ∈ group false (.word token) ms, ∀ c ∈ word, P c := by
  induction ms with
  | nil =>
      refine ⟨by simp [group], fun token htoken word hword => ?_⟩
      rw [List.mem_singleton.mp hword]
      exact htoken
  | cons m ms ih =>
      obtain ⟨ihidle, ihword⟩ := ih fun c hc => hmarks c (hc.imp (List.mem_cons_of_mem m) (List.mem_cons_of_mem m))
      -- A token that grows by a character of the marks keeps the property.
      have hgrown {token : Text} (htoken : ∀ c ∈ token, P c) {d : Char} (hd : P d) : ∀ c ∈ token ++ [d], P c := by
        intro c hc
        rcases List.mem_append.mp hc with hc | hc
        · exact htoken c hc
        · rwa [List.mem_singleton.mp hc]
      have hempty : ∀ c ∈ ([] : Text), P c := by simp
      cases m with
      | plain d =>
          have hd : P d := hmarks d (.inl List.mem_cons_self)
          by_cases hspace : isShlexSpace d = true
          · simp only [group, if_pos hspace, List.mem_cons]
            refine ⟨ihidle, fun token htoken word hword => ?_⟩
            rcases hword with rfl | hword
            · exact htoken
            · exact ihidle word hword
          · simp only [group, if_neg hspace, Bool.false_and, Bool.false_eq_true, if_false]
            exact ⟨ihword [d] (hgrown hempty hd), fun token htoken => ihword _ (hgrown htoken hd)⟩
      | kept d =>
          have hd : P d := hmarks d (.inr List.mem_cons_self)
          exact ⟨ihword [d] (hgrown hempty hd), fun token htoken => ihword _ (hgrown htoken hd)⟩
      | quotes => exact ⟨ihword [] hempty, ihword⟩

/-- A text without quotation marks and backslashes is all plain. -/
theorem marksFrom_plain {text : Text} (h : ∀ c ∈ text, c ≠ '\\' ∧ isQuote c = false) :
    marksFrom .outside text = some (text.map .plain) := by
  induction text with
  | nil => rfl
  | cons c cs ih =>
      have hc := h c List.mem_cons_self
      have hnext : Quoting.next .outside c = .outside := by simp [Quoting.next, hc]
      rw [marksFrom, hnext, ih fun d hd => h d (List.mem_cons_of_mem c hd)]
      simp [Quoting.mark, hc]

theorem isSpace_plain {c : Char} (h : isSpace c = true) :
    c ≠ '\\' ∧ isQuote c = false ∧ c ≠ '#' ∧ isPunctuation c = false := by
  refine ⟨?_, ?_, ?_, ?_⟩
  · rintro rfl
    exact absurd h (by decide)
  · refine Bool.eq_false_iff.mpr fun hc => ?_
    simp only [isQuote, Bool.or_eq_true, decide_eq_true_eq] at hc
    rcases hc with rfl | rfl <;> exact absurd h (by decide)
  · rintro rfl
    exact absurd h (by decide)
  · refine Bool.eq_false_iff.mpr fun hc => ?_
    simp only [isPunctuation, Bool.or_eq_true, decide_eq_true_eq] at hc
    rcases hc with (((((rfl | rfl) | rfl) | rfl) | rfl) | rfl) | rfl <;> exact absurd h (by decide)

/-- ... and is not blank. -/
theorem not_isBlank_of_hasOperator {text : Text} (h : HasOperator (uncomment text)) : isBlank text = false := by
  refine Bool.eq_false_iff.mpr fun hblank => ?_
  have hplain : ∀ c ∈ text, _ := fun c hc => isSpace_plain (List.all_eq_true.mp hblank c hc)
  have huncomment : uncomment text = text := by
    refine uncomment_of_no_comment fun hcomment => ?_
    obtain ⟨c, hmem, hc⟩ := hcomment.exists_mem
    exact (hplain c hmem).2.2.1 (of_decide_eq_true hc)
  rw [huncomment] at h
  obtain ⟨words, hwords, hunquoted | ⟨word, hmem, hne, hoperator⟩⟩ := h
  · obtain ⟨c, hmem, hc⟩ := hunquoted.exists_mem
    exact absurd hc (by rw [(hplain c hmem).2.2.2]; decide)
  · obtain ⟨ms, hms, rfl⟩ := shlexSplit_ok_iff.mp hwords
    rw [marksFrom_plain fun c hc => ⟨(hplain c hc).1, (hplain c hc).2.1⟩] at hms
    cases hms
    have hword : ∀ c ∈ word, isPunctuation c = false := by
      refine (mem_group fun c hc => ?_).1 word hmem
      have hctext : c ∈ text := by simpa using hc
      exact (hplain c hctext).2.2.2
    obtain ⟨c, hc⟩ := List.exists_mem_of_ne_nil word hne
    exact absurd (hoperator c hc) (by rw [hword c hc]; decide)

end LlmHarness.Python
