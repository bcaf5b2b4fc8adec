/-
  LlmHarness.Journal.TextClean

  What `redact` leaves of a string.  Every substitution keeps the text free of the patterns
  replaced before it, and of a key that exposes a bot token; the pattern of a
  substitution has no match after it.
-/

import LlmHarness.Journal.Shapes

namespace LlmHarness.Journal

open Python Regex Substitution

/-- No key of the text exposes a bot token. -/
def Hidden (prev : Option Char) (cs : List Char) : Prop :=
  ∀ shape ∈ exposingShapes, ¬ shape.exposed.Occurs isWord prev cs

theorem Hidden.suffix {prev : Option Char} {u r : List Char} (h : Hidden prev (u ++ r)) :
    Hidden (lastOf prev u) r :=
  fun shape hshape hocc => h shape hshape (hocc.append u)

/-! ## The bearer token -/

/-- After a bearer token stands an equals sign, or no character of it. -/
theorem bearer_find {prev : Option Char} {s g v r : List Char}
    (hfind : bearerRe.find isWord prev s = some (g, v, r)) :
    (lastOf prev (g ++ v)).any isWord = false ∨
      ∃ f w, g ++ v = f ++ w ∧ bearerKey.front.Lang f ∧ (atLeast 1 bearerChar).Lang w ∧
        ∀ c, r.head? = some c → bearerChar c = false := by
  -- the key matched, and a white space after it
  obtain ⟨-, ⟨name, _, rfl, hname, space, rfl, hspace⟩, -⟩ := Rule.find_eq_some hfind
  obtain ⟨q, hhead⟩ := Rule.find_first rfl hfind
  obtain ⟨y, q', hfirst, rfl, rfl⟩ := run_seq_many_head hhead
  -- the token is followed by equals signs, or by none
  obtain hequals | ⟨signs, sign, hsigns⟩ := (q'.takeWhile (· == '=')).eq_nil_or_concat
  -- no sign: what is left of the token is its greedy part
  · right
    obtain ⟨spaces, _, w, hmem, hrun, rfl⟩ := run_seq_head hfirst
    obtain ⟨-, hspaces⟩ := mem_run.mp hmem
    obtain ⟨rfl, hw⟩ := mem_run.mp (List.mem_of_mem_head? hrun)
    have hrest : q'.dropWhile (· == '=') = q' := by
      have hsplit := List.takeWhile_append_dropWhile (p := (· == '=')) (l := q')
      rwa [hequals, List.nil_append] at hsplit
    refine ⟨name ++ ([space] ++ spaces), w, by rw [hequals]; simp, ?_, hw, ?_⟩
    · exact ⟨name, _, rfl, hname, [space], spaces, rfl, ⟨space, rfl, hspace⟩, hspaces⟩
    · rw [hrest]
      exact ((greedy_many bearerChar).seq _) _ w q' hrun
  -- the last character of the match is a sign, which is no word character
  · left
    have hsign : sign = '=' := by
      have hmem : sign ∈ q'.takeWhile (· == '=') := by rw [hsigns]; simp
      simpa using List.mem_takeWhile_imp hmem
    rw [hsigns, List.concat_eq_append, ← List.append_assoc, ← List.append_assoc, lastOf_append, hsign,
      lastOf_of_ne_nil (List.cons_ne_nil _ _), List.getLast?_singleton, Option.any_some]
    exact isWord_equals

theorem sealed_bearer : Sealed isAsciiAlnum bearerRe := by
  intro prev s g v r c hfind hr hc
  obtain hlast | ⟨f, w, -, -, -, hnext⟩ := bearer_find hfind
  · exact hlast
  · have hnot := hnext c hr
    rw [bearerChar_of_isAsciiAlnum c hc] at hnot
    cases hnot

/-- What the template of the bearer token writes again leaves the tokens as they were. -/
theorem bearer_spares {first : Char → Bool} {H : Option Char → List Char → Prop} {pattern : Pattern Char}
    (hp : Token first pattern)
    (hstable : ∀ u p p', p.length ≤ 7 → p'.map bearFold = p.map bearFold → pattern.body.Lang (u ++ p) →
      pattern.body.Lang (u ++ p'))
    (hseam : ∀ prev s g v r, H prev s → bearerRe.find isWord prev s = some (g, v, r) →
      pattern.Seam isWord (some '>') (lastOf prev (g ++ v)) r) :
    bearerRe.Spares isWord plainChar bearFold H pattern where
  nonempty := hp.nonempty
  all_plain := hp.all_plain
  placeholder := ⟨'<', "redacted".toList, '>', by decide, by decide, by decide, isWord_bracket,
    hp.placeholder (by decide), hseam⟩
  word_image := isWord_bearFold
  keep_image _ hg := map_bearFold_kept hg
  stable g _ q p t hkeep u p' := by
    refine hstable u p p' ?_
    have hlength : 7 = (q ++ (p ++ t)).length := congrArg List.length hkeep
    rw [List.length_append, List.length_append] at hlength
    omega
  last hstop g _ w u c hkeep hlang := by
    have hc := hp.last hstop u c hlang
    have hsplit : "Bearer".toList ++ [' '] = w ++ [c] := hkeep
    cases (List.append_inj' hsplit rfl).2
    exact absurd hc (by decide)
  back := .inl rfl

/-- A pattern that ends with a long run of token characters does not tell them apart. -/
theorem stable_of_run {e : Regex Char} {n : Nat} (hn : 7 ≤ n) {u p p' : List Char} (hp : p.length ≤ 7)
    (himage : p'.map bearFold = p.map bearFold) (h : (e.seq (atLeast n tokenChar)).Lang (u ++ p)) :
    (e.seq (atLeast n tokenChar)).Lang (u ++ p') := by
  refine h.exchange (Nat.le_trans hp hn) ?_ fun hall c hc => ?_
  · simpa using congrArg List.length himage
  · obtain ⟨d, hd, hfold⟩ := List.mem_map.mp (himage ▸ List.mem_map_of_mem hc)
    rw [← tokenChar_bearFold, ← hfold, tokenChar_bearFold]
    exact hall d hd

theorem stable_botToken (u p p' : List Char) (hp : p.length ≤ 7)
    (himage : p'.map bearFold = p.map bearFold) (h : botTokenRe.pattern.body.Lang (u ++ p)) :
    botTokenRe.pattern.body.Lang (u ++ p') := by
  obtain ⟨_, x, hsplit, rfl, hx⟩ := h
  rw [List.nil_append] at hsplit
  subst hsplit
  exact ⟨[], _, rfl, rfl, stable_of_run (by decide) hp himage hx⟩

theorem token_bearer : Token isAsciiAlnum bearerRe.pattern where
  nonempty := by decide
  classes := by decide
  firsts p hp c hc := by
    rw [List.mem_singleton.mp (show p ∈ [ignoringCase (· == 'B')] from hp)] at hc
    exact of_ignoringCase_letter (P := fun c => isAsciiAlnum c = true) (by decide) (by decide)
      (by decide) hc
  last hstop := absurd hstop Bool.false_ne_true
  unlabelled := unlabelled_tokens bearerRe (by simp)

theorem stable_bearer (u p p' : List Char) (himage : p'.map bearFold = p.map bearFold)
    (h : bearerRe.pattern.body.Lang (u ++ p)) : bearerRe.pattern.body.Lang (u ++ p') := by
  rw [← lang_map respects_bearer] at h ⊢
  rwa [List.map_append, himage, ← List.map_append]

/-- A bot token begins after a bearer token only where it was exposed. -/
theorem bearer_seam {prev : Option Char} {s g v r : List Char} (hhidden : Hidden prev s)
    (hfind : bearerRe.find isWord prev s = some (g, v, r)) :
    botTokenRe.pattern.Seam isWord (some '>') (lastOf prev (g ++ v)) r := by
  obtain ⟨rfl, -, -, hstart, -⟩ := Rule.find_eq_some hfind
  obtain hlast | ⟨f, w, hparts, hf, hw, hnext⟩ := bearer_find hfind
  · rintro x r' rfl hx - - -
    obtain ⟨c, x', rfl, hc⟩ := head_botToken hx
    rw [wordBoundary, hlast, List.cons_append, List.head?_cons, Option.any_some, isWord_of_isDecimal hc]
    rfl
  · rw [hparts] at hhidden hstart ⊢
    refine fine_bearerKey.seam hf hw (hstart rfl) (fun c hc => ?_) (hhidden bearerKey (by simp [exposingShapes]))
    cases hascii : isAsciiAlnum c with
    | false => rfl
    | true =>
        have hnot := hnext c hc
        rw [bearerChar_of_isAsciiAlnum c hascii] at hnot
        cases hnot


/-! ## One substitution after another -/

/-- A substitution after which nothing is found that was not there: no token that starts
    with a letter, and no bot token where none was exposed. -/
structure Careful (rule : Rule Char) : Prop where
  nonempty : 0 < (rule.kept.seq rule.dropped).minLength
  lettered : ∀ pattern, Token isAsciiAlnum pattern →
    rule.Spares isWord plainChar id (fun _ _ => True) pattern
  bot : rule.Spares isWord plainChar id Hidden botTokenRe.pattern

theorem careful_of_sealed {rule : Rule Char} (hrule : Edged rule) (hseal : Sealed isWord rule) :
    Careful rule where
  nonempty := hrule.nonempty
  lettered _ hp := hrule.spares hp fun _ _ _ _ _ _ hfind =>
    (hseal.mono fun _ => isWord_of_isAsciiAlnum).seam hp hfind fun _ => isWord_of_isAsciiAlnum
  bot := hrule.spares token_botToken fun _ _ _ _ _ _ hfind =>
    (hseal.mono fun _ => isWord_of_isDecimal).seam token_botToken hfind fun _ => isWord_of_isDecimal

theorem careful_of_shape {shape : KeyShape} (hshape : shape ∈ exposingShapes) : Careful shape.rule := by
  have hfine := fine_exposingShapes shape hshape
  refine ⟨hfine.edged.nonempty, fun pattern hp => ?_, ?_⟩
  · exact hfine.edged.spares hp fun _ _ _ _ _ _ hfind =>
      hfine.sealed.seam hp hfind fun _ => isWord_of_isAsciiAlnum
  · refine hfine.edged.spares token_botToken fun prev s g v r hhidden hfind => ?_
    obtain ⟨q, hhead⟩ := Rule.find_first rfl hfind
    obtain ⟨rfl, hg, ⟨f, w, rfl, hf, hw⟩, hstart, -⟩ := Rule.find_eq_some hfind
    obtain rfl : g = [] := hg
    rw [List.nil_append] at hhidden hstart ⊢
    refine hfine.seam hf hw (hstart rfl) (fun c hc => ?_) (hhidden shape hshape)
    cases hascii : isAsciiAlnum c with
    | false => rfl
    | true =>
        have hnot := ((greedy_many shape.inKey).seq _ |>.seq _) q (f ++ w) r hhead c hc
        rw [hfine.inKey c hascii] at hnot
        cases hnot

/-- The keys, in the order in which they are replaced. -/
def keyRules : List (Rule Char) :=
  [anthropicKey.rule, openaiKey.rule, githubToken.rule, githubPat.rule, slackToken.rule, awsKeyRe,
    googleKey.rule, jwt.rule]

theorem careful_keyRules : ∀ rule ∈ keyRules, Careful rule := by
  simp only [keyRules, List.forall_mem_cons]
  refine ⟨?_, ?_, ?_, ?_, ?_, careful_of_sealed edged_awsKey (sealed_of_stop rfl), ?_, ?_,
    List.forall_mem_nil _⟩
  all_goals exact careful_of_shape (by simp [exposingShapes])

theorem token_keyRules : ∀ rule ∈ keyRules, Token isAsciiAlnum rule.pattern := by
  simp only [keyRules, List.forall_mem_cons]
  exact ⟨fine_anthropicKey.token, fine_openaiKey.token, fine_githubToken.token, fine_githubPat.token,
    fine_slackToken.token, token_awsKey, fine_googleKey.token, fine_jwt.token, List.forall_mem_nil _⟩

theorem whole_keyRules : ∀ rule ∈ keyRules, ∀ g, rule.keep g = [] := by
  simp only [keyRules, List.forall_mem_cons]
  exact ⟨fun _ => rfl, fun _ => rfl, fun _ => rfl, fun _ => rfl, fun _ => rfl, fun _ => rfl, fun _ => rfl,
    fun _ => rfl, List.forall_mem_nil _⟩

theorem careful_envSecret : Careful envSecretRe := careful_of_sealed edged_envSecret sealed_envSecret

theorem careful_privateKey : Careful privateKeyRe := careful_of_sealed edged_privateKey sealed_privateKey

/-- The pattern has no match in the text. -/
def Clean (pattern : Pattern Char) (cs : Text) : Prop := ¬ pattern.Occurs isWord none cs

section Stages

variable {rule : Rule Char} {pattern : Pattern Char} {cs : Text}

theorem Careful.clean (hrule : Careful rule) (hp : Token isAsciiAlnum pattern) (h : Clean pattern cs) :
    Clean pattern (replaceAll rule cs) :=
  (hrule.lettered pattern hp).not_occurs_sub hrule.nonempty (fun _ _ _ _ => trivial) trivial h

theorem Careful.hidden (hrule : Careful rule) (h : Hidden none cs) : Hidden none (replaceAll rule cs) :=
  fun shape hshape => hrule.clean (fine_exposingShapes shape hshape).token_exposed (h shape hshape)

theorem Careful.clean_bot (hrule : Careful rule) (hhidden : Hidden none cs)
    (h : Clean botTokenRe.pattern cs) : Clean botTokenRe.pattern (replaceAll rule cs) :=
  hrule.bot.not_occurs_sub hrule.nonempty (fun _ _ _ => Hidden.suffix) hhidden h

/-- A token that is replaced as a whole is gone. -/
theorem Careful.clean_own (hrule : Careful rule) (hp : Token isAsciiAlnum rule.pattern)
    (hwhole : ∀ g, rule.keep g = []) : Clean rule.pattern (replaceAll rule cs) := by
  refine (hrule.lettered _ hp).not_occurs_own (fun _ _ _ _ => trivial) trivial ?_
  intro g _ q x t hkeep hlang
  rw [hwhole] at hkeep
  have hx : x = [] := (List.append_eq_nil_iff.mp (List.append_eq_nil_iff.mp hkeep.symm).2).1
  exact (hrule.lettered _ hp).ne_nil hlang hx

/-- The keys one after another. -/
def replaceKeys (rules : List (Rule Char)) (cs : Text) : Text :=
  rules.foldl (fun redacted rule => replaceAll rule redacted) cs

theorem replaceKeys_clean {rules : List (Rule Char)} (hrules : ∀ rule ∈ rules, Careful rule)
    (hp : Token isAsciiAlnum pattern) (h : Clean pattern cs) : Clean pattern (replaceKeys rules cs) := by
  induction rules generalizing cs with
  | nil => exact h
  | cons rule rules ih =>
      obtain ⟨hrule, hrest⟩ := List.forall_mem_cons.mp hrules
      exact ih hrest (hrule.clean hp h)

theorem replaceKeys_clean_bot {rules : List (Rule Char)} (hrules : ∀ rule ∈ rules, Careful rule)
    (hhidden : Hidden none cs) (h : Clean botTokenRe.pattern cs) :
    Clean botTokenRe.pattern (replaceKeys rules cs) := by
  induction rules generalizing cs with
  | nil => exact h
  | cons rule rules ih =>
      obtain ⟨hrule, hrest⟩ := List.forall_mem_cons.mp hrules
      exact ih hrest (hrule.hidden hhidden) (hrule.clean_bot hhidden h)

theorem replaceKeys_hidden {rules : List (Rule Char)} (hrules : ∀ rule ∈ rules, Careful rule)
    (h : Hidden none cs) : Hidden none (replaceKeys rules cs) :=
  fun shape hshape =>
    replaceKeys_clean hrules (fine_exposingShapes shape hshape).token_exposed (h shape hshape)

/-- Each key is gone after all of them were replaced. -/
theorem replaceKeys_clean_own {rules : List (Rule Char)} (hrules : ∀ rule ∈ rules, Careful rule)
    (hmem : rule ∈ rules) (hp : Token isAsciiAlnum rule.pattern) (hwhole : ∀ g, rule.keep g = []) :
    Clean rule.pattern (replaceKeys rules cs) := by
  induction rules generalizing cs with
  | nil => cases hmem
  | cons first rules ih =>
      obtain ⟨hfirst, hrest⟩ := List.forall_mem_cons.mp hrules
      obtain rfl | hmem := List.mem_cons.mp hmem
      · show Clean rule.pattern (replaceKeys rules (replaceAll rule cs))
        exact replaceKeys_clean hrest hp (hfirst.clean_own hp hwhole)
      · exact ih hrest hmem

end Stages

/-! ## The stages of `redact` -/

theorem bearer_clean_own (cs : Text) : Clean bearerRe.pattern (replaceAll bearerRe cs) := by
  have hspares : bearerRe.Spares isWord plainChar bearFold (fun _ _ => True) bearerRe.pattern :=
    bearer_spares token_bearer (fun u p p' _ => stable_bearer u p p') fun _ _ _ _ _ _ hfind =>
      sealed_bearer.seam token_bearer hfind fun _ => isWord_of_isAsciiAlnum
  refine hspares.not_occurs_own (fun _ _ _ _ => trivial) trivial ?_
  intro g _ q x t hkeep hlang
  -- a bearer token is longer than what is written again of one
  have hshort : 7 = (q ++ (x ++ t)).length := congrArg List.length hkeep
  have hlong : 8 ≤ x.length := hlang.minLength_le
  rw [List.length_append, List.length_append] at hshort
  omega

theorem bearer_hidden {cs : Text} (h : Hidden none cs) : Hidden none (replaceAll bearerRe cs) := by
  intro shape hshape
  have htoken := (fine_exposingShapes shape hshape).token_exposed
  have hspares : bearerRe.Spares isWord plainChar bearFold (fun _ _ => True) shape.exposed :=
    bearer_spares htoken (fun u p p' hp himage => stable_of_run (by decide) hp himage)
      fun _ _ _ _ _ _ hfind => sealed_bearer.seam htoken hfind fun _ => isWord_of_isAsciiAlnum
  exact hspares.not_occurs_sub (by decide) (fun _ _ _ _ => trivial) trivial (h shape hshape)

theorem bearer_clean_bot {cs : Text} (hhidden : Hidden none cs) (h : Clean botTokenRe.pattern cs) :
    Clean botTokenRe.pattern (replaceAll bearerRe cs) := by
  have hspares : bearerRe.Spares isWord plainChar bearFold Hidden botTokenRe.pattern :=
    bearer_spares token_botToken stable_botToken fun _ _ _ _ _ => bearer_seam
  exact hspares.not_occurs_sub (by decide) (fun _ _ _ => Hidden.suffix) hhidden h

theorem bot_hidden {cs : Text} (h : Hidden none cs) : Hidden none (replaceAll botTokenRe cs) := by
  have hseal : Sealed isWord botTokenRe := sealed_of_stop rfl
  exact (careful_of_sealed edged_botToken hseal).hidden h

theorem bot_clean_own (cs : Text) : Clean botTokenRe.pattern (replaceAll botTokenRe cs) := by
  have hseal : Sealed isWord botTokenRe := sealed_of_stop rfl
  have hspares : botTokenRe.Spares isWord plainChar id (fun _ _ => True) botTokenRe.pattern :=
    edged_botToken.spares token_botToken fun _ _ _ _ _ _ hfind =>
      (hseal.mono fun _ => isWord_of_isDecimal).seam token_botToken hfind fun _ => isWord_of_isDecimal
  refine hspares.not_occurs_own (fun _ _ _ _ => trivial) trivial ?_
  intro g _ q x t hkeep hlang
  have hx : x = [] := (List.append_eq_nil_iff.mp (List.append_eq_nil_iff.mp
    (show [] = q ++ (x ++ t) from hkeep).symm).2).1
  exact hspares.ne_nil hlang hx

theorem token_keyLabel {edge : String} (hedge : edge ∈ ["BEGIN", "END"]) :
    Token (fun _ => true) (.ofRegex (keyLabel edge)) := by
  have hlabels : ∀ edge ∈ ["BEGIN", "END"], 0 < (keyLabel edge).minLength ∧
      (∀ p ∈ (keyLabel edge).classesOf, p '<' = false ∧ p '>' = false) ∧
      ∀ label ∈ labels,
        (Pattern.ofRegex (keyLabel edge)).search isWord (some '<') (label.toList ++ ['>']) = false := by
    decide +kernel
  obtain ⟨hnonempty, hclasses, hunlabelled⟩ := hlabels edge hedge
  exact ⟨hnonempty, hclasses, fun _ _ _ _ => rfl, fun hstop => absurd hstop Bool.false_ne_true, hunlabelled⟩

theorem privateKey_clean_own (cs : Text) : Clean privateKeyRe.pattern (replaceAll privateKeyRe cs) := by
  have hspares : ∀ edge ∈ ["BEGIN", "END"],
      privateKeyRe.Spares isWord plainChar id (fun _ _ => True) (.ofRegex (keyLabel edge)) := by
    intro edge hedge
    refine edged_privateKey.spares (token_keyLabel hedge) ?_
    exact fun _ _ _ _ _ _ _ _ _ _ _ _ hstart => absurd hstart Bool.false_ne_true
  exact not_occurs_spanRule (hspares "BEGIN" (by simp)) (hspares "END" (by simp))
    (Rule.scan_sub edged_privateKey.nonempty none cs)

/-- The stages of `redact` for a string. -/
theorem redactText_eq (cs : String) :
    (redactText cs).toList = replaceAll privateKeyRe (replaceKeys keyRules
      (replaceAll envSecretRe (replaceAll bearerRe (replaceAll botTokenRe cs.toList)))) := by
  simp only [redactText, String.toList_ofList, credentialShapeRes, replaceKeys, keyRules, List.foldl_cons,
    List.foldl_nil]

/-- A string in which no pattern has a match is kept as it is. -/
theorem redactText_eq_self {cs : String} (hcredential : hasCredential cs = false)
    (henv : finds envSecretRe.pattern cs = false) : redactText cs = cs := by
  have hself : ∀ rule : Rule Char, finds rule.pattern cs = false → replaceAll rule cs.toList = cs.toList := by
    intro rule hrule
    rw [finds, ← Bool.not_eq_true, Pattern.search_iff] at hrule
    exact Rule.sub_eq_self hrule
  have hkeys : ∀ rules : List (Rule Char), (∀ rule ∈ rules, finds rule.pattern cs = false) →
      replaceKeys rules cs.toList = cs.toList := by
    intro rules hrules
    induction rules with
    | nil => rfl
    | cons rule rules ih =>
        obtain ⟨hrule, hrest⟩ := List.forall_mem_cons.mp hrules
        show replaceKeys rules (replaceAll rule cs.toList) = cs.toList
        rw [hself rule hrule, ih hrest]
  have hclean : ∀ rule ∈ botTokenRe :: bearerRe :: (keyRules ++ [privateKeyRe]), finds rule.pattern cs = false := by
    intro rule hrule
    have hnone := List.any_eq_false.mp hcredential rule hrule
    simpa using hnone
  have hlist : (redactText cs).toList = cs.toList := by
    rw [redactText_eq, hself botTokenRe (hclean _ (by simp)), hself bearerRe (hclean _ (by simp)),
      hself envSecretRe henv, hkeys keyRules fun rule hrule => hclean rule (by simp [hrule]),
      hself privateKeyRe (hclean _ (by simp))]
  exact String.toList_inj.mp hlist

/-- After `redact` no bearer token and no key of a known shape is found in a string. -/
theorem not_finds_redactText (cs : String) :
    ∀ rule ∈ bearerRe :: credentialShapeRes, finds rule.pattern (redactText cs) = false := by
  intro rule hrule
  rw [finds, redactText_eq, ← Bool.not_eq_true, Pattern.search_iff]
  have hcases : rule = bearerRe ∨ rule ∈ keyRules ∨ rule = privateKeyRe := by
    have hsplit : bearerRe :: credentialShapeRes = bearerRe :: (keyRules ++ [privateKeyRe]) := rfl
    rw [hsplit] at hrule
    simpa using hrule
  obtain rfl | hkey | rfl := hcases
  · have henv := careful_envSecret.clean token_bearer (bearer_clean_own (replaceAll botTokenRe cs.toList))
    exact careful_privateKey.clean token_bearer (replaceKeys_clean careful_keyRules token_bearer henv)
  · have hp := token_keyRules rule hkey
    exact careful_privateKey.clean hp
      (replaceKeys_clean_own careful_keyRules hkey hp (whole_keyRules rule hkey))
  · exact privateKey_clean_own _

/-- A key of the text is followed at once by a bot token that starts with a digit outside
    ASCII. -/
def exposesBotToken (cs : String) : Bool := exposingShapes.any fun shape => finds shape.exposed cs

/-- After `redact` no credential is found in a string in which no key exposes a bot token. -/
theorem not_hasCredential_redactText (cs : String) (h : exposesBotToken cs = false) :
    hasCredential (redactText cs) = false := by
  have hhidden : Hidden none cs.toList := by
    intro shape hshape hocc
    have hfinds := List.any_eq_false.mp h shape hshape
    exact hfinds (Pattern.search_iff.mpr hocc)
  have hbotClean : Clean botTokenRe.pattern (redactText cs).toList := by
    have hbot := bot_hidden hhidden
    have hbearer := bearer_hidden hbot
    have henv := careful_envSecret.hidden hbearer
    have hkeys := replaceKeys_hidden careful_keyRules henv
    have hclean := bearer_clean_bot hbot (bot_clean_own cs.toList)
    have hclean := careful_envSecret.clean_bot hbearer hclean
    have hclean := replaceKeys_clean_bot careful_keyRules henv hclean
    rw [redactText_eq]
    exact careful_privateKey.clean_bot hkeys hclean
  have hsplit : credentialRules = botTokenRe :: bearerRe :: credentialShapeRes := rfl
  rw [hasCredential, hsplit, List.any_cons, Bool.or_eq_false_iff]
  constructor
  · rw [finds, ← Bool.not_eq_true, Pattern.search_iff]
    exact hbotClean
  · refine List.any_eq_false.mpr fun rule hrule => ?_
    rw [not_finds_redactText cs rule hrule]
    exact Bool.false_ne_true

/-- A key and a bot token beside it are both gone. -/
theorem redactText_keyAndToken :
    hasCredential "AIza0123456789_0123456789-0123456789 123456:abcdefghijklmnopqrst" = true ∧
      hasCredential (redactText "AIza0123456789_0123456789-0123456789 123456:abcdefghijklmnopqrst") = false :=
  ⟨by decide +kernel, not_hasCredential_redactText _ (by decide +kernel)⟩

end LlmHarness.Journal
