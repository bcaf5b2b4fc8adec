/-
  LlmHarness.Lib.Substitution

  Searching and replacing from left to right, with patterns that may ask for a word
  boundary on either side.  A scan splits a text into what is passed over and what is
  replaced, and a pattern of which no match was in a text has none in what a substitution
  makes of it, where the placeholders and the two sides of a replacement allow it.
-/

import LlmHarness.Lib.Regex

namespace LlmHarness.Substitution

variable {α : Type}

/-- `\b` between two neighbours, `none` for an end of the text. -/
def wordBoundary (word : α → Bool) (a b : Option α) : Bool := a.any word != b.any word

/-- The last character after `w`. -/
def lastOf (prev : Option α) (w : List α) : Option α := w.getLast?.or prev

/-- An expression, with `\b` before or after it. -/
structure Pattern (α : Type) where
  start : Bool
  body : Regex α
  stop : Bool

/-- A substitution: the expression in two parts, and what is written for a match.  Only
    the first part is read by the template. -/
structure Rule (α : Type) where
  start : Bool
  kept : Regex α
  dropped : Regex α
  stop : Bool
  keep : List α → List α
  placeholder : List α

/-- The pattern of a substitution. -/
def Rule.pattern (rule : Rule α) : Pattern α where
  start := rule.start
  body := .seq rule.kept rule.dropped
  stop := rule.stop

section Scanning

variable (word : α → Bool)

/-- The pattern matches at the head of the text. -/
def Pattern.At (pattern : Pattern α) (prev : Option α) (s : List α) : Prop :=
  ∃ x r, s = x ++ r ∧ pattern.body.Lang x ∧
    (pattern.start → wordBoundary word prev s.head?) ∧
    (pattern.stop → wordBoundary word (lastOf prev x) r.head?)

/-- `pattern.search(text)` finds a match. -/
def Pattern.Occurs (pattern : Pattern α) : Option α → List α → Prop
  | prev, [] => pattern.At word prev []
  | prev, c :: cs => pattern.At word prev (c :: cs) ∨ pattern.Occurs (some c) cs

/-- `pattern.match(text)`. -/
def Pattern.matches (pattern : Pattern α) (prev : Option α) (s : List α) : Bool :=
  (pattern.body.run s).any fun m => (!pattern.start || wordBoundary word prev s.head?) &&
    (!pattern.stop || wordBoundary word (lastOf prev m.1) m.2.head?)

/-- `pattern.search(text) is not None`. -/
def Pattern.search (pattern : Pattern α) : Option α → List α → Bool
  | prev, [] => pattern.matches word prev []
  | prev, c :: cs => pattern.matches word prev (c :: cs) || pattern.search (some c) cs

/-- The first match at the head of the text: its two parts and the rest. -/
def Rule.find (rule : Rule α) (prev : Option α) (s : List α) : Option (List α × List α × List α) :=
  if rule.start && !wordBoundary word prev s.head? then none
  else
    ((rule.kept.run s).flatMap fun m => (rule.dropped.run m.2).map fun m' => (m.1, m')).find?
      fun m => !rule.stop || wordBoundary word (lastOf prev (m.1 ++ m.2.1)) m.2.2.head?

/-- `pattern.sub(template, text)` of a pattern that does not match the empty text, `skip`
    characters of a match still to be passed over. -/
def Rule.sub (rule : Rule α) : Nat → Option α → List α → List α
  | _, _, [] => []
  | skip + 1, _, c :: cs => rule.sub skip (some c) cs
  | 0, prev, c :: cs =>
    match rule.find word prev (c :: cs) with
    | none => c :: rule.sub 0 (some c) cs
    | some (g, v, _) =>
      rule.keep g ++ (rule.placeholder ++ rule.sub (g.length + v.length - 1) (some c) cs)

/-- How a substitution goes through a text. -/
inductive Scan (rule : Rule α) : Option α → List α → List α → Prop
  | nil {prev} : Scan rule prev [] []
  | pass {prev c cs out} (hfind : rule.find word prev (c :: cs) = none)
      (hrest : Scan rule (some c) cs out) : Scan rule prev (c :: cs) (c :: out)
  | hit {prev g v r out} (hfind : rule.find word prev (g ++ v ++ r) = some (g, v, r))
      (hrest : Scan rule (lastOf prev (g ++ v)) r out) :
      Scan rule prev (g ++ v ++ r) (rule.keep g ++ (rule.placeholder ++ out))

end Scanning

variable {word : α → Bool}

/-! ## What is found -/

theorem lastOf_append (prev : Option α) (u w : List α) :
    lastOf prev (u ++ w) = lastOf (lastOf prev u) w := by
  rw [lastOf, lastOf, lastOf, List.getLast?_append, Option.or_assoc]

theorem lastOf_cons (prev : Option α) (c : α) (w : List α) :
    lastOf prev (c :: w) = lastOf (some c) w :=
  lastOf_append prev [c] w

theorem lastOf_of_ne_nil {prev : Option α} {w : List α} (h : w ≠ []) : lastOf prev w = w.getLast? := by
  rw [lastOf, List.getLast?_eq_some_getLast h, Option.some_or]

theorem Pattern.matches_iff {pattern : Pattern α} {prev : Option α} {s : List α} :
    pattern.matches word prev s = true ↔ pattern.At word prev s := by
  simp only [Pattern.matches, Pattern.At, Bool.and_eq_true, List.any_eq_true, Prod.exists,
    Regex.mem_run, Bool.or_eq_true, Bool.not_eq_true']
  grind

theorem Pattern.search_iff {pattern : Pattern α} {prev : Option α} {s : List α} :
    pattern.search word prev s = true ↔ pattern.Occurs word prev s := by
  induction s generalizing prev with
  | nil => exact Pattern.matches_iff
  | cons c cs ih =>
      rw [Pattern.search, Bool.or_eq_true, Pattern.matches_iff, ih]
      rfl

theorem Rule.mem_candidates {rule : Rule α} {s g v r : List α} :
    (g, v, r) ∈ ((rule.kept.run s).flatMap fun m => (rule.dropped.run m.2).map fun m' => (m.1, m')) ↔
      s = g ++ v ++ r ∧ rule.kept.Lang g ∧ rule.dropped.Lang v := by
  simp only [List.mem_flatMap, List.mem_map, Prod.mk.injEq, Prod.exists, Regex.mem_run]
  constructor
  · rintro ⟨x, q, ⟨rfl, hx⟩, y, z, ⟨rfl, hy⟩, rfl, rfl, rfl⟩
    exact ⟨(List.append_assoc ..).symm, hx, hy⟩
  · rintro ⟨rfl, hg, hv⟩
    exact ⟨g, v ++ r, ⟨List.append_assoc .., hg⟩, v, r, ⟨rfl, hv⟩, rfl, rfl, rfl⟩

/-- What a match found is. -/
theorem Rule.find_eq_some {rule : Rule α} {prev : Option α} {s g v r : List α}
    (h : rule.find word prev s = some (g, v, r)) :
    s = g ++ v ++ r ∧ rule.kept.Lang g ∧ rule.dropped.Lang v ∧
      (rule.start → wordBoundary word prev s.head?) ∧
      (rule.stop → wordBoundary word (lastOf prev (g ++ v)) r.head?) := by
  rw [Rule.find] at h
  split at h
  · cases h
  · rename_i hstart
    obtain ⟨hs, hg, hv⟩ := Rule.mem_candidates.mp (List.mem_of_find?_eq_some h)
    have hstop := List.find?_some h
    refine ⟨hs, hg, hv, ?_, ?_⟩
    · intro hb
      simpa [hb] using hstart
    · intro hb
      simpa [hb] using hstop

/-- Without a boundary after it the first match is found. -/
theorem Rule.find_first {rule : Rule α} (hstop : rule.stop = false) {prev : Option α} {s g v r : List α}
    (h : rule.find word prev s = some (g, v, r)) : ∃ q, (rule.dropped.run q).head? = some (v, r) := by
  rw [Rule.find] at h
  split at h
  · cases h
  · simp only [hstop, Bool.not_false, Bool.true_or] at h
    have hhead : ∀ ms : List (List α × List α × List α), ms.find? (fun _ => true) = ms.head? := by
      intro ms
      cases ms <;> rfl
    rw [hhead] at h
    obtain ⟨m, -, m', hfirst, hsame⟩ := Regex.head?_flatMap_map h
    obtain ⟨-, rfl⟩ := Prod.mk.inj hsame
    exact ⟨m.2, hfirst⟩

/-- Nothing is found only where there is no match. -/
theorem Rule.find_eq_none_iff {rule : Rule α} {prev : Option α} {s : List α} :
    rule.find word prev s = none ↔ ¬ rule.pattern.At word prev s := by
  rw [Rule.find]
  -- a rule that starts at a boundary has no match where there is none
  split
  · rename_i hstart
    rw [Bool.and_eq_true, Bool.not_eq_true'] at hstart
    refine iff_of_true rfl fun hat => ?_
    obtain ⟨x, r, -, -, hb, -⟩ := hat
    rw [hb hstart.1] at hstart
    exact Bool.noConfusion hstart.2
  · rename_i hstart
    rw [List.find?_eq_none]
    constructor
    · intro hnone hat
      obtain ⟨x, r, rfl, ⟨g, v, rfl, hg, hv⟩, -, hstop⟩ := hat
      refine hnone (g, v, r) (Rule.mem_candidates.mpr ⟨rfl, hg, hv⟩) ?_
      -- no candidate passes the check for the end, and an occurrence would
      cases hb : rule.stop with
      | false => rfl
      | true => exact hstop hb
    · intro hat m hm hstop
      obtain ⟨hs, hg, hv⟩ := Rule.mem_candidates.mp hm
      refine hat ⟨m.1 ++ m.2.1, m.2.2, hs, ⟨m.1, m.2.1, rfl, hg, hv⟩, ?_, ?_⟩
      · intro hb
        have hstart' : rule.start = true := hb
        simpa [hstart'] using hstart
      · intro hb
        have hstop' : rule.stop = true := hb
        simpa [hstop'] using hstop

/-! ## The scan -/

/-- Characters of a match are passed over. -/
theorem Rule.sub_skip (rule : Rule α) (prev : Option α) (w r : List α) :
    rule.sub word w.length prev (w ++ r) = rule.sub word 0 (lastOf prev w) r := by
  induction w generalizing prev with
  | nil => rfl
  | cons c w ih =>
      rw [lastOf_cons]
      exact ih (some c)

/-- A substitution is a scan of the text. -/
theorem Rule.scan_sub {rule : Rule α} (hrule : 0 < (rule.kept.seq rule.dropped).minLength)
    (prev : Option α) (s : List α) : Scan word rule prev s (rule.sub word 0 prev s) := by
  -- a match takes at least one element, so the rest of the text is shorter
  induction hn : s.length using Nat.strongRecOn generalizing prev s with
  | ind n ih =>
      subst hn
      cases s with
      | nil => exact .nil
      | cons c cs =>
          cases hfind : rule.find word prev (c :: cs) with
          | none =>
              have hrest := ih cs.length (Nat.lt_succ_self _) (some c) cs rfl
              rw [Rule.sub, hfind]
              exact .pass hfind hrest
          | some m =>
              obtain ⟨g, v, r⟩ := m
              obtain ⟨hs, hg, hv, -, -⟩ := Rule.find_eq_some hfind
              have hlong := Regex.Lang.minLength_le (e := .seq rule.kept rule.dropped)
                ⟨g, v, rfl, hg, hv⟩
              -- the scan skips what is left of the match, whose first element it stands on
              cases hw : g ++ v with
              | nil =>
                  rw [hw] at hlong
                  exact absurd hrule (Nat.not_lt.mpr hlong)
              | cons d w =>
                  rw [hw, List.cons_append] at hs
                  obtain ⟨rfl, rfl⟩ := List.cons.inj hs
                  have hskip : g.length + v.length - 1 = w.length := by
                    rw [← List.length_append, hw, List.length_cons, Nat.add_sub_cancel]
                  have hless : r.length < (c :: (w ++ r)).length := by
                    rw [List.length_cons, List.length_append]
                    omega
                  have hrest := ih r.length hless (lastOf prev (g ++ v)) r rfl
                  rw [Rule.sub, hfind]
                  show Scan word rule prev (c :: (w ++ r)) (rule.keep g ++ (rule.placeholder ++ _))
                  rw [hskip, Rule.sub_skip, ← lastOf_cons prev c w, ← hw]
                  rw [← List.cons_append, ← hw] at hfind ⊢
                  exact .hit hfind hrest

/-- What holds of the characters of the text, of the template and of the placeholder holds of
    the characters a substitution writes. -/
theorem Rule.forall_mem_sub {rule : Rule α} {p : α → Prop}
    (hkeep : ∀ g, (∀ c ∈ g, p c) → ∀ c ∈ rule.keep g, p c) (hmark : ∀ c ∈ rule.placeholder, p c)
    {skip : Nat} {prev : Option α} {s : List α} (hs : ∀ c ∈ s, p c) :
    ∀ c ∈ rule.sub word skip prev s, p c := by
  induction s generalizing skip prev with
  | nil =>
      rw [Rule.sub]
      exact hs
  | cons d cs ih =>
      obtain ⟨hd, hcs⟩ := List.forall_mem_cons.mp hs
      cases skip with
      | succ skip => exact ih hcs
      | zero =>
          cases hfind : rule.find word prev (d :: cs) with
          | none =>
              rw [Rule.sub, hfind]
              exact List.forall_mem_cons.mpr ⟨hd, ih hcs⟩
          | some m =>
              obtain ⟨g, v, r⟩ := m
              -- the first part of the match is part of the text
              have hg : ∀ c ∈ g, p c := by
                intro c hc
                apply hs
                rw [(Rule.find_eq_some hfind).1]
                exact List.mem_append_left _ (List.mem_append_left _ hc)
              rw [Rule.sub, hfind]
              simp only [List.forall_mem_append]
              exact ⟨hkeep g hg, hmark, ih hcs⟩

/-- A text without a match stays as it is. -/
theorem Rule.sub_eq_self {rule : Rule α} {prev : Option α} {s : List α}
    (h : ¬ rule.pattern.Occurs word prev s) : rule.sub word 0 prev s = s := by
  induction s generalizing prev with
  | nil => rfl
  | cons c cs ih =>
      have hfind : rule.find word prev (c :: cs) = none :=
        Rule.find_eq_none_iff.mpr fun hat => h (.inl hat)
      rw [Rule.sub, hfind]
      show c :: rule.sub word 0 (some c) cs = c :: cs
      rw [ih fun hocc => h (.inr hocc)]

/-! ## What a substitution leaves of the other patterns -/

/-- A match that starts after `prev'` may as well start after `prev`. -/
def Pattern.Seam (word : α → Bool) (pattern : Pattern α) (prev' prev : Option α) (s : List α) :
    Prop :=
  ∀ x r, s = x ++ r → pattern.body.Lang x →
    (pattern.stop = true → wordBoundary word x.getLast? r.head? = true) → pattern.start = true →
    wordBoundary word prev' s.head? = true → wordBoundary word prev s.head? = true

/-- No match of the pattern comes out of the substitution.  A match has only `plain`
    characters and a placeholder stands between two others; what is kept of a match is the
    image under `f` of what it was; and no match begins or ends at the edge of a
    replacement that did not before.  `H` is what is known of the text replaced. -/
structure Rule.Spares (word plain : α → Bool) (f : α → α) (H : Option α → List α → Prop)
    (rule : Rule α) (pattern : Pattern α) : Prop where
  nonempty : 0 < pattern.body.minLength
  all_plain : ∀ w, pattern.body.Lang w → ∀ c ∈ w, plain c = true
  placeholder : ∃ lt label gt, rule.placeholder = lt :: (label ++ [gt]) ∧
    plain lt = false ∧ plain gt = false ∧ word lt = false ∧
    ¬ pattern.Occurs word (some lt) (label ++ [gt]) ∧
    ∀ prev s g v r, H prev s → rule.find word prev s = some (g, v, r) →
      pattern.Seam word (some gt) (lastOf prev (g ++ v)) r
  word_image : ∀ c, word (f c) = word c
  keep_image : ∀ g, rule.kept.Lang g → (rule.keep g).map f = g.map f
  stable : ∀ g, rule.kept.Lang g → ∀ q p t, rule.keep g = q ++ (p ++ t) → ∀ u p',
    p'.map f = p.map f → pattern.body.Lang (u ++ p) → pattern.body.Lang (u ++ p')
  last : pattern.stop = true → ∀ g, rule.kept.Lang g → ∀ w u c, rule.keep g = w ++ [c] →
    ¬ pattern.body.Lang (u ++ [c])
  back : rule.start = true ∨ ∀ g v r, rule.kept.Lang g → rule.dropped.Lang v → rule.keep g = [] →
    (g ++ v ++ r).head?.any word = false

section Lifting

variable {plain : α → Bool} {f : α → α} {H : Option α → List α → Prop} {rule : Rule α}
  {pattern : Pattern α}

theorem Pattern.Seam.refl (prev : Option α) (s : List α) : pattern.Seam word prev prev s :=
  fun _ _ _ _ _ _ h => h

theorem wordBoundary_congr {a b a' b' : Option α} (ha : a.any word = a'.any word)
    (hb : b.any word = b'.any word) : wordBoundary word a b = wordBoundary word a' b' := by
  rw [wordBoundary, wordBoundary, ha, hb]

/-- Texts of one image begin and end with word characters alike. -/
theorem any_ends_of_map_eq (hf : ∀ c, word (f c) = word c) {p p' : List α}
    (h : p'.map f = p.map f) :
    p'.head?.any word = p.head?.any word ∧ p'.getLast?.any word = p.getLast?.any word := by
  have hany : ∀ o : Option α, (o.map f).any word = o.any word := by
    intro o
    cases o with
    | none => rfl
    | some c => exact hf c
  constructor
  · rw [← hany p'.head?, ← List.head?_map, h, List.head?_map, hany]
  · rw [← hany p'.getLast?, ← List.getLast?_map, h, List.getLast?_map, hany]

/-- A part of what is kept comes from the same part of the match. -/
theorem Rule.Spares.split_kept (hs : rule.Spares word plain f H pattern) {g q p t : List α}
    (hg : rule.kept.Lang g) (hkeep : rule.keep g = q ++ (p ++ t)) :
    ∃ q' p' t', g = q' ++ (p' ++ t') ∧ q'.map f = q.map f ∧ p'.map f = p.map f ∧
      t'.map f = t.map f := by
  have himage := hs.keep_image g hg
  rw [hkeep, List.map_append, List.map_append] at himage
  obtain ⟨q', w, rfl, hq, hw⟩ := List.map_eq_append_iff.mp himage.symm
  obtain ⟨p', t', rfl, hp, ht⟩ := List.map_eq_append_iff.mp hw
  exact ⟨q', p', t', rfl, hq, hp, ht⟩

/-- A match that ends in what is kept of another match was there before, where the other
    match now ends as it did. -/
theorem Rule.Spares.lang_kept (hs : rule.Spares word plain f H pattern) {g v r q p t u out : List α}
    (hg : rule.kept.Lang g) (hkeep : rule.keep g = q ++ (p ++ t)) (hp : p ≠ [])
    (hlang : pattern.body.Lang (u ++ p))
    (hstop : pattern.stop = true →
      wordBoundary word p.getLast? (t ++ (rule.placeholder ++ out)).head? = true) :
    ∃ q' p' t', g = q' ++ (p' ++ t') ∧ q'.map f = q.map f ∧ p'.map f = p.map f ∧
      pattern.body.Lang (u ++ p') ∧
      (pattern.stop = true → wordBoundary word p'.getLast? (t' ++ (v ++ r)).head? = true) := by
  obtain ⟨q', p', t', rfl, hq, hp', ht⟩ := hs.split_kept hg hkeep
  refine ⟨q', p', t', rfl, hq, hp', hs.stable _ hg q p t hkeep u p' hp' hlang, fun hb => ?_⟩
  -- the match of the pattern ends with the kept part, or before its end
  cases t with
  | nil =>
      -- the match would end where the replacement of the other one begins
      obtain ⟨w, c, rfl⟩ : ∃ w c, p = w ++ [c] :=
        ⟨p.dropLast, p.getLast hp, (List.dropLast_append_getLast hp).symm⟩
      rw [List.append_nil, ← List.append_assoc] at hkeep
      rw [← List.append_assoc] at hlang
      exact absurd hlang (hs.last hb _ hg (q ++ w) (u ++ w) c (by simpa using hkeep))
  | cons c t =>
      cases t' with
      | nil => cases ht
      | cons c' t' =>
          have hnext := (any_ends_of_map_eq hs.word_image ht).1
          have hlast := (any_ends_of_map_eq hs.word_image hp').2
          rw [wordBoundary_congr hlast]
          · exact hstop hb
          · exact hnext

/-- A plain text before a mark ends before it. -/
theorem splits_before {m : α} (hm : plain m = false) {x b w rest : List α}
    (h : x ++ b = w ++ m :: rest) (hx : ∀ c ∈ x, plain c = true) :
    ∃ t, w = x ++ t ∧ b = t ++ m :: rest := by
  obtain ⟨t, rfl, hb⟩ | ⟨t, rfl, hb⟩ := List.append_eq_append_iff.mp h
  · exact ⟨t, rfl, hb⟩
  · cases t with
    | nil => exact ⟨[], by simp, hb.symm⟩
    | cons d t =>
        obtain ⟨rfl, -⟩ := List.cons.inj hb
        have hd := hx m (by simp)
        rw [hm] at hd
        cases hd

/-- What comes out without a placeholder was there, up to what is kept of a match. -/
theorem Scan.prefix_cases {lt : α} {mark : List α} (hmark : rule.placeholder = lt :: mark)
    (hlt : plain lt = false) {prev : Option α} {s x b out : List α}
    (hscan : Scan word rule prev s out) (hout : out = x ++ b) (hx : ∀ c ∈ x, plain c = true) :
    (∃ r, s = x ++ r ∧ Scan word rule (lastOf prev x) r b) ∨
      ∃ u p t g v r rest, x = u ++ p ∧ p ≠ [] ∧ rule.keep g = p ++ t ∧ s = u ++ (g ++ v ++ r) ∧
        rule.find word (lastOf prev u) (g ++ v ++ r) = some (g, v, r) ∧
        b = t ++ (rule.placeholder ++ rest) := by
  induction x generalizing prev s out with
  | nil =>
      subst hout
      exact .inl ⟨s, rfl, hscan⟩
  | cons c x ih =>
      cases hscan with
      | nil => cases hout
      -- nothing is replaced here: the text and the result go on alike
      | pass hfind hrest =>
          obtain ⟨rfl, rfl⟩ := List.cons.inj hout
          rw [lastOf_cons]
          obtain ⟨r, rfl, hr⟩ | ⟨u, p, t, g, v, r, rest, rfl, hp, hkeep, rfl, hg, hb⟩ :=
            ih hrest rfl fun d hd => hx d (List.mem_cons_of_mem _ hd)
          · exact .inl ⟨r, rfl, hr⟩
          · exact .inr ⟨_ :: u, p, t, g, v, r, rest, rfl, hp, hkeep, rfl, by rwa [lastOf_cons], hb⟩
      -- the replacement begins inside or behind the kept part, not before its first mark
      | @hit _ g v r rest hfind hrest =>
          rw [hmark, List.cons_append] at hout
          obtain ⟨t, hkeep, rfl⟩ := splits_before hlt hout.symm hx
          refine .inr ⟨[], c :: x, t, g, v, r, rest, rfl, List.cons_ne_nil c x, hkeep, rfl, hfind, ?_⟩
          rw [hmark, List.cons_append]

/-- A word ends before what comes out only where it ends before the text. -/
theorem Scan.wordBoundary_head (hs : rule.Spares word plain f H pattern) {prev : Option α}
    {s out : List α} (hscan : Scan word rule prev s out)
    (h : wordBoundary word prev out.head? = true) : wordBoundary word prev s.head? = true := by
  cases hscan with
  | nil => exact h
  | pass => exact h
  | @hit _ g v r rest hfind hrest =>
      obtain ⟨-, hg, hv, hstart, -⟩ := Rule.find_eq_some hfind
      -- the first part is kept, or the match is replaced as a whole
      obtain hb | hb := hs.back
      · exact hstart hb
      · have himage := hs.keep_image g hg
        cases hkeep : rule.keep g with
        | nil =>
            obtain ⟨lt, label, gt, hmark, -, -, hword, -⟩ := hs.placeholder
            rw [hkeep, hmark] at h
            have hhead : (g ++ v ++ r).head?.any word = (some lt).any word :=
              (hb g v r hg hv hkeep).trans hword.symm
            rw [wordBoundary_congr rfl hhead]
            exact h
        | cons c kept =>
            rw [hkeep] at h himage
            cases g with
            | nil => cases himage
            | cons d g =>
                have hhead : word d = word c := (any_ends_of_map_eq hs.word_image himage.symm).1
                rw [← h]
                exact wordBoundary_congr rfl hhead

/-- A match at the head of what comes out was at the head of the text. -/
theorem Scan.at_of_at (hs : rule.Spares word plain f H pattern) {prev' prev : Option α}
    {s out : List α} (hscan : Scan word rule prev s out) (hseam : pattern.Seam word prev' prev s)
    (hat : pattern.At word prev' out) : pattern.At word prev s := by
  obtain ⟨x, b, rfl, hlang, hstart, hstop⟩ := hat
  obtain ⟨lt, label, gt, hmark, hlt, -⟩ := hs.placeholder
  have hne : x ≠ [] := by
    rintro rfl
    exact absurd hs.nonempty (Nat.not_lt.mpr hlang.minLength_le)
  rw [lastOf_of_ne_nil hne] at hstop
  obtain ⟨r, rfl, hr⟩ | ⟨u, p, t, g, v, r, rest, rfl, hp, hkeep, rfl, hfind, rfl⟩ :=
    -- the match lies before the first replacement, or ends in the kept part of it
    hscan.prefix_cases hmark hlt rfl (hs.all_plain x hlang)
  · rw [lastOf_of_ne_nil hne] at hr
    have hstop' : pattern.stop = true → wordBoundary word x.getLast? r.head? = true :=
      fun hb => hr.wordBoundary_head hs (hstop hb)
    refine ⟨x, r, rfl, hlang, fun hb => ?_, by rwa [lastOf_of_ne_nil hne]⟩
    refine hseam x r rfl hlang hstop' hb ?_
    rw [List.head?_append_of_ne_nil x hne] at hstart ⊢
    exact hstart hb
  · obtain ⟨-, hg, -⟩ := Rule.find_eq_some hfind
    rw [List.getLast?_append_of_ne_nil u hp] at hstop
    obtain ⟨q', p', t', rfl, hq, hp', hlang', hstop'⟩ := hs.lang_kept (v := v) (r := r)
      hg (show rule.keep g = [] ++ (p ++ t) from hkeep) hp hlang hstop
    obtain rfl := List.map_eq_nil_iff.mp hq
    have hp'ne : p' ≠ [] := fun h => hp (List.map_eq_nil_iff.mp (by rw [← hp', h]; rfl))
    -- the kept part has the image of what was there, and so the same boundary
    have hhead : (u ++ ([] ++ (p' ++ t') ++ v ++ r)).head?.any word =
        (u ++ p ++ (t ++ (rule.placeholder ++ rest))).head?.any word := by
      cases u with
      | cons c u => rfl
      | nil =>
          have h := (any_ends_of_map_eq hs.word_image hp').1
          rw [List.nil_append, List.nil_append, List.nil_append, List.append_assoc,
            List.append_assoc, List.head?_append_of_ne_nil p' hp'ne,
            List.head?_append_of_ne_nil p hp]
          exact h
    refine ⟨u ++ p', t' ++ (v ++ r), by simp, hlang', fun hb => ?_, fun hb => ?_⟩
    · refine hseam (u ++ p') (t' ++ (v ++ r)) (by simp) hlang' ?_ hb ?_
      · rwa [List.getLast?_append_of_ne_nil u hp'ne]
      · rw [wordBoundary_congr rfl hhead]
        exact hstart hb
    · rw [lastOf_append, lastOf_of_ne_nil hp'ne]
      exact hstop' hb

theorem Rule.Spares.ne_nil (hs : rule.Spares word plain f H pattern) {x : List α}
    (h : pattern.body.Lang x) : x ≠ [] := by
  rintro rfl
  exact absurd hs.nonempty (Nat.not_lt.mpr h.minLength_le)

theorem Pattern.At.head_plain (hs : rule.Spares word plain f H pattern) {prev : Option α} {c : α}
    {cs : List α} (h : pattern.At word prev (c :: cs)) : plain c = true := by
  obtain ⟨x, r, hsplit, hlang, -⟩ := h
  cases x with
  | nil => exact absurd rfl (hs.ne_nil hlang)
  | cons d x =>
      obtain ⟨rfl, -⟩ := List.cons.inj hsplit
      exact hs.all_plain _ hlang c List.mem_cons_self

theorem Pattern.At.ne_nil {prev : Option α} {s : List α} (hpos : 0 < pattern.body.minLength)
    (h : pattern.At word prev s) : s ≠ [] := by
  obtain ⟨x, r, rfl, hlang, -⟩ := h
  intro hnil
  rw [(List.append_eq_nil_iff.mp hnil).1] at hlang
  exact absurd hpos (Nat.not_lt.mpr hlang.minLength_le)

/-- A match in `u ++ rest` starts in `u` or after it. -/
theorem Pattern.Occurs.append_cases {prev : Option α} {u rest : List α}
    (h : pattern.Occurs word prev (u ++ rest)) :
    (∃ q t, u = q ++ t ∧ t ≠ [] ∧ pattern.At word (lastOf prev q) (t ++ rest)) ∨
      pattern.Occurs word (lastOf prev u) rest := by
  induction u generalizing prev with
  | nil => exact .inr h
  | cons c u ih =>
      rw [lastOf_cons]
      obtain hat | hrest := h
      · exact .inl ⟨[], c :: u, rfl, List.cons_ne_nil c u, hat⟩
      · obtain ⟨q, t, rfl, ht, hat⟩ | hrest := ih hrest
        · exact .inl ⟨c :: q, t, rfl, ht, by rwa [lastOf_cons]⟩
        · exact .inr hrest

theorem Pattern.Occurs.append {prev : Option α} {r : List α} (u : List α)
    (h : pattern.Occurs word (lastOf prev u) r) : pattern.Occurs word prev (u ++ r) := by
  induction u generalizing prev with
  | nil => exact h
  | cons c u ih =>
      rw [lastOf_cons] at h
      exact .inr (ih h)

theorem Pattern.At.occurs {prev : Option α} {s : List α} (h : pattern.At word prev s) :
    pattern.Occurs word prev s := by
  cases s with
  | nil => exact h
  | cons c s => exact .inl h

/-- A match has no character that is not plain, so it ends before the first one. -/
theorem Pattern.At.of_mark (hplain : ∀ w, pattern.body.Lang w → ∀ c ∈ w, plain c = true) {m : α}
    (hm : plain m = false) {prev : Option α} {w rest : List α}
    (h : pattern.At word prev (w ++ m :: rest)) : pattern.At word prev (w ++ [m]) := by
  obtain ⟨x, b, hsplit, hlang, hstart, hstop⟩ := h
  obtain ⟨t, rfl, rfl⟩ := splits_before hm hsplit.symm (hplain x hlang)
  refine ⟨x, t ++ [m], List.append_assoc .., hlang, fun hb => ?_, fun hb => ?_⟩
  · have hhead : ((x ++ t) ++ [m]).head? = ((x ++ t) ++ m :: rest).head? := by
      cases x ++ t <;> rfl
    rw [hhead]
    exact hstart hb
  · have hhead : (t ++ [m]).head? = (t ++ m :: rest).head? := by
      cases t <;> rfl
    rw [hhead]
    exact hstop hb

theorem Pattern.Occurs.mark_cases (hplain : ∀ w, pattern.body.Lang w → ∀ c ∈ w, plain c = true) {m : α}
    (hm : plain m = false) {prev : Option α} {w rest : List α}
    (h : pattern.Occurs word prev (w ++ m :: rest)) :
    pattern.Occurs word prev (w ++ [m]) ∨ pattern.Occurs word (some m) rest := by
  induction w generalizing prev with
  | nil =>
      obtain hat | hrest := h
      · exact .inl (.inl (Pattern.At.of_mark (w := []) hplain hm hat))
      · exact .inr hrest
  | cons c w ih =>
      obtain hat | hrest := h
      · exact .inl (.inl (Pattern.At.of_mark (w := c :: w) hplain hm hat))
      · exact (ih hrest).imp_left .inr

/-- A match in what comes out starts at a character that was passed over, or in what is
    kept of another match, or at the same place of the text replaced. -/
theorem Scan.lift {C : Option α → List α → Prop} (hs : rule.Spares word plain f H pattern)
    (hH : ∀ prev u r, H prev (u ++ r) → H (lastOf prev u) r)
    (hup : ∀ prev u r, C (lastOf prev u) r → C prev (u ++ r))
    (hpass : ∀ prev c cs, rule.find word prev (c :: cs) = none → pattern.At word prev (c :: cs) →
      C prev (c :: cs))
    (hhit : ∀ prev g v r q x t, rule.find word prev (g ++ v ++ r) = some (g, v, r) →
      rule.keep g = q ++ (x ++ t) → pattern.body.Lang x →
      pattern.Occurs word prev (g ++ v ++ r) → C prev (g ++ v ++ r))
    {prev' prev : Option α} {s out : List α} (hscan : Scan word rule prev s out)
    (hseam : pattern.Seam word prev' prev s) (hknown : H prev s)
    (hocc : pattern.Occurs word prev' out) : C prev s := by
  induction hscan generalizing prev' with
  | nil => exact absurd rfl (Pattern.At.ne_nil hs.nonempty hocc)
  -- an occurrence in the result is one here or one further on
  | @pass prev c cs out hfind hrest ih =>
      obtain hat | hocc := hocc
      · exact hpass prev c cs hfind ((Scan.pass hfind hrest).at_of_at hs hseam hat)
      · exact hup prev [c] cs (ih (.refl _ _) (hH prev [c] cs hknown) hocc)
  | @hit prev g v r out hfind hrest ih =>
      obtain ⟨-, hg, hv, -, -⟩ := Rule.find_eq_some hfind
      obtain ⟨lt, label, gt, hmark, hlt, hgt, hword, hlabel, hafter⟩ := hs.placeholder
      -- it begins in the kept part, or in the mark and what follows
      obtain ⟨q, t, hkeep, ht, hat⟩ | hocc := hocc.append_cases
      · obtain ⟨x, b, hsplit, hlang, hstart, hstop⟩ := hat
        rw [hmark, List.cons_append] at hsplit hstart
        obtain ⟨t, rfl, rfl⟩ := splits_before hlt hsplit.symm (hs.all_plain x hlang)
        have hx := hs.ne_nil hlang
        rw [lastOf_of_ne_nil hx, ← List.cons_append, ← hmark] at hstop
        obtain ⟨q', x', t', rfl, hq, hx', hlang', hstop'⟩ := hs.lang_kept (u := []) (v := v) (r := r)
          hg hkeep hx hlang hstop
        have hx'ne : x' ≠ [] := hs.ne_nil hlang'
        -- the kept part has the image of the text, so the boundary before the match is the same
        have hhead : (x' ++ (t' ++ (v ++ r))).head?.any word = (x ++ t ++ (lt :: (label ++ [gt] ++ out))).head?.any word := by
          rw [List.append_assoc, List.head?_append_of_ne_nil x' hx'ne, List.head?_append_of_ne_nil x hx]
          exact (any_ends_of_map_eq hs.word_image hx').1
        have hat : pattern.At word (lastOf prev q') (x' ++ (t' ++ (v ++ r))) := by
          refine ⟨x', t' ++ (v ++ r), rfl, hlang', fun hb => ?_, fun hb => ?_⟩
          · have hb' := hstart hb
            rw [← wordBoundary_congr rfl hhead] at hb'
            -- at the very start the seam decides, elsewhere the kept part does
            cases q with
            | nil =>
                obtain rfl := List.map_eq_nil_iff.mp hq
                have hstart' := hseam x' (t' ++ (v ++ r)) (by simp) hlang' hstop' hb
                simp only [List.nil_append, List.append_assoc] at hstart'
                exact hstart' hb'
            | cons c q =>
                have hq'ne : q' ≠ [] := by
                  rintro rfl
                  cases hq
                rw [lastOf_of_ne_nil (List.cons_ne_nil c q)] at hb'
                rw [lastOf_of_ne_nil hq'ne,
                  wordBoundary_congr (any_ends_of_map_eq hs.word_image hq).2 rfl]
                exact hb'
          · rw [lastOf_of_ne_nil hx'ne]
            exact hstop' hb
        refine hhit prev _ v r q x t hfind hkeep hlang ?_
        have hocc := hat.occurs.append q'
        simpa using hocc
      -- no occurrence begins with the mark or reaches over it
      · rw [hmark, List.cons_append] at hocc
        obtain hat | hocc := hocc
        · exact absurd (hat.head_plain hs) (by rw [hlt]; exact Bool.false_ne_true)
        · rw [List.append_assoc] at hocc
          obtain hocc | hocc := hocc.mark_cases hs.all_plain hgt
          · exact absurd hocc hlabel
          · refine hup prev (g ++ v) r (ih (hafter prev _ g v r hknown hfind) ?_ hocc)
            exact hH prev (g ++ v) r hknown

/-- A match in what comes out comes from a match in the text replaced. -/
theorem Scan.occurs_of_occurs (hs : rule.Spares word plain f H pattern)
    (hH : ∀ prev u r, H prev (u ++ r) → H (lastOf prev u) r) {prev' prev : Option α}
    {s out : List α} (hscan : Scan word rule prev s out) (hseam : pattern.Seam word prev' prev s)
    (hknown : H prev s) (hocc : pattern.Occurs word prev' out) : pattern.Occurs word prev s := by
  refine Scan.lift (C := pattern.Occurs word) hs hH ?_ ?_ ?_ hscan hseam hknown hocc
  · intro prev u r
    exact Pattern.Occurs.append u
  · intro prev c cs _ hat
    exact .inl hat
  · intro prev g v r q x t _ _ _ hocc
    exact hocc

/-- A pattern that has no match in a text has none in what a substitution makes of it. -/
theorem Rule.Spares.not_occurs_sub (hs : rule.Spares word plain f H pattern)
    (hrule : 0 < (rule.kept.seq rule.dropped).minLength)
    (hH : ∀ prev u r, H prev (u ++ r) → H (lastOf prev u) r) {s : List α} (hknown : H none s)
    (h : ¬ pattern.Occurs word none s) : ¬ pattern.Occurs word none (rule.sub word 0 none s) := by
  intro hocc
  exact h ((Rule.scan_sub hrule none s).occurs_of_occurs hs hH (.refl none s) hknown hocc)

/-- The pattern of a substitution has no match in what comes out of it. -/
theorem Rule.Spares.not_occurs_own (hs : rule.Spares word plain f H rule.pattern)
    (hH : ∀ prev u r, H prev (u ++ r) → H (lastOf prev u) r) {s : List α} (hknown : H none s)
    (hkeep : ∀ g, rule.kept.Lang g → ∀ q x t, rule.keep g = q ++ (x ++ t) →
      ¬ rule.pattern.body.Lang x) :
    ¬ rule.pattern.Occurs word none (rule.sub word 0 none s) := by
  intro hocc
  refine Scan.lift (C := fun _ _ => False) hs hH ?_ ?_ ?_ (Rule.scan_sub hs.nonempty none s)
    (.refl none s) hknown hocc
  · exact fun _ _ _ h => h
  · intro prev c cs hfind hat
    exact Rule.find_eq_none_iff.mp hfind hat
  · intro prev g v r q x t hfind hkept hlang _
    exact hkeep g (Rule.find_eq_some hfind).2.1 q x t hkept hlang

end Lifting

/-! ## A pattern that spans from one mark to another -/

/-- `a[\s\S]*?b` and its substitution. -/
def spanRule (a b : Regex α) (placeholder : List α) : Rule α where
  start := false
  kept := .empty
  dropped := .seq a (.seq (.few fun _ => true) b)
  stop := false
  keep := fun _ => []
  placeholder := placeholder

/-- An expression without boundaries. -/
def Pattern.ofRegex (e : Regex α) : Pattern α where
  start := false
  body := e
  stop := false

section Span

variable {plain : α → Bool} {a b : Regex α} {placeholder : List α}

theorem Pattern.at_ofRegex {e : Regex α} {prev : Option α} {s : List α} :
    (Pattern.ofRegex e).At word prev s ↔ ∃ x r, s = x ++ r ∧ e.Lang x := by
  constructor
  · rintro ⟨x, r, hs, hlang, -⟩
    exact ⟨x, r, hs, hlang⟩
  · rintro ⟨x, r, hs, hlang⟩
    exact ⟨x, r, hs, hlang, fun h => absurd h Bool.false_ne_true, fun h => absurd h Bool.false_ne_true⟩

theorem Pattern.occurs_ofRegex {e : Regex α} {prev : Option α} {s : List α} :
    (Pattern.ofRegex e).Occurs word prev s ↔ ∃ u x r, s = u ++ (x ++ r) ∧ e.Lang x := by
  induction s generalizing prev with
  | nil =>
      show (Pattern.ofRegex e).At word prev [] ↔ _
      rw [Pattern.at_ofRegex]
      constructor
      · rintro ⟨x, r, hs, hlang⟩
        exact ⟨[], x, r, hs, hlang⟩
      · rintro ⟨u, x, r, hs, hlang⟩
        exact ⟨x, r, (List.append_eq_nil_iff.mp hs.symm).2.symm, hlang⟩
  | cons c cs ih =>
      show (Pattern.ofRegex e).At word prev (c :: cs) ∨ _ ↔ _
      rw [Pattern.at_ofRegex, ih]
      constructor
      · rintro (⟨x, r, hs, hlang⟩ | ⟨u, x, r, rfl, hlang⟩)
        · exact ⟨[], x, r, hs, hlang⟩
        · exact ⟨c :: u, x, r, rfl, hlang⟩
      · rintro ⟨u, x, r, hs, hlang⟩
        cases u with
        | nil => exact .inl ⟨x, r, hs, hlang⟩
        | cons d u =>
            obtain ⟨rfl, rfl⟩ := List.cons.inj hs
            exact .inr ⟨u, x, r, rfl, hlang⟩

/-- The match of a span begins with a match of its first mark. -/
theorem at_spanRule {prev : Option α} {s : List α} :
    (spanRule a b placeholder).pattern.At word prev s ↔
      ∃ x m y r, s = x ++ (m ++ (y ++ r)) ∧ a.Lang x ∧ b.Lang y := by
  constructor
  · rintro ⟨x, r, rfl, ⟨_, w, rfl, rfl, x, w', rfl, hx, m, y, rfl, -, hy⟩, -⟩
    exact ⟨x, m, y, r, by simp, hx, hy⟩
  · rintro ⟨x, m, y, r, rfl, hx, hy⟩
    exact ⟨x ++ (m ++ y), r, by simp, ⟨[], _, rfl, rfl, x, _, rfl, hx, m, y, rfl, fun _ _ => rfl, hy⟩,
      fun h => absurd h Bool.false_ne_true, fun h => absurd h Bool.false_ne_true⟩

/-- No span comes out: a first mark that is left has no second mark behind it. -/
theorem not_occurs_spanRule
    (ha : (spanRule a b placeholder).Spares word plain id (fun _ _ => True) (.ofRegex a))
    (hb : (spanRule a b placeholder).Spares word plain id (fun _ _ => True) (.ofRegex b))
    {prev' prev : Option α} {s out : List α} (hscan : Scan word (spanRule a b placeholder) prev s out) :
    ¬ (spanRule a b placeholder).pattern.Occurs word prev' out := by
  -- The placeholder is a label between two marks, and no first mark begins in it.
  obtain ⟨lt, label, gt, hmark, hlt, hgt, -, hlabel, -⟩ := ha.placeholder
  induction hscan generalizing prev' with
  | nil =>
      intro hat
      obtain ⟨x, m, y, r, hs, hx, -⟩ := at_spanRule.mp hat
      exact ha.ne_nil hx (List.append_eq_nil_iff.mp hs.symm).1
  | @pass prev c cs out hfind hrest ih =>
      rintro (hat | hocc)
      -- A span at the head of the output would have begun a span of the input, which the scan
      -- passed by.
      · obtain ⟨x, m, y, r, hs, hx, hy⟩ := at_spanRule.mp hat
        obtain ⟨r', hs', hr'⟩ | ⟨u, p, t, g, v, r, rest, rfl, hp, hkeep, -⟩ :=
          (Scan.pass hfind hrest).prefix_cases hmark hlt hs (ha.all_plain x hx)
        · have hocc : (Pattern.ofRegex b).Occurs word (lastOf prev x) (m ++ (y ++ r)) :=
            Pattern.occurs_ofRegex.mpr ⟨m, y, r, rfl, hy⟩
          have hocc' := hr'.occurs_of_occurs hb (fun _ _ _ _ => trivial) (.refl _ _) trivial hocc
          obtain ⟨m', y', q, rfl, hy'⟩ := Pattern.occurs_ofRegex.mp hocc'
          exact Rule.find_eq_none_iff.mp hfind (at_spanRule.mpr ⟨x, m', y', q, hs', hx, hy'⟩)
        · exact hp (List.append_eq_nil_iff.mp hkeep.symm).1
      · exact ih hocc
  | @hit prev g v r out hfind hrest ih =>
      intro hocc
      have hfirst : ∀ {p w}, (spanRule a b placeholder).pattern.At word p w →
          (Pattern.ofRegex a).At word p w := by
        intro p w hat
        obtain ⟨x, m, y, r, rfl, hx, -⟩ := at_spanRule.mp hat
        exact Pattern.at_ofRegex.mpr ⟨x, _, rfl, hx⟩
      have hout : (spanRule a b placeholder).keep g ++ ((spanRule a b placeholder).placeholder ++ out) =
          lt :: ((label ++ [gt]) ++ out) := by
        rw [hmark]
        rfl
      rw [hout] at hocc
      obtain hat | hocc := hocc
      -- It cannot begin at the bracket of the placeholder.
      · have hplain := (hfirst hat).head_plain ha
        rw [hlt] at hplain
        cases hplain
      · obtain ⟨q, t, hsplit, ht, hat⟩ | hocc := hocc.append_cases
        · -- it would begin in the placeholder
          obtain ⟨t', rfl, rfl⟩ : ∃ t', t = t' ++ [gt] ∧ label = q ++ t' := by
            obtain ⟨w, c, rfl⟩ : ∃ w c, t = w ++ [c] :=
              ⟨t.dropLast, t.getLast ht, (List.dropLast_append_getLast ht).symm⟩
            rw [← List.append_assoc] at hsplit
            obtain ⟨rfl, hc⟩ := List.append_inj' hsplit rfl
            cases hc
            exact ⟨w, rfl, rfl⟩
          rw [List.append_assoc] at hat
          have hleft := ((hfirst hat).of_mark ha.all_plain hgt).occurs.append q
          rw [← List.append_assoc] at hleft
          exact hlabel hleft
        · exact ih hocc

end Span

end LlmHarness.Substitution
