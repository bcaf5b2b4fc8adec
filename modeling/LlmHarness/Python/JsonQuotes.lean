/-
  LlmHarness.Python.JsonQuotes

  Where the characters of an encoded document stand with respect to its string
  literals.  A three-state automaton reads a text: outside a string, inside
  one, or just after a backslash inside one.

  Two facts meet here.  Whatever the scanner takes off a text leaves the
  automaton where it was, outside (`loads_closed`).  And `dumps` is outside
  again at its end, with every line boundary it holds met inside a string
  (`dumps_boundaryInside`).  So no proper prefix of an encoded document that
  ends at a line boundary is a document.
-/

import LlmHarness.Python.JsonRoundTrip

namespace LlmHarness.Python

/-- The position of a character relative to the string literals around it. -/
inductive Quote where
  | outside
  | inside
  | escaped
deriving DecidableEq

/-- The position after one more character. -/
def Quote.step : Quote → Char → Quote
  | .outside, c => if c = '"' then .inside else .outside
  | .inside, c => if c = '"' then .outside else if c = '\\' then .escaped else .inside
  | .escaped, _ => .inside

/-- The position after a text. -/
def Quote.run (q : Quote) (cs : Text) : Quote := cs.foldl Quote.step q

@[simp] theorem Quote.run_nil (q : Quote) : q.run [] = q := rfl

@[simp] theorem Quote.run_cons (q : Quote) (c : Char) (cs : Text) :
    q.run (c :: cs) = (q.step c).run cs := rfl

theorem Quote.run_append (q : Quote) (s t : Text) : q.run (s ++ t) = (q.run s).run t :=
  List.foldl_append

theorem Quote.run_outside_of_no_quote {cs : Text} (h : ∀ c ∈ cs, c ≠ '"') :
    Quote.outside.run cs = .outside := by
  induction cs with
  | nil => rfl
  | cons c cs ih =>
      rw [Quote.run_cons, Quote.step, if_neg (h c (by simp))]
      exact ih fun d hd => h d (by simp [hd])

/-! ## What the scanner takes -/

/-- `r` is what is left of `cs` after a text that moves the automaton from `q`
    to `q'`. -/
def Takes (q q' : Quote) (cs r : Text) : Prop := ∃ p, cs = p ++ r ∧ q.run p = q'

theorem Takes.refl (q : Quote) (cs : Text) : Takes q q cs cs := ⟨[], rfl, rfl⟩

theorem Takes.trans {q q' q'' : Quote} {cs r t : Text} (h₁ : Takes q q' cs r)
    (h₂ : Takes q' q'' r t) : Takes q q'' cs t := by
  obtain ⟨p₁, rfl, hp₁⟩ := h₁
  obtain ⟨p₂, rfl, hp₂⟩ := h₂
  exact ⟨p₁ ++ p₂, by rw [List.append_assoc], by rw [Quote.run_append, hp₁, hp₂]⟩

theorem Takes.cons {q q' : Quote} {c : Char} {cs r : Text} (h : Takes (q.step c) q' cs r) :
    Takes q q' (c :: cs) r := by
  obtain ⟨p, rfl, hp⟩ := h
  exact ⟨c :: p, rfl, hp⟩

theorem takes_skipSpace (cs : Text) : Takes .outside .outside cs (skipSpace cs) := by
  refine ⟨cs.takeWhile isJsonSpace, by simp [skipSpace], Quote.run_outside_of_no_quote ?_⟩
  rintro c hc rfl
  exact absurd (List.mem_takeWhile_imp hc) (by decide)

theorem hexValue_ne {c : Char} {n : Nat} (h : hexValue c = some n) : c ≠ '"' ∧ c ≠ '\\' := by
  constructor <;> rintro rfl <;> simp [hexValue] at h

theorem takes_hexUnit {a b c d : Char} {u : Nat} (h : hexUnit a b c d = some u) (r : Text) :
    Takes .inside .inside (a :: b :: c :: d :: r) r := by
  refine ⟨[a, b, c, d], rfl, ?_⟩
  cases ha : hexValue a with
  | none => simp [hexUnit, ha] at h
  | some va =>
  cases hb : hexValue b with
  | none => simp [hexUnit, ha, hb] at h
  | some vb =>
  cases hc : hexValue c with
  | none => simp [hexUnit, ha, hb, hc] at h
  | some vc =>
  cases hd : hexValue d with
  | none => simp [hexUnit, ha, hb, hc, hd] at h
  | some vd =>
      simp [Quote.step, hexValue_ne ha, hexValue_ne hb, hexValue_ne hc, hexValue_ne hd]

/-- A string body ends outside the string. -/
theorem takes_scanString (cs : Text) {s r : Text} (h : scanString cs = some (s, r)) :
    Takes .inside .outside cs r := by
  induction hlen : cs.length using Nat.strongRecOn generalizing cs s r with
  | _ n ih =>
    subst hlen
    -- the tail the scanner goes on with is shorter than `cs`
    have next : ∀ {t : Text} {x : Char}, t.length < cs.length →
        (scanString t).map (fun p => (x :: p.1, p.2)) = some (s, r) →
          Takes .inside .outside t r := by
      intro t x hlt hmap
      obtain ⟨⟨s', r'⟩, hs', heq⟩ := Option.map_eq_some_iff.mp hmap
      obtain ⟨-, rfl⟩ := Prod.mk.inj heq
      exact ih t.length hlt t hs' rfl
    rw [scanString.eq_def] at h
    cases cs with
    | nil => simp at h
    | cons c cs =>
      simp only at h
      split at h
      · rename_i hq
        -- the closing quotation mark
        subst hq
        obtain ⟨rfl, rfl⟩ : [] = s ∧ cs = r := by simpa using h
        exact Takes.cons (Takes.refl _ _)
      · rename_i hq
        split at h
        · rename_i hb
          -- a backslash, and what is escaped by it
          subst hb
          refine Takes.cons ?_
          split at h
          · rename_i a b c d rest
            -- `\u`: four hexadecimal digits
            refine Takes.cons ?_
            split at h
            · simp at h
            · rename_i u hu
              refine Takes.trans (takes_hexUnit hu rest) ?_
              split at h
              · exact next (by simp only [List.length_cons]; omega) h
              · split at h
                -- a high surrogate that a low one follows
                · rename_i e f g k rest'
                  refine Takes.cons (Takes.cons ?_)
                  cases hv : hexUnit e f g k with
                  | none => simp [hv] at h
                  | some v =>
                      refine Takes.trans (takes_hexUnit hv rest') ?_
                      rw [hv, Option.bind_some] at h
                      split at h
                      · exact next (by simp only [List.length_cons]; omega) h
                      · simp at h
                · simp at h
          · refine Takes.cons ?_
            split at h
            · exact next (by simp only [List.length_cons]; omega) h
            · simp at h
          · simp at h
        · rename_i hb
          split at h
          -- a character that stands for itself
          · simp at h
          · refine Takes.cons ?_
            rw [Quote.step, if_neg hq, if_neg hb]
            exact next (by simp) h

theorem ne_quote_of_isNumberChar {c : Char} (h : isNumberChar c) : c ≠ '"' := by
  rintro rfl
  exact absurd h (by decide)

theorem takes_literal (lit : Text) (hlit : ∀ c ∈ lit, c ≠ '"') (r : Text) :
    Takes .outside .outside (lit ++ r) r :=
  ⟨lit, rfl, Quote.run_outside_of_no_quote hlit⟩

section

variable {n : Nat}

/-- A value takes its own text, if its items and its members do. -/
theorem takes_scanOnce
    (hitems : ∀ cs js r, scanItems n cs = some (js, r) → Takes .outside .outside cs r)
    (hmembers : ∀ cs ms r, scanMembers n cs = some (ms, r) → Takes .outside .outside cs r) :
    ∀ cs j r, scanOnce (n + 1) cs = some (j, r) → Takes .outside .outside cs r := by
  intro cs j r h
  rw [scanOnce.eq_def] at h
  simp only at h
  split at h
  -- a string, an object, an array
  · rename_i cs
    obtain ⟨⟨s, r'⟩, hs, heq⟩ := Option.map_eq_some_iff.mp h
    obtain ⟨-, rfl⟩ := Prod.mk.inj heq
    exact Takes.cons (takes_scanString cs hs)
  · rename_i cs
    refine Takes.cons (Takes.trans (takes_skipSpace cs) ?_)
    split at h
    · rename_i t heq
      obtain ⟨-, rfl⟩ : Json.obj [] = j ∧ t = r := by simpa using h
      exact heq ▸ Takes.cons (Takes.refl _ _)
    · obtain ⟨⟨ms, r'⟩, hms, heq⟩ := Option.map_eq_some_iff.mp h
      obtain ⟨-, rfl⟩ := Prod.mk.inj heq
      exact hmembers _ _ _ hms
  · rename_i cs
    refine Takes.cons (Takes.trans (takes_skipSpace cs) ?_)
    split at h
    · rename_i t heq
      obtain ⟨-, rfl⟩ : Json.arr [] = j ∧ t = r := by simpa using h
      exact heq ▸ Takes.cons (Takes.refl _ _)
    · obtain ⟨⟨js, r'⟩, hjs, heq⟩ := Option.map_eq_some_iff.mp h
      obtain ⟨-, rfl⟩ := Prod.mk.inj heq
      exact hitems _ _ _ hjs
  -- the names of the constants hold no quotation mark
  · obtain ⟨-, rfl⟩ := Prod.mk.inj (Option.some.inj h)
    exact takes_literal "null".toList (by decide) _
  · obtain ⟨-, rfl⟩ := Prod.mk.inj (Option.some.inj h)
    exact takes_literal "true".toList (by decide) _
  · obtain ⟨-, rfl⟩ := Prod.mk.inj (Option.some.inj h)
    exact takes_literal "false".toList (by decide) _
  · obtain ⟨-, rfl⟩ := Prod.mk.inj (Option.some.inj h)
    exact takes_literal "NaN".toList (by decide) _
  · obtain ⟨-, rfl⟩ := Prod.mk.inj (Option.some.inj h)
    exact takes_literal "Infinity".toList (by decide) _
  · obtain ⟨-, rfl⟩ := Prod.mk.inj (Option.some.inj h)
    exact takes_literal "-Infinity".toList (by decide) _
  -- nor does a number
  · split at h
    · rename_i t u hm
      obtain ⟨v, -, heq⟩ := Option.map_eq_some_iff.mp h
      obtain ⟨-, rfl⟩ := Prod.mk.inj heq
      obtain ⟨rfl, hall⟩ := matchNumber_eq hm
      exact takes_literal _ (fun c hc => ne_quote_of_isNumberChar (hall c hc)) _
    · simp at h

/-- The items of an array take their text, if each item does. -/
theorem takes_scanItems
    (honce : ∀ cs j r, scanOnce n cs = some (j, r) → Takes .outside .outside cs r)
    (hitems : ∀ cs js r, scanItems n cs = some (js, r) → Takes .outside .outside cs r) :
    ∀ cs js r, scanItems (n + 1) cs = some (js, r) → Takes .outside .outside cs r := by
  intro cs js r h
  rw [scanItems] at h
  split at h
  · simp at h
  · rename_i j t hj
    refine Takes.trans (honce _ _ _ hj) (Takes.trans (takes_skipSpace t) ?_)
    split at h
    -- the closing bracket, or a comma and the other items
    · rename_i u heq
      obtain ⟨-, rfl⟩ : [j] = js ∧ u = r := by simpa using h
      exact heq ▸ Takes.cons (Takes.refl _ _)
    · rename_i u heq
      obtain ⟨⟨js', r'⟩, hjs, heq'⟩ := Option.map_eq_some_iff.mp h
      obtain ⟨-, rfl⟩ := Prod.mk.inj heq'
      exact heq ▸ Takes.cons (Takes.trans (takes_skipSpace u) (hitems _ _ _ hjs))
    · simp at h

/-- The members of an object take their text, if each value does: a key is a string. -/
theorem takes_scanMembers
    (honce : ∀ cs j r, scanOnce n cs = some (j, r) → Takes .outside .outside cs r)
    (hmembers : ∀ cs ms r, scanMembers n cs = some (ms, r) → Takes .outside .outside cs r) :
    ∀ cs ms r, scanMembers (n + 1) cs = some (ms, r) → Takes .outside .outside cs r := by
  intro cs ms r h
  rw [scanMembers.eq_def] at h
  simp only at h
  split at h
  · rename_i cs
    refine Takes.cons ?_
    split at h
    · simp at h
    · rename_i k t hk
      -- the key, the colon and the value
      refine Takes.trans (takes_scanString cs hk) (Takes.trans (takes_skipSpace t) ?_)
      split at h
      · rename_i u heq
        rw [heq]
        refine Takes.cons (Takes.trans (takes_skipSpace u) ?_)
        split at h
        · simp at h
        · rename_i j v hj
          refine Takes.trans (honce _ _ _ hj) (Takes.trans (takes_skipSpace v) ?_)
          -- the closing brace, or a comma and the other members
          split at h
          · rename_i w heq'
            obtain ⟨-, rfl⟩ := Prod.mk.inj (Option.some.inj h)
            exact heq' ▸ Takes.cons (Takes.refl _ _)
          · rename_i w heq'
            obtain ⟨⟨ms', r'⟩, hms, heq''⟩ := Option.map_eq_some_iff.mp h
            obtain ⟨-, rfl⟩ := Prod.mk.inj heq''
            exact heq' ▸ Takes.cons (Takes.trans (takes_skipSpace w) (hmembers _ _ _ hms))
          · simp at h
      · simp at h
  · simp at h

end

/-- The scanner leaves the automaton outside every string. -/
theorem takes_scan (n : Nat) :
    (∀ cs j r, scanOnce n cs = some (j, r) → Takes .outside .outside cs r) ∧
    (∀ cs js r, scanItems n cs = some (js, r) → Takes .outside .outside cs r) ∧
    (∀ cs ms r, scanMembers n cs = some (ms, r) → Takes .outside .outside cs r) := by
  induction n with
  | zero => simp [scanOnce, scanItems, scanMembers]
  | succ n ih =>
    obtain ⟨honce, hitems, hmembers⟩ := ih
    exact ⟨takes_scanOnce hitems hmembers, takes_scanItems honce hitems, takes_scanMembers honce hmembers⟩

/-- A text that is a document ends outside every string. -/
theorem loads_closed {cs : Text} {j : Json} (h : loads cs = some j) :
    Quote.outside.run cs = .outside := by
  rw [loads] at h
  split at h
  · rename_i v r hv
    split at h
    · rename_i hr
      have htail : Takes .outside .outside r [] := hr ▸ takes_skipSpace r
      obtain ⟨p, hp, hrun⟩ :=
        ((takes_skipSpace cs).trans ((takes_scan _).1 _ _ _ hv)).trans htail
      rwa [hp, List.append_nil]
    · simp at h
  · simp at h

/-! ## Where the encoder puts line boundaries -/

/-- Read from position `q`, every line boundary of the text is inside a
    string. -/
def BoundaryInside : Quote → Text → Prop
  | _, [] => True
  | q, c :: cs => (isLineBoundary c → q = .inside) ∧ BoundaryInside (q.step c) cs

theorem boundaryInside_append (q : Quote) (s t : Text) :
    BoundaryInside q (s ++ t) ↔ BoundaryInside q s ∧ BoundaryInside (q.run s) t := by
  induction s generalizing q with
  | nil => simp [BoundaryInside]
  | cons c s ih => simp [BoundaryInside, ih, and_assoc]

/-- A text with no boundary in it has none outside its strings. -/
theorem boundaryInside_of_none {cs : Text} (h : ∀ c ∈ cs, isLineBoundary c = false) (q : Quote) :
    BoundaryInside q cs := by
  induction cs generalizing q with
  | nil => trivial
  | cons c cs ih =>
      exact ⟨fun hc => absurd hc (by simp [h c (by simp)]), ih (fun d hd => h d (by simp [hd])) _⟩

/-- The prefix up to a boundary ends inside a string. -/
theorem BoundaryInside.run_prefix {q : Quote} {p r : Text} {c : Char}
    (h : BoundaryInside q (p ++ c :: r)) (hc : isLineBoundary c) : q.run p = .inside :=
  ((boundaryInside_append q p (c :: r)).mp h).2.1 hc

/-- A text read from outside to outside, all its boundaries inside strings. -/
def Framed (cs : Text) : Prop := Quote.outside.run cs = .outside ∧ BoundaryInside .outside cs

theorem Framed.append {s t : Text} (hs : Framed s) (ht : Framed t) : Framed (s ++ t) := by
  refine ⟨by rw [Quote.run_append, hs.1, ht.1], (boundaryInside_append _ _ _).mpr ⟨hs.2, ?_⟩⟩
  rw [hs.1]
  exact ht.2

theorem framed_of_plain {cs : Text} (h : ∀ c ∈ cs, c ≠ '"' ∧ isLineBoundary c = false) :
    Framed cs :=
  ⟨Quote.run_outside_of_no_quote fun c hc => (h c hc).1,
    boundaryInside_of_none (fun c hc => (h c hc).2) _⟩

theorem Framed.cons_plain {c : Char} {cs : Text} (hc : c ≠ '"' ∧ isLineBoundary c = false)
    (h : Framed cs) : Framed (c :: cs) :=
  (@framed_of_plain [c] (by simpa using hc)).append h

theorem escapeChar_inside (c : Char) :
    Quote.inside.run (escapeChar c) = .inside ∧ BoundaryInside .inside (escapeChar c) := by
  have hofNat : Char.ofNat c.toNat = c := Char.ofNat_toNat c
  by_cases hctl : c.toNat < 0x20
  · generalize c.toNat = n at hctl hofNat
    subst hofNat
    interval_cases n <;> exact ⟨rfl, boundaryInside_of_none (by decide) _⟩
  · by_cases hq : c = '"'
    · subst hq; exact ⟨rfl, boundaryInside_of_none (by decide) _⟩
    by_cases hb : c = '\\'
    · subst hb; exact ⟨rfl, boundaryInside_of_none (by decide) _⟩
    rw [escapeChar_of_not hctl hq hb]
    exact ⟨by simp [Quote.step, hq, hb], by simp [BoundaryInside]⟩

theorem escape_inside (cs : Text) :
    Quote.inside.run (escape cs) = .inside ∧ BoundaryInside .inside (escape cs) := by
  induction cs with
  | nil => exact ⟨rfl, trivial⟩
  | cons c cs ih =>
      obtain ⟨hrun, hin⟩ := escapeChar_inside c
      rw [escape, List.flatMap_cons, ← escape]
      refine ⟨by rw [Quote.run_append, hrun, ih.1], (boundaryInside_append _ _ _).mpr ⟨hin, ?_⟩⟩
      rw [hrun]
      exact ih.2

theorem framed_dumpsString (s : String) : Framed (dumpsString s) := by
  obtain ⟨hrun, hin⟩ := escape_inside s.toList
  constructor
  · rw [dumpsString, List.cons_append, Quote.run_cons, show Quote.step .outside '"' = .inside from rfl,
      Quote.run_append, hrun]
    rfl
  · rw [dumpsString, List.cons_append]
    refine ⟨by decide, (boundaryInside_append _ _ _).mpr ⟨hin, ?_⟩⟩
    exact boundaryInside_of_none (by decide) _

theorem plain_of_isNumberChar {c : Char} (h : isNumberChar c) :
    c ≠ '"' ∧ isLineBoundary c = false := by
  refine ⟨ne_quote_of_isNumberChar h, ?_⟩
  by_contra hb
  rw [Bool.not_eq_false] at hb
  exact absurd (isSpace_of_isLineBoundary hb) (by simp [(not_isSpace_of_isNumberChar h).1])

theorem dumpsInt_isNumberChar (i : Int) : ∀ c ∈ dumpsInt i, isNumberChar c := by
  obtain ⟨t, ht, -⟩ := matchNumber_dumpsInt (r := []) (by simp [EndsNumber]) i
  obtain ⟨htext, hall⟩ := matchNumber_eq ht
  rw [List.append_nil, List.append_nil] at htext
  rwa [htext]

theorem floatRepr_cases (f : PyFloat) :
    f.repr = "NaN".toList ∨ f.repr = "Infinity".toList ∨ f.repr = "-Infinity".toList ∨
      ∀ c ∈ f.repr, isNumberChar c := by
  have hf := f.valid
  simp only [isFloatRepr, Bool.or_eq_true, decide_eq_true_eq] at hf
  rcases hf with ((hname | hname) | hname) | hnum
  · exact .inl hname
  · exact .inr (.inl hname)
  · exact .inr (.inr (.inl hname))
  · cases hm : matchNumber f.repr with
    | none => simp [hm] at hnum
    | some p =>
        obtain ⟨t, u⟩ := p
        simp only [hm, Bool.and_eq_true, decide_eq_true_eq] at hnum
        obtain ⟨htext, hall⟩ := matchNumber_eq hm
        rw [hnum.2, List.append_nil] at htext
        exact .inr (.inr (.inr (htext ▸ hall)))

theorem floatRepr_plain (f : PyFloat) : ∀ c ∈ f.repr, c ≠ '"' ∧ isLineBoundary c = false := by
  rcases floatRepr_cases f with hname | hname | hname | hall
  · rw [hname]; decide
  · rw [hname]; decide
  · rw [hname]; decide
  · exact fun c hc => plain_of_isNumberChar (hall c hc)

mutual
/-- Every line boundary an encoded document holds is inside one of its
    strings. -/
theorem framed_dumps : (j : Json) → Framed j.dumps
  | .null => framed_of_plain (by decide)
  | .bool b => by cases b <;> exact framed_of_plain (by decide)
  | .int i => framed_of_plain fun c hc => plain_of_isNumberChar (dumpsInt_isNumberChar i c hc)
  | .float f => framed_of_plain (floatRepr_plain f)
  | .str s => framed_dumpsString s
  | .arr js =>
    ((framed_dumpsItems js).append (framed_of_plain (by decide))).cons_plain (by decide)
  | .obj ms =>
    ((framed_dumpsMembers ms).append (framed_of_plain (by decide))).cons_plain (by decide)
theorem framed_dumpsItems : (js : List Json) → Framed (Json.dumpsItems js)
  | [] => framed_of_plain (by simp [Json.dumpsItems])
  | [j] => framed_dumps j
  | j :: j' :: js =>
    (framed_dumps j).append
      (((framed_dumpsItems (j' :: js)).cons_plain (by decide)).cons_plain (by decide))
theorem framed_dumpsMembers : (ms : List (String × Json)) → Framed (Json.dumpsMembers ms)
  | [] => framed_of_plain (by simp [Json.dumpsMembers])
  | [(k, j)] =>
    (framed_dumpsString k).append (((framed_dumps j).cons_plain (by decide)).cons_plain (by decide))
  | (k, j) :: m :: ms =>
    (framed_dumpsString k).append
      ((((framed_dumps j).append
        (((framed_dumpsMembers (m :: ms)).cons_plain (by decide)).cons_plain
          (by decide))).cons_plain (by decide)).cons_plain (by decide))
end

/-! ## Which documents hold a line boundary -/

/-- A line boundary that `dumps` leaves unescaped: U+0085, U+2028, U+2029. -/
def isUnescapedBoundary (c : Char) : Bool :=
  c.toNat == 0x85 || c.toNat == 0x2028 || c.toNat == 0x2029

theorem mem_escapeChar {c d : Char} (h : c ∈ escapeChar d) :
    0x20 ≤ c.toNat ∧ (isLineBoundary c → c = d) := by
  have hofNat : Char.ofNat d.toNat = d := Char.ofNat_toNat d
  by_cases hctl : d.toNat < 0x20
  · generalize d.toNat = n at hctl hofNat
    subst hofNat
    interval_cases n <;> revert c <;> decide
  · by_cases hq : d = '"'
    · subst hq; revert c; decide
    by_cases hb : d = '\\'
    · subst hb; revert c; decide
    rw [escapeChar_of_not hctl hq hb, List.mem_singleton] at h
    subst h
    exact ⟨by omega, fun _ => rfl⟩

theorem mem_escapeChar_self {c : Char} (h : isUnescapedBoundary c) : c ∈ escapeChar c := by
  simp only [isUnescapedBoundary, Bool.or_eq_true, beq_iff_eq] at h
  have hq : c ≠ '"' := by rintro rfl; simp at h
  have hb : c ≠ '\\' := by rintro rfl; simp at h
  rw [escapeChar_of_not (by omega) hq hb]
  simp

/-- The characters the encoder writes between strings. -/
def isSyntaxChar (c : Char) : Bool :=
  isNumberChar c || "\"[]\x7b\x7d:, nulltruefalseNaNInfinity".toList.contains c

theorem isSyntaxChar_plain {c : Char} (h : isSyntaxChar c) :
    0x20 ≤ c.toNat ∧ isLineBoundary c = false := by
  rw [isSyntaxChar, Bool.or_eq_true] at h
  rcases h with h | h
  · refine ⟨?_, (plain_of_isNumberChar h).2⟩
    rcases isNumberChar_cases h with hd | hs
    · omega
    · clear h
      revert c
      decide
  · rw [List.contains_iff_mem] at h
    revert c
    decide

theorem isSyntaxChar_of_isNumberChar {c : Char} (h : isNumberChar c) : isSyntaxChar c := by
  simp [isSyntaxChar, h]

theorem floatRepr_isSyntaxChar (f : PyFloat) : ∀ c ∈ f.repr, isSyntaxChar c := by
  rcases floatRepr_cases f with hname | hname | hname | hall
  · rw [hname]; decide
  · rw [hname]; decide
  · rw [hname]; decide
  · exact fun c hc => isSyntaxChar_of_isNumberChar (hall c hc)

/-- A character of an encoded document is punctuation or comes from a string. -/
def FromStrings (strings : List String) (cs : Text) : Prop :=
  (∀ c ∈ cs, isSyntaxChar c ∨ ∃ s ∈ strings, c ∈ escape s.toList) ∧
    ∀ s ∈ strings, ∀ c ∈ escape s.toList, c ∈ cs

theorem FromStrings.append {ss ts : List String} {cs ds : Text} (hs : FromStrings ss cs)
    (ht : FromStrings ts ds) : FromStrings (ss ++ ts) (cs ++ ds) := by
  constructor
  · intro c hc
    rcases List.mem_append.mp hc with hc | hc
    · rcases hs.1 c hc with h | ⟨s, hmem, h⟩
      · exact .inl h
      · exact .inr ⟨s, List.mem_append_left _ hmem, h⟩
    · rcases ht.1 c hc with h | ⟨s, hmem, h⟩
      · exact .inl h
      · exact .inr ⟨s, List.mem_append_right _ hmem, h⟩
  · intro s hmem c hc
    rcases List.mem_append.mp hmem with hmem | hmem
    · exact List.mem_append_left _ (hs.2 s hmem c hc)
    · exact List.mem_append_right _ (ht.2 s hmem c hc)

theorem fromStrings_punctuation {cs : Text} (h : ∀ c ∈ cs, isSyntaxChar c) : FromStrings [] cs :=
  ⟨fun c hc => .inl (h c hc), by simp⟩

theorem FromStrings.cons_punctuation {ss : List String} {c : Char} {cs : Text} (hc : isSyntaxChar c)
    (h : FromStrings ss cs) : FromStrings ss (c :: cs) :=
  (@fromStrings_punctuation [c] (by simpa using hc)).append h

theorem FromStrings.concat_punctuation {ss : List String} {c : Char} {cs : Text} (hc : isSyntaxChar c)
    (h : FromStrings ss cs) : FromStrings ss (cs ++ [c]) := by
  have := h.append (@fromStrings_punctuation [c] (by simpa using hc))
  rwa [List.append_nil] at this

theorem fromStrings_dumpsString (s : String) : FromStrings [s] (dumpsString s) := by
  have hbody : FromStrings [s] (escape s.toList) :=
    ⟨fun c hc => .inr ⟨s, by simp, hc⟩, by simp⟩
  exact (hbody.concat_punctuation (by decide)).cons_punctuation (by decide)

mutual
/-- An encoded document consists of punctuation and the escapes of its strings. -/
theorem fromStrings_dumps : (j : Json) → FromStrings j.strings j.dumps
  | .null => fromStrings_punctuation (by decide)
  | .bool b => by cases b <;> exact fromStrings_punctuation (by decide)
  | .int i => fromStrings_punctuation fun c hc =>
      isSyntaxChar_of_isNumberChar (dumpsInt_isNumberChar i c hc)
  | .float f => fromStrings_punctuation (floatRepr_isSyntaxChar f)
  | .str s => fromStrings_dumpsString s
  | .arr js => ((fromStrings_dumpsItems js).concat_punctuation (by decide)).cons_punctuation (by decide)
  | .obj ms => ((fromStrings_dumpsMembers ms).concat_punctuation (by decide)).cons_punctuation (by decide)
theorem fromStrings_dumpsItems : (js : List Json) →
    FromStrings (Json.itemStrings js) (Json.dumpsItems js)
  | [] => fromStrings_punctuation (by simp [Json.dumpsItems])
  | [j] => by simpa [Json.itemStrings, Json.dumpsItems] using fromStrings_dumps j
  | j :: j' :: js =>
    (fromStrings_dumps j).append
      (((fromStrings_dumpsItems (j' :: js)).cons_punctuation (by decide)).cons_punctuation (by decide))
theorem fromStrings_dumpsMembers : (ms : List (String × Json)) →
    FromStrings (Json.memberStrings ms) (Json.dumpsMembers ms)
  | [] => fromStrings_punctuation (by simp [Json.dumpsMembers])
  | [(k, j)] => by
    have h := (fromStrings_dumpsString k).append
      (((fromStrings_dumps j).cons_punctuation (c := ' ') (by decide)).cons_punctuation (c := ':') (by decide))
    simpa [Json.memberStrings, Json.dumpsMembers] using h
  | (k, j) :: m :: ms => by
    have hrest := ((fromStrings_dumpsMembers (m :: ms)).cons_punctuation (c := ' ') (by decide)).cons_punctuation
      (c := ',') (by decide)
    have hval := (((fromStrings_dumps j).append hrest).cons_punctuation (c := ' ') (by decide)).cons_punctuation
      (c := ':') (by decide)
    exact (fromStrings_dumpsString k).append hval
end

/-- No carriage return, nor any other control character, is ever written. -/
theorem dumps_ge_space (j : Json) : ∀ c ∈ j.dumps, 0x20 ≤ c.toNat := by
  intro c hc
  rcases (fromStrings_dumps j).1 c hc with h | ⟨s, -, h⟩
  · exact (isSyntaxChar_plain h).1
  · obtain ⟨d, -, hd⟩ := List.mem_flatMap.mp h
    exact (mem_escapeChar hd).1

theorem dumpsString_ge_space (s : String) : ∀ c ∈ dumpsString s, 0x20 ≤ c.toNat := by
  have h := dumps_ge_space (.str s)
  rwa [Json.dumps] at h

mutual
/-- The characters of a printed document: those of the layout, and no control character. -/
theorem forall_mem_dumpsLaid {layout : Layout} {p : Char → Prop} (hlayout : layout.Of p)
    (hplain : ∀ c : Char, 0x20 ≤ c.toNat → p c) : (j : Json) → (depth : Nat) →
    ∀ c ∈ j.dumpsLaid layout depth, p c
  | .null, _ => by rw [Json.dumpsLaid]; exact fun c hc => hplain c (dumps_ge_space .null c hc)
  | .bool b, _ => by
    rw [Json.dumpsLaid]
    exact fun c hc => hplain c (dumps_ge_space (.bool b) c (by rwa [Json.dumps]))
  | .int i, _ => by
    rw [Json.dumpsLaid]
    exact fun c hc => hplain c (dumps_ge_space (.int i) c (by rwa [Json.dumps]))
  | .float f, _ => by
    rw [Json.dumpsLaid]
    exact fun c hc => hplain c (dumps_ge_space (.float f) c (by rwa [Json.dumps]))
  | .str s, _ => by
    rw [Json.dumpsLaid]
    exact fun c hc => hplain c (dumpsString_ge_space s c hc)
  | .arr [], _ => by
    rw [Json.dumpsLaid]
    exact List.forall_mem_cons.mpr ⟨hplain _ (by decide), by simp [hplain ']' (by decide)]⟩
  | .arr (j :: js), depth => by
    -- A container is its two brackets, the white space of the layout, and what is inside.
    have hitems := forall_mem_dumpsItemsLaid hlayout hplain (j :: js) depth
    rw [Json.dumpsLaid]
    simp only [List.isEmpty_cons, Bool.false_eq_true, if_false, List.forall_mem_cons,
      List.forall_mem_append]
    exact ⟨hplain _ (by decide), hlayout.opening depth, hitems, hlayout.closing depth,
      hplain _ (by decide), by simp⟩
  | .obj [], _ => by
    rw [Json.dumpsLaid]
    exact List.forall_mem_cons.mpr ⟨hplain _ (by decide), by simp [hplain '}' (by decide)]⟩
  | .obj (m :: ms), depth => by
    have hmembers := forall_mem_dumpsMembersLaid hlayout hplain (m :: ms) depth
    rw [Json.dumpsLaid]
    simp only [List.isEmpty_cons, Bool.false_eq_true, if_false, List.forall_mem_cons,
      List.forall_mem_append]
    exact ⟨hplain _ (by decide), hlayout.opening depth, hmembers, hlayout.closing depth,
      hplain _ (by decide), by simp⟩
theorem forall_mem_dumpsItemsLaid {layout : Layout} {p : Char → Prop} (hlayout : layout.Of p)
    (hplain : ∀ c : Char, 0x20 ≤ c.toNat → p c) : (js : List Json) → (depth : Nat) →
    ∀ c ∈ Json.dumpsItemsLaid layout depth js, p c
  | [], _ => by simp [Json.dumpsItemsLaid]
  | [j], depth => by
    rw [Json.dumpsItemsLaid]
    exact forall_mem_dumpsLaid hlayout hplain j (depth + 1)
  | j :: j' :: js, depth => by
    rw [Json.dumpsItemsLaid]
    simp only [List.forall_mem_cons, List.forall_mem_append]
    exact ⟨forall_mem_dumpsLaid hlayout hplain j (depth + 1), hplain _ (by decide),
      hlayout.comma depth, forall_mem_dumpsItemsLaid hlayout hplain (j' :: js) depth⟩
theorem forall_mem_dumpsMembersLaid {layout : Layout} {p : Char → Prop} (hlayout : layout.Of p)
    (hplain : ∀ c : Char, 0x20 ≤ c.toNat → p c) : (ms : List (String × Json)) → (depth : Nat) →
    ∀ c ∈ Json.dumpsMembersLaid layout depth ms, p c
  | [], _ => by simp [Json.dumpsMembersLaid]
  | [(k, j)], depth => by
    have hkey := fun c hc => hplain c (dumpsString_ge_space k c hc)
    rw [Json.dumpsMembersLaid]
    simp only [List.forall_mem_cons, List.forall_mem_append]
    exact ⟨hkey, hplain _ (by decide), hlayout.colon,
      forall_mem_dumpsLaid hlayout hplain j (depth + 1)⟩
  | (k, j) :: m :: ms, depth => by
    have hkey := fun c hc => hplain c (dumpsString_ge_space k c hc)
    rw [Json.dumpsMembersLaid]
    simp only [List.forall_mem_cons, List.forall_mem_append]
    exact ⟨hkey, hplain _ (by decide), hlayout.colon,
      forall_mem_dumpsLaid hlayout hplain j (depth + 1), hplain _ (by decide),
      hlayout.comma depth, forall_mem_dumpsMembersLaid hlayout hplain (m :: ms) depth⟩
end

/-- The indented form holds no carriage return. -/
theorem no_return_dumpsIndent (j : Json) : ∀ c ∈ j.dumpsIndent, c ≠ '\r' :=
  forall_mem_dumpsLaid (indentLayout_of (by decide) (by decide))
    (fun c hc heq => absurd (heq ▸ hc) (by decide)) j 0

/-- A document all of whose strings avoid U+0085, U+2028 and U+2029. -/
def Json.LineSafe (j : Json) : Prop :=
  ∀ s ∈ j.strings, ∀ c ∈ s.toList, isUnescapedBoundary c = false

/-- The encoded document is one line exactly when its strings are line-safe. -/
theorem dumps_noBoundary_iff (j : Json) :
    (∀ c ∈ j.dumps, isLineBoundary c = false) ↔ j.LineSafe := by
  obtain ⟨hfrom, hall⟩ := fromStrings_dumps j
  constructor
  · intro h s hs c hc
    by_contra hb
    rw [Bool.not_eq_false] at hb
    have hmem : c ∈ j.dumps :=
      hall s hs c (List.mem_flatMap.mpr ⟨c, hc, mem_escapeChar_self hb⟩)
    have hline := h c hmem
    simp only [isUnescapedBoundary, Bool.or_eq_true, beq_iff_eq] at hb
    simp only [isLineBoundary, Bool.or_eq_false_iff, beq_eq_false_iff_ne] at hline
    omega
  · intro h c hc
    rcases hfrom c hc with hsyn | ⟨s, hs, hesc⟩
    · exact (isSyntaxChar_plain hsyn).2
    · obtain ⟨d, hd, hcd⟩ := List.mem_flatMap.mp hesc
      obtain ⟨hge, heq⟩ := mem_escapeChar hcd
      by_contra hb
      rw [Bool.not_eq_false] at hb
      obtain rfl := heq hb
      have hsafe := h s hs c hd
      simp only [isUnescapedBoundary, Bool.or_eq_false_iff, beq_eq_false_iff_ne] at hsafe
      simp only [isLineBoundary, Bool.or_eq_true, Bool.and_eq_true, decide_eq_true_eq,
        beq_iff_eq] at hb
      omega

theorem mem_memberStrings (ms : List (String × Json)) (s : String) :
    s ∈ Json.memberStrings ms ↔ ∃ m ∈ ms, s = m.1 ∨ s ∈ m.2.strings := by
  induction ms with
  | nil => simp [Json.memberStrings]
  | cons m ms ih => simp [Json.memberStrings, ih, or_assoc]

mutual
/-- Sorting the keys keeps the strings. -/
theorem mem_strings_sortKeys : (j : Json) → (s : String) →
    (s ∈ j.sortKeys.strings ↔ s ∈ j.strings)
  | .null, _ => Iff.rfl
  | .bool _, _ => Iff.rfl
  | .int _, _ => Iff.rfl
  | .float _, _ => Iff.rfl
  | .str _, _ => Iff.rfl
  | .arr js, s => mem_itemStrings_sortItems js s
  | .obj ms, s => by
    have h := mem_memberStrings_sortMembers ms s
    rw [mem_memberStrings] at h
    simp only [Json.sortKeys, Json.strings]
    rw [mem_memberStrings, ← h]
    simp only [List.mem_insertionSort]
theorem mem_itemStrings_sortItems : (js : List Json) → (s : String) →
    (s ∈ Json.itemStrings (Json.sortItems js) ↔ s ∈ Json.itemStrings js)
  | [], _ => Iff.rfl
  | j :: js, s => by
    simp [Json.sortItems, Json.itemStrings, mem_strings_sortKeys j s, mem_itemStrings_sortItems js s]
theorem mem_memberStrings_sortMembers : (ms : List (String × Json)) → (s : String) →
    (s ∈ Json.memberStrings (Json.sortMembers ms) ↔ s ∈ Json.memberStrings ms)
  | [], _ => Iff.rfl
  | (k, j) :: ms, s => by
    simp [Json.sortMembers, Json.memberStrings, mem_strings_sortKeys j s,
      mem_memberStrings_sortMembers ms s]
end

theorem lineSafe_sortKeys (j : Json) : j.sortKeys.LineSafe ↔ j.LineSafe := by
  simp only [Json.LineSafe, mem_strings_sortKeys]

/-- **No boundary-ended prefix is a document.**  Cut an encoded document at a
    line boundary: what stands before it is neither blank nor JSON. -/
theorem loads_prefix_eq_none {j : Json} {p r : Text} {c : Char} (h : j.dumps = p ++ c :: r)
    (hc : isLineBoundary c) : isBlank p = false ∧ loads p = none := by
  have hin : Quote.outside.run p = .inside :=
    BoundaryInside.run_prefix (h ▸ (framed_dumps j).2) hc
  constructor
  · by_contra hblank
    rw [Bool.not_eq_false, isBlank, List.all_eq_true] at hblank
    have hout := @Quote.run_outside_of_no_quote p <| by
      rintro d hd rfl
      exact absurd (hblank _ hd) (by decide)
    rw [hin] at hout
    cases hout
  · cases hl : loads p with
    | none => rfl
    | some v =>
        have hout := loads_closed hl
        rw [hin] at hout
        cases hout

end LlmHarness.Python
