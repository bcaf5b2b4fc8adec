/-
  LlmHarness.Python.JsonRoundTrip

  What `dumps` writes, `loads` reads back.  The encoder's output is consumed by
  the scanner exactly, whatever follows it, by structural recursion on the
  document; numbers need a follower that the number rule cannot take, which is
  what the separators of arrays and objects are.

  `dumps` prints a dict in the order it holds its items in, so reading back
  yields the document itself; printing with `sort_keys=True` is printing
  `sortKeys`, which is idempotent and keeps keys distinct.
-/

import Mathlib.Tactic.IntervalCases
import LlmHarness.Python.Json

namespace LlmHarness.Python

/-! ## Strings -/

/-- A character that needs no escape is written as it is. -/
theorem escapeChar_of_not {c : Char} (hctl : ¬ c.toNat < 0x20) (hq : c ≠ '"') (hb : c ≠ '\\') :
    escapeChar c = [c] := by
  have hne : ∀ n < 0x20, c ≠ Char.ofNat n := by
    rintro n hn rfl
    interval_cases n <;> exact absurd (by decide) hctl
  rw [escapeChar, if_neg hq, if_neg hb, if_neg (hne 10 (by decide)), if_neg (hne 13 (by decide)),
    if_neg (hne 9 (by decide)), if_neg (by omega), if_neg (by omega), if_neg hctl]

theorem scanString_escapeChar (c : Char) (cs : Text) :
    scanString (escapeChar c ++ cs) = (scanString cs).map fun (s, r) => (c :: s, r) := by
  have hofNat : Char.ofNat c.toNat = c := Char.ofNat_toNat c
  by_cases hctl : c.toNat < 0x20
  · generalize c.toNat = n at hctl hofNat
    subst hofNat
    interval_cases n <;> rfl
  · by_cases hq : c = '"'
    · subst hq; rfl
    by_cases hb : c = '\\'
    · subst hb; rfl
    rw [escapeChar_of_not hctl hq hb, List.singleton_append, scanString.eq_def]
    simp only [if_neg hq, if_neg hb, if_neg hctl]

theorem scanString_escape (cs rest : Text) :
    scanString (escape cs ++ '"' :: rest) = some (cs, rest) := by
  induction cs with
  | nil => simp [escape, scanString.eq_def]
  | cons c cs ih =>
      rw [escape, List.flatMap_cons, List.append_assoc, scanString_escapeChar]
      rw [escape] at ih
      rw [ih]
      rfl
/-! ## Numbers -/

/-- What may follow a number: nothing the number rule would still take. -/
def EndsNumber (r : Text) : Prop :=
  ∀ c, r.head? = some c → isDigit c = false ∧ c ∉ ['.', 'e', 'E', '-', '+']

theorem takeWhile_digits_append {r : Text} (hr : EndsNumber r) (s : Text) :
    (s ++ r).takeWhile isDigit = s.takeWhile isDigit := by
  induction s with
  | nil =>
      cases r with
      | nil => rfl
      | cons c r => simp [(hr c rfl).1]
  | cons d s ih =>
      rw [List.cons_append, List.takeWhile_cons, List.takeWhile_cons, ih]

theorem dropWhile_digits_append {r : Text} (hr : EndsNumber r) (s : Text) :
    (s ++ r).dropWhile isDigit = s.dropWhile isDigit ++ r := by
  induction s with
  | nil =>
      cases r with
      | nil => rfl
      | cons c r => simp [(hr c rfl).1]
  | cons d s ih =>
      rw [List.cons_append, List.dropWhile_cons, List.dropWhile_cons, ih]
      split <;> rfl

theorem matchInteger_append {r : Text} (hr : EndsNumber r) {s d t : Text}
    (h : matchInteger s = some (d, t)) : matchInteger (s ++ r) = some (d, t ++ r) := by
  cases s with
  | nil => simp [matchInteger] at h
  | cons c s =>
      simp only [matchInteger, List.cons_append] at h ⊢
      rw [takeWhile_digits_append hr, dropWhile_digits_append hr]
      split at h
      · simp_all
      · split at h <;> simp_all

theorem matchFraction_append {r : Text} (hr : EndsNumber r) (s : Text) :
    matchFraction (s ++ r) = ((matchFraction s).1, (matchFraction s).2 ++ r) := by
  cases s with
  | nil =>
      cases r with
      | nil => rfl
      | cons c r =>
          have hdot : c ≠ '.' := fun h => (hr c rfl).2 (by simp [h])
          simp [matchFraction, hdot]
  | cons c s =>
      simp only [matchFraction, List.cons_append]
      rw [takeWhile_digits_append hr, dropWhile_digits_append hr]
      split <;> rfl

theorem matchExponentDigits_append {r : Text} (hr : EndsNumber r) (s : Text) :
    matchExponentDigits (s ++ r) = (matchExponentDigits s).map fun (d, t) => (d, t ++ r) := by
  cases s with
  | nil =>
      cases r with
      | nil => rfl
      | cons c r =>
          obtain ⟨hd, hc⟩ := hr c rfl
          simp only [List.mem_cons, List.not_mem_nil, or_false, not_or] at hc
          simp [matchExponentDigits, hd, hc]
  | cons c s =>
      simp only [matchExponentDigits, List.cons_append]
      rw [takeWhile_digits_append hr, dropWhile_digits_append hr]
      split_ifs <;> rfl

theorem matchExponent_append {r : Text} (hr : EndsNumber r) (s : Text) :
    matchExponent (s ++ r) = ((matchExponent s).1, (matchExponent s).2 ++ r) := by
  cases s with
  | nil =>
      cases r with
      | nil => rfl
      | cons c r =>
          have hc := (hr c rfl).2
          simp only [List.mem_cons, List.not_mem_nil, or_false, not_or] at hc
          simp [matchExponent, hc]
  | cons c s =>
      simp only [matchExponent, List.cons_append]
      rw [matchExponentDigits_append hr]
      split
      · cases matchExponentDigits s <;> rfl
      · rfl

theorem matchUnsigned_append {r : Text} (hr : EndsNumber r) {b : Bool} {s u : Text}
    {t : NumberToken} (h : matchUnsigned b s = some (t, u)) :
    matchUnsigned b (s ++ r) = some (t, u ++ r) := by
  rw [matchUnsigned] at h ⊢
  cases hm : matchInteger s with
  | none => simp [hm] at h
  | some p =>
      obtain ⟨d, v⟩ := p
      rw [hm] at h
      rw [matchInteger_append hr hm]
      simp only [Option.some.injEq, Prod.mk.injEq] at h ⊢
      obtain ⟨rfl, rfl⟩ := h
      rw [matchFraction_append hr, matchExponent_append hr]
      exact ⟨rfl, rfl⟩

/-- The number rule takes the same token whatever follows it. -/
theorem matchNumber_append {r : Text} (hr : EndsNumber r) {s u : Text} {t : NumberToken}
    (h : matchNumber s = some (t, u)) : matchNumber (s ++ r) = some (t, u ++ r) := by
  cases s with
  | nil => simp [matchNumber] at h
  | cons c s =>
      simp only [matchNumber, List.cons_append] at h ⊢
      split
      · rw [if_pos ‹_›] at h
        exact matchUnsigned_append hr h
      · rw [if_neg ‹_›] at h
        exact matchUnsigned_append hr h

/-! ### The characters of a token -/

theorem matchInteger_eq {s d t : Text} (h : matchInteger s = some (d, t)) :
    s = d ++ t ∧ ∀ c ∈ d, isDigit c := by
  cases s with
  | nil => simp [matchInteger] at h
  | cons c s =>
      simp only [matchInteger] at h
      split at h
      -- A leading zero is the whole token.
      · rename_i hc
        simp only [Option.some.injEq, Prod.mk.injEq] at h
        obtain ⟨rfl, rfl⟩ := h
        subst hc
        exact ⟨rfl, by decide⟩
      · split at h
        · rename_i hc
          simp only [Option.some.injEq, Prod.mk.injEq] at h
          obtain ⟨rfl, rfl⟩ := h
          -- Any other digit takes the digits after it.
          refine ⟨by simp, ?_⟩
          intro x hx
          rcases List.mem_cons.mp hx with rfl | hx
          · exact hc
          · exact List.mem_takeWhile_imp hx
        · simp at h

/-- A character a number token may hold. -/
def isNumberChar (c : Char) : Bool := isDigit c || ['.', 'e', 'E', '-', '+'].contains c

theorem isNumberChar_of_isDigit {c : Char} (h : isDigit c) : isNumberChar c := by
  simp [isNumberChar, h]

theorem isNumberChar_takeWhile {s : Text} : ∀ c ∈ s.takeWhile isDigit, isNumberChar c :=
  fun _ hc => isNumberChar_of_isDigit (List.mem_takeWhile_imp hc)

theorem matchFraction_eq (s : Text) :
    s = (matchFraction s).1 ++ (matchFraction s).2 ∧ ∀ c ∈ (matchFraction s).1, isNumberChar c := by
  cases s with
  | nil => simp [matchFraction]
  | cons c s =>
      simp only [matchFraction]
      split
      · rename_i hc
        simp only [Bool.and_eq_true, decide_eq_true_eq] at hc
        refine ⟨by simp, ?_⟩
        intro x hx
        rcases List.mem_cons.mp hx with rfl | hx
        · rw [hc.1]; decide
        · exact isNumberChar_takeWhile x hx
      · simp

theorem matchExponentDigits_eq {s d t : Text} (h : matchExponentDigits s = some (d, t)) :
    s = d ++ t ∧ ∀ c ∈ d, isNumberChar c := by
  cases s with
  | nil => simp [matchExponentDigits] at h
  | cons c s =>
      have hall : isNumberChar c → ∀ x ∈ c :: s.takeWhile isDigit, isNumberChar x := by
        intro hc x hx
        rcases List.mem_cons.mp hx with rfl | hx
        · exact hc
        · exact isNumberChar_takeWhile x hx
      simp only [matchExponentDigits] at h
      split_ifs at h with hs hl hd
      · obtain ⟨rfl, rfl⟩ : c :: s.takeWhile isDigit = d ∧ s.dropWhile isDigit = t := by
          simpa using h
        refine ⟨by simp, hall ?_⟩
        simp only [Bool.or_eq_true, decide_eq_true_eq] at hs
        rcases hs with rfl | rfl <;> decide
      · obtain ⟨rfl, rfl⟩ : c :: s.takeWhile isDigit = d ∧ s.dropWhile isDigit = t := by
          simpa using h
        exact ⟨by simp, hall (isNumberChar_of_isDigit hd)⟩

theorem matchExponent_eq (s : Text) :
    s = (matchExponent s).1 ++ (matchExponent s).2 ∧ ∀ c ∈ (matchExponent s).1, isNumberChar c := by
  cases s with
  | nil => simp [matchExponent]
  | cons c s =>
      simp only [matchExponent]
      split
      · rename_i hc
        cases hm : matchExponentDigits s with
        | none => simp
        | some p =>
            obtain ⟨heq, hall⟩ := matchExponentDigits_eq hm
            refine ⟨by simp [← heq], ?_⟩
            intro x hx
            rcases List.mem_cons.mp hx with rfl | hx
            · simp only [Bool.or_eq_true, decide_eq_true_eq] at hc
              rcases hc with rfl | rfl <;> decide
            · exact hall x hx
      · simp

theorem matchUnsigned_eq {b : Bool} {s u : Text} {t : NumberToken}
    (h : matchUnsigned b s = some (t, u)) :
    (if b then ['-'] else []) ++ s = t.text ++ u ∧ ∀ c ∈ t.text, isNumberChar c := by
  rw [matchUnsigned] at h
  cases hm : matchInteger s with
  | none => simp [hm] at h
  | some p =>
      obtain ⟨d, v⟩ := p
      rw [hm] at h
      simp only [Option.some.injEq, Prod.mk.injEq] at h
      obtain ⟨rfl, rfl⟩ := h
      obtain ⟨hs, hd⟩ := matchInteger_eq hm
      obtain ⟨hv, hf⟩ := matchFraction_eq v
      obtain ⟨hw, he⟩ := matchExponent_eq (matchFraction v).2
      refine ⟨?_, ?_⟩
      -- The three parts of the token are cut off one after the other.
      · simp only [NumberToken.text, List.append_assoc]
        rw [← hw, ← hv, ← hs]
      -- Each part has number characters only.
      · simp only [NumberToken.text, List.mem_append]
        rintro c ((hc | hc) | hc | hc)
        · cases b <;> simp at hc
          subst hc; decide
        · exact isNumberChar_of_isDigit (hd c hc)
        · exact hf c hc
        · exact he c hc

/-- The number rule takes its token off the front of the text. -/
theorem matchNumber_eq {s u : Text} {t : NumberToken} (h : matchNumber s = some (t, u)) :
    s = t.text ++ u ∧ ∀ c ∈ t.text, isNumberChar c := by
  cases s with
  | nil => simp [matchNumber] at h
  | cons c s =>
      simp only [matchNumber] at h
      split at h
      · rename_i hc
        subst hc
        simpa using matchUnsigned_eq h
      · simpa using matchUnsigned_eq h

/-! ### Integers -/

theorem isDigit_of_mem_toDigits {n : Nat} {c : Char} (h : c ∈ Nat.toDigits 10 n) : isDigit c := by
  have hd := Nat.isDigit_of_mem_toDigits (by decide) (by decide) h
  simp only [Char.isDigit, Bool.and_eq_true, decide_eq_true_eq, ge_iff_le] at hd
  simp only [isDigit, Bool.and_eq_true, decide_eq_true_eq]
  exact ⟨UInt32.le_iff_toNat_le.mp hd.1, UInt32.le_iff_toNat_le.mp hd.2⟩

theorem toDigits_cons (n : Nat) (h : n ≠ 0) :
    ∃ c cs, Nat.toDigits 10 n = c :: cs ∧ c ≠ '0' := by
  induction n using Nat.strongRecOn with
  | _ n ih =>
    by_cases hlt : n < 10
    · refine ⟨n.digitChar, [], Nat.toDigits_of_lt_base hlt, ?_⟩
      interval_cases n
      · exact absurd rfl h
      all_goals decide
    · obtain ⟨c, cs, hcs, hc⟩ := ih (n / 10) (by omega) (by omega)
      exact ⟨c, cs ++ [(n % 10).digitChar],
        by rw [Nat.toDigits_of_base_le (by decide) (by omega), hcs, List.cons_append], hc⟩

theorem takeWhile_append_of_digits {r : Text} (hr : EndsNumber r) {s : Text}
    (hs : ∀ c ∈ s, isDigit c) :
    (s ++ r).takeWhile isDigit = s ∧ (s ++ r).dropWhile isDigit = r := by
  rw [takeWhile_digits_append hr, dropWhile_digits_append hr]
  have htake : s.takeWhile isDigit = s := List.takeWhile_eq_self_iff.mpr hs
  have hdrop : s.dropWhile isDigit = [] := List.dropWhile_eq_nil_iff.mpr hs
  exact ⟨htake, by rw [hdrop, List.nil_append]⟩

theorem matchInteger_toDigits {r : Text} (hr : EndsNumber r) (n : Nat) :
    matchInteger (Nat.toDigits 10 n ++ r) = some (Nat.toDigits 10 n, r) := by
  by_cases h : n = 0
  · subst h; rfl
  · obtain ⟨c, cs, hcs, hc⟩ := toDigits_cons n h
    have hall : ∀ x ∈ c :: cs, isDigit x := hcs ▸ fun x hx => isDigit_of_mem_toDigits hx
    obtain ⟨htake, hdrop⟩ := takeWhile_append_of_digits hr (s := cs) fun x hx => hall x (by simp [hx])
    rw [hcs, List.cons_append, matchInteger, if_neg hc, if_pos (hall c (by simp)), htake, hdrop]

theorem matchUnsigned_toDigits {r : Text} (hr : EndsNumber r) (b : Bool) (n : Nat) :
    matchUnsigned b (Nat.toDigits 10 n ++ r) = some (⟨b, Nat.toDigits 10 n, []⟩, r) := by
  have hf : matchFraction r = ([], r) := matchFraction_append hr []
  have he : matchExponent r = ([], r) := matchExponent_append hr []
  rw [matchUnsigned, matchInteger_toDigits hr]
  simp [hf, he]

/-- An encoded integer is read back as a token with its value. -/
theorem matchNumber_dumpsInt {r : Text} (hr : EndsNumber r) (i : Int) :
    ∃ t, matchNumber (dumpsInt i ++ r) = some (t, r) ∧ t.value = some (.int i) := by
  by_cases h : i < 0
  · refine ⟨⟨true, Nat.toDigits 10 i.natAbs, []⟩, ?_, ?_⟩
    · rw [dumpsInt, if_pos h, List.cons_append, matchNumber, if_pos rfl, matchUnsigned_toDigits hr]
    · simp only [NumberToken.value, if_pos, Nat.ofDigitChars_ten_toDigits]
      congr 2
      omega
  · refine ⟨⟨false, Nat.toDigits 10 i.natAbs, []⟩, ?_, ?_⟩
    · rw [dumpsInt, if_neg h]
      cases hd : Nat.toDigits 10 i.natAbs with
      | nil => exact absurd hd Nat.toDigits_ne_nil
      | cons c cs =>
          have hc : isDigit c := isDigit_of_mem_toDigits (n := i.natAbs) (hd ▸ by simp)
          have hminus : c ≠ '-' := by rintro rfl; simp [isDigit] at hc
          rw [List.cons_append, matchNumber, if_neg hminus, ← List.cons_append, ← hd,
            matchUnsigned_toDigits hr, hd]
    · simp only [NumberToken.value, if_pos, Nat.ofDigitChars_ten_toDigits]
      simp only [Bool.false_eq_true, if_false]
      congr 2
      omega

/-! ## Values -/

/-- Where the text starts with a number, the scanner takes its number rule. -/
theorem scanOnce_number (n : Nat) {cs r : Text} {t : NumberToken}
    (h : matchNumber cs = some (t, r)) :
    scanOnce (n + 1) cs = t.value.map fun j => (j, r) := by
  rw [scanOnce.eq_def]
  simp only
  split <;> first
    | (rw [h])
    | (simp [matchNumber, matchUnsigned, matchInteger, isDigit] at h)

theorem scanOnce_dumpsInt (n : Nat) {r : Text} (hr : EndsNumber r) (i : Int) :
    scanOnce (n + 1) (dumpsInt i ++ r) = some (.int i, r) := by
  obtain ⟨t, ht, hv⟩ := matchNumber_dumpsInt hr i
  rw [scanOnce_number n ht, hv, Option.map_some]

theorem scanOnce_floatRepr (n : Nat) {r : Text} (hr : EndsNumber r) (f : PyFloat) :
    scanOnce (n + 1) (f.repr ++ r) = some (.float f, r) := by
  obtain ⟨cs, hf⟩ := f
  have hvalid := hf
  simp only [isFloatRepr, Bool.or_eq_true, decide_eq_true_eq] at hvalid
  rcases hvalid with ((rfl | rfl) | rfl) | hnum
  -- `NaN` and the two infinities are keywords of the scanner.
  · simp [scanOnce.eq_def]
  · simp [scanOnce.eq_def]
  · simp [scanOnce.eq_def]
  -- A finite double is one token with a fraction or an exponent, so it is not read as an `int`.
  · cases hm : matchNumber cs with
    | none => simp [hm] at hnum
    | some p =>
        obtain ⟨t, u⟩ := p
        simp only [hm, Bool.and_eq_true, decide_eq_true_eq] at hnum
        obtain ⟨htail, rfl⟩ := hnum
        have htext : cs = t.text := by simpa using (matchNumber_eq hm).1
        have hfloat : isFloatRepr t.text = true := htext ▸ hf
        have happ := matchNumber_append hr hm
        rw [List.nil_append] at happ
        rw [scanOnce_number n happ, NumberToken.value, if_neg htail, dif_pos hfloat]
        subst htext
        rfl

theorem scanOnce_dumpsString (n : Nat) (s : String) (r : Text) :
    scanOnce (n + 1) (dumpsString s ++ r) = some (.str s, r) := by
  rw [scanOnce.eq_def]
  simp only [dumpsString, List.cons_append, List.append_assoc, List.nil_append]
  rw [scanString_escape]
  simp

/-! ## First characters -/

theorem isSpace_of_isJsonSpace {c : Char} (h : isJsonSpace c) : isSpace c := by
  simp only [isJsonSpace, Bool.or_eq_true, decide_eq_true_eq] at h
  rcases h with ((rfl | rfl) | rfl) | rfl <;> decide

theorem isNumberChar_cases {c : Char} (h : isNumberChar c) :
    48 ≤ c.toNat ∧ c.toNat ≤ 57 ∨ c ∈ ['.', 'e', 'E', '-', '+'] := by
  simpa [isNumberChar, isDigit] using h

theorem not_isSpace_of_isNumberChar {c : Char} (h : isNumberChar c) :
    isSpace c = false ∧ c ≠ ']' := by
  rcases isNumberChar_cases h with hd | hs
  · constructor
    · simp only [isSpace, Bool.or_eq_false_iff, Bool.and_eq_false_iff, decide_eq_false_iff_not,
        beq_eq_false_iff_ne]
      omega
    · rintro rfl
      exact absurd hd (by decide)
  · clear h
    revert c
    decide

theorem dumpsInt_cons (i : Int) : ∃ c cs, dumpsInt i = c :: cs ∧ isNumberChar c := by
  obtain ⟨t, ht, -⟩ := matchNumber_dumpsInt (r := []) (by simp [EndsNumber]) i
  obtain ⟨htext, hall⟩ := matchNumber_eq ht
  rw [List.append_nil, List.append_nil] at htext
  cases hd : dumpsInt i with
  | nil => simp [hd, matchNumber] at ht
  | cons c cs => exact ⟨c, cs, rfl, hall c (by rw [← htext, hd]; simp)⟩

theorem floatRepr_cons (f : PyFloat) :
    ∃ c cs, f.repr = c :: cs ∧ (isNumberChar c ∨ c = 'N' ∨ c = 'I') := by
  obtain ⟨cs, hf⟩ := f
  simp only [isFloatRepr, Bool.or_eq_true, decide_eq_true_eq] at hf
  rcases hf with ((rfl | rfl) | rfl) | hnum
  · exact ⟨'N', _, rfl, by decide⟩
  · exact ⟨'I', _, rfl, by decide⟩
  · exact ⟨'-', _, rfl, by decide⟩
  · cases hm : matchNumber cs with
    | none => simp [hm] at hnum
    | some p =>
        obtain ⟨t, u⟩ := p
        simp only [hm, Bool.and_eq_true, decide_eq_true_eq] at hnum
        obtain ⟨htext, hall⟩ := matchNumber_eq hm
        cases cs with
        | nil => simp [matchNumber] at hm
        | cons c cs =>
            refine ⟨c, cs, rfl, .inl (hall c ?_)⟩
            rw [hnum.2, List.append_nil] at htext
            rw [← htext]; simp

/-- An encoded document starts with a character that is neither white space nor
    a closing bracket. -/
theorem dumpsLaid_cons (layout : Layout) (depth : Nat) (j : Json) :
    ∃ c cs, j.dumpsLaid layout depth = c :: cs ∧ isSpace c = false ∧ c ≠ ']' := by
  cases j with
  | null => exact ⟨'n', _, rfl, by decide⟩
  | bool b => cases b <;> exact ⟨_, _, rfl, by decide⟩
  | int i =>
      obtain ⟨c, cs, hcs, hc⟩ := dumpsInt_cons i
      exact ⟨c, cs, hcs, not_isSpace_of_isNumberChar hc⟩
  | float f =>
      obtain ⟨c, cs, hcs, hc⟩ := floatRepr_cons f
      refine ⟨c, cs, hcs, ?_⟩
      rcases hc with hc | rfl | rfl
      · exact not_isSpace_of_isNumberChar hc
      · decide
      · decide
  | str s => exact ⟨'"', _, rfl, by decide⟩
  | arr items => exact ⟨'[', _, rfl, by decide⟩
  | obj members => exact ⟨'{', _, rfl, by decide⟩

theorem skipSpace_cons_of_not {c : Char} (h : isSpace c = false) (cs : Text) :
    skipSpace (c :: cs) = c :: cs := by
  have hjson : isJsonSpace c = false := by
    by_contra hc
    rw [Bool.not_eq_false] at hc
    exact absurd (isSpace_of_isJsonSpace hc) (by simp [h])
  simp [skipSpace, hjson]

theorem skipSpace_gap {gap : Text} (hgap : ∀ c ∈ gap, isJsonSpace c) (cs : Text) :
    skipSpace (gap ++ cs) = skipSpace cs := by
  rw [skipSpace, List.dropWhile_append_of_pos hgap]
  rfl

/-- White space before a character that is none. -/
theorem skipSpace_gap_cons {gap : Text} (hgap : ∀ c ∈ gap, isJsonSpace c) {c : Char}
    (hc : isSpace c = false) (cs : Text) : skipSpace (gap ++ c :: cs) = c :: cs := by
  rw [skipSpace_gap hgap, skipSpace_cons_of_not hc]

theorem skipSpace_dumpsLaid (layout : Layout) (depth : Nat) (j : Json) (r : Text) :
    skipSpace (j.dumpsLaid layout depth ++ r) = j.dumpsLaid layout depth ++ r := by
  obtain ⟨c, cs, hcs, hc, -⟩ := dumpsLaid_cons layout depth j
  rw [hcs, List.cons_append, skipSpace_cons_of_not hc]

theorem dumpsItemsLaid_cons (layout : Layout) (depth : Nat) (j : Json) (js : List Json) :
    ∃ r, Json.dumpsItemsLaid layout depth (j :: js) = j.dumpsLaid layout (depth + 1) ++ r := by
  cases js with
  | nil => exact ⟨[], by simp [Json.dumpsItemsLaid]⟩
  | cons j' js => exact ⟨_, by rw [Json.dumpsItemsLaid]⟩

theorem dumpsMembersLaid_cons (layout : Layout) (depth : Nat) (m : String × Json)
    (ms : List (String × Json)) :
    ∃ r, Json.dumpsMembersLaid layout depth (m :: ms) = '"' :: r := by
  cases ms with
  | nil =>
      exact ⟨_, by rw [Json.dumpsMembersLaid, dumpsString, List.cons_append, List.cons_append]⟩
  | cons m' ms =>
      exact ⟨_, by rw [Json.dumpsMembersLaid, dumpsString, List.cons_append, List.cons_append]⟩

theorem endsNumber_cons {c : Char} (h : isNumberChar c = false) (cs : Text) :
    EndsNumber (c :: cs) := by
  rintro d hd
  simp only [List.head?_cons, Option.some.injEq] at hd
  subst hd
  simpa [isNumberChar] using h

theorem isNumberChar_of_isJsonSpace {c : Char} (h : isJsonSpace c) : isNumberChar c = false := by
  simp only [isJsonSpace, Bool.or_eq_true, decide_eq_true_eq] at h
  rcases h with ((rfl | rfl) | rfl) | rfl <;> decide

/-- A number ends at white space, and at what follows it. -/
theorem endsNumber_gap {gap : Text} (hgap : ∀ c ∈ gap, isJsonSpace c) {c : Char}
    (hc : isNumberChar c = false) (cs : Text) : EndsNumber (gap ++ c :: cs) := by
  cases gap with
  | nil => exact endsNumber_cons hc cs
  | cons d gap => exact endsNumber_cons (isNumberChar_of_isJsonSpace (hgap d (by simp))) _

/-! ## Documents -/

/-- A layout of characters with a property. -/
structure Layout.Of (layout : Layout) (p : Char → Prop) : Prop where
  comma : ∀ depth, ∀ c ∈ layout.comma depth, p c
  colon : ∀ c ∈ layout.colon, p c
  opening : ∀ depth, ∀ c ∈ layout.opening depth, p c
  closing : ∀ depth, ∀ c ∈ layout.closing depth, p c

/-- A layout of JSON white space. -/
abbrev Layout.Blank (layout : Layout) : Prop := layout.Of (isJsonSpace ·)

mutual
/-- The scanner takes an encoded document off the front of any text. -/
theorem scanOnce_dumpsLaid {layout : Layout} (hlayout : layout.Blank) :
    (j : Json) → j.DistinctKeys → ∀ (depth n : Nat) (r : Text),
      2 * (j.dumpsLaid layout depth).length ≤ n → EndsNumber r →
      scanOnce n (j.dumpsLaid layout depth ++ r) = some (j, r)
  | .null, _, depth, n, r, hn, _ => by
    obtain ⟨m, rfl⟩ : ∃ m, n = m + 1 := ⟨n - 1, by simp [Json.dumpsLaid] at hn; omega⟩
    simp [Json.dumpsLaid, scanOnce.eq_def]
  | .bool b, _, depth, n, r, hn, _ => by
    obtain ⟨m, rfl⟩ : ∃ m, n = m + 1 := ⟨n - 1, by cases b <;> simp [Json.dumpsLaid] at hn <;> omega⟩
    cases b <;> simp [Json.dumpsLaid, scanOnce.eq_def]
  | .int i, _, depth, n, r, hn, hr => by
    obtain ⟨c, cs, hcs, -⟩ := dumpsInt_cons i
    obtain ⟨m, rfl⟩ : ∃ m, n = m + 1 := ⟨n - 1, by simp [Json.dumpsLaid, hcs] at hn; omega⟩
    exact scanOnce_dumpsInt m hr i
  | .float f, _, depth, n, r, hn, hr => by
    obtain ⟨c, cs, hcs, -⟩ := floatRepr_cons f
    obtain ⟨m, rfl⟩ : ∃ m, n = m + 1 := ⟨n - 1, by simp [Json.dumpsLaid, hcs] at hn; omega⟩
    exact scanOnce_floatRepr m hr f
  | .str s, _, depth, n, r, hn, _ => by
    obtain ⟨m, rfl⟩ : ∃ m, n = m + 1 := ⟨n - 1, by simp [Json.dumpsLaid, dumpsString] at hn; omega⟩
    exact scanOnce_dumpsString m s r
  | .arr [], _, depth, n, r, hn, _ => by
    obtain ⟨m, rfl⟩ : ∃ m, n = m + 1 := ⟨n - 1, by simp [Json.dumpsLaid] at hn; omega⟩
    simp [Json.dumpsLaid, scanOnce.eq_def, skipSpace, isJsonSpace]
  | .arr (j :: js), hd, depth, n, r, hn, _ => by
    obtain ⟨m, rfl⟩ : ∃ m, n = m + 1 := ⟨n - 1, by simp [Json.dumpsLaid] at hn; omega⟩
    -- The items get the fuel that the brackets leave.
    have hlen : 2 * (Json.dumpsItemsLaid layout depth (j :: js)).length + 1 ≤ m := by
      simp [Json.dumpsLaid] at hn; omega
    have hitems := scanItems_dumpsItemsLaid hlayout j js hd depth m r hlen
    -- The first item starts with a character that neither is blank nor closes the array.
    obtain ⟨c, cs, hcs, hc, hclose⟩ := dumpsLaid_cons layout (depth + 1) j
    obtain ⟨u, hu⟩ := dumpsItemsLaid_cons layout depth j js
    have hfront : Json.dumpsItemsLaid layout depth (j :: js) ++ (layout.closing depth ++ ']' :: r) =
        c :: (cs ++ u ++ (layout.closing depth ++ ']' :: r)) := by
      rw [hu, hcs]; simp
    rw [hfront] at hitems
    simp only [Json.dumpsLaid, List.isEmpty_cons, Bool.false_eq_true, if_false, List.cons_append,
      List.append_assoc, List.nil_append]
    rw [scanOnce.eq_def]
    simp only
    rw [hfront, skipSpace_gap_cons (hlayout.opening depth) hc]
    split
    · rename_i heq
      exact absurd (List.cons.inj heq).1 hclose
    · rw [hitems]; rfl
  | .obj [], _, depth, n, r, hn, _ => by
    obtain ⟨m, rfl⟩ : ∃ m, n = m + 1 := ⟨n - 1, by simp [Json.dumpsLaid] at hn; omega⟩
    simp [Json.dumpsLaid, scanOnce.eq_def, skipSpace, isJsonSpace]
  | .obj (e :: ms), hd, depth, n, r, hn, _ => by
    obtain ⟨m, rfl⟩ : ∃ m, n = m + 1 := ⟨n - 1, by simp [Json.dumpsLaid] at hn; omega⟩
    -- The first member starts with a quote, so the object is not read as closed.
    have hlen : 2 * (Json.dumpsMembersLaid layout depth (e :: ms)).length + 1 ≤ m := by
      simp [Json.dumpsLaid] at hn; omega
    have hmembers := scanMembers_dumpsMembersLaid hlayout e ms hd.2 depth m r hlen
    obtain ⟨u, hu⟩ := dumpsMembersLaid_cons layout depth e ms
    simp only [Json.dumpsLaid, List.isEmpty_cons, Bool.false_eq_true, if_false, List.cons_append,
      List.append_assoc, List.nil_append]
    rw [scanOnce.eq_def]
    simp only
    rw [hu, List.cons_append] at hmembers ⊢
    rw [skipSpace_gap_cons (hlayout.opening depth) (by decide)]
    split
    · rename_i heq
      exact absurd (List.cons.inj heq).1 (by decide)
    -- `dict` keeps the pairs because no key stands twice.
    · rw [hmembers, Option.map_some, dictOfPairs_of_nodup _ hd.1]
termination_by j => sizeOf j
theorem scanItems_dumpsItemsLaid {layout : Layout} (hlayout : layout.Blank) :
    (j : Json) → (js : List Json) → Json.DistinctItems (j :: js) → ∀ (depth n : Nat) (r : Text),
      2 * (Json.dumpsItemsLaid layout depth (j :: js)).length + 1 ≤ n →
      scanItems n (Json.dumpsItemsLaid layout depth (j :: js) ++ (layout.closing depth ++ ']' :: r)) =
        some (j :: js, r)
  | j, [], hd, depth, n, r, hn => by
    obtain ⟨m, rfl⟩ : ∃ m, n = m + 1 := ⟨n - 1, by omega⟩
    simp only [Json.dumpsItemsLaid] at hn ⊢
    rw [scanItems, scanOnce_dumpsLaid hlayout j hd.1 (depth + 1) m _ (by omega)
      (endsNumber_gap (hlayout.closing depth) (by decide) r)]
    simp [skipSpace_gap_cons (hlayout.closing depth) (c := ']') (by decide)]
  | j, j' :: js, hd, depth, n, r, hn => by
    obtain ⟨m, rfl⟩ : ∃ m, n = m + 1 := ⟨n - 1, by omega⟩
    simp only [Json.dumpsItemsLaid, List.length_append, List.length_cons] at hn
    have hrest := scanItems_dumpsItemsLaid hlayout j' js hd.2 depth m r (by omega)
    obtain ⟨u, hu⟩ := dumpsItemsLaid_cons layout depth j' js
    have hskip : skipSpace (Json.dumpsItemsLaid layout depth (j' :: js) ++
        (layout.closing depth ++ ']' :: r)) =
          Json.dumpsItemsLaid layout depth (j' :: js) ++ (layout.closing depth ++ ']' :: r) := by
      rw [hu, List.append_assoc, skipSpace_dumpsLaid]
    rw [Json.dumpsItemsLaid, List.append_assoc, List.cons_append, List.append_assoc, scanItems,
      scanOnce_dumpsLaid hlayout j hd.1 (depth + 1) m _ (by omega) (endsNumber_cons (by decide) _)]
    simp only
    rw [skipSpace_cons_of_not (c := ',') (by decide)]
    simp only
    rw [skipSpace_gap (hlayout.comma depth), hskip, hrest]
    rfl
termination_by j js => sizeOf (j :: js)
theorem scanMembers_dumpsMembersLaid {layout : Layout} (hlayout : layout.Blank) :
    (e : String × Json) → (ms : List (String × Json)) →
    Json.DistinctMembers (e :: ms) → ∀ (depth n : Nat) (r : Text),
      2 * (Json.dumpsMembersLaid layout depth (e :: ms)).length + 1 ≤ n →
      scanMembers n (Json.dumpsMembersLaid layout depth (e :: ms) ++
        (layout.closing depth ++ '}' :: r)) = some (e :: ms, r)
  | (k, j), [], hd, depth, n, r, hn => by
    obtain ⟨m, rfl⟩ : ∃ m, n = m + 1 := ⟨n - 1, by omega⟩
    simp only [Json.dumpsMembersLaid, List.length_append, List.length_cons] at hn
    simp only [Json.dumpsMembersLaid, dumpsString, List.cons_append, List.append_assoc,
      List.nil_append]
    rw [scanMembers]
    simp only
    rw [scanString_escape]
    simp only
    rw [skipSpace_cons_of_not (c := ':') (by decide)]
    simp only
    rw [skipSpace_gap hlayout.colon, skipSpace_dumpsLaid,
      scanOnce_dumpsLaid hlayout j hd.1 (depth + 1) m _ (by omega)
        (endsNumber_gap (hlayout.closing depth) (by decide) r)]
    simp [skipSpace_gap_cons (hlayout.closing depth) (c := '}') (by decide)]
  | (k, j), e' :: ms, hd, depth, n, r, hn => by
    obtain ⟨m, rfl⟩ : ∃ m, n = m + 1 := ⟨n - 1, by omega⟩
    simp only [Json.dumpsMembersLaid, List.length_append, List.length_cons] at hn
    have hrest := scanMembers_dumpsMembersLaid hlayout e' ms hd.2 depth m r (by omega)
    obtain ⟨u, hu⟩ := dumpsMembersLaid_cons layout depth e' ms
    have hskip : skipSpace (Json.dumpsMembersLaid layout depth (e' :: ms) ++
        (layout.closing depth ++ '}' :: r)) =
          Json.dumpsMembersLaid layout depth (e' :: ms) ++ (layout.closing depth ++ '}' :: r) := by
      rw [hu, List.cons_append, skipSpace_cons_of_not (by decide)]
    simp only [Json.dumpsMembersLaid, dumpsString, List.cons_append, List.append_assoc,
      List.nil_append]
    rw [scanMembers]
    simp only
    rw [scanString_escape]
    simp only
    rw [skipSpace_cons_of_not (c := ':') (by decide)]
    simp only
    rw [skipSpace_gap hlayout.colon, skipSpace_dumpsLaid,
      scanOnce_dumpsLaid hlayout j hd.1 (depth + 1) m _ (by omega) (endsNumber_cons (by decide) _)]
    simp only
    rw [skipSpace_cons_of_not (c := ',') (by decide)]
    simp only
    rw [skipSpace_gap (hlayout.comma depth), hskip, hrest]
    simp
termination_by e ms => sizeOf (e :: ms)
end

/-- What is printed in any layout of JSON white space reads back, also before more of it. -/
theorem loads_dumpsLaid {layout : Layout} (hlayout : layout.Blank) (j : Json) (hj : j.DistinctKeys)
    {tail : Text} (htail : ∀ c ∈ tail, isJsonSpace c) :
    loads (j.dumpsLaid layout 0 ++ tail) = some j := by
  have hends : EndsNumber tail := by
    cases tail with
    | nil => simp [EndsNumber]
    | cons c cs => exact endsNumber_cons (isNumberChar_of_isJsonSpace (htail c (by simp))) cs
  have hscan := scanOnce_dumpsLaid hlayout j hj 0 (2 * (j.dumpsLaid layout 0 ++ tail).length + 1)
    tail (by simp only [List.length_append]; omega) hends
  have hrest : skipSpace tail = [] := by
    rw [skipSpace, List.dropWhile_eq_nil_iff]
    exact htail
  rw [loads, skipSpace_dumpsLaid, hscan]
  simp [hrest]

/-- The indented layout is made of line feeds and spaces. -/
theorem indentLayout_of {p : Char → Prop} (hlf : p '\n') (hspace : p ' ') : indentLayout.Of p := by
  have hline (depth : Nat) : ∀ c ∈ newLine depth, p c := by
    intro c hc
    rcases List.mem_cons.mp hc with rfl | hc
    · exact hlf
    · rw [List.eq_of_mem_replicate hc]
      exact hspace
  exact ⟨fun _ => hline _, fun c hc => List.mem_singleton.mp hc ▸ hspace, fun _ => hline _,
    fun _ => hline _⟩

/-- **Round trip** of the indented form, with the line feed the writers put after it. -/
theorem loads_dumpsIndent (j : Json) (hj : j.DistinctKeys) : loads (j.dumpsIndent ++ ['\n']) = some j :=
  loads_dumpsLaid (indentLayout_of (by decide) (by decide)) j hj (by decide)

/-- The layout without line breaks, the same text after each comma and colon. -/
def flatLayout (gap : Text) : Layout where
  comma _ := gap
  colon := gap
  opening _ := []
  closing _ := []

mutual
theorem dumpsLaid_flatLayout (gap : Text) : (depth : Nat) → (j : Json) →
    j.dumpsLaid (flatLayout gap) depth = j.dumpsWith gap
  | _, .null | _, .bool _ | _, .int _ | _, .float _ | _, .str _ => by
    simp only [Json.dumpsLaid, Json.dumpsWith]
  | _, .arr [] => by rw [Json.dumpsLaid, Json.dumpsWith]; rfl
  | depth, .arr (j :: js) => by
    rw [Json.dumpsLaid, Json.dumpsWith, dumpsItemsLaid_flatLayout gap depth (j :: js)]
    rfl
  | _, .obj [] => by rw [Json.dumpsLaid, Json.dumpsWith]; rfl
  | depth, .obj (m :: ms) => by
    rw [Json.dumpsLaid, Json.dumpsWith, dumpsMembersLaid_flatLayout gap depth (m :: ms)]
    rfl
theorem dumpsItemsLaid_flatLayout (gap : Text) : (depth : Nat) → (js : List Json) →
    Json.dumpsItemsLaid (flatLayout gap) depth js = Json.dumpsItemsWith gap js
  | _, [] => by rw [Json.dumpsItemsLaid, Json.dumpsItemsWith]
  | depth, [j] => by
    rw [Json.dumpsItemsLaid, Json.dumpsItemsWith, dumpsLaid_flatLayout gap (depth + 1) j]
  | depth, j :: j' :: js => by
    rw [Json.dumpsItemsLaid, Json.dumpsItemsWith, dumpsLaid_flatLayout gap (depth + 1) j,
      dumpsItemsLaid_flatLayout gap depth (j' :: js)]
    rfl
theorem dumpsMembersLaid_flatLayout (gap : Text) : (depth : Nat) → (ms : List (String × Json)) →
    Json.dumpsMembersLaid (flatLayout gap) depth ms = Json.dumpsMembersWith gap ms
  | _, [] => by rw [Json.dumpsMembersLaid, Json.dumpsMembersWith]
  | depth, [(k, j)] => by
    rw [Json.dumpsMembersLaid, Json.dumpsMembersWith, dumpsLaid_flatLayout gap (depth + 1) j]
    rfl
  | depth, (k, j) :: m :: ms => by
    rw [Json.dumpsMembersLaid, Json.dumpsMembersWith, dumpsLaid_flatLayout gap (depth + 1) j,
      dumpsMembersLaid_flatLayout gap depth (m :: ms)]
    rfl
end

/-- What is encoded with any gap of JSON white space reads back. -/
theorem loads_dumpsWith {gap : Text} (hgap : ∀ c ∈ gap, isJsonSpace c) (j : Json)
    (hj : j.DistinctKeys) : loads (j.dumpsWith gap) = some j := by
  have hblank : (flatLayout gap).Blank :=
    ⟨fun _ => hgap, hgap, fun _ _ h => (nomatch h), fun _ _ h => (nomatch h)⟩
  have hload := loads_dumpsLaid hblank j hj (by simp : ∀ c ∈ ([] : Text), isJsonSpace c)
  rwa [List.append_nil, dumpsLaid_flatLayout] at hload

mutual
/-- The default separators are a comma and a colon, each with a space. -/
theorem dumps_eq_dumpsWith : (j : Json) → j.dumps = j.dumpsWith [' ']
  | .null | .bool _ | .int _ | .float _ | .str _ => by simp only [Json.dumps, Json.dumpsWith]
  | .arr items => by rw [Json.dumps, Json.dumpsWith, dumpsItems_eq_dumpsItemsWith]
  | .obj members => by rw [Json.dumps, Json.dumpsWith, dumpsMembers_eq_dumpsMembersWith]
theorem dumpsItems_eq_dumpsItemsWith : (js : List Json) →
    Json.dumpsItems js = Json.dumpsItemsWith [' '] js
  | [] => rfl
  | [j] => by rw [Json.dumpsItems, Json.dumpsItemsWith, dumps_eq_dumpsWith j]
  | j :: j' :: js => by
    rw [Json.dumpsItems, Json.dumpsItemsWith, dumps_eq_dumpsWith j,
      dumpsItems_eq_dumpsItemsWith (j' :: js)]
    rfl
theorem dumpsMembers_eq_dumpsMembersWith : (ms : List (String × Json)) →
    Json.dumpsMembers ms = Json.dumpsMembersWith [' '] ms
  | [] => rfl
  | [(k, j)] => by
    rw [Json.dumpsMembers, Json.dumpsMembersWith, dumps_eq_dumpsWith j]
    rfl
  | (k, j) :: m :: ms => by
    rw [Json.dumpsMembers, Json.dumpsMembersWith, dumps_eq_dumpsWith j,
      dumpsMembers_eq_dumpsMembersWith (m :: ms)]
    rfl
end

theorem dumps_cons (j : Json) :
    ∃ c cs, j.dumps = c :: cs ∧ isSpace c = false ∧ c ≠ ']' := by
  rw [dumps_eq_dumpsWith, ← dumpsLaid_flatLayout [' '] 0]
  exact dumpsLaid_cons (flatLayout [' ']) 0 j

/-- **Round trip.**  `json.loads(json.dumps(value))` is `value`. -/
theorem loads_dumps (j : Json) (hj : j.DistinctKeys) : loads j.dumps = some j := by
  rw [dumps_eq_dumpsWith]
  exact loads_dumpsWith (by decide) j hj

/-! ## Key order -/

theorem map_fst_sortMembers : (ms : List (String × Json)) →
    (Json.sortMembers ms).map Prod.fst = ms.map Prod.fst
  | [] => rfl
  | (k, j) :: ms => by simp [Json.sortMembers, map_fst_sortMembers ms]

theorem nodup_map_fst_insertionSort {ms : List (String × Json)} (h : (ms.map Prod.fst).Nodup) :
    ((ms.insertionSort fun a b => a.1 ≤ b.1).map Prod.fst).Nodup :=
  (((List.perm_insertionSort _ ms).map Prod.fst).nodup_iff).mpr h

theorem distinctMembers_iff (ms : List (String × Json)) :
    Json.DistinctMembers ms ↔ ∀ m ∈ ms, m.2.DistinctKeys := by
  induction ms with
  | nil => simp [Json.DistinctMembers]
  | cons m ms ih => simp [Json.DistinctMembers, ih]

mutual
theorem distinctKeys_sortKeys : (j : Json) → j.DistinctKeys → j.sortKeys.DistinctKeys
  | .null, h => h
  | .bool _, h => h
  | .int _, h => h
  | .float _, h => h
  | .str _, h => h
  | .arr js, h => distinctItems_sortItems js h
  | .obj ms, h => by
    have hkeys : ((Json.sortMembers ms).map Prod.fst).Nodup := map_fst_sortMembers ms ▸ h.1
    have hvals := (distinctMembers_iff _).mp (distinctMembers_sortMembers ms h.2)
    refine ⟨nodup_map_fst_insertionSort hkeys, (distinctMembers_iff _).mpr ?_⟩
    intro m hm
    exact hvals m ((List.mem_insertionSort _).mp hm)
theorem distinctItems_sortItems : (js : List Json) → Json.DistinctItems js →
    Json.DistinctItems (Json.sortItems js)
  | [], h => h
  | j :: js, h => ⟨distinctKeys_sortKeys j h.1, distinctItems_sortItems js h.2⟩
theorem distinctMembers_sortMembers : (ms : List (String × Json)) → Json.DistinctMembers ms →
    Json.DistinctMembers (Json.sortMembers ms)
  | [], h => h
  | (_, j) :: ms, h => ⟨distinctKeys_sortKeys j h.1, distinctMembers_sortMembers ms h.2⟩
end

theorem sortMembers_eq_map (ms : List (String × Json)) :
    Json.sortMembers ms = ms.map fun m => (m.1, m.2.sortKeys) := by
  induction ms with
  | nil => rfl
  | cons m ms ih => simp [Json.sortMembers, ih]

mutual
/-- Sorting the keys twice is sorting them once. -/
theorem sortKeys_idem : (j : Json) → j.sortKeys.sortKeys = j.sortKeys
  | .null => rfl
  | .bool _ => rfl
  | .int _ => rfl
  | .float _ => rfl
  | .str _ => rfl
  | .arr js => by simp [Json.sortKeys, sortItems_idem js]
  | .obj ms => by
    have hvals := sortMembers_idem ms
    have hfix : Json.sortMembers ((Json.sortMembers ms).insertionSort fun a b => a.1 ≤ b.1) =
        (Json.sortMembers ms).insertionSort fun a b => a.1 ≤ b.1 := by
      rw [sortMembers_eq_map (Json.sortMembers ms)] at hvals
      have hval : ∀ m ∈ Json.sortMembers ms, (m.1, m.2.sortKeys) = id m :=
        List.map_eq_map_iff.mp (hvals.trans (List.map_id _).symm)
      rw [sortMembers_eq_map, List.map_congr_left (g := id), List.map_id]
      exact fun m hm => hval m ((List.mem_insertionSort _).mp hm)
    rw [Json.sortKeys, Json.sortKeys, hfix]
    congr 1
    exact List.Pairwise.insertionSort_eq (List.pairwise_insertionSort _ _)
theorem sortItems_idem : (js : List Json) →
    Json.sortItems (Json.sortItems js) = Json.sortItems js
  | [] => rfl
  | j :: js => by simp [Json.sortItems, sortKeys_idem j, sortItems_idem js]
theorem sortMembers_idem : (ms : List (String × Json)) →
    Json.sortMembers (Json.sortMembers ms) = Json.sortMembers ms
  | [] => rfl
  | (k, j) :: ms => by simp [Json.sortMembers, sortKeys_idem j, sortMembers_idem ms]
end

/-- A lookup does not depend on the order of distinct keys. -/
theorem dictGet?_perm {ms ms' : List (String × Json)} (hperm : ms.Perm ms')
    (hms : (ms.map Prod.fst).Nodup) (k : String) : dictGet? ms k = dictGet? ms' k := by
  have hms' : (ms'.map Prod.fst).Nodup := (hperm.map Prod.fst).nodup_iff.mp hms
  ext v
  rw [← mem_iff_dictGet? hms, ← mem_iff_dictGet? hms', hperm.mem_iff]

/-- What sorting the keys does to a lookup. -/
theorem dictGet?_sortKeys {ms : List (String × Json)} (hms : (ms.map Prod.fst).Nodup) (k : String) :
    dictGet? ((Json.sortMembers ms).insertionSort fun a b => a.1 ≤ b.1) k =
      (dictGet? ms k).map Json.sortKeys := by
  have hsorted : ((Json.sortMembers ms).map Prod.fst).Nodup := by rwa [map_fst_sortMembers]
  rw [← dictGet?_perm (List.perm_insertionSort _ _).symm hsorted, sortMembers_eq_map]
  clear hms hsorted
  induction ms with
  | nil => rfl
  | cons m ms ih =>
      by_cases hk : m.1 = k
      · simp [dictGet?, hk]
      · simpa [dictGet?, hk] using ih

/-- Documents that are equal for Python hold equal values under each key. -/
theorem dictGet?_of_pyEq {ms ms' : List (String × Json)} (h : PyEq (.obj ms) (.obj ms'))
    (hms : (ms.map Prod.fst).Nodup) (hms' : (ms'.map Prod.fst).Nodup) (k : String) :
    (dictGet? ms k).map Json.sortKeys = (dictGet? ms' k).map Json.sortKeys := by
  rw [← dictGet?_sortKeys hms, ← dictGet?_sortKeys hms', Json.obj.inj h]

end LlmHarness.Python
