/-
  LlmHarness.Lib.Semver

  Semantic versions without build metadata: pre-release identifiers, the text of a
  version, and precedence.

  Part 1 compares decimal numerals as numbers and as text.  Part 2 is precedence.
  Part 3 says when comparing identifiers as text gives their precedence: numbers of
  different length and a number beside a word have to be spelled in order, nothing
  else.
-/

import Mathlib.Algebra.Order.Ring.Nat
import Mathlib.Data.Char
import Mathlib.Data.List.Lex
import Mathlib.Data.Prod.Lex

namespace LlmHarness.Semver

/-! ## Part 1: numerals -/

section Numerals

variable {c d : Char} {cs ds : List Char}

theorem digit_lt_ten (hc : c.isDigit) : c.toNat - '0'.toNat < 10 := by
  have hbounds := Char.isDigit_iff_toNat.mp hc
  have hzero : '0'.toNat = 48 := rfl
  have hnine : '9'.toNat = 57 := rfl
  omega

theorem value_cons (c : Char) (cs : List Char) :
    Nat.ofDigitChars 10 (c :: cs) 0 =
      10 ^ cs.length * (c.toNat - '0'.toNat) + Nat.ofDigitChars 10 cs 0 := by
  rw [Nat.ofDigitChars_cons, Nat.mul_zero, Nat.zero_add, Nat.ofDigitChars_eq_ofDigitChars_zero]

theorem value_lt_pow (h : ∀ c ∈ cs, c.isDigit) : Nat.ofDigitChars 10 cs 0 < 10 ^ cs.length := by
  induction cs with
  | nil => exact Nat.one_pos
  | cons c cs ih =>
      have hc : c.toNat - '0'.toNat < 10 := digit_lt_ten (h c List.mem_cons_self)
      have hcs := ih fun d hd => h d (List.mem_cons_of_mem c hd)
      rw [value_cons, List.length_cons, Nat.pow_succ]
      calc 10 ^ cs.length * (c.toNat - '0'.toNat) + Nat.ofDigitChars 10 cs 0
          < 10 ^ cs.length * (c.toNat - '0'.toNat) + 10 ^ cs.length := by omega
        _ = 10 ^ cs.length * (c.toNat - '0'.toNat + 1) := by rw [Nat.mul_succ]
        _ ≤ 10 ^ cs.length * 10 := Nat.mul_le_mul_left _ hc

theorem pow_le_value (hc : c.isDigit) (hzero : c ≠ '0') :
    10 ^ cs.length ≤ Nat.ofDigitChars 10 (c :: cs) 0 := by
  have hbounds := Char.isDigit_iff_toNat.mp hc
  have hne : c.toNat ≠ '0'.toNat := fun h => hzero (Char.ext (UInt32.toNat_inj.mp h))
  have hpos : 1 ≤ c.toNat - '0'.toNat := by
    have hzero : '0'.toNat = 48 := rfl
    omega
  rw [value_cons]
  exact Nat.le_add_right_of_le (Nat.le_mul_of_pos_right _ hpos)

/-- Numerals of one length are ordered as they are spelled. -/
theorem value_lt_iff_of_length_eq (hcs : ∀ c ∈ cs, c.isDigit) (hds : ∀ d ∈ ds, d.isDigit)
    (hlength : cs.length = ds.length) :
    Nat.ofDigitChars 10 cs 0 < Nat.ofDigitChars 10 ds 0 ↔ cs < ds := by
  -- the induction is on the first digits, with the second free
  induction cs generalizing ds with
  | nil =>
      rw [List.length_nil, eq_comm, List.length_eq_zero_iff] at hlength
      subst hlength
      exact iff_of_false (Nat.lt_irrefl _) (List.lt_irrefl _)
  | cons c cs ih =>
      cases ds with
      | nil => exact absurd hlength (Nat.succ_ne_zero _)
      | cons d ds =>
          have hlength : cs.length = ds.length := Nat.succ_inj.mp hlength
          have hc := Char.isDigit_iff_toNat.mp (hcs c List.mem_cons_self)
          have hd := Char.isDigit_iff_toNat.mp (hds d List.mem_cons_self)
          have hrest := ih (fun e he => hcs e (List.mem_cons_of_mem c he))
            (fun e he => hds e (List.mem_cons_of_mem d he)) hlength
          have hcs := value_lt_pow fun e he => hcs e (List.mem_cons_of_mem c he)
          have hds := value_lt_pow fun e he => hds e (List.mem_cons_of_mem d he)
          rw [value_cons, value_cons, hlength, List.cons_lt_cons_iff]
          rw [hlength] at hcs
          have hzero : '0'.toNat = 48 := rfl
          -- the first digits decide, unless they are equal
          rcases Nat.lt_trichotomy c.toNat d.toNat with hlt | heq | hgt
          · refine iff_of_true ?_ (Or.inl hlt)
            have hdigit : c.toNat - '0'.toNat + 1 ≤ d.toNat - '0'.toNat := by omega
            have hscaled := Nat.mul_le_mul_left (10 ^ ds.length) hdigit
            -- the digits after them are worth less than one unit of the first
            rw [Nat.mul_succ] at hscaled
            omega
          · have hcd : c = d := Char.ext (UInt32.toNat_inj.mp heq)
            subst hcd
            rw [Nat.add_lt_add_iff_left, hrest]
            exact ⟨fun h => Or.inr ⟨rfl, h⟩, fun h => h.elim (fun h => absurd h (lt_irrefl c)) And.right⟩
          · refine iff_of_false ?_ ?_
            · have hdigit : d.toNat - '0'.toNat + 1 ≤ c.toNat - '0'.toNat := by omega
              have hscaled := Nat.mul_le_mul_left (10 ^ ds.length) hdigit
              rw [Nat.mul_succ] at hscaled
              omega
            · rintro (h | ⟨rfl, -⟩)
              · exact absurd hgt (Nat.lt_asymm h)
              · exact absurd hgt (Nat.lt_irrefl _)

/-- Numerals without leading zeros: the shorter is lower, and of one length the one that is
    spelled before. -/
theorem value_lt_iff (hcs : ∀ e ∈ c :: cs, e.isDigit) (hds : ∀ e ∈ d :: ds, e.isDigit)
    (hc : c = '0' → cs = []) (hd : d = '0' → ds = []) :
    Nat.ofDigitChars 10 (c :: cs) 0 < Nat.ofDigitChars 10 (d :: ds) 0 ↔
      cs.length < ds.length ∨ cs.length = ds.length ∧ c :: cs < d :: ds := by
  have hshorter : ∀ {c d : Char} {cs ds : List Char}, (∀ e ∈ c :: cs, e.isDigit) →
      (∀ e ∈ d :: ds, e.isDigit) → (d = '0' → ds = []) → cs.length < ds.length →
      Nat.ofDigitChars 10 (c :: cs) 0 < Nat.ofDigitChars 10 (d :: ds) 0 := by
    intro c d cs ds hcs hds hd hlength
    have hne : d ≠ '0' := by
      intro hzero
      rw [hd hzero] at hlength
      exact absurd hlength (Nat.not_lt_zero _)
    calc Nat.ofDigitChars 10 (c :: cs) 0 < 10 ^ (c :: cs).length := value_lt_pow hcs
      _ ≤ 10 ^ ds.length := Nat.pow_le_pow_right (by omega) hlength
      _ ≤ Nat.ofDigitChars 10 (d :: ds) 0 := pow_le_value (hds d List.mem_cons_self) hne
  rcases Nat.lt_trichotomy cs.length ds.length with hlt | heq | hgt
  · exact iff_of_true (hshorter hcs hds hd hlt) (Or.inl hlt)
  · have hlength : (c :: cs).length = (d :: ds).length := congrArg Nat.succ heq
    rw [value_lt_iff_of_length_eq hcs hds hlength]
    exact ⟨fun h => Or.inr ⟨heq, h⟩, fun h => h.elim (fun h => absurd heq h.ne) And.right⟩
  · refine iff_of_false (Nat.lt_asymm (hshorter hds hcs hc hgt)) ?_
    rintro (h | ⟨h, -⟩) <;> omega

end Numerals

/-! ## Part 2: versions and precedence -/

/-- A pre-release identifier. -/
structure Identifier where
  text : List Char
  nonempty : text ≠ []
  chars : ∀ c ∈ text, c.isAlphanum ∨ c = '-'
  noLeadingZero : (∀ c ∈ text, c.isDigit) → text.head? = some '0' → text = ['0']
deriving DecidableEq

namespace Identifier

/-- The identifier consists of digits. -/
def Numeric (a : Identifier) : Prop := ∀ c ∈ a.text, c.isDigit

instance (a : Identifier) : Decidable a.Numeric :=
  List.decidableBAll (fun c : Char => c.isDigit = true) a.text

/-- The number of a numeric identifier. -/
def number (a : Identifier) : Nat := Nat.ofDigitChars 10 a.text 0

/-- Precedence: numbers by value, words as text, and numbers below words. -/
def Lower (a b : Identifier) : Prop :=
  if a.Numeric then if b.Numeric then a.number < b.number else True
  else if b.Numeric then False else a.text < b.text

instance (a b : Identifier) : Decidable (a.Lower b) :=
  inferInstanceAs (Decidable (if a.Numeric then if b.Numeric then a.number < b.number else True
    else if b.Numeric then False else a.text < b.text))

end Identifier

/-- A version without build metadata. -/
structure Version where
  major : Nat
  minor : Nat
  patch : Nat
  prerelease : List Identifier := []
deriving DecidableEq

namespace Version

/-- The three numbers, in the order they are compared in. -/
def core (v : Version) : Nat ×ₗ Nat ×ₗ Nat := toLex (v.major, toLex (v.minor, v.patch))

/-- The text of the three numbers. -/
def coreText (v : Version) : List Char :=
  Nat.toDigits 10 v.major ++ '.' :: (Nat.toDigits 10 v.minor ++ '.' :: Nat.toDigits 10 v.patch)

/-- The text of a version. -/
def text (v : Version) : List Char :=
  if v.prerelease = [] then v.coreText
  else v.coreText ++ '-' :: ['.'].intercalate (v.prerelease.map Identifier.text)

end Version

/-- Precedence of the pre-release parts of versions with the same numbers: a version
    without one is the highest. -/
def PrereleaseLower : List Identifier → List Identifier → Prop
  | [], _ => False
  | _ :: _, [] => True
  | as, bs => List.Lex Identifier.Lower as bs

/-- Precedence. -/
def Version.Lower (v w : Version) : Prop :=
  v.core < w.core ∨ v.core = w.core ∧ PrereleaseLower v.prerelease w.prerelease

/-! ## Part 3: precedence and spelling -/

/-- The first elements in which two lists differ are related. -/
def AtFirstDifference {α : Type} [DecidableEq α] (P : α → α → Prop) : List α → List α → Prop
  | a :: as, b :: bs => if a = b then AtFirstDifference P as bs else P a b
  | _, _ => True

/-- Two relations order a pair alike. -/
def Alike {α : Type} (r s : α → α → Prop) (a b : α) : Prop := (r a b ↔ s a b) ∧ (r b a ↔ s b a)

theorem lex_cons_iff {α : Type} [DecidableEq α] {r : α → α → Prop} (hr : ∀ a, ¬ r a a) {a b : α}
    {as bs : List α} :
    List.Lex r (a :: as) (b :: bs) ↔ if a = b then List.Lex r as bs else r a b := by
  by_cases hab : a = b
  · subst hab
    rw [if_pos rfl]
    constructor
    · intro h
      cases h with
      | rel h => exact absurd h (hr a)
      | cons h => exact h
    · exact fun h => .cons h
  · rw [if_neg hab]
    constructor
    · intro h
      cases h with
      | rel h => exact h
      | cons h => exact absurd rfl hab
    · exact fun h => .rel h

/-- Two irreflexive relations order two lists alike exactly when they order their first
    difference alike. -/
theorem lex_alike_iff {α : Type} [DecidableEq α] {r s : α → α → Prop} (hr : ∀ a, ¬ r a a)
    (hs : ∀ a, ¬ s a a) (as bs : List α) :
    Alike (List.Lex r) (List.Lex s) as bs ↔ AtFirstDifference (Alike r s) as bs := by
  induction as generalizing bs with
  | nil =>
      refine iff_of_true ⟨?_, ?_⟩ (by cases bs <;> trivial)
      · cases bs with
        | nil => exact iff_of_false (nomatch ·) (nomatch ·)
        | cons b bs => exact iff_of_true .nil .nil
      · exact iff_of_false (nomatch ·) (nomatch ·)
  | cons a as ih =>
      cases bs with
      | nil =>
          refine iff_of_true ⟨iff_of_false (nomatch ·) (nomatch ·), iff_of_true .nil .nil⟩ trivial
      | cons b bs =>
          rw [Alike, lex_cons_iff hr, lex_cons_iff hs, lex_cons_iff hr, lex_cons_iff hs, AtFirstDifference]
          by_cases hab : a = b
          · subst hab
            rw [if_pos rfl, if_pos rfl, if_pos rfl, if_pos rfl, if_pos rfl]
            exact ih bs
          · have hba : ¬ b = a := fun h => hab h.symm
            rw [if_neg hab, if_neg hab, if_neg hba, if_neg hba, if_neg hab]
            exact Iff.rfl

/-- The order of two texts against an order that puts the first before the second. -/
theorem lt_alike_iff {x y : List Char} {p q : Prop} (hp : p) (hq : ¬ q) :
    ((x < y ↔ p) ∧ (y < x ↔ q)) ↔ x < y := by
  constructor
  · exact fun h => h.1.mpr hp
  · exact fun h => ⟨iff_of_true h hp, iff_of_false (lt_asymm h) hq⟩

namespace Identifier

theorem lower_irrefl (a : Identifier) : ¬ a.Lower a := by
  rw [Lower]
  by_cases ha : a.Numeric
  · rw [if_pos ha, if_pos ha]
    exact Nat.lt_irrefl _
  · rw [if_neg ha, if_neg ha]
    exact List.lt_irrefl _

/-- The text of a numeric identifier, as a numeral without leading zeros. -/
theorem exists_digit_cons {a : Identifier} (ha : a.Numeric) :
    ∃ c cs, a.text = c :: cs ∧ (∀ e ∈ c :: cs, e.isDigit) ∧ (c = '0' → cs = []) := by
  obtain ⟨c, cs, htext⟩ := List.exists_cons_of_ne_nil a.nonempty
  refine ⟨c, cs, htext, htext ▸ ha, ?_⟩
  rintro rfl
  have hzero := a.noLeadingZero ha (by rw [htext]; rfl)
  rw [htext] at hzero
  exact (List.cons.inj hzero).2

/-- Two numbers: the shorter is lower, and of one length the one spelled before. -/
theorem number_lt_iff {a b : Identifier} (ha : a.Numeric) (hb : b.Numeric) :
    a.number < b.number ↔
      a.text.length < b.text.length ∨ a.text.length = b.text.length ∧ a.text < b.text := by
  obtain ⟨c, cs, hatext, hadigits, hazero⟩ := exists_digit_cons ha
  obtain ⟨d, ds, hbtext, hbdigits, hbzero⟩ := exists_digit_cons hb
  rw [number, number, hatext, hbtext, value_lt_iff hadigits hbdigits hazero hbzero,
    List.length_cons, List.length_cons, Nat.succ_lt_succ_iff, Nat.succ_inj]

/-- Identifiers whose text is in the order of their precedence: of two numbers of different
    length the shorter comes first, and a number comes before a word. -/
def SpelledInOrder (a b : Identifier) : Prop :=
  if a.Numeric then
    if b.Numeric then
      (a.text.length < b.text.length → a.text < b.text) ∧
        (b.text.length < a.text.length → b.text < a.text)
    else a.text < b.text
  else if b.Numeric then b.text < a.text
  else True

/-- **Two identifiers.**  Text orders them as precedence does exactly when they are spelled
    in order. -/
theorem alike_iff (a b : Identifier) :
    Alike (fun a b => a.text < b.text) Lower a b ↔ a.SpelledInOrder b := by
  have hasymm : ∀ {x y : List Char}, x < y → ¬ y < x := fun h => lt_asymm h
  rw [Alike, SpelledInOrder, Lower, Lower]
  by_cases ha : a.Numeric <;> by_cases hb : b.Numeric
  · -- two numbers
    rw [if_pos ha, if_pos hb, if_pos hb, if_pos ha, if_pos ha, if_pos hb, number_lt_iff ha hb,
      number_lt_iff hb ha]
    rcases Nat.lt_trichotomy a.text.length b.text.length with hlt | heq | hgt
    · rw [lt_alike_iff (Or.inl hlt) (by omega)]
      exact ⟨fun h => ⟨fun _ => h, fun h' => absurd h' (Nat.lt_asymm hlt)⟩, fun h => h.1 hlt⟩
    · refine iff_of_true ⟨?_, ?_⟩ ⟨fun h => absurd heq h.ne, fun h => absurd heq h.ne'⟩
      · exact ⟨fun h => Or.inr ⟨heq, h⟩, fun h => h.elim (fun h => absurd heq h.ne) And.right⟩
      · exact ⟨fun h => Or.inr ⟨heq.symm, h⟩, fun h => h.elim (fun h => absurd heq h.ne') And.right⟩
    · rw [and_comm, lt_alike_iff (Or.inl hgt) (by omega)]
      exact ⟨fun h => ⟨fun h' => absurd h' (Nat.lt_asymm hgt), fun _ => h⟩, fun h => h.2 hgt⟩
  · -- a number and a word
    rw [if_pos ha, if_neg hb, if_neg hb, if_pos ha, if_pos ha, if_neg hb]
    exact lt_alike_iff trivial id
  · rw [if_neg ha, if_pos hb, if_pos hb, if_neg ha, if_neg ha, if_pos hb, and_comm]
    exact lt_alike_iff trivial id
  · -- two words
    rw [if_neg ha, if_neg hb, if_neg hb, if_neg ha, if_neg ha, if_neg hb]
    exact iff_of_true ⟨Iff.rfl, Iff.rfl⟩ trivial

end Identifier

/-- The identifiers of two versions whose text is in the order of precedence. -/
def SpelledInOrder (as bs : List Identifier) : Prop :=
  AtFirstDifference Identifier.SpelledInOrder as bs

end LlmHarness.Semver
