/-
  LlmHarness.Python.Digits

  Digits of `str.isdecimal` and `str.isdigit`, and `int` on a text of digits with
  CPython's limit on its length.
-/

import Mathlib.Data.List.Basic
import LlmHarness.Python.Str

namespace LlmHarness

open Python

/-- The code points of the zeros of Unicode's decimal digits (`\d`). -/
def decimalZeros : List Nat :=
  [0x30, 0x660, 0x6f0, 0x7c0, 0x966, 0x9e6, 0xa66, 0xae6, 0xb66, 0xbe6, 0xc66, 0xce6, 0xd66,
    0xde6, 0xe50, 0xed0, 0xf20, 0x1040, 0x1090, 0x17e0, 0x1810, 0x1946, 0x19d0, 0x1a80, 0x1a90,
    0x1b50, 0x1bb0, 0x1c40, 0x1c50, 0xa620, 0xa8d0, 0xa900, 0xa9d0, 0xa9f0, 0xaa50, 0xabf0,
    0xff10, 0x104a0, 0x10d30, 0x11066, 0x110f0, 0x11136, 0x111d0, 0x112f0, 0x11450, 0x114d0,
    0x11650, 0x116c0, 0x11730, 0x118e0, 0x11950, 0x11c50, 0x11d50, 0x11da0, 0x16a60, 0x16ac0,
    0x16b50, 0x1d7ce, 0x1d7d8, 0x1d7e2, 0x1d7ec, 0x1d7f6, 0x1e140, 0x1e2f0, 0x1e950, 0x1fbf0]

/-- The value of a decimal digit. -/
def decimalValue? (c : Char) : Option Nat :=
  (decimalZeros.find? fun first => first ≤ c.toNat && c.toNat < first + 10).map fun first =>
    c.toNat - first

/-- `\d`. -/
def isDecimal (c : Char) : Bool := (decimalValue? c).isSome

/-- `int(digits)`. -/
def decimalNumber (digits : Text) : Nat :=
  digits.foldl (fun value c => 10 * value + (decimalValue? c).getD 0) 0

/-- The characters of `str.isdigit` that are no decimal digits: superscripts and the like. -/
def otherDigitRanges : List (Nat × Nat) :=
  [(0xb2, 0xb3), (0xb9, 0xb9), (0x1369, 0x1371), (0x19da, 0x19da), (0x2070, 0x2070),
    (0x2074, 0x2079), (0x2080, 0x2089), (0x2460, 0x2468), (0x2474, 0x247c), (0x2488, 0x2490),
    (0x24ea, 0x24ea), (0x24f5, 0x24fd), (0x24ff, 0x24ff), (0x2776, 0x277e), (0x2780, 0x2788),
    (0x278a, 0x2792), (0x10a40, 0x10a43), (0x10e60, 0x10e68), (0x11052, 0x1105a),
    (0x1f100, 0x1f10a)]

/-- `str.isdigit` on one character. -/
def isDigitChar (c : Char) : Bool :=
  isDecimal c || otherDigitRanges.any fun (low, high) => low ≤ c.toNat && c.toNat ≤ high

/-- `s.isdigit()`. -/
def isDigitText (s : Text) : Bool := s ≠ [] && s.all isDigitChar

/-- `sys.int_info.default_max_str_digits`. -/
def maxStrDigits : Nat := 4300

/-- `int(s)` of a text of digits, none for the `ValueError`. -/
def intOfDigits (s : Text) : Option Nat :=
  if s.all isDecimal && s.length ≤ maxStrDigits then some (decimalNumber s) else none

/-- An integer that `str` writes. -/
def isWritableInt (value : Int) : Bool := (Nat.toDigits 10 value.natAbs).length ≤ maxStrDigits

/-! ## Decimal numerals -/

theorem decimalValue?_of_isDigit {c : Char} (h : c.isDigit) :
    decimalValue? c = some (c.toNat - '0'.toNat) := by
  obtain ⟨hlow, hhigh⟩ := Char.isDigit_iff_toNat.mp h
  have hlow' : 0x30 ≤ c.toNat := hlow
  have hhigh' : c.toNat < 0x30 + 10 := Nat.lt_succ_of_le hhigh
  rw [decimalValue?, decimalZeros, List.find?_cons_of_pos (by simp [hlow', hhigh'])]
  rfl

theorem decimalNumber_toDigits (n : Nat) : decimalNumber (Nat.toDigits 10 n) = n := by
  have hdigits : ∀ c ∈ Nat.toDigits 10 n, c.isDigit := fun c hc =>
    Nat.isDigit_of_mem_toDigits (by decide) (by decide) hc
  have hfold : ∀ (cs : Text) (value : Nat), (∀ c ∈ cs, c.isDigit) →
      cs.foldl (fun value c => 10 * value + (decimalValue? c).getD 0) value =
        Nat.ofDigitChars 10 cs value := by
    intro cs
    induction cs with
    | nil => exact fun value _ => Nat.ofDigitChars_nil.symm
    | cons c cs ih =>
        intro value hcs
        rw [List.foldl_cons, decimalValue?_of_isDigit (hcs c List.mem_cons_self),
          Option.getD_some, ih _ fun d hd => hcs d (List.mem_cons_of_mem _ hd),
          Nat.ofDigitChars_cons]
  rw [decimalNumber, hfold _ 0 hdigits, Nat.ofDigitChars_ten_toDigits]

theorem isDecimal_of_isDigit {c : Char} (h : c.isDigit) : isDecimal c := by
  rw [isDecimal, decimalValue?_of_isDigit h]
  rfl

theorem isDecimal_of_mem_toDigits {n : Nat} {c : Char} (h : c ∈ Nat.toDigits 10 n) : isDecimal c :=
  isDecimal_of_isDigit (Nat.isDigit_of_mem_toDigits (by decide) (by decide) h)

/-- The digits of a number are read back, up to the limit. -/
theorem intOfDigits_toDigits (n : Nat) :
    intOfDigits (Nat.toDigits 10 n) =
      if (Nat.toDigits 10 n).length ≤ maxStrDigits then some n else none := by
  have hall : (Nat.toDigits 10 n).all isDecimal :=
    List.all_eq_true.mpr fun c hc => isDecimal_of_mem_toDigits hc
  rw [intOfDigits, hall, Bool.true_and, decimalNumber_toDigits]
  simp only [decide_eq_true_eq]

theorem isDigitText_toDigits (n : Nat) : isDigitText (Nat.toDigits 10 n) := by
  have hall : (Nat.toDigits 10 n).all isDigitChar := List.all_eq_true.mpr fun c hc => by
    rw [isDigitChar, isDecimal_of_mem_toDigits hc, Bool.true_or]
  rw [isDigitText, hall, Bool.and_true]
  exact decide_eq_true Nat.toDigits_ne_nil

end LlmHarness
