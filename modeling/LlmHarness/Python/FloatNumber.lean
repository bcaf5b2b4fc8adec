/-
  LlmHarness.Python.FloatNumber

  `float(value)` on a decoded JSON value, and the order and the arithmetic of floats.
  Integers below 2^53 are exact as floats.
-/

import Mathlib.Data.Int.Log
import Mathlib.Order.WithBot
import Mathlib.Tactic.Positivity
import LlmHarness.Python.Number

namespace LlmHarness.Python

/-! ## Literals -/

/-- A literal without its underscores, which stand between digits. -/
def dropUnderscores : Bool → Text → Option Text
  | _, [] => some []
  | afterDigit, c :: cs =>
    if c = '_' then
      if afterDigit && cs.head?.any isDecimal then dropUnderscores false cs else none
    else (dropUnderscores (isDecimal c) cs).map (c :: ·)

/-- An exponent after its letter, if it is one. -/
def literalExponent? (text : Text) : Option Int :=
  let (negative, digits) := splitSign text
  if digits ≠ [] && digits.all isDecimal then
    some ((if negative then -1 else 1) * (decimalNumber digits : Int))
  else none

/-- The exponent behind the digits of a literal, if nothing else is there. -/
def literalTail? : Text → Option Int
  | [] => some 0
  | c :: rest => if c = 'e' || c = 'E' then literalExponent? rest else none

/-- A decimal literal: digits before or after the point, and an exponent. -/
def decimalFloat? (negative : Bool) (text : Text) : Option FloatValue :=
  let integer := text.takeWhile isDecimal
  let rest := text.dropWhile isDecimal
  let fraction := if rest.head? = some '.' then (rest.drop 1).takeWhile isDecimal else []
  let tail := if rest.head? = some '.' then (rest.drop 1).dropWhile isDecimal else rest
  if integer = [] && fraction = [] then none
  else (literalTail? tail).map fun exponent =>
    roundDouble (decimalLiteral negative integer fraction exponent)

/-- `float(s)` on a text. -/
def floatOfText (s : Text) : Option FloatValue :=
  let (negative, rest) := splitSign (stripNumber s)
  let name := rest.map Char.toLower
  if name = "inf".toList || name = "infinity".toList then some (.infinite negative)
  else if name = "nan".toList then some .nan
  else (dropUnderscores false rest).bind (decimalFloat? negative)

/-- `float(i)` on an integer. -/
def floatOfInt (i : Int) : Except NumberFault FloatValue :=
  match roundDouble i with
  | .infinite _ => .error .overflowError
  | value => .ok value

/-- `float(value)`. -/
def floatOf : Json → Except NumberFault FloatValue
  | .null => .error .typeError
  | .bool value => .ok (.finite (if value then 1 else 0))
  | .int value => floatOfInt value
  | .float value => .ok value.value
  | .str text =>
    match floatOfText text.toList with
    | some value => .ok value
    | none => .error .valueError
  | .arr _ => .error .typeError
  | .obj _ => .error .typeError

/-! ## Order and arithmetic -/

/-- A float that is at least zero, in the order of floats. -/
def FloatValue.nonneg? : FloatValue → Option (WithTop ℚ)
  | .nan => none
  | .infinite negative => if negative then none else some ⊤
  | .finite value => if 0 ≤ value then some value else none

/-- `x * y`. -/
def FloatValue.mul : FloatValue → FloatValue → FloatValue
  | .nan, _ => .nan
  | _, .nan => .nan
  | .infinite s, .infinite t => .infinite (s != t)
  | .infinite s, .finite y => if y = 0 then .nan else .infinite (s != decide (y < 0))
  | .finite x, .infinite t => if x = 0 then .nan else .infinite (decide (x < 0) != t)
  | .finite x, .finite y => roundDouble (x * y)

/-- `x + y`. -/
def FloatValue.add : FloatValue → FloatValue → FloatValue
  | .nan, _ => .nan
  | _, .nan => .nan
  | .infinite s, .infinite t => if s = t then .infinite s else .nan
  | .infinite s, .finite _ => .infinite s
  | .finite _, .infinite t => .infinite t
  | .finite x, .finite y => roundDouble (x + y)

/-- `x / d` for a number that is not zero. -/
def FloatValue.divBy (d : ℚ) : FloatValue → FloatValue
  | .nan => .nan
  | .infinite s => .infinite (s != decide (d < 0))
  | .finite x => roundDouble (x / d)

/-- `round(x, digits)`. -/
def FloatValue.roundTo (digits : Nat) : FloatValue → FloatValue
  | .finite x => roundDouble (roundHalfEven (x * 10 ^ digits) / 10 ^ digits)
  | value => value

/-! ## Exact integers -/

theorem roundHalfEven_intCast (n : ℤ) : roundHalfEven n = n := by
  have hzero : (n : ℚ) - ⌊(n : ℚ)⌋ < 1 / 2 := by
    rw [Int.floor_intCast, sub_self]
    norm_num
  rw [roundHalfEven, if_pos hzero, Int.floor_intCast]

/-- An integer below 2^53 is a float. -/
theorem roundDouble_intCast {n : ℤ} (h : |n| < 2 ^ 53) : roundDouble n = .finite n := by
  have hplace : lastPlace (n : ℚ) ≤ 0 := by
    rw [lastPlace, max_le_iff]
    refine ⟨?_, by norm_num⟩
    by_cases hzero : n = 0
    · rw [hzero]
      simp
    · have hpos : (0 : ℚ) < |(n : ℚ)| := by
        rw [abs_pos]
        exact_mod_cast hzero
      have hlt : Int.log 2 |(n : ℚ)| < 53 := by
        rw [← Int.lt_zpow_iff_log_lt (by norm_num) hpos]
        exact_mod_cast h
      omega
  -- The last place is at most the unit, so the integer is a multiple of it and is not rounded.
  obtain ⟨places, hplaces⟩ := Int.exists_eq_neg_ofNat hplace
  have hscaled : (n : ℚ) / 2 ^ lastPlace (n : ℚ) = ((n * 2 ^ places : ℤ) : ℚ) := by
    rw [hplaces, zpow_neg, zpow_natCast, div_inv_eq_mul]
    push_cast
    rfl
  have hrounded : ((roundHalfEven ((n : ℚ) / 2 ^ lastPlace (n : ℚ)) : ℤ) : ℚ) * 2 ^ lastPlace (n : ℚ) = n := by
    rw [hscaled, roundHalfEven_intCast, ← hscaled]
    exact div_mul_cancel₀ _ (zpow_ne_zero _ two_ne_zero)
  -- ... and it is far below the greatest double.
  have hbound : ¬ (2 : ℚ) ^ (1024 : ℤ) ≤ |(n : ℚ)| := by
    have hsmall : |(n : ℚ)| < 2 ^ (53 : ℕ) := by exact_mod_cast h
    have hle : (2 : ℚ) ^ (53 : ℕ) ≤ 2 ^ (1024 : ℤ) := by
      rw [← zpow_natCast]
      exact zpow_le_zpow_right₀ (by norm_num) (by norm_num)
    exact not_le_of_gt (lt_of_lt_of_le hsmall hle)
  rw [roundDouble]
  simp only [hrounded]
  rw [if_neg hbound]

theorem floatOfInt_of_infinite {i : Int} {negative : Bool} (h : roundDouble i = .infinite negative) :
    floatOfInt i = .error .overflowError := by
  rw [floatOfInt, h]

theorem floatOfInt_of_finite {i : Int} {value : ℚ} (h : roundDouble i = .finite value) :
    floatOfInt i = .ok (.finite value) := by
  rw [floatOfInt, h]

/-- The powers of two below 2^1024 are floats, the others are too large. -/
theorem floatOfInt_two_pow (k : Nat) :
    floatOfInt (2 ^ k) = if k < 1024 then .ok (.finite (2 ^ k)) else .error .overflowError := by
  have hpos : (0 : ℚ) < 2 ^ k := by positivity
  have habs : |((2 ^ k : ℤ) : ℚ)| = 2 ^ (k : ℤ) := by
    push_cast
    rw [abs_of_pos hpos, zpow_natCast]
  have hplace : lastPlace ((2 ^ k : ℤ) : ℚ) = (k : ℤ) - 52 := by
    rw [lastPlace, habs, show (2 : ℚ) = ((2 : ℕ) : ℚ) by norm_num, Int.log_zpow (by norm_num)]
    omega
  -- A power of two fills its 53 places exactly, so nothing is rounded.
  have hscaled : ((2 ^ k : ℤ) : ℚ) / 2 ^ ((k : ℤ) - 52) = ((2 ^ 52 : ℤ) : ℚ) := by
    push_cast
    rw [← zpow_natCast (2 : ℚ) k, ← zpow_sub₀ (by norm_num : (2 : ℚ) ≠ 0), sub_sub_cancel]
    norm_num
  have hrounded : ((roundHalfEven (((2 ^ k : ℤ) : ℚ) / 2 ^ ((k : ℤ) - 52)) : ℤ) : ℚ) * 2 ^ ((k : ℤ) - 52)
      = 2 ^ k := by
    rw [hscaled, roundHalfEven_intCast, ← hscaled, div_mul_cancel₀ _ (zpow_ne_zero _ two_ne_zero)]
    push_cast
    rfl
  have hround : roundDouble ((2 ^ k : ℤ) : ℚ) =
      if (2 : ℚ) ^ (1024 : ℤ) ≤ |(2 : ℚ) ^ k| then .infinite (decide (((2 ^ k : ℤ) : ℚ) < 0))
      else .finite (2 ^ k) := by
    rw [roundDouble, hplace]
    simp only [hrounded]
  have hbound : (2 : ℚ) ^ (1024 : ℤ) ≤ |(2 : ℚ) ^ k| ↔ 1024 ≤ k := by
    rw [abs_of_pos hpos, ← zpow_natCast (2 : ℚ) k, zpow_le_zpow_iff_right₀ (by norm_num)]
    omega
  by_cases hk : k < 1024
  · rw [if_neg fun h => absurd (hbound.mp h) (by omega)] at hround
    rw [if_pos hk, floatOfInt_of_finite hround]
  · rw [if_pos (hbound.mpr (by omega))] at hround
    rw [if_neg hk, floatOfInt_of_infinite hround]

end LlmHarness.Python
