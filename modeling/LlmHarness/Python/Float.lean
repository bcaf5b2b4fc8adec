/-
  LlmHarness.Python.Float

  Python's `float` as IEEE binary64: a finite value is the rational number it stands
  for, `roundDouble` is rounding to the nearest one with ties to even, and a literal
  is rounded once.
-/

import Mathlib.Algebra.Order.Round
import Mathlib.Data.Int.Log
import Mathlib.Data.Rat.Floor
import LlmHarness.Python.Digits
import LlmHarness.Python.Json

namespace LlmHarness.Python

/-- The value of a `float`; the two zeros compare equal and are one value here. -/
inductive FloatValue where
  | nan
  | infinite (negative : Bool)
  | finite (value : ℚ)
deriving DecidableEq

/-- The nearest integer, the even one of two. -/
def roundHalfEven (q : ℚ) : ℤ :=
  if q - ⌊q⌋ < 1 / 2 then ⌊q⌋
  else if 1 / 2 < q - ⌊q⌋ then ⌊q⌋ + 1
  else if ⌊q⌋ % 2 = 0 then ⌊q⌋ else ⌊q⌋ + 1

/-- The exponent of the last place of a number: 53 significant bits, and no smaller than
    the subnormal one. -/
def lastPlace (q : ℚ) : ℤ := max (Int.log 2 |q| - 52) (-1074)

/-- The nearest binary64 value. -/
def roundDouble (q : ℚ) : FloatValue :=
  let rounded := roundHalfEven (q / 2 ^ lastPlace q) * (2 : ℚ) ^ lastPlace q
  if (2 : ℚ) ^ (1024 : ℤ) ≤ |rounded| then .infinite (decide (q < 0)) else .finite rounded

/-- The number that a decimal literal stands for. -/
def decimalLiteral (negative : Bool) (integer fraction : Text) (exponent : Int) : ℚ :=
  (if negative then -1 else 1) * (decimalNumber (integer ++ fraction) : ℚ) *
    (10 : ℚ) ^ (exponent - fraction.length)

/-- The sign and what follows it. -/
def splitSign : Text → Bool × Text
  | '-' :: cs => (true, cs)
  | '+' :: cs => (false, cs)
  | cs => (false, cs)

/-- The exponent of a literal's tail, zero when there is none. -/
def tailExponent (tail : Text) : Int :=
  match tail with
  | 'e' :: rest | 'E' :: rest =>
    let (negative, digits) := splitSign rest
    (if negative then -1 else 1) * (decimalNumber digits : Int)
  | _ => 0

/-- The value of a number token as a `float`. -/
def NumberToken.double (token : NumberToken) : FloatValue :=
  let fraction := (matchFraction token.tail).1.drop 1
  let exponent := tailExponent (matchFraction token.tail).2
  roundDouble (decimalLiteral token.negative token.integer fraction exponent)

/-- The value a `repr` stands for. -/
def PyFloat.value (float : PyFloat) : FloatValue :=
  match matchNumber float.repr with
  | some (token, _) => token.double
  | none =>
    if float.repr = "NaN".toList then .nan
    else .infinite (float.repr = "-Infinity".toList)

end LlmHarness.Python
