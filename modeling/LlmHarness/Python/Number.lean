/-
  LlmHarness.Python.Number

  `int(value)` on a decoded JSON value, with the exceptions it raises.
-/

import LlmHarness.Python.Float

namespace LlmHarness.Python

/-- What `int` and `float` raise. -/
inductive NumberFault where
  | typeError
  | valueError
  | overflowError
deriving DecidableEq, Repr

/-- The white space around a number: of the ASCII characters only those of C's `isspace`. -/
def isNumberSpace (c : Char) : Bool :=
  let n := c.toNat
  (9 ≤ n && n ≤ 13) || n == 32 || (127 ≤ n && isSpace c)

/-- A text without the white space around it. -/
def stripNumber (s : Text) : Text := (s.dropWhile isNumberSpace).rdropWhile isNumberSpace

/-- Digits with single underscores between them; none where there is anything else. -/
def groupedDigits? (s : Text) : Option Text :=
  let groups := s.splitOn '_'
  if groups.all fun group => group ≠ [] && group.all isDecimal then some groups.flatten else none

/-- `int(s)` on a text. -/
def intOfText (s : Text) : Option Int := do
  let (negative, rest) := splitSign (stripNumber s)
  let digits ← groupedDigits? rest
  let value ← intOfDigits digits
  return if negative then -(value : Int) else value

/-- `int(x)` on a float: the integer part. -/
def FloatValue.toInt : FloatValue → Except NumberFault Int
  | .nan => .error .valueError
  | .infinite _ => .error .overflowError
  | .finite value => .ok (Int.sign value.num * ⌊|value|⌋)

/-- `int(value)`. -/
def intOf : Json → Except NumberFault Int
  | .null => .error .typeError
  | .bool value => .ok (if value then 1 else 0)
  | .int value => .ok value
  | .float value => value.value.toInt
  | .str text =>
    match intOfText text.toList with
    | some value => .ok value
    | none => .error .valueError
  | .arr _ => .error .typeError
  | .obj _ => .error .typeError

end LlmHarness.Python
