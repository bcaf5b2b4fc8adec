/-
  LlmHarness.Python.Json

  JSON documents as Python's `json` module writes and reads them.

  `dumps` is `json.dumps(value, ensure_ascii=False)`: only the quote, the
  backslash and U+0000..U+001F are escaped.  `loads` is `json.loads` on a
  `str`, with its accelerated scanner's grammar.  A Python `dict` is the list
  of its items in insertion order; `sortKeys` is the order `sort_keys=True`
  prints them in, and two documents are equal for Python exactly when their
  key-sorted forms are the same.

  A Python `float` is carried by its `repr`: `repr` is injective on floats and
  `float(repr(x))` is `x`, so the literal is the value.  A lone surrogate
  escape has no scalar value to stand for and is refused by `loads`.
-/

import Mathlib.Data.List.Sort
import Mathlib.Data.String.Basic
import LlmHarness.Python.Dict
import LlmHarness.Python.Str

namespace LlmHarness.Python

/-! ## Number literals -/

/-- `[0-9]`. -/
def isDigit (c : Char) : Bool := 48 ≤ c.toNat && c.toNat ≤ 57

/-- `0|[1-9][0-9]*`. -/
def matchInteger : Text → Option (Text × Text)
  | [] => none
  | c :: cs =>
    if c = '0' then some (['0'], cs)
    else if isDigit c then some (c :: cs.takeWhile isDigit, cs.dropWhile isDigit)
    else none

/-- `(\.[0-9]+)?`. -/
def matchFraction : Text → Text × Text
  | [] => ([], [])
  | c :: cs =>
    if c = '.' && (cs.takeWhile isDigit).length > 0 then
      (c :: cs.takeWhile isDigit, cs.dropWhile isDigit)
    else ([], c :: cs)

/-- `[-+]?[0-9]+`, the part of an exponent after its letter. -/
def matchExponentDigits : Text → Option (Text × Text)
  | [] => none
  | c :: cs =>
    if c = '-' || c = '+' then
      if (cs.takeWhile isDigit).length > 0 then
        some (c :: cs.takeWhile isDigit, cs.dropWhile isDigit)
      else none
    else if isDigit c then some (c :: cs.takeWhile isDigit, cs.dropWhile isDigit)
    else none

/-- `([eE][-+]?[0-9]+)?`. -/
def matchExponent : Text → Text × Text
  | [] => ([], [])
  | c :: cs =>
    if c = 'e' || c = 'E' then
      match matchExponentDigits cs with
      | some (ds, rest) => (c :: ds, rest)
      | none => ([], c :: cs)
    else ([], c :: cs)

/-- A number token: the sign, the integer digits, and the fraction and
    exponent that make it a float literal. -/
structure NumberToken where
  negative : Bool
  integer : Text
  tail : Text

/-- The characters of a number token. -/
def NumberToken.text (t : NumberToken) : Text :=
  (if t.negative then ['-'] else []) ++ t.integer ++ t.tail

/-- The scanner's number rule after an optional sign. -/
def matchUnsigned (negative : Bool) (cs : Text) : Option (NumberToken × Text) :=
  match matchInteger cs with
  | none => none
  | some (ds, r) =>
    some (⟨negative, ds, (matchFraction r).1 ++ (matchExponent (matchFraction r).2).1⟩,
      (matchExponent (matchFraction r).2).2)

/-- The scanner's number rule. -/
def matchNumber (cs : Text) : Option (NumberToken × Text) :=
  match cs with
  | [] => none
  | c :: r => if c = '-' then matchUnsigned true r else matchUnsigned false cs

/-- A text that `float.__repr__` may produce, read as JSON: a literal with a
    fraction or an exponent, or one of the three names the encoder writes. -/
def isFloatRepr (cs : Text) : Bool :=
  cs = "NaN".toList || cs = "Infinity".toList || cs = "-Infinity".toList ||
    match matchNumber cs with
    | some (t, rest) => t.tail ≠ [] && rest = []
    | none => false

/-- A Python `float`, carried by its `repr`. -/
structure PyFloat where
  repr : Text
  valid : isFloatRepr repr = true

/-! ## Documents -/

/-- A JSON document. -/
inductive Json where
  | null
  | bool (value : Bool)
  | int (value : Int)
  | float (value : PyFloat)
  | str (value : String)
  | arr (items : List Json)
  | obj (members : List (String × Json))

namespace Json

mutual
/-- The document with every dict in `sort_keys=True` order. -/
def sortKeys : Json → Json
  | .arr items => .arr (sortItems items)
  | .obj members => .obj ((sortMembers members).insertionSort fun a b => a.1 ≤ b.1)
  | j => j
def sortItems : List Json → List Json
  | [] => []
  | j :: js => sortKeys j :: sortItems js
def sortMembers : List (String × Json) → List (String × Json)
  | [] => []
  | (k, j) :: ms => (k, sortKeys j) :: sortMembers ms
end

mutual
/-- Every dict of the document has distinct keys, as a Python `dict` does. -/
def DistinctKeys : Json → Prop
  | .arr items => DistinctItems items
  | .obj members => (members.map Prod.fst).Nodup ∧ DistinctMembers members
  | _ => True
def DistinctItems : List Json → Prop
  | [] => True
  | j :: js => DistinctKeys j ∧ DistinctItems js
def DistinctMembers : List (String × Json) → Prop
  | [] => True
  | (_, j) :: ms => DistinctKeys j ∧ DistinctMembers ms
end

mutual
/-- The strings of the document, keys included. -/
def strings : Json → List String
  | .str s => [s]
  | .arr items => itemStrings items
  | .obj members => memberStrings members
  | _ => []
def itemStrings : List Json → List String
  | [] => []
  | j :: js => strings j ++ itemStrings js
def memberStrings : List (String × Json) → List String
  | [] => []
  | (k, j) :: ms => k :: strings j ++ memberStrings ms
end

end Json

/-- A JSON payload: a document whose dicts have distinct keys. -/
abbrev Payload := {j : Json // j.DistinctKeys}

/-- `==` of Python on documents: dicts are compared without their order. -/
def PyEq (a b : Json) : Prop := a.sortKeys = b.sortKeys

/-! ## Encoding -/

/-- A lower-case hexadecimal digit. -/
def hexDigit (n : Nat) : Char := Char.ofNat (if n < 10 then 48 + n else 87 + n)

/-- `ESCAPE_DCT` of `json.encoder`, the identity elsewhere. -/
def escapeChar (c : Char) : Text :=
  if c = '"' then ['\\', '"']
  else if c = '\\' then ['\\', '\\']
  else if c = '\n' then ['\\', 'n']
  else if c = '\r' then ['\\', 'r']
  else if c = '\t' then ['\\', 't']
  else if c.toNat = 0x0C then ['\\', 'f']
  else if c.toNat = 0x08 then ['\\', 'b']
  else if c.toNat < 0x20 then
    ['\\', 'u', '0', '0', hexDigit (c.toNat / 16), hexDigit (c.toNat % 16)]
  else [c]

/-- The characters between the quotes of an encoded string. -/
def escape (cs : Text) : Text := cs.flatMap escapeChar

/-- `encode_basestring`. -/
def dumpsString (s : String) : Text := '"' :: escape s.toList ++ ['"']

/-- `int.__repr__`. -/
def dumpsInt (i : Int) : Text :=
  if i < 0 then '-' :: Nat.toDigits 10 i.natAbs else Nat.toDigits 10 i.natAbs

namespace Json

mutual
/-- `json.dumps(value, ensure_ascii=False)` with the default separators. -/
def dumps : Json → Text
  | .null => "null".toList
  | .bool b => if b then "true".toList else "false".toList
  | .int i => dumpsInt i
  | .float f => f.repr
  | .str s => dumpsString s
  | .arr items => '[' :: dumpsItems items ++ [']']
  | .obj members => '{' :: dumpsMembers members ++ ['}']
def dumpsItems : List Json → Text
  | [] => []
  | [j] => dumps j
  | j :: j' :: js => dumps j ++ ',' :: ' ' :: dumpsItems (j' :: js)
def dumpsMembers : List (String × Json) → Text
  | [] => []
  | [(k, j)] => dumpsString k ++ ':' :: ' ' :: dumps j
  | (k, j) :: m :: ms =>
    dumpsString k ++ ':' :: ' ' :: (dumps j ++ ',' :: ' ' :: dumpsMembers (m :: ms))
end

mutual
/-- `json.dumps` with `gap` after each comma and colon. -/
def dumpsWith (gap : Text) : Json → Text
  | .null => "null".toList
  | .bool b => if b then "true".toList else "false".toList
  | .int i => dumpsInt i
  | .float f => f.repr
  | .str s => dumpsString s
  | .arr items => '[' :: dumpsItemsWith gap items ++ [']']
  | .obj members => '{' :: dumpsMembersWith gap members ++ ['}']
def dumpsItemsWith (gap : Text) : List Json → Text
  | [] => []
  | [j] => dumpsWith gap j
  | j :: j' :: js => dumpsWith gap j ++ ',' :: (gap ++ dumpsItemsWith gap (j' :: js))
def dumpsMembersWith (gap : Text) : List (String × Json) → Text
  | [] => []
  | [(k, j)] => dumpsString k ++ ':' :: (gap ++ dumpsWith gap j)
  | (k, j) :: m :: ms =>
    dumpsString k ++ ':' :: (gap ++ (dumpsWith gap j ++ ',' :: (gap ++ dumpsMembersWith gap (m :: ms))))
end

end Json

/-- The white space between the tokens of a printed document, by the depth of the container. -/
structure Layout where
  comma : Nat → Text
  colon : Text
  opening : Nat → Text
  closing : Nat → Text

namespace Json

mutual
/-- The document printed in a layout; an empty container has no white space in it. -/
def dumpsLaid (layout : Layout) (depth : Nat) : Json → Text
  | .null => "null".toList
  | .bool b => if b then "true".toList else "false".toList
  | .int i => dumpsInt i
  | .float f => f.repr
  | .str s => dumpsString s
  | .arr items =>
    '[' :: if items.isEmpty then [']'] else
      layout.opening depth ++ (dumpsItemsLaid layout depth items ++ (layout.closing depth ++ [']']))
  | .obj members =>
    '{' :: if members.isEmpty then ['}'] else
      layout.opening depth ++ (dumpsMembersLaid layout depth members ++ (layout.closing depth ++ ['}']))
def dumpsItemsLaid (layout : Layout) (depth : Nat) : List Json → Text
  | [] => []
  | [j] => dumpsLaid layout (depth + 1) j
  | j :: j' :: js => dumpsLaid layout (depth + 1) j ++
      ',' :: (layout.comma depth ++ dumpsItemsLaid layout depth (j' :: js))
def dumpsMembersLaid (layout : Layout) (depth : Nat) : List (String × Json) → Text
  | [] => []
  | [(k, j)] => dumpsString k ++ ':' :: (layout.colon ++ dumpsLaid layout (depth + 1) j)
  | (k, j) :: m :: ms => dumpsString k ++
      ':' :: (layout.colon ++ (dumpsLaid layout (depth + 1) j ++
        ',' :: (layout.comma depth ++ dumpsMembersLaid layout depth (m :: ms))))
end

end Json

/-- A new line, indented by two spaces for each level. -/
def newLine (depth : Nat) : Text := '\n' :: List.replicate (2 * depth) ' '

/-- The layout of `indent=2`. -/
def indentLayout : Layout where
  comma depth := newLine (depth + 1)
  colon := [' ']
  opening depth := newLine (depth + 1)
  closing depth := newLine depth

/-- `json.dumps(value, indent=2, ensure_ascii=False)`. -/
def Json.dumpsIndent (j : Json) : Text := j.dumpsLaid indentLayout 0

/-! ## Decoding -/

/-- The decoder's white space: `[ \t\n\r]*`. -/
def isJsonSpace (c : Char) : Bool := c = ' ' || c = '\t' || c = '\n' || c = '\r'

/-- `WHITESPACE.match(s, idx).end()`. -/
def skipSpace (cs : Text) : Text := cs.dropWhile isJsonSpace

/-- The value of a hexadecimal digit. -/
def hexValue (c : Char) : Option Nat :=
  let n := c.toNat
  if 48 ≤ n && n ≤ 57 then some (n - 48)
  else if 97 ≤ n && n ≤ 102 then some (n - 87)
  else if 65 ≤ n && n ≤ 70 then some (n - 55)
  else none

/-- The code unit of four hexadecimal digits. -/
def hexUnit (a b c d : Char) : Option Nat :=
  match hexValue a, hexValue b, hexValue c, hexValue d with
  | some a, some b, some c, some d => some (((a * 16 + b) * 16 + c) * 16 + d)
  | _, _, _, _ => none

/-- The one-character escapes of `BACKSLASH`. -/
def simpleEscape (c : Char) : Option Char :=
  if c = '"' then some '"'
  else if c = '\\' then some '\\'
  else if c = '/' then some '/'
  else if c = 'b' then some (Char.ofNat 0x08)
  else if c = 'f' then some (Char.ofNat 0x0C)
  else if c = 'n' then some '\n'
  else if c = 'r' then some '\r'
  else if c = 't' then some '\t'
  else none

/-- The scalar value of a surrogate pair, when the two units form one. -/
def surrogatePair (hi lo : Nat) : Option Char :=
  if 0xD800 ≤ hi && hi ≤ 0xDBFF && 0xDC00 ≤ lo && lo ≤ 0xDFFF then
    some (Char.ofNat (0x10000 + (hi - 0xD800) * 1024 + (lo - 0xDC00)))
  else none

/-- The scalar value of a single unit. -/
def scalarUnit (u : Nat) : Option Char :=
  if 0xD800 ≤ u && u ≤ 0xDFFF then none else some (Char.ofNat u)

/-- `scanstring(s, end, strict=True)`: the string after its opening quote. -/
def scanString : Text → Option (Text × Text)
  | [] => none
  | c :: cs =>
    if c = '"' then some ([], cs)
    else if c = '\\' then
      match cs with
      | 'u' :: a :: b :: c :: d :: rest =>
        match hexUnit a b c d with
        | none => none
        | some u =>
          match scalarUnit u with
          | some x => (scanString rest).map fun (s, r) => (x :: s, r)
          | none =>
            match rest with
            | '\\' :: 'u' :: e :: f :: g :: h :: rest' =>
              match (hexUnit e f g h).bind (surrogatePair u) with
              | some x => (scanString rest').map fun (s, r) => (x :: s, r)
              | none => none
            | _ => none
      | e :: rest =>
        match simpleEscape e with
        | some x => (scanString rest).map fun (s, r) => (x :: s, r)
        | none => none
      | [] => none
    else if c.toNat < 0x20 then none
    else (scanString cs).map fun (s, r) => (c :: s, r)

/-- `_match_number_unicode`: the value of a number token. -/
def NumberToken.value (t : NumberToken) : Option Json :=
  if t.tail = [] then
    some (.int (if t.negative then -(Nat.ofDigitChars 10 t.integer 0 : Int)
      else (Nat.ofDigitChars 10 t.integer 0 : Int)))
  else if h : isFloatRepr t.text then some (.float ⟨t.text, h⟩)
  else none

mutual
/-- `scan_once`: one document at the front of the text. -/
def scanOnce : Nat → Text → Option (Json × Text)
  | 0, _ => none
  | n + 1, cs =>
    match cs with
    | '"' :: r => (scanString r).map fun (s, r) => (.str (String.ofList s), r)
    | '{' :: r =>
      match skipSpace r with
      | '}' :: r => some (.obj [], r)
      | r => (scanMembers n r).map fun (ms, r) => (.obj (dictOfPairs ms), r)
    | '[' :: r =>
      match skipSpace r with
      | ']' :: r => some (.arr [], r)
      | r => (scanItems n r).map fun (js, r) => (.arr js, r)
    | 'n' :: 'u' :: 'l' :: 'l' :: r => some (.null, r)
    | 't' :: 'r' :: 'u' :: 'e' :: r => some (.bool true, r)
    | 'f' :: 'a' :: 'l' :: 's' :: 'e' :: r => some (.bool false, r)
    | 'N' :: 'a' :: 'N' :: r => some (.float ⟨"NaN".toList, by decide⟩, r)
    | 'I' :: 'n' :: 'f' :: 'i' :: 'n' :: 'i' :: 't' :: 'y' :: r =>
      some (.float ⟨"Infinity".toList, by decide⟩, r)
    | '-' :: 'I' :: 'n' :: 'f' :: 'i' :: 'n' :: 'i' :: 't' :: 'y' :: r =>
      some (.float ⟨"-Infinity".toList, by decide⟩, r)
    | cs =>
      match matchNumber cs with
      | some (t, r) => t.value.map fun j => (j, r)
      | none => none
/-- The items of an array, up to its closing bracket. -/
def scanItems : Nat → Text → Option (List Json × Text)
  | 0, _ => none
  | n + 1, cs =>
    match scanOnce n cs with
    | none => none
    | some (j, r) =>
      match skipSpace r with
      | ']' :: r => some ([j], r)
      | ',' :: r => (scanItems n (skipSpace r)).map fun (js, r) => (j :: js, r)
      | _ => none
/-- The pairs of an object, up to its closing brace. -/
def scanMembers : Nat → Text → Option (List (String × Json) × Text)
  | 0, _ => none
  | n + 1, cs =>
    match cs with
    | '"' :: r =>
      match scanString r with
      | none => none
      | some (k, r) =>
        match skipSpace r with
        | ':' :: r =>
          match scanOnce n (skipSpace r) with
          | none => none
          | some (j, r) =>
            match skipSpace r with
            | '}' :: r => some ([(String.ofList k, j)], r)
            | ',' :: r =>
              (scanMembers n (skipSpace r)).map fun (ms, r) => ((String.ofList k, j) :: ms, r)
            | _ => none
        | _ => none
    | _ => none
end

/-- `json.loads` of a `str`; `none` stands for `JSONDecodeError`.  Two steps of
    fuel for each character are more than any document in it takes. -/
def loads (cs : Text) : Option Json :=
  match scanOnce (2 * cs.length + 1) (skipSpace cs) with
  | some (j, r) => if skipSpace r = [] then some j else none
  | none => none

end LlmHarness.Python
