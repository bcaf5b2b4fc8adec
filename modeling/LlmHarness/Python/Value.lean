/-
  LlmHarness.Python.Value

  Python's view of a decoded JSON value: `dict.get`, `bool(value)`, `or` and `str`,
  and a list of strings as a value.
-/

import LlmHarness.Python.Repr

namespace LlmHarness.Python

/-- `str(value)`; a list or a dict is printed as its `repr`. -/
def pyStr : Json → String
  | .null => "None"
  | .bool true => "True"
  | .bool false => "False"
  | .int value => String.ofList (dumpsInt value)
  | .float value => String.ofList value.repr
  | .str text => text
  | other => String.ofList (reprJson other)

/-- `bool(value)`. -/
def isTruthy : Json → Bool
  | .null => false
  | .bool value => value
  | .int value => value ≠ 0
  | .float value => value.repr ≠ "0.0".toList && value.repr ≠ "-0.0".toList
  | .str text => text ≠ ""
  | .arr items => !items.isEmpty
  | .obj members => !members.isEmpty

/-- `value is None`. -/
def isNull : Json → Bool
  | .null => true
  | _ => false

/-- `a or b`. -/
def pyOr (a b : Json) : Json := if isTruthy a then a else b

/-- `payload.get(name)`. -/
def field (payload : List (String × Json)) (name : String) : Json :=
  (dictGet? payload name).getD .null

/-- A value or `None`. -/
def optionJson {α : Type} (json : α → Json) : Option α → Json
  | none => .null
  | some a => json a

/-- A list of strings. -/
def textList (texts : List String) : Json := .arr (texts.map Json.str)

/-- The items of an array have distinct keys one by one. -/
theorem distinctItems_iff (items : List Json) :
    Json.DistinctItems items ↔ ∀ item ∈ items, item.DistinctKeys := by
  induction items with
  | nil => simp [Json.DistinctItems]
  | cons item items ih => simp [Json.DistinctItems, ih]

/-- The items have distinct keys where each value's own document has. -/
theorem distinctItems_map {α : Type} {json : α → Json} (h : ∀ a, (json a).DistinctKeys)
    (items : List α) : Json.DistinctItems (items.map json) :=
  (distinctItems_iff _).mpr fun item hitem => by
    obtain ⟨a, -, rfl⟩ := List.mem_map.mp hitem
    exact h a

/-- A list of strings has no keys. -/
theorem distinctKeys_textList (texts : List String) : (textList texts).DistinctKeys :=
  distinctItems_map (fun text => show (Json.str text).DistinctKeys from trivial) texts

/-- An optional value has distinct keys if the value has. -/
theorem distinctKeys_optionJson {α : Type} {json : α → Json} (h : ∀ a, (json a).DistinctKeys)
    (value : Option α) : (optionJson json value).DistinctKeys := by
  cases value with
  | none => trivial
  | some a => exact h a

/-- A text or `null` has no keys. -/
theorem distinctKeys_optionText (text : Option String) : (optionJson Json.str text).DistinctKeys :=
  distinctKeys_optionJson (fun value => show (Json.str value).DistinctKeys from trivial) text

end LlmHarness.Python
