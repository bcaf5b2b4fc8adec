/-
  LlmHarness.Lifecycle.Fields

  The field readers that `lifecycle.py` and `tasks.py` write alike: a required
  text, a list of texts, an integer.  They differ in the words of their messages
  and in the exception they raise.  Every text they return is stripped, and a
  stripped text is read back as it is.
-/

import LlmHarness.Lib.Guards
import LlmHarness.Python.Strip
import LlmHarness.Python.Value

namespace LlmHarness.Lifecycle

open Python Guards

/-- A text that `str.strip` does not empty. -/
abbrev NonBlank := {text : String // isBlank text.toList = false}

theorem isBlank_strip (cs : Text) : isBlank (strip cs) = isBlank cs := by
  rw [Bool.eq_iff_iff, ← strip_eq_nil_iff, ← strip_eq_nil_iff, strip_strip]

/-- `value.strip()`. -/
def stripText (text : String) : String := String.ofList (strip text.toList)

theorem stripText_stripText (text : String) : stripText (stripText text) = stripText text := by
  rw [stripText, stripText, String.toList_ofList, strip_strip]

/-- `value.strip()` of a value that is a text and not blank. -/
def strippedText? : Json → Option NonBlank
  | .str text =>
    if h : isBlank text.toList then none
    else some ⟨stripText text, by simpa [stripText, isBlank_strip] using h⟩
  | _ => none

/-- A text the readers return as it stands. -/
def Clean (text : String) : Prop := ∃ h, strippedText? (.str text) = some ⟨text, h⟩

/-- Whose fields are read: the subject of its messages and the class of its errors. -/
structure Owner (ε : Type) where
  subject : String
  error : String → ε

variable {ε : Type} (owner : Owner ε)

/-- The error about a field. -/
def Owner.fieldError (key rule : String) : ε :=
  owner.error (owner.subject ++ " field '" ++ key ++ "' must " ++ rule ++ ".")

variable (data : List (String × Json)) (key : String)

/-- `_required_string`. -/
def requiredString : Except ε String :=
  match strippedText? (field data key) with
  | some text => .ok text.val
  | none => .error (owner.fieldError key "be a non-empty string")

/-- One item of a list of texts. -/
def stringItem (item : Json) : Except ε String :=
  match strippedText? item with
  | some text => .ok text.val
  | none => .error (owner.fieldError key "be a list of non-empty strings")

/-- `_optional_string_tuple`: an absent field and `null` are the empty list. -/
def optionalStringTuple : Except ε (List String) :=
  match field data key with
  | .null => .ok []
  | .arr items => items.mapM (stringItem owner key)
  | _ => .error (owner.fieldError key "be a list of strings")

/-- `_required_string_tuple`. -/
def requiredStringTuple : Except ε (List String) := do
  let values ← optionalStringTuple owner data key
  if values = [] then .error (owner.fieldError key "contain at least one item") else return values

/-- `_optional_integer`; a bool is none. -/
def optionalInteger : Except ε Int :=
  match (dictGet? data key).getD (.int 0) with
  | .int value => .ok value
  | _ => .error (owner.fieldError key "be an integer")

/-- `_optional_mapping_string`. -/
def optionalMappingString : Except ε (Option String) :=
  match field data key with
  | .null => .ok none
  | value =>
    match strippedText? value with
    | some text => .ok (some text.val)
    | none => .error (owner.fieldError key "be null or a non-empty string")

variable {owner data key}

/-! ## What is read is clean -/

theorem clean_of_strippedText? {value : Json} {text : NonBlank}
    (h : strippedText? value = some text) : Clean text.val := by
  cases value with
  | str original =>
      rw [strippedText?] at h
      split at h
      · cases h
      · obtain rfl := Option.some.inj h
        have hkept : isBlank (stripText original).toList = false := by
          rw [stripText, String.toList_ofList, isBlank_strip]
          simpa using ‹¬ isBlank original.toList = true›
        refine ⟨hkept, ?_⟩
        simp [strippedText?, hkept, stripText_stripText]
  | null | bool | int | float | arr | obj => cases h

theorem clean_of_requiredString {text : String} (h : requiredString owner data key = .ok text) :
    Clean text := by
  rw [requiredString] at h
  cases hvalue : strippedText? (field data key) with
  | none => rw [hvalue] at h; cases h
  | some read =>
      rw [hvalue] at h
      obtain rfl := Except.ok.inj h
      exact clean_of_strippedText? hvalue

theorem clean_of_stringItem {item : Json} {text : String} (h : stringItem owner key item = .ok text) :
    Clean text := by
  rw [stringItem] at h
  cases hvalue : strippedText? item with
  | none => rw [hvalue] at h; cases h
  | some read =>
      rw [hvalue] at h
      obtain rfl := Except.ok.inj h
      exact clean_of_strippedText? hvalue

theorem clean_of_optionalStringTuple {texts : List String}
    (h : optionalStringTuple owner data key = .ok texts) : ∀ text ∈ texts, Clean text := by
  rw [optionalStringTuple] at h
  split at h
  · obtain rfl := Except.ok.inj h
    simp
  · intro text htext
    obtain ⟨item, hitem⟩ := exists_of_forall₂ (mapM_eq_ok.mp h) htext
    exact clean_of_stringItem hitem
  · cases h

theorem requiredStringTuple_ok {texts : List String}
    (h : requiredStringTuple owner data key = .ok texts) :
    texts ≠ [] ∧ ∀ text ∈ texts, Clean text := by
  obtain ⟨values, hvalues, hrest⟩ := bind_eq_ok.mp h
  by_cases hempty : values = []
  · rw [if_pos hempty] at hrest
    cases hrest
  · rw [if_neg hempty] at hrest
    obtain rfl := pure_eq_ok.mp hrest
    exact ⟨hempty, clean_of_optionalStringTuple hvalues⟩

theorem clean_of_stripText {text : String} (hblank : isBlank text.toList = false)
    (h : stripText text = text) : Clean text := by
  refine ⟨hblank, ?_⟩
  rw [strippedText?, dif_neg (by simp [hblank])]
  exact congrArg some (Subtype.ext h)

/-! ## A clean text is read back -/

theorem requiredString_of_clean {text : String} (hfield : field data key = .str text)
    (h : Clean text) : requiredString owner data key = .ok text := by
  obtain ⟨hblank, hread⟩ := h
  rw [requiredString, hfield, hread]

theorem optionalStringTuple_of_clean {texts : List String}
    (hfield : field data key = .arr (texts.map Json.str)) (h : ∀ text ∈ texts, Clean text) :
    optionalStringTuple owner data key = .ok texts := by
  rw [optionalStringTuple, hfield]
  show (texts.map Json.str).mapM (stringItem owner key) = .ok texts
  rw [mapM_eq_ok, List.forall₂_map_left_iff, List.forall₂_same]
  intro text htext
  obtain ⟨hblank, hread⟩ := h text htext
  rw [stringItem, hread]

theorem requiredStringTuple_of_clean {texts : List String}
    (hfield : field data key = .arr (texts.map Json.str)) (hne : texts ≠ [])
    (h : ∀ text ∈ texts, Clean text) : requiredStringTuple owner data key = .ok texts := by
  rw [requiredStringTuple, optionalStringTuple_of_clean hfield h, bind_eq_ok]
  exact ⟨texts, rfl, by rw [if_neg hne]; rfl⟩

end LlmHarness.Lifecycle
