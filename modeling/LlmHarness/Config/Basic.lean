/-
  LlmHarness.Config.Basic

  What the configuration's constructors share: the exceptions they raise, the checks of
  optional texts, names and URLs, and the parts of the Python runtime they call.
-/

import LlmHarness.Lib.Guards
import LlmHarness.Python.FloatNumber
import LlmHarness.Python.Normal

namespace LlmHarness.Config

open Python Guards

/-! ## Exceptions -/

/-- What the constructors and the loaders raise. -/
inductive ConfigError where
  | valueError (message : String)
  | keyError (key : String)
  | typeError
  | attributeError
  -- of `int(value)` and `float(value)`
  | number (fault : NumberFault)
  | jsonDecodeError
  | tomlDecodeError
  -- no exception: the field would hold a value of another type than it declares
  | undeclared
deriving DecidableEq

/-- `if cond: raise ValueError(message)`. -/
def refuse (cond : Bool) (message : String) : Except ConfigError Unit :=
  if cond then .error (.valueError message) else .ok ()

theorem refuse_eq_ok {cond : Bool} {message : String} :
    refuse cond message = .ok () ↔ cond = false := by
  cases cond <;> simp [refuse]

/-! ## Floats -/

theorem isFloatRepr_of_eval : true = true := rfl

/-- A float written in the source; that its text is the text of a float is evaluated. -/
def floatLiteral (text : String) (h : isFloatRepr text.toList = true := by exact isFloatRepr_of_eval) :
    PyFloat :=
  ⟨text.toList, h⟩

/-- `value <= 0` of a float. -/
def isAtMostZero (float : PyFloat) : Bool :=
  match float.value with
  | .nan => false
  | .infinite negative => negative
  | .finite value => decide (value ≤ 0)

/-- `value < 0` of a float. -/
def isNegative (float : PyFloat) : Bool :=
  match float.value with
  | .nan => false
  | .infinite negative => negative
  | .finite value => decide (value < 0)

/-- `value != value`. -/
def isNan (float : PyFloat) : Bool := float.value = .nan

/-- `a == b` of floats. -/
instance : BEq PyFloat := ⟨fun a b => !isNan a && a.value = b.value⟩

@[simp] theorem float_beq_self (float : PyFloat) : (float == float) = !isNan float := by
  show (!isNan float && decide (float.value = float.value)) = !isNan float
  rw [decide_eq_true rfl, Bool.and_true]

/-! ## The runtime -/

/-- The fields of `urlparse(url)` that the configuration reads. -/
structure ParsedUrl where
  scheme : String
  hostname : Option String := none
  username : Option String := none
  password : Option String := none

/-- What the configuration calls of the Python runtime: `urlparse`, with the message of the
    `ValueError` it may raise, `str.isalnum`, the `repr` of a float, `tomllib.loads`, and whether
    `os.name` is `"nt"`. -/
class Runtime where
  urlparse : String → Except String ParsedUrl
  isAlnum : Char → Bool
  floatRepr : FloatValue → PyFloat
  tomlLoads : Text → Option Json
  onWindows : Bool

/-- A runtime for settings that hold no URL. -/
@[reducible] def quietRuntime : Runtime where
  urlparse _ := .ok { scheme := "" }
  isAlnum c := c.isAlphanum
  floatRepr _ := floatLiteral "0.0"
  tomlLoads _ := none
  onWindows := false

/-- `not value` of an optional text. -/
def isAbsent (value : Option String) : Bool := value = none || value = some ""

/-- `parsed.hostname.casefold() in {"localhost", "127.0.0.1", "::1"}`. -/
def ParsedUrl.isLoopback (parsed : ParsedUrl) : Bool :=
  ["localhost", "127.0.0.1", "::1"].contains (folded (parsed.hostname.getD ""))

/-- Neither `http` nor `https`, or without a host. -/
def ParsedUrl.isRelative (parsed : ParsedUrl) : Bool :=
  !(["http", "https"].contains parsed.scheme) || isAbsent parsed.hostname

/-- A user name or a password. -/
def ParsedUrl.hasCredentials (parsed : ParsedUrl) : Bool :=
  !isAbsent parsed.username || !isAbsent parsed.password

/-- `(value or "").strip() or None`. -/
def textOrNone : Option String → Option String
  | none => none
  | some text => if stripped text = "" then none else some (stripped text)

@[simp] theorem textOrNone_textOrNone (value : Option String) :
    textOrNone (textOrNone value) = textOrNone value := by
  cases value with
  | none => rfl
  | some text =>
      by_cases h : stripped text = ""
      · rw [textOrNone, if_pos h, textOrNone]
      · rw [textOrNone, if_neg h, textOrNone, stripped_stripped, if_neg h]

/-- `tuple(dict.fromkeys(item.strip().casefold() for item in items))`. -/
def distinctNormalized (items : List String) : List String := (items.map normalized).eraseDups

@[simp] theorem distinctNormalized_distinctNormalized (items : List String) :
    distinctNormalized (distinctNormalized items) = distinctNormalized items :=
  eraseDups_map_eraseDups normalized_normalized items

/-- `tuple(dict.fromkeys(item.strip() for item in items if item.strip()))`. -/
def distinctStripped (items : List String) : List String :=
  ((items.map stripped).filter (· ≠ "")).eraseDups

@[simp] theorem distinctStripped_distinctStripped (items : List String) :
    distinctStripped (distinctStripped items) = distinctStripped items := by
  have hitem : ∀ item ∈ distinctStripped items, stripped item = item ∧ item ≠ "" := by
    intro item hmem
    obtain ⟨hmap, hne⟩ := List.mem_filter.mp (List.mem_eraseDups.mp hmem)
    obtain ⟨source, -, rfl⟩ := List.mem_map.mp hmap
    exact ⟨stripped_stripped source, of_decide_eq_true hne⟩
  have hmap : (distinctStripped items).map stripped = distinctStripped items :=
    (List.map_congr_left fun item hmem => (hitem item hmem).1).trans (List.map_id _)
  have hfilter : ((distinctStripped items).filter (· ≠ "")) = distinctStripped items :=
    List.filter_eq_self.mpr fun item hmem => decide_eq_true (hitem item hmem).2
  rw [distinctStripped, hmap, hfilter]
  exact eraseDups_of_nodup (nodup_eraseDups _)

section

variable [Runtime]

/-- `urlparse(url)`. -/
def urlparse (url : String) : Except ConfigError ParsedUrl :=
  (Runtime.urlparse url).mapError .valueError

/-- `_optional_url`. -/
def optionalUrl (value : Option String) (label : String) : Except ConfigError (Option String) :=
  match textOrNone value with
  | none => .ok none
  | some url => do
    let parsed ← urlparse url
    refuse (parsed.isRelative || parsed.hasCredentials)
      (label ++ " must be an absolute HTTP(S) URL without credentials.")
    refuse (parsed.scheme == "http" && !parsed.isLoopback)
      (label ++ " requires HTTPS except on loopback.")
    return some url

/-- A URL that was accepted is accepted again as it is. -/
theorem optionalUrl_again {value url : Option String} {label : String}
    (h : optionalUrl value label = .ok url) : optionalUrl url label = .ok url := by
  have hurl : url = textOrNone value := by
    rw [optionalUrl] at h
    cases hvalue : textOrNone value with
    | none =>
        rw [hvalue] at h
        exact (Except.ok.inj h).symm
    | some text =>
        rw [hvalue] at h
        simp only [bind_eq_ok] at h
        obtain ⟨parsed, -, _, -, _, -, hreturn⟩ := h
        exact (Except.ok.inj hreturn).symm
  have hsame : optionalUrl url label = optionalUrl value label := by
    rw [hurl, optionalUrl, textOrNone_textOrNone, optionalUrl]
  rw [hsame, h]

end

/-- `_ENVIRONMENT_NAME.fullmatch(name)`. -/
def isEnvironmentName (name : String) : Bool :=
  match name.toList with
  | [] => false
  | c :: rest =>
    (c.isAlpha || c == '_') && rest.all fun d => d.isAlphanum || d == '_'

end LlmHarness.Config
