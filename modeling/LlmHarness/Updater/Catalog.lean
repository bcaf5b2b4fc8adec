/-
  LlmHarness.Updater.Catalog

  The release catalog of `updater.py`: the artifacts it names and the one that
  `check_for_update` offers.  The payload is what `fetch_signed_catalog` returns
  once it has checked the signature.
-/

import Mathlib.Data.Char
import Mathlib.Data.List.Lex
import Mathlib.Data.List.MinMax
import Mathlib.Data.Prod.Lex
import LlmHarness.Python.CaseFold
import LlmHarness.Python.Number
import LlmHarness.Python.Value

namespace LlmHarness

open Python

/-- `UpdateError`. -/
structure UpdateError where
  message : String
deriving DecidableEq, Repr

/-- What reading a catalog raises. -/
inductive CatalogFault where
  | updateError (error : UpdateError)
  | valueError
  | overflowError
deriving DecidableEq, Repr

/-- `ReleaseArtifact`. -/
structure ReleaseArtifact where
  version : Text
  platform : Text
  url : Text
  sha256 : Text
  bytes : Int
  notesUrl : Text := []
deriving DecidableEq, Repr

/-! ## Versions -/

/-- The tuple of `_version_tuple`, in the order of Python's tuples. -/
abbrev VersionTuple := Nat ×ₗ Nat ×ₗ Nat ×ₗ List Text

/-- `value.partition(c)`: what is before the first `c`, and what follows it. -/
def partitionAt (c : Char) (value : Text) : Text × Option Text :=
  match value.dropWhile (· ≠ c) with
  | [] => (value, none)
  | _ :: rest => (value.takeWhile (· ≠ c), some rest)

/-- `int(part)` of a part that is `isdigit`. -/
def versionNumber (part : Text) : Except CatalogFault Nat :=
  match intOfDigits part with
  | some value => .ok value
  | none => .error .valueError

/-- `_version_tuple`. -/
def versionTuple (value : Text) : Except CatalogFault VersionTuple := do
  let (main, suffix) := partitionAt '-' (strip value)
  match main.splitOn '.' with
  | [major, minor, patch] =>
    if isDigitText major && isDigitText minor && isDigitText patch then
      -- stable releases sort after prereleases with the same numeric version
      let suffixKey := match suffix with
        | none => ["~".toList]
        | some suffix => suffix.splitOn '.'
      let major ← versionNumber major
      let minor ← versionNumber minor
      let patch ← versionNumber patch
      return toLex (major, toLex (minor, toLex (patch, suffixKey)))
    else .error (.updateError ⟨"Release version is not semantic major.minor.patch: " ++
      String.ofList value⟩)
  | _ => .error (.updateError ⟨"Release version is not semantic major.minor.patch: " ++
      String.ofList value⟩)

/-! ## Artifacts -/

/-- `str(value)` as a text. -/
def strText (value : Json) : Text := (pyStr value).toList

/-- `value[name]`, a `KeyError` when it is missing. -/
def requiredField (payload : List (String × Json)) (name : String) : Except CatalogFault Json :=
  match dictGet? payload name with
  | some value => .ok value
  | none => .error (.updateError ⟨"Release catalog contains an invalid artifact."⟩)

/-- `int(value["bytes"])`: `TypeError` and `ValueError` make the artifact invalid. -/
def artifactBytes (value : Json) : Except CatalogFault Int :=
  match intOf value with
  | .ok bytes => .ok bytes
  | .error .overflowError => .error .overflowError
  | .error _ => .error (.updateError ⟨"Release catalog contains an invalid artifact."⟩)

/-- The `ReleaseArtifact` that `_artifact_from_payload` builds. -/
def readArtifact (payload : List (String × Json)) : Except CatalogFault ReleaseArtifact := do
  let version ← requiredField payload "version"
  let platform ← requiredField payload "platform"
  let url ← requiredField payload "url"
  let sha256 ← requiredField payload "sha256"
  let bytes ← requiredField payload "bytes"
  let bytes ← artifactBytes bytes
  return {
    version := strText version
    platform := strText platform
    url := strText url
    sha256 := casefold (strText sha256)
    bytes
    notesUrl := strText (pyOr (field payload "notes_url") (.str "")) }

/-- The digest is 64 hexadecimal digits. -/
def hasSha256 (artifact : ReleaseArtifact) : Bool :=
  artifact.sha256.length = 64 && artifact.sha256.all (· ∈ "0123456789abcdef".toList)

/-- `_artifact_from_payload`. -/
def artifactFromPayload (payload : List (String × Json)) : Except CatalogFault ReleaseArtifact := do
  let artifact ← readArtifact payload
  if hasSha256 artifact then
    let _ ← versionTuple artifact.version
    return artifact
  else .error (.updateError ⟨"Release artifact SHA-256 is invalid."⟩)

/-! ## The offer -/

/-- `isinstance(item, dict) and item.get("platform") == target`. -/
def platformItem (target : String) : Json → Option (List (String × Json))
  | .obj payload =>
    match dictGet? payload "platform" with
    | some (.str platform) => if platform = target then some payload else none
    | _ => none
  | _ => none

/-- The artifacts of a catalog for a platform. -/
def platformArtifacts (catalog : List (String × Json)) (target : String) :
    Except CatalogFault (List ReleaseArtifact) :=
  match dictGet? catalog "artifacts" with
  | some (.arr items) => (items.filterMap (platformItem target)).mapM artifactFromPayload
  | _ => .error (.updateError ⟨"Release catalog has no artifacts array."⟩)

/-- An artifact with the key it is compared by. -/
def keyedArtifact (currentVersion : Text) (item : ReleaseArtifact) :
    Except CatalogFault (ReleaseArtifact × VersionTuple × VersionTuple) := do
  let key ← versionTuple item.version
  let current ← versionTuple currentVersion
  return (item, key, current)

/-- `check_for_update` on the payload of a catalog: the first artifact of the highest
    version above the current one. -/
def checkForUpdate (catalog : List (String × Json)) (currentVersion : Text) (target : String) :
    Except CatalogFault (Option ReleaseArtifact) := do
  let candidates ← platformArtifacts catalog target
  let keyed ← candidates.mapM (keyedArtifact currentVersion)
  let newer := keyed.filter fun (_, key, current) => current < key
  return (newer.argmax fun (_, key, _) => key).map Prod.fst

end LlmHarness
