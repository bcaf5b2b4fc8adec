/-
  LlmHarness.Review.Bundle

  Review bundles of `review_protocol.py`: the digest of their canonical JSON,
  `validate_review_bundle`, and what a decision is compared with.  `hashlib.sha256`
  is a parameter, as the time reader is.
-/

import LlmHarness.Python.CaseFold
import LlmHarness.Python.JsonRoundTrip
import LlmHarness.Review.Document

namespace LlmHarness

open Python Guards

/-- What the review protocol takes from the standard library. -/
structure Runtime where
  /-- `hashlib.sha256(text.encode("utf-8")).hexdigest()`. -/
  sha256 : Text → String
  /-- Nothing when `datetime.fromisoformat` raises, else whether the time has an offset. -/
  fromisoformat : String → Option Bool

/-- `canonical_json_bytes`, before the encoding. -/
def canonicalJson (payload : List (String × Json)) : Text :=
  (Json.obj payload).sortKeys.dumpsWith []

/-- `dict(payload)` without `integrity`. -/
def bundleContent (payload : List (String × Json)) : List (String × Json) :=
  payload.filter fun member => member.1 ≠ "integrity"

/-- The digest of a bundle's content. -/
def contentSha256 (runtime : Runtime) (payload : List (String × Json)) : String :=
  runtime.sha256 (canonicalJson (bundleContent payload))

/-- `value[key]`. -/
def item (value : Json) (key : String) : Check Json :=
  match value with
  | .obj members =>
    match dictGet? members key with
    | some value => .ok value
    | none => .error (.missing key)
  | _ => .error (.missing key)

/-- A bundle of the three-head protocol. -/
def isStrict (payload : List (String × Json)) : Bool :=
  isText (field payload "protocol_version") threeHeadProtocolVersion

/-! ## The role manifest -/

/-- `isinstance(value, int) and value >= 1`: a `bool` is an `int`. -/
def isPositiveInt : Json → Bool
  | .int n => 1 ≤ n
  | .bool b => b
  | _ => false

/-- One role of a manifest. -/
structure ManifestRole where
  identity : String
  provider : String
  model : String
deriving DecidableEq, Repr

/-- `text.strip().casefold()`. -/
def foldedText (text : String) : Text := casefold (strip text.toList)

/-- The loop body of `_validate_three_head_manifest` over the roles. -/
def validateRole (roles : List (String × Json)) (name : String) : Check ManifestRole := do
  let label := "three_head.roles." ++ name
  let role ← requireObject (field roles name) label
  requireExactKeys role ["identity", "provider", "model"] label
  let identity ← requireNonBlank (field role "identity") (label ++ ".identity must be non-empty.")
  let provider ← requireNonBlank (field role "provider") (label ++ ".provider must be non-empty.")
  let model ← requireNonBlank (field role "model") (label ++ ".model must be non-empty.")
  return ⟨identity, provider, model⟩

/-- Three distinct identities and three distinct models. -/
def rolesDistinct (roles : List ManifestRole) : Bool :=
  decide ((roles.map fun role => foldedText role.identity).Nodup) &&
    decide ((roles.map fun role => (foldedText role.provider, foldedText role.model)).Nodup)

/-- A list of strings none of which is blank. -/
def isTextList : Json → Bool
  | .arr items => items.all fun item =>
    match item with
    | .str s => !isBlank s.toList
    | _ => false
  | _ => false

/-- `value is True`. -/
def isTrue : Json → Bool
  | .bool b => b
  | _ => false

/-- `value is False`. -/
def isFalse : Json → Bool
  | .bool b => !b
  | _ => false

/-- A decision id, unless it is null. -/
def requireOptionalSafeId (value : Json) (label : String) : Check Unit :=
  if isNone value then .ok () else (requireSafeId value label).map fun _ => ()

/-- The invariants of the closure policy. -/
def closureKeys : List String :=
  ["critic_approval_required", "supervisor_owns_git", "supervisor_confirms_rework"]

/-- `_validate_three_head_manifest`. -/
def validateThreeHeadManifest (value : Json) : Check Unit := do
  let manifest ← requireObject value "three_head"
  requireExactKeys manifest
    ["mode", "attempt", "max_attempts", "roles", "correction_context", "closure_policy"] "three_head"
  require (isText (field manifest "mode") "required") "Three-head bundle mode must be required."
  require (isPositiveInt (field manifest "attempt")) "Three-head attempt must be a positive integer."
  require (isPositiveInt (field manifest "max_attempts"))
    "Three-head max_attempts must be a positive integer."
  let roles ← requireObject (field manifest "roles") "three_head.roles"
  requireExactKeys roles ["logic", "worker", "critic"] "three_head.roles"
  let validated ← ["logic", "worker", "critic"].mapM (validateRole roles)
  require (rolesDistinct validated)
    "Three-head bundle must contain three distinct role identities and models."
  let correction ← requireObject (field manifest "correction_context") "three_head.correction_context"
  requireExactKeys correction ["decision_id", "instructions"] "three_head.correction_context"
  requireOptionalSafeId (field correction "decision_id")
    "three_head.correction_context.decision_id"
  require (isTextList (field correction "instructions"))
    "three_head.correction_context.instructions must be non-empty strings."
  let closure ← requireObject (field manifest "closure_policy") "three_head.closure_policy"
  requireExactKeys closure closureKeys "three_head.closure_policy"
  require (closure.all fun member => isTrue member.2)
    "Three-head closure policy invariants must all be true."

/-! ## The bundle -/

/-- The members of a bundle. -/
def bundleKeys (strict : Bool) : List String :=
  ["protocol", "protocol_version", "message_type", "bundle_id", "created_at_utc", "repository",
    "task", "scope", "artifact", "verification", "authority", "integrity"] ++
      if strict then ["three_head"] else []

/-- The permissions a bundle denies. -/
def deniedAuthority : List String :=
  ["worker_commit_allowed", "worker_merge_allowed", "verifier_commit_allowed",
    "verifier_merge_allowed"]

/-- The protocol members of a bundle, and its role manifest. -/
def validateBundleProtocol (payload : List (String × Json)) : Check Unit :=
  if isStrict payload then do
    requireProtocolVersion payload threeHeadProtocolVersion "critic.review_bundle"
    validateThreeHeadManifest (field payload "three_head")
  else requireProtocol payload "verifier.review_bundle"

/-- `artifact.patch_text`, compared with its digest. -/
def requirePatchText (runtime : Runtime) (value : Json) (patchSha256 : String) : Check Unit :=
  match value with
  | .str patchText =>
    require (runtime.sha256 patchText.toList = patchSha256)
      "Review bundle patch digest does not match patch_text."
  | _ => refuseReview "Review bundle artifact.patch_text must be a string."

/-- `validate_review_bundle`. -/
def validateReviewBundle (runtime : Runtime) (payload : List (String × Json)) : Check Unit := do
  requireExactKeys payload (bundleKeys (isStrict payload)) "Review bundle"
  validateBundleProtocol payload
  let _ ← requireSafeId (field payload "bundle_id") "bundle_id"
  let _ ← requireTimestamp runtime.fromisoformat (field payload "created_at_utc") "created_at_utc"
  let integrity ← requireObject (field payload "integrity") "integrity"
  requireExactKeys integrity ["algorithm", "payload_sha256"] "integrity"
  require (isText (field integrity "algorithm") "sha256")
    "Review bundle integrity must contain a lowercase SHA-256 digest."
  let digest ← requireSha256 (field integrity "payload_sha256")
    "Review bundle integrity must contain a lowercase SHA-256 digest."
  require (contentSha256 runtime payload = digest)
    "Review bundle integrity digest does not match its payload."
  let artifact ← requireObject (field payload "artifact") "artifact"
  let patchSha256 ← requireSha256 (field artifact "patch_sha256")
    "Review bundle artifact.patch_sha256 must be a lowercase SHA-256 digest."
  requirePatchText runtime (field artifact "patch_text") patchSha256
  let authority ← requireObject (field payload "authority") "authority"
  require (deniedAuthority.all fun name => isFalse (field authority name))
    "Review bundle must deny worker and verifier commit/merge authority."

/-- `bundle["three_head"]["roles"]["critic"]["identity"]`. -/
def criticIdentity (bundle : List (String × Json)) : Check Json := do
  let threeHead ← item (.obj bundle) "three_head"
  let roles ← item threeHead "roles"
  let critic ← item roles "critic"
  item critic "identity"

/-! ## What a valid bundle holds -/

/-- The role a manifest names. -/
def ReadsRole (roles : List (String × Json)) (name : String) (role : ManifestRole) : Prop :=
  ∃ members, field roles name = .obj members ∧ HasKeys members ["identity", "provider", "model"] ∧
    (field members "identity" = .str role.identity ∧ NonBlank role.identity) ∧
    (field members "provider" = .str role.provider ∧ NonBlank role.provider) ∧
    (field members "model" = .str role.model ∧ NonBlank role.model)

/-- A role manifest that passes `_validate_three_head_manifest`, with its roles. -/
structure ValidManifest (manifest : List (String × Json)) (logic worker critic : ManifestRole) :
    Prop where
  keys : HasKeys manifest
    ["mode", "attempt", "max_attempts", "roles", "correction_context", "closure_policy"]
  mode : field manifest "mode" = .str "required"
  attempt : isPositiveInt (field manifest "attempt")
  maxAttempts : isPositiveInt (field manifest "max_attempts")
  roles : ∃ roles, field manifest "roles" = .obj roles ∧ HasKeys roles ["logic", "worker", "critic"] ∧
    ReadsRole roles "logic" logic ∧ ReadsRole roles "worker" worker ∧ ReadsRole roles "critic" critic
  distinct : rolesDistinct [logic, worker, critic]
  correction : ∃ correction, field manifest "correction_context" = .obj correction ∧
    HasKeys correction ["decision_id", "instructions"] ∧
    (field correction "decision_id" = .null ∨
      ∃ id, field correction "decision_id" = .str id ∧ isSafeId id) ∧
    isTextList (field correction "instructions")
  closure : ∃ closure, field manifest "closure_policy" = .obj closure ∧
    HasKeys closure closureKeys ∧ ∀ member ∈ closure, isTrue member.2

theorem validateRole_eq_ok {roles : List (String × Json)} {name : String} {role : ManifestRole} :
    validateRole roles name = .ok role ↔ ReadsRole roles name role := by
  simp only [validateRole, bind_eq_ok, exists_unit, pure_eq_ok, requireObject_eq_ok,
    requireExactKeys_eq_ok, requireNonBlank_eq_ok, ReadsRole]
  constructor
  · rintro ⟨members, hmembers, hkeys, identity, hidentity, provider, hprovider, model, hmodel, rfl⟩
    exact ⟨members, hmembers, hkeys, hidentity, hprovider, hmodel⟩
  · rintro ⟨members, hmembers, hkeys, hidentity, hprovider, hmodel⟩
    exact ⟨members, hmembers, hkeys, _, hidentity, _, hprovider, _, hmodel, rfl⟩

theorem validateRoles_eq_ok {roles : List (String × Json)} {validated : List ManifestRole} :
    ["logic", "worker", "critic"].mapM (validateRole roles) = .ok validated ↔
      ∃ logic worker critic, validated = [logic, worker, critic] ∧ ReadsRole roles "logic" logic ∧
        ReadsRole roles "worker" worker ∧ ReadsRole roles "critic" critic := by
  simp only [mapM_eq_ok, validateRole_eq_ok, List.forall₂_cons_left_iff, List.forall₂_nil_left_iff]
  constructor
  · rintro ⟨logic, _, hlogic, ⟨worker, _, hworker, ⟨critic, _, hcritic, rfl, rfl⟩, rfl⟩, rfl⟩
    exact ⟨logic, worker, critic, rfl, hlogic, hworker, hcritic⟩
  · rintro ⟨logic, worker, critic, rfl, hlogic, hworker, hcritic⟩
    exact ⟨logic, _, hlogic, ⟨worker, _, hworker, ⟨critic, _, hcritic, rfl, rfl⟩, rfl⟩, rfl⟩

theorem requireOptionalSafeId_eq_ok {value : Json} {label : String} :
    requireOptionalSafeId value label = .ok () ↔ value = .null ∨ ∃ id, value = .str id ∧ isSafeId id := by
  rw [requireOptionalSafeId]
  by_cases h : isNone value
  · rw [if_pos h]
    exact iff_of_true rfl (Or.inl ((isNone_iff value).mp h))
  · have hnull : value ≠ .null := fun hnull => h ((isNone_iff value).mpr hnull)
    simp only [if_neg h, hnull, false_or, ← @requireSafeId_eq_ok value label]
    cases requireSafeId value label <;> simp [Except.map]

theorem validateThreeHeadManifest_eq_ok {value : Json} :
    validateThreeHeadManifest value = .ok () ↔
      ∃ manifest logic worker critic, value = .obj manifest ∧
        ValidManifest manifest logic worker critic := by
  simp only [validateThreeHeadManifest, bind_eq_ok, exists_unit, requireObject_eq_ok,
    requireExactKeys_eq_ok, require_eq_ok, isText_iff, validateRoles_eq_ok,
    requireOptionalSafeId_eq_ok, List.all_eq_true]
  constructor
  · rintro ⟨manifest, rfl, hkeys, hmode, hattempt, hmax, roles, hroles, hroleKeys, _,
      ⟨logic, worker, critic, rfl, hlogic, hworker, hcritic⟩, hdistinct, correction, hcorrection,
      hcorrectionKeys, hid, hinstructions, closure, hclosure, hclosureKeys, htrue⟩
    exact ⟨manifest, logic, worker, critic, rfl, hkeys, hmode, hattempt, hmax,
      ⟨roles, hroles, hroleKeys, hlogic, hworker, hcritic⟩, hdistinct,
      ⟨correction, hcorrection, hcorrectionKeys, hid, hinstructions⟩,
      ⟨closure, hclosure, hclosureKeys, htrue⟩⟩
  · rintro ⟨manifest, logic, worker, critic, rfl, h⟩
    obtain ⟨roles, hroles, hroleKeys, hlogic, hworker, hcritic⟩ := h.roles
    obtain ⟨correction, hcorrection, hcorrectionKeys, hid, hinstructions⟩ := h.correction
    obtain ⟨closure, hclosure, hclosureKeys, htrue⟩ := h.closure
    exact ⟨manifest, rfl, h.keys, h.mode, h.attempt, h.maxAttempts, roles, hroles, hroleKeys, _,
      ⟨logic, worker, critic, rfl, hlogic, hworker, hcritic⟩, h.distinct, correction, hcorrection,
      hcorrectionKeys, hid, hinstructions, closure, hclosure, hclosureKeys, htrue⟩

/-- A bundle that passes `validate_review_bundle`. -/
structure ValidBundle (runtime : Runtime) (bundle : List (String × Json)) : Prop where
  keys : HasKeys bundle (bundleKeys (isStrict bundle))
  protocol : field bundle "protocol" = .str protocolNamespace
  version : field bundle "protocol_version" =
    .str (if isStrict bundle then threeHeadProtocolVersion else protocolVersion)
  messageType : field bundle "message_type" =
    .str (if isStrict bundle then "critic.review_bundle" else "verifier.review_bundle")
  manifest : isStrict bundle → ∃ manifest logic worker critic,
    field bundle "three_head" = .obj manifest ∧ ValidManifest manifest logic worker critic
  bundleId : ∃ id, field bundle "bundle_id" = .str id ∧ isSafeId id
  createdAtUtc : ∃ time, field bundle "created_at_utc" = .str time ∧
    runtime.fromisoformat (offsetSpelled time) = some true
  integrity : ∃ integrity, field bundle "integrity" = .obj integrity ∧
    HasKeys integrity ["algorithm", "payload_sha256"] ∧ field integrity "algorithm" = .str "sha256" ∧
    field integrity "payload_sha256" = .str (contentSha256 runtime bundle)
  digest : isLowerHexOf 64 (contentSha256 runtime bundle)
  artifact : ∃ artifact text, field bundle "artifact" = .obj artifact ∧
    field artifact "patch_text" = .str text ∧
    field artifact "patch_sha256" = .str (runtime.sha256 text.toList) ∧
    isLowerHexOf 64 (runtime.sha256 text.toList)
  authority : ∃ authority, field bundle "authority" = .obj authority ∧
    ∀ name ∈ deniedAuthority, field authority name = .bool false

theorem isFalse_iff (value : Json) : isFalse value ↔ value = .bool false := by
  cases value <;> simp [isFalse]

theorem validateBundleProtocol_eq_ok {bundle : List (String × Json)} :
    validateBundleProtocol bundle = .ok () ↔ field bundle "protocol" = .str protocolNamespace ∧
      field bundle "protocol_version" =
        .str (if isStrict bundle then threeHeadProtocolVersion else protocolVersion) ∧
      field bundle "message_type" =
        .str (if isStrict bundle then "critic.review_bundle" else "verifier.review_bundle") ∧
      (isStrict bundle → ∃ manifest logic worker critic,
        field bundle "three_head" = .obj manifest ∧ ValidManifest manifest logic worker critic) := by
  rw [validateBundleProtocol]
  by_cases h : isStrict bundle
  · simp only [h, if_true, unit_bind_eq_ok, requireProtocolVersion_eq_ok,
      validateThreeHeadManifest_eq_ok, forall_const, and_assoc]
  · simp only [h, if_false, requireProtocol_eq_ok, Bool.false_eq_true, false_implies, and_true]

theorem requirePatchText_eq_ok {runtime : Runtime} {value : Json} {patchSha256 : String} :
    requirePatchText runtime value patchSha256 = .ok () ↔
      ∃ text, value = .str text ∧ runtime.sha256 text.toList = patchSha256 := by
  cases value <;> simp [requirePatchText, refuseReview, require_eq_ok]

/-- `validate_review_bundle` accepts exactly the valid bundles. -/
theorem validateReviewBundle_eq_ok {runtime : Runtime} {bundle : List (String × Json)} :
    validateReviewBundle runtime bundle = .ok () ↔ ValidBundle runtime bundle := by
  simp only [validateReviewBundle, bind_eq_ok, exists_unit, requireExactKeys_eq_ok,
    validateBundleProtocol_eq_ok, requireSafeId_eq_ok, requireTimestamp_eq_ok, requireObject_eq_ok,
    require_eq_ok, isText_iff, requireSha256_eq_ok, decide_eq_true_eq, requirePatchText_eq_ok,
    List.all_eq_true, isFalse_iff]
  constructor
  · rintro ⟨hkeys, ⟨hprotocol, hversion, htype, hmanifest⟩, id, hid, time, htime, integrity,
      hintegrity, hintegrityKeys, halgorithm, digest, ⟨hdigest, hhex⟩, hcontent, artifact, hartifact,
      patchDigest, ⟨hpatchDigest, hpatchHex⟩, ⟨text, htext, hsha⟩, authority, hauthority, hdenied⟩
    rw [← hcontent] at hdigest hhex
    rw [← hsha] at hpatchDigest hpatchHex
    exact ⟨hkeys, hprotocol, hversion, htype, hmanifest, ⟨id, hid⟩, ⟨time, htime⟩,
      ⟨integrity, hintegrity, hintegrityKeys, halgorithm, hdigest⟩, hhex,
      ⟨artifact, text, hartifact, htext, hpatchDigest, hpatchHex⟩, ⟨authority, hauthority, hdenied⟩⟩
  · intro h
    obtain ⟨id, hid⟩ := h.bundleId
    obtain ⟨time, htime⟩ := h.createdAtUtc
    obtain ⟨integrity, hintegrity, hintegrityKeys, halgorithm, hdigest⟩ := h.integrity
    obtain ⟨artifact, text, hartifact, htext, hpatchDigest, hpatchHex⟩ := h.artifact
    obtain ⟨authority, hauthority, hdenied⟩ := h.authority
    exact ⟨h.keys, ⟨h.protocol, h.version, h.messageType, h.manifest⟩, id, hid, time, htime, integrity,
      hintegrity, hintegrityKeys, halgorithm, _, ⟨hdigest, h.digest⟩, rfl, artifact, hartifact, _,
      ⟨hpatchDigest, hpatchHex⟩, ⟨text, htext, rfl⟩, authority, hauthority, hdenied⟩

/-- A member that is not null is there. -/
theorem item_of_field {members : List (String × Json)} {key : String} {value : Json}
    (h : field members key = value) (hne : value ≠ .null) : item (.obj members) key = .ok value := by
  rw [field] at h
  cases hget : dictGet? members key with
  | none => exact absurd (by rw [← h, hget]; rfl) hne
  | some v =>
      rw [hget] at h
      simp only [item, hget]
      rw [← h]
      rfl

/-- The digest a valid bundle states. -/
theorem ValidBundle.item_digest {runtime : Runtime} {bundle : List (String × Json)}
    (h : ValidBundle runtime bundle) : ∃ integrity, item (.obj bundle) "integrity" = .ok integrity ∧
      item integrity "payload_sha256" = .ok (.str (contentSha256 runtime bundle)) := by
  obtain ⟨integrity, hintegrity, -, -, hdigest⟩ := h.integrity
  exact ⟨.obj integrity, item_of_field hintegrity (by simp), item_of_field hdigest (by simp)⟩

/-! ## Bundles with one content -/

theorem canonicalJson_injective {a b : List (String × Json)} (ha : (Json.obj a).DistinctKeys)
    (hb : (Json.obj b).DistinctKeys) (h : canonicalJson a = canonicalJson b) :
    PyEq (.obj a) (.obj b) := by
  have hread := @loads_dumpsWith [] (by simp) _ (distinctKeys_sortKeys _ ha)
  rw [← canonicalJson, h, canonicalJson,
    @loads_dumpsWith [] (by simp) _ (distinctKeys_sortKeys _ hb)] at hread
  exact (Option.some.inj hread).symm

/-- Equal documents hold equal items. -/
theorem item_of_pyEq {a b v : Json} {key : String} (h : PyEq a b) (ha : a.DistinctKeys)
    (hb : b.DistinctKeys) (hitem : item a key = .ok v) :
    ∃ w, item b key = .ok w ∧ PyEq v w ∧ v.DistinctKeys ∧ w.DistinctKeys := by
  cases a with
  | obj ms =>
      obtain ⟨ms', rfl⟩ : ∃ ms', b = .obj ms' := by
        cases b <;> simp [PyEq, Json.sortKeys] at h ⊢
      have hlookup := dictGet?_of_pyEq h ha.1 hb.1 key
      cases hget : dictGet? ms key with
      | none => simp [item, hget] at hitem
      | some value =>
          obtain rfl : value = v := by simpa [item, hget] using hitem
          rw [hget, Option.map_some] at hlookup
          obtain ⟨w, hw, heq⟩ := Option.map_eq_some_iff.mp hlookup.symm
          have hmem := (mem_iff_dictGet? ha.1 key value).mpr hget
          have hmem' := (mem_iff_dictGet? hb.1 key w).mpr hw
          exact ⟨w, by simp [item, hw], heq.symm, (distinctMembers_iff ms).mp ha.2 _ hmem,
            (distinctMembers_iff ms').mp hb.2 _ hmem'⟩
  | _ => simp [item] at hitem

theorem dictGet?_bundleContent {bundle : List (String × Json)} {key : String}
    (hkey : key ≠ "integrity") : dictGet? (bundleContent bundle) key = dictGet? bundle key := by
  induction bundle with
  | nil => rfl
  | cons m ms ih =>
      by_cases hm : m.1 = key
      · have hkeep : m.1 ≠ "integrity" := hm ▸ hkey
        simp [bundleContent, dictGet?, hm, hkey]
      · by_cases hkeep : m.1 = "integrity"
        · simpa [bundleContent, dictGet?, hkeep, hkey.symm] using ih
        · simpa [bundleContent, dictGet?, hkeep, hm] using ih

theorem distinctKeys_bundleContent {bundle : List (String × Json)}
    (h : (Json.obj bundle).DistinctKeys) : (Json.obj (bundleContent bundle)).DistinctKeys := by
  refine ⟨h.1.sublist (List.filter_sublist.map _), (distinctMembers_iff _).mpr fun m hm => ?_⟩
  exact (distinctMembers_iff _).mp h.2 m (List.mem_of_mem_filter hm)

section SameContent

variable {a b : List (String × Json)} (ha : (Json.obj a).DistinctKeys)
  (hb : (Json.obj b).DistinctKeys)
  (h : canonicalJson (bundleContent a) = canonicalJson (bundleContent b))

include ha hb h

/-- Bundles with one content hold equal items outside `integrity`. -/
theorem item_of_content {key : String} (hkey : key ≠ "integrity") {v : Json}
    (hitem : item (.obj a) key = .ok v) :
    ∃ w, item (.obj b) key = .ok w ∧ PyEq v w ∧ v.DistinctKeys ∧ w.DistinctKeys := by
  have hcontent := canonicalJson_injective (distinctKeys_bundleContent ha)
    (distinctKeys_bundleContent hb) h
  have hitem' : item (.obj (bundleContent a)) key = .ok v := by
    rwa [item, dictGet?_bundleContent hkey]
  obtain ⟨w, hw, hrest⟩ := item_of_pyEq hcontent (distinctKeys_bundleContent ha)
    (distinctKeys_bundleContent hb) hitem'
  rw [item, dictGet?_bundleContent hkey] at hw
  exact ⟨w, hw, hrest⟩

theorem isStrict_of_content (hstrict : isStrict a) : isStrict b := by
  have hversion := (isText_iff _ _).mp hstrict
  obtain ⟨w, hw, heq, -, -⟩ := item_of_content ha hb h (by decide)
    (item_of_field hversion (by simp))
  obtain rfl : w = .str threeHeadProtocolVersion := by
    cases w <;> simp [PyEq, Json.sortKeys] at heq ⊢
    exact heq.symm
  refine (isText_iff _ _).mpr ?_
  cases hget : dictGet? b "protocol_version" with
  | none => simp [item, hget] at hw
  | some v =>
      obtain rfl : v = .str threeHeadProtocolVersion := by simpa [item, hget] using hw
      rw [field, hget]
      rfl

/-- ... and name one critic. -/
theorem criticIdentity_of_content {id : String} (hid : criticIdentity a = .ok (.str id)) :
    criticIdentity b = .ok (.str id) := by
  obtain ⟨threeHead, hthreeHead, hrest⟩ := bind_eq_ok.mp hid
  obtain ⟨roles, hroles, hrest⟩ := bind_eq_ok.mp hrest
  obtain ⟨critic, hcritic, hidentity⟩ := bind_eq_ok.mp hrest
  obtain ⟨threeHead', hthreeHead', heq, hd, hd'⟩ := item_of_content ha hb h (by decide) hthreeHead
  obtain ⟨roles', hroles', heq, hd, hd'⟩ := item_of_pyEq heq hd hd' hroles
  obtain ⟨critic', hcritic', heq, hd, hd'⟩ := item_of_pyEq heq hd hd' hcritic
  obtain ⟨identity', hidentity', heq, -, -⟩ := item_of_pyEq heq hd hd' hidentity
  obtain rfl : identity' = .str id := by
    cases identity' <;> simp [PyEq, Json.sortKeys] at heq ⊢
    exact heq.symm
  exact bind_eq_ok.mpr ⟨_, hthreeHead', bind_eq_ok.mpr ⟨_, hroles', bind_eq_ok.mpr
    ⟨_, hcritic', hidentity'⟩⟩⟩

end SameContent

end LlmHarness
