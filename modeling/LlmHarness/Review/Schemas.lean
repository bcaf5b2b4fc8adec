/-
  LlmHarness.Review.Schemas

  The published decision schemas, `critic-decision-v2.schema.json` and
  `verifier-decision-v1.schema.json`, beside the validators of
  `review_protocol.py`.  `format` is an annotation, so `created_at_utc` is any
  string for a schema; the validators are compared with a time reader that
  accepts every text.
-/

import LlmHarness.Lib.JsonSchema
import LlmHarness.Review.Document

namespace LlmHarness

open Python JsonSchema

/-! ## The schemas -/

/-- `{"type": "string", "minLength": 1}`. -/
def nonEmptyText : Schema := allOf [typeString, minLength 1]

/-- `{"type": "string", "pattern": "^[A-Za-z0-9][A-Za-z0-9._:-]{0,127}$"}`. -/
def safeIdText : Schema := allOf [typeString, pattern isSafeId]

/-- `{"type": "string", "pattern": "^[0-9a-f]{n}$"}`. -/
def lowerHexText (n : Nat) : Schema := allOf [typeString, pattern (isLowerHexOf n)]

/-- `{"type": "array", "items": {"type": "string", "minLength": 1}}`. -/
def nonEmptyTexts : Schema := allOf [typeArray, items nonEmptyText]

/-- A finding, with the schemas of its code and its path. -/
def findingSchema (code path : Schema) : Schema :=
  closedObject ["code", "severity", "message"]
    [("code", code), ("severity", enum severities), ("message", nonEmptyText), ("path", path)]

/-- `#/$defs/finding` of the critic decision. -/
def criticFindingSchema : Schema := findingSchema nonEmptyText typeStringOrNull

/-- The finding of the verifier decision. -/
def verifierFindingSchema : Schema :=
  findingSchema safeIdText (allOf [typeStringOrNull, minLength 1])

/-- `#/$defs/correction`. -/
def correctionSchema : Schema :=
  closedObject ["rationale", "instructions", "validation_focus"]
    [("rationale", nonEmptyText),
      ("instructions", allOf [typeArray, minItems 1, items nonEmptyText]),
      ("validation_focus", nonEmptyTexts)]

/-- `#/$defs/escalation`. -/
def escalationSchema : Schema :=
  closedObject ["reason", "question", "options"]
    [("reason", nonEmptyText), ("question", nonEmptyText),
      ("options", allOf [typeArray, minItems 2, items nonEmptyText])]

/-- The schema of `attestation`. -/
def attestationSchema : Schema :=
  closedObject ["reviewed_commit", "reviewed_patch_sha256"]
    [("reviewed_commit", lowerHexText 40), ("reviewed_patch_sha256", lowerHexText 64)]

/-- `{"if": {"properties": {"decision": {"const": verdict}}}, "then": {"properties": ...}}`. -/
def whenDecision (verdict : String) (consequences : List (String × Schema)) : Schema :=
  ifThen (property "decision" (const verdict))
    (allOf (consequences.map fun p => property p.1 p.2))

/-- `critic-decision-v2.schema.json`. -/
def criticDecisionSchema : Schema := allOf [
  closedObject criticDecisionKeys
    [("protocol", const "hoh.protocol"),
      ("protocol_version", const "2.0"),
      ("message_type", const "critic.decision"),
      ("decision_id", safeIdText),
      ("bundle_id", safeIdText),
      ("bundle_sha256", lowerHexText 64),
      ("critic", closedObject ["identity", "kind"]
        [("identity", nonEmptyText), ("kind", enum reviewerKinds)]),
      ("decision", enum ["approve", "reject", "escalate"]),
      ("summary", nonEmptyText),
      ("findings", allOf [typeArray, items criticFindingSchema]),
      ("correction_brief", oneOf typeNull correctionSchema),
      ("escalation", oneOf typeNull escalationSchema),
      ("created_at_utc", typeString),
      ("attestation", attestationSchema)],
  whenDecision "approve"
    [("findings", maxItems 0), ("correction_brief", typeNull), ("escalation", typeNull)],
  whenDecision "reject"
    [("findings", minItems 1), ("correction_brief", correctionSchema), ("escalation", typeNull)],
  whenDecision "escalate"
    [("findings", minItems 1), ("correction_brief", typeNull), ("escalation", escalationSchema)]]

/-- `verifier-decision-v1.schema.json`. -/
def verifierDecisionSchema : Schema := allOf [
  closedObject verifierDecisionKeys
    [("protocol", const "hoh.protocol"),
      ("protocol_version", const "1.0"),
      ("message_type", const "verifier.decision"),
      ("decision_id", safeIdText),
      ("bundle_id", safeIdText),
      ("bundle_sha256", lowerHexText 64),
      ("reviewer", closedObject ["id", "kind"]
        [("id", safeIdText), ("kind", enum reviewerKinds)]),
      ("decision", enum ["approve", "reject"]),
      ("summary", nonEmptyText),
      ("findings", allOf [typeArray, items verifierFindingSchema]),
      ("created_at_utc", typeString),
      ("attestation", attestationSchema)],
  whenDecision "reject" [("findings", minItems 1)]]

/-! ## The validators on documents -/

/-- `validate_critic_decision` on a document, whatever its time is spelled like. -/
def criticDecisionAccepted (document : Json) : Bool :=
  match document with
  | .obj payload => passes (validateCriticDecision (fun _ => some true) payload)
  | _ => false

/-- `validate_verifier_decision` on a document, whatever its time is spelled like. -/
def verifierDecisionAccepted (document : Json) : Bool :=
  match document with
  | .obj payload => passes (validateVerifierDecision (fun _ => some true) payload)
  | _ => false

/-! ## The rules about texts -/

/-- The rules of `#/$defs/correction`. -/
structure SchemaCorrection (brief : CorrectionBrief) : Prop where
  rationale : brief.rationale ≠ ""
  nonEmpty : 1 ≤ brief.instructions.length
  instructions : ∀ text ∈ brief.instructions, text ≠ ""
  validationFocus : ∀ text ∈ brief.validationFocus, text ≠ ""

/-- The rules of `#/$defs/escalation`. -/
structure SchemaEscalation (request : EscalationRequest) : Prop where
  reason : request.reason ≠ ""
  question : request.question ≠ ""
  several : 2 ≤ request.options.length
  options : ∀ text ∈ request.options, text ≠ ""

/-- The rules of the critic schema that the validator has too, or has a stronger one for. -/
structure CriticShared (d : ValidatedDecision) : Prop where
  actorId : d.actorId ≠ ""
  summary : d.summary ≠ ""
  findings : ∀ finding ∈ d.findings, finding.code ≠ "" ∧ finding.message ≠ ""
  nonEmpty : d.decision ≠ .approve → d.findings ≠ []
  correctionBrief : ∀ brief, d.correctionBrief = some brief → SchemaCorrection brief
  escalation : ∀ request, d.escalation = some request → SchemaEscalation request

/-- The rules only the critic schema has. -/
structure CriticSchemaOnly (d : ValidatedDecision) : Prop where
  reviewedCommit : isLowerHexOf 40 d.reviewedCommit
  approved : d.decision = .approve → d.findings = []

/-- The rules of the verifier schema that the validator has too. -/
structure VerifierShared (d : ValidatedDecision) : Prop where
  actorId : isSafeId d.actorId
  summary : d.summary ≠ ""
  findings : ∀ finding ∈ d.findings, isSafeId finding.code ∧ finding.message ≠ "" ∧
    ∀ path, finding.path = some path → path ≠ ""
  nonEmpty : d.decision ≠ .approve → d.findings ≠ []

/-- The rule only the verifier schema has. -/
def VerifierSchemaOnly (d : ValidatedDecision) : Prop := isLowerHexOf 40 d.reviewedCommit

/-! ## What the schemas accept -/

theorem nonEmptyText_iff (value : Json) : nonEmptyText value ↔ ∃ s, value = .str s ∧ s ≠ "" := by
  rw [nonEmptyText, string_minLength_iff]
  refine exists_congr fun s => and_congr_right fun _ => ?_
  rw [Nat.one_le_iff_ne_zero, ne_eq, List.length_eq_zero_iff, String.toList_eq_nil_iff]

theorem safeIdText_iff (value : Json) : safeIdText value ↔ ∃ s, value = .str s ∧ isSafeId s :=
  string_pattern_iff isSafeId value

theorem lowerHexText_iff (n : Nat) (value : Json) :
    lowerHexText n value ↔ ∃ s, value = .str s ∧ isLowerHexOf n s :=
  string_pattern_iff (isLowerHexOf n) value

theorem enum_iff_exists (texts : List String) (value : Json) :
    enum texts value ↔ ∃ s, value = .str s ∧ s ∈ texts := by
  rw [enum_iff]
  exact exists_congr fun s => and_comm

/-- A list of strings, element by element. -/
theorem forall₂_str_iff (values : List Json) (texts : List String) :
    List.Forall₂ (fun v s => v = Json.str s) values texts ↔ values = texts.map Json.str := by
  rw [← List.forall₂_eq_eq_eq, List.forall₂_map_right_iff]

/-- A list of texts, with a minimal length. -/
theorem texts_iff (n : Nat) (value : Json) :
    allOf [typeArray, minItems n, items nonEmptyText] value ↔
      ∃ texts, value = textList texts ∧ n ≤ texts.length ∧ ∀ text ∈ texts, text ≠ "" := by
  cases value with
  | arr values =>
      have htexts : (∀ v ∈ values, nonEmptyText v) ↔
          ∃ texts, List.Forall₂ (fun v s => v = Json.str s) values texts ∧ ∀ s ∈ texts, s ≠ "" :=
        forall_mem_iff_exists_forall₂ (fun v => nonEmptyText_iff v) values
      simp only [allOf, List.all_cons, List.all_nil, typeArray, minItems, items, Bool.and_true,
        Bool.true_and, Bool.and_eq_true, decide_eq_true_eq, List.all_eq_true, htexts, textList,
        Json.arr.injEq]
      constructor
      · rintro ⟨hlength, texts, hvalues, hne⟩
        obtain rfl := (forall₂_str_iff values texts).mp hvalues
        exact ⟨texts, rfl, by simpa using hlength, hne⟩
      · rintro ⟨texts, rfl, hlength, hne⟩
        exact ⟨by simpa using hlength, texts, (forall₂_str_iff _ texts).mpr rfl, hne⟩
  | _ => simp [allOf, typeArray, textList]

theorem nonEmptyTexts_iff (value : Json) :
    nonEmptyTexts value ↔ ∃ texts, value = textList texts ∧ ∀ text ∈ texts, text ≠ "" := by
  have hmin : nonEmptyTexts value ↔ allOf [typeArray, minItems 0, items nonEmptyText] value := by
    cases value <;> simp [nonEmptyTexts, allOf, minItems]
  rw [hmin, texts_iff]
  simp

/-- A finding, from what the schemas of its code and its path accept. -/
theorem findingSchema_iff {code path : Schema} {codeOk pathOk : String → Prop}
    (hcode : ∀ value, code value ↔ ∃ s, value = .str s ∧ codeOk s)
    (hpath : ∀ value, path value ↔ ∃ p, value = optionalText p ∧ ∀ s, p = some s → pathOk s)
    (value : Json) : findingSchema code path value ↔ ∃ finding, ReadsFinding value finding ∧
      codeOk finding.code ∧ finding.message ≠ "" ∧ ∀ s, finding.path = some s → pathOk s := by
  have hnull : path .null := (hpath .null).mpr ⟨none, rfl, by simp⟩
  rw [findingSchema, closedObject_get_iff (by simp [hnull])]
  simp only [List.forall_mem_cons, List.map_cons, List.map_nil, hcode, hpath, nonEmptyText_iff,
    enum_iff_exists, ReadsFinding, field]
  constructor
  · rintro ⟨members, rfl, hkeys, hrequired, ⟨c, hc, hcok⟩, ⟨severity, hs, hsok⟩, ⟨m, hm, hmok⟩,
      ⟨p, hp, hpok⟩, -⟩
    exact ⟨⟨c, severity, m, p⟩, ⟨members, rfl, by simpa using hrequired, hkeys, hc, hs, hsok, hm, hp⟩,
      hcok, hmok, hpok⟩
  · rintro ⟨finding, ⟨members, rfl, hrequired, hkeys, hc, hs, hsok, hm, hp⟩, hcok, hmok, hpok⟩
    exact ⟨members, rfl, hkeys, by simpa using hrequired, ⟨_, hc, hcok⟩, ⟨_, hs, hsok⟩,
      ⟨_, hm, hmok⟩, ⟨_, hp, hpok⟩, by simp⟩

/-- A closed object all of whose properties are required. -/
theorem closedObject_hasKeys_iff {required : List String} {properties : List (String × Schema)}
    (h : properties.map Prod.fst = required) (value : Json) :
    closedObject required properties value ↔ ∃ members, value = .obj members ∧
      HasKeys members required ∧ ∀ p ∈ properties, p.2 (field members p.1) := by
  subst h
  rw [closedObject_get_iff fun p hp => Or.inl (List.mem_map_of_mem hp)]
  refine exists_congr fun members => and_congr_right fun _ => ?_
  rw [HasKeys, and_assoc]
  exact and_left_comm

theorem correctionSchema_iff (value : Json) :
    correctionSchema value ↔ ∃ brief, ReadsCorrection value brief ∧ SchemaCorrection brief := by
  rw [correctionSchema, closedObject_hasKeys_iff (by rfl)]
  simp only [List.forall_mem_cons, nonEmptyText_iff, texts_iff, nonEmptyTexts_iff, ReadsCorrection]
  constructor
  · rintro ⟨members, rfl, hkeys, ⟨rationale, hrationale, hr⟩, ⟨instructions, hinstructions, hlength, hi⟩,
      ⟨focus, hfocus, hf⟩, -⟩
    exact ⟨⟨rationale, instructions, focus⟩, ⟨members, rfl, hkeys, hrationale, hinstructions, hfocus⟩,
      ⟨hr, hlength, hi, hf⟩⟩
  · rintro ⟨brief, ⟨members, rfl, hkeys, hrationale, hinstructions, hfocus⟩, hrules⟩
    exact ⟨members, rfl, hkeys, ⟨_, hrationale, hrules.rationale⟩,
      ⟨_, hinstructions, hrules.nonEmpty, hrules.instructions⟩,
      ⟨_, hfocus, hrules.validationFocus⟩, by simp⟩

theorem escalationSchema_iff (value : Json) :
    escalationSchema value ↔ ∃ request, ReadsEscalation value request ∧ SchemaEscalation request := by
  rw [escalationSchema, closedObject_hasKeys_iff (by rfl)]
  simp only [List.forall_mem_cons, nonEmptyText_iff, texts_iff, ReadsEscalation]
  constructor
  · rintro ⟨members, rfl, hkeys, ⟨reason, hreason, hr⟩, ⟨question, hquestion, hq⟩,
      ⟨options, hoptions, hlength, ho⟩, -⟩
    exact ⟨⟨reason, question, options⟩, ⟨members, rfl, hkeys, hreason, hquestion, hoptions⟩,
      ⟨hr, hq, hlength, ho⟩⟩
  · rintro ⟨request, ⟨members, rfl, hkeys, hreason, hquestion, hoptions⟩, hrules⟩
    exact ⟨members, rfl, hkeys, ⟨_, hreason, hrules.reason⟩, ⟨_, hquestion, hrules.question⟩,
      ⟨_, hoptions, hrules.several, hrules.options⟩, by simp⟩

theorem attestationSchema_iff (value : Json) : attestationSchema value ↔
    ∃ commit patch, (∃ members, value = .obj members ∧
        HasKeys members ["reviewed_commit", "reviewed_patch_sha256"] ∧
        field members "reviewed_commit" = .str commit ∧
        field members "reviewed_patch_sha256" = .str patch) ∧
      isLowerHexOf 40 commit ∧ isLowerHexOf 64 patch := by
  rw [attestationSchema, closedObject_hasKeys_iff (by rfl)]
  simp only [List.forall_mem_cons, lowerHexText_iff]
  constructor
  · rintro ⟨members, rfl, hkeys, ⟨commit, hcommit, hc⟩, ⟨patch, hpatch, hp⟩, -⟩
    exact ⟨commit, patch, ⟨members, rfl, hkeys, hcommit, hpatch⟩, hc, hp⟩
  · rintro ⟨commit, patch, ⟨members, rfl, hkeys, hcommit, hpatch⟩, hc, hp⟩
    exact ⟨members, rfl, hkeys, ⟨_, hcommit, hc⟩, ⟨_, hpatch, hp⟩, by simp⟩

/-- The reviewer of a decision. -/
theorem actorSchema_iff {id : Schema} {idOk : String → Prop} (name : String)
    (hid : ∀ value, id value ↔ ∃ s, value = .str s ∧ idOk s) (value : Json) :
    closedObject [name, "kind"] [(name, id), ("kind", enum reviewerKinds)] value ↔
      ∃ actor kind, (∃ members, value = .obj members ∧ HasKeys members [name, "kind"] ∧
          field members name = .str actor ∧ field members "kind" = .str kind) ∧
        idOk actor ∧ kind ∈ reviewerKinds := by
  rw [closedObject_hasKeys_iff (by rfl)]
  simp only [List.forall_mem_cons, hid, enum_iff_exists]
  constructor
  · rintro ⟨members, rfl, hkeys, ⟨actor, hactor, ha⟩, ⟨kind, hkind, hk⟩, -⟩
    exact ⟨actor, kind, ⟨members, rfl, hkeys, hactor, hkind⟩, ha, hk⟩
  · rintro ⟨actor, kind, ⟨members, rfl, hkeys, hactor, hkind⟩, ha, hk⟩
    exact ⟨members, rfl, hkeys, ⟨_, hactor, ha⟩, ⟨_, hkind, hk⟩, by simp⟩

/-- The list of findings, from what the schema of one accepts. -/
theorem findingsSchema_iff {finding : Schema} {rule : ReviewFinding → Prop}
    (h : ∀ value, finding value ↔ ∃ f, ReadsFinding value f ∧ rule f) (value : Json) :
    allOf [typeArray, items finding] value ↔
      ∃ findings, ReadsFindings value findings ∧ ∀ f ∈ findings, rule f := by
  rw [array_items_iff]
  simp only [forall_mem_iff_exists_forall₂ h, ReadsFindings]
  constructor
  · rintro ⟨values, rfl, findings, hreads, hrules⟩
    exact ⟨findings, ⟨values, rfl, hreads⟩, hrules⟩
  · rintro ⟨findings, ⟨values, rfl, hreads⟩, hrules⟩
    exact ⟨values, rfl, findings, hreads, hrules⟩

/-- A conditional about members that are present. -/
theorem whenDecision_iff {payload : List (String × Json)} {keys : List String}
    (hkeys : HasKeys payload keys) {verdict : String} {consequences : List (String × Schema)}
    (hnamed : ∀ name ∈ "decision" :: consequences.map Prod.fst, name ∈ keys) :
    whenDecision verdict consequences (.obj payload) ↔
      (field payload "decision" = .str verdict → ∀ p ∈ consequences, p.2 (field payload p.1)) := by
  obtain ⟨hdecision, hnamed⟩ := List.forall_mem_cons.mp hnamed
  rw [whenDecision, ifThen_iff, property_iff (Or.inl (hkeys.1 _ hdecision)), const_iff]
  refine imp_congr_right fun _ => ?_
  simp only [allOf, List.all_eq_true, List.mem_map, forall_exists_index, and_imp,
    forall_apply_eq_imp_iff₂]
  exact forall₂_congr fun p hp =>
    property_iff (Or.inl (hkeys.1 _ (hnamed _ (List.mem_map_of_mem hp))))

theorem ReadsFindings.maxItems_zero_iff {value : Json} {findings : List ReviewFinding}
    (h : ReadsFindings value findings) : maxItems 0 value ↔ findings = [] := by
  obtain ⟨values, rfl, hreads⟩ := h
  rw [maxItems, decide_eq_true_eq, hreads.length_eq, Nat.le_zero, List.length_eq_zero_iff]

theorem ReadsFindings.minItems_one_iff {value : Json} {findings : List ReviewFinding}
    (h : ReadsFindings value findings) : minItems 1 value ↔ findings ≠ [] := by
  obtain ⟨values, rfl, hreads⟩ := h
  rw [minItems, decide_eq_true_eq, hreads.length_eq, Nat.one_le_iff_ne_zero, ne_eq,
    List.length_eq_zero_iff]

/-- The brief and the escalation the critic schema asks for with a verdict. -/
theorem criticVerdictSchema_iff (decision : ReviewDecision) {findings correction escalation : Json}
    {fs : List ReviewFinding} (hfindings : ReadsFindings findings fs) :
    (oneOf typeNull correctionSchema correction ∧ oneOf typeNull escalationSchema escalation ∧
      (decision = .approve → maxItems 0 findings ∧ typeNull correction ∧ typeNull escalation) ∧
      (decision = .reject → minItems 1 findings ∧ correctionSchema correction ∧ typeNull escalation) ∧
      (decision = .escalate →
        minItems 1 findings ∧ typeNull correction ∧ escalationSchema escalation)) ↔
      ((decision = .approve → fs = []) ∧ (decision ≠ .approve → fs ≠ [])) ∧
        ∃ brief request, ReadsVerdict decision correction escalation brief request ∧
          (∀ b, brief = some b → SchemaCorrection b) ∧
          ∀ r, request = some r → SchemaEscalation r := by
  -- `null` fits `oneOf` of null and an object schema, and so does every object that fits the latter
  have hnullCorrection : oneOf typeNull correctionSchema .null := by decide
  have hnullEscalation : oneOf typeNull escalationSchema .null := by decide
  have hcorrection : ∀ {value : Json}, correctionSchema value →
      oneOf typeNull correctionSchema value := by
    intro value h
    obtain ⟨brief, ⟨members, rfl, -⟩, -⟩ := (correctionSchema_iff value).mp h
    rw [oneOf, h]
    rfl
  have hescalation : ∀ {value : Json}, escalationSchema value →
      oneOf typeNull escalationSchema value := by
    intro value h
    obtain ⟨request, ⟨members, rfl, -⟩, -⟩ := (escalationSchema_iff value).mp h
    rw [oneOf, h]
    rfl
  rw [hfindings.maxItems_zero_iff, hfindings.minItems_one_iff, typeNull_iff, typeNull_iff]
  -- the conditional of each decision fixes the two fields, the other conditionals say nothing
  cases decision with
  | approve =>
      constructor
      -- an approval: both fields are null
      · rintro ⟨-, -, happrove, -, -⟩
        obtain ⟨hempty, rfl, rfl⟩ := happrove rfl
        exact ⟨⟨fun _ => hempty, fun h => absurd rfl h⟩, none, none, ⟨rfl, rfl, rfl, rfl⟩,
          by simp, by simp⟩
      · rintro ⟨⟨hempty, -⟩, brief, request, ⟨rfl, rfl, -, -⟩, -, -⟩
        exact ⟨hnullCorrection, hnullEscalation, fun _ => ⟨hempty rfl, rfl, rfl⟩, nofun, nofun⟩
  | reject =>
      constructor
      -- a rejection: the brief
      · rintro ⟨-, -, -, hreject, -⟩
        obtain ⟨hne, hbrief, rfl⟩ := hreject rfl
        obtain ⟨brief, hreads, hrules⟩ := (correctionSchema_iff correction).mp hbrief
        refine ⟨⟨nofun, fun _ => hne⟩, some brief, none, ⟨rfl, rfl, brief, rfl, hreads⟩, ?_, nofun⟩
        rintro b hb
        rwa [← Option.some.inj hb]
      · rintro ⟨⟨-, hne⟩, brief, request, ⟨rfl, -, b, rfl, hreads⟩, hrules, -⟩
        have hbrief : correctionSchema correction :=
          (correctionSchema_iff correction).mpr ⟨b, hreads, hrules b rfl⟩
        exact ⟨hcorrection hbrief, hnullEscalation, nofun, fun _ => ⟨hne nofun, hbrief, rfl⟩, nofun⟩
  | escalate =>
      constructor
      -- an escalation: the request
      · rintro ⟨-, -, -, -, hescalate⟩
        obtain ⟨hne, rfl, hrequest⟩ := hescalate rfl
        obtain ⟨request, hreads, hrules⟩ := (escalationSchema_iff escalation).mp hrequest
        refine ⟨⟨nofun, fun _ => hne⟩, none, some request, ⟨rfl, rfl, request, rfl, hreads⟩, nofun, ?_⟩
        rintro r hr
        rwa [← Option.some.inj hr]
      · rintro ⟨⟨-, hne⟩, brief, request, ⟨rfl, -, r, rfl, hreads⟩, -, hrules⟩
        have hrequest : escalationSchema escalation :=
          (escalationSchema_iff escalation).mpr ⟨r, hreads, hrules r rfl⟩
        exact ⟨hnullCorrection, hescalation hrequest, nofun, nofun, fun _ => ⟨hne nofun, rfl, hrequest⟩⟩

/-- A verdict of a closed set, by its text. -/
theorem verdict_enum_iff (allowed : List ReviewDecision) (value : Json) :
    enum (allowed.map ReviewDecision.text) value ↔
      ∃ decision, value = .str decision.text ∧ decision ∈ allowed := by
  rw [enum_iff]
  constructor
  · rintro ⟨s, hs, rfl⟩
    obtain ⟨decision, hdecision, rfl⟩ := List.mem_map.mp hs
    exact ⟨decision, rfl, hdecision⟩
  · rintro ⟨decision, rfl, hdecision⟩
    exact ⟨_, List.mem_map_of_mem hdecision, rfl⟩

theorem typeString_iff (value : Json) : typeString value ↔ ∃ s, value = .str s := by
  cases value <;> simp [typeString]

/-- A finding of the critic schema: its path is any text. -/
theorem criticFindingSchema_iff (value : Json) :
    criticFindingSchema value ↔ ∃ finding, ReadsFinding value finding ∧
      finding.code ≠ "" ∧ finding.message ≠ "" := by
  have hpath : ∀ value, typeStringOrNull value ↔
      ∃ p, value = optionalText p ∧ ∀ s, p = some s → True := by
    intro value
    cases value <;> simp [typeStringOrNull, typeString, typeNull, optionalText, Option.exists]
  rw [criticFindingSchema, findingSchema_iff nonEmptyText_iff hpath]
  simp

/-- A finding of the verifier schema. -/
theorem verifierFindingSchema_iff (value : Json) :
    verifierFindingSchema value ↔ ∃ finding, ReadsFinding value finding ∧
      isSafeId finding.code ∧ finding.message ≠ "" ∧ ∀ path, finding.path = some path → path ≠ "" := by
  refine findingSchema_iff safeIdText_iff (fun value => ?_) value
  cases value with
  | str s =>
      simp [allOf, typeStringOrNull, typeString, minLength, optionalText, Option.exists,
        Nat.one_le_iff_ne_zero]
  | _ => simp [allOf, typeStringOrNull, typeString, typeNull, minLength, optionalText, Option.exists]

/-- The critic schema accepts what spells a decision that keeps its rules. -/
theorem criticDecisionSchema_iff (document : Json) :
    criticDecisionSchema document ↔ ∃ payload d, document = .obj payload ∧
      ReadsCritic payload d ∧ CriticShared d ∧ CriticSchemaOnly d := by
  have hdecisions : ∀ value, enum ["approve", "reject", "escalate"] value ↔
      ∃ decision, value = .str decision.text ∧
        decision ∈ [ReviewDecision.approve, .reject, .escalate] :=
    verdict_enum_iff [.approve, .reject, .escalate]
  -- each keyword of the schema as what it says of the members
  rw [criticDecisionSchema, allOf_cons, allOf_cons, allOf_cons, allOf_cons,
    closedObject_hasKeys_iff (by rfl)]
  simp only [List.forall_mem_cons, const_iff, safeIdText_iff, lowerHexText_iff, typeString_iff,
    nonEmptyText_iff, attestationSchema_iff, hdecisions,
    actorSchema_iff "identity" nonEmptyText_iff, findingsSchema_iff criticFindingSchema_iff]
  constructor
  -- from the schema to what is read
  · rintro ⟨⟨payload, rfl, hkeys, hprotocol, hversion, htype, ⟨decisionId, hdecisionId, hdecisionSafe⟩,
      ⟨bundleId, hbundleId, hbundleSafe⟩, ⟨digest, hdigest, hdigestHex⟩,
      ⟨actor, kind, hactor, hactorText, hkind⟩, ⟨decision, hdecision, hverdict⟩,
      ⟨summary, hsummary, hsummaryText⟩, ⟨findings, hfindings, hfindingRules⟩, hcorrection,
      hescalation, ⟨created, hcreated⟩, ⟨commit, patch, hattestation, hcommit, hpatch⟩, -⟩,
      happrove, hreject, hescalate, -⟩
    rw [whenDecision_iff hkeys (by decide), hdecision] at happrove hreject hescalate
    simp only [List.forall_mem_cons] at happrove hreject hescalate
    -- the conditionals test the text of the decision
    have htext : ∀ {v : ReviewDecision}, decision = v → Json.str decision.text = .str v.text :=
      fun h => by rw [h]
    obtain ⟨⟨hempty, hne⟩, brief, request, houtcome, hbrief, hrequest⟩ :=
      (criticVerdictSchema_iff decision hfindings).mp ⟨hcorrection, hescalation,
        fun h => (happrove (htext h)).imp_right fun h => h.imp_right And.left,
        fun h => (hreject (htext h)).imp_right fun h => h.imp_right And.left,
        fun h => (hescalate (htext h)).imp_right fun h => h.imp_right And.left⟩
    refine ⟨payload, ⟨threeHeadProtocolVersion, decisionId, bundleId, digest, actor, kind, decision,
      summary, findings, created, commit, patch, brief, request⟩, rfl, {
      keys := hkeys, protocol := hprotocol, version := hversion, messageType := htype
      protocolVersion := rfl, decisionId := hdecisionId, decisionIdSafe := hdecisionSafe
      bundleId := hbundleId, bundleIdSafe := hbundleSafe, bundleSha256 := hdigest
      bundleDigest := hdigestHex, actor := hactor, actorKind := hkind, decision := hdecision
      verdict := hverdict, summary := hsummary, findings := hfindings, createdAtUtc := hcreated
      attestation := hattestation, patchDigest := hpatch, outcome := houtcome }, ?_, ⟨hcommit, hempty⟩⟩
    exact ⟨hactorText, hsummaryText, hfindingRules, hne, hbrief, hrequest⟩
  -- from what is read to the schema, member by member
  · rintro ⟨payload, d, rfl, hreads, hshared, honly⟩
    obtain ⟨hcorrection, hescalation, happrove, hreject, hescalate⟩ :=
      (criticVerdictSchema_iff d.decision hreads.findings).mpr
        ⟨⟨honly.approved, hshared.nonEmpty⟩, _, _, hreads.outcome, hshared.correctionBrief,
          hshared.escalation⟩
    have hverdict : ∀ v : ReviewDecision, Json.str d.decision.text = .str v.text → d.decision = v :=
      fun v h => ReviewDecision.text_injective (Json.str.inj h)
    refine ⟨⟨payload, rfl, hreads.keys, hreads.protocol, hreads.version, hreads.messageType,
      ⟨_, hreads.decisionId, hreads.decisionIdSafe⟩, ⟨_, hreads.bundleId, hreads.bundleIdSafe⟩,
      ⟨_, hreads.bundleSha256, hreads.bundleDigest⟩,
      ⟨_, _, hreads.actor, hshared.actorId, hreads.actorKind⟩,
      ⟨_, hreads.decision, hreads.verdict⟩, ⟨_, hreads.summary, hshared.summary⟩,
      ⟨_, hreads.findings, hshared.findings⟩, hcorrection, hescalation, ⟨_, hreads.createdAtUtc⟩,
      ⟨_, _, hreads.attestation, honly.reviewedCommit, hreads.patchDigest⟩, List.forall_mem_nil _⟩, ?_, ?_,
      ?_, rfl⟩
    -- the three conditionals
    all_goals
      rw [whenDecision_iff hreads.keys (by decide), hreads.decision]
      simp only [List.forall_mem_cons]
      intro h
    · obtain ⟨hfindings, hnull, hnone⟩ := happrove (hverdict .approve h)
      exact ⟨hfindings, hnull, hnone, List.forall_mem_nil _⟩
    · obtain ⟨hfindings, hbrief, hnone⟩ := hreject (hverdict .reject h)
      exact ⟨hfindings, hbrief, hnone, List.forall_mem_nil _⟩
    · obtain ⟨hfindings, hnull, hrequest⟩ := hescalate (hverdict .escalate h)
      exact ⟨hfindings, hnull, hrequest, List.forall_mem_nil _⟩

/-- The verifier schema accepts what spells a decision that keeps its rules. -/
theorem verifierDecisionSchema_iff (document : Json) :
    verifierDecisionSchema document ↔ ∃ payload d, document = .obj payload ∧
      ReadsVerifier payload d ∧ VerifierShared d ∧ VerifierSchemaOnly d := by
  -- v1 knows two decisions
  have hdecisions : ∀ value, enum ["approve", "reject"] value ↔
      ∃ decision, value = .str decision.text ∧ decision ∈ [ReviewDecision.approve, .reject] :=
    verdict_enum_iff [.approve, .reject]
  rw [verifierDecisionSchema, allOf_cons, allOf_cons, closedObject_hasKeys_iff (by rfl)]
  simp only [List.forall_mem_cons, const_iff, safeIdText_iff, lowerHexText_iff, typeString_iff,
    nonEmptyText_iff, attestationSchema_iff, hdecisions, actorSchema_iff "id" safeIdText_iff,
    findingsSchema_iff verifierFindingSchema_iff]
  -- from the schema to what is read; v1 has no brief and no request
  constructor
  · rintro ⟨⟨payload, rfl, hkeys, hprotocol, hversion, htype, ⟨decisionId, hdecisionId, hdecisionSafe⟩,
      ⟨bundleId, hbundleId, hbundleSafe⟩, ⟨digest, hdigest, hdigestHex⟩,
      ⟨actor, kind, hactor, hactorSafe, hkind⟩, ⟨decision, hdecision, hverdict⟩,
      ⟨summary, hsummary, hsummaryText⟩, ⟨findings, hfindings, hfindingRules⟩, ⟨created, hcreated⟩,
      ⟨commit, patch, hattestation, hcommit, hpatch⟩, -⟩, hreject, -⟩
    rw [whenDecision_iff hkeys (by decide), hdecision] at hreject
    simp only [List.forall_mem_cons, hfindings.minItems_one_iff] at hreject
    refine ⟨payload, ⟨protocolVersion, decisionId, bundleId, digest, actor, kind, decision,
      summary, findings, created, commit, patch, none, none⟩, rfl, {
      keys := hkeys, protocol := hprotocol, version := hversion, messageType := htype
      protocolVersion := rfl, decisionId := hdecisionId, decisionIdSafe := hdecisionSafe
      bundleId := hbundleId, bundleIdSafe := hbundleSafe, bundleSha256 := hdigest
      bundleDigest := hdigestHex, actor := hactor, actorKind := hkind, decision := hdecision
      verdict := hverdict, summary := hsummary, findings := hfindings, createdAtUtc := hcreated
      attestation := hattestation, patchDigest := hpatch, correctionBrief := rfl
      escalation := rfl }, ⟨hactorSafe, hsummaryText, hfindingRules, fun h => ?_⟩, hcommit⟩
    have hdecisionReject : decision = .reject := by
      simp only [List.mem_cons, List.not_mem_nil, or_false] at hverdict
      exact hverdict.resolve_left h
    exact (hreject (by rw [hdecisionReject]; rfl)).1
  -- from what is read to the schema; only a rejection has a conditional
  · rintro ⟨payload, d, rfl, hreads, hshared, honly⟩
    refine ⟨⟨payload, rfl, hreads.keys, hreads.protocol, hreads.version, hreads.messageType,
      ⟨_, hreads.decisionId, hreads.decisionIdSafe⟩, ⟨_, hreads.bundleId, hreads.bundleIdSafe⟩,
      ⟨_, hreads.bundleSha256, hreads.bundleDigest⟩,
      ⟨_, _, hreads.actor, hshared.actorId, hreads.actorKind⟩,
      ⟨_, hreads.decision, hreads.verdict⟩, ⟨_, hreads.summary, hshared.summary⟩,
      ⟨_, hreads.findings, hshared.findings⟩, ⟨_, hreads.createdAtUtc⟩,
      ⟨_, _, hreads.attestation, honly, hreads.patchDigest⟩, List.forall_mem_nil _⟩, ?_, rfl⟩
    rw [whenDecision_iff hreads.keys (by decide), hreads.decision]
    simp only [List.forall_mem_cons, hreads.findings.minItems_one_iff]
    intro h
    have hdecision : d.decision = .reject := ReviewDecision.text_injective (Json.str.inj h)
    exact ⟨hshared.nonEmpty (by rw [hdecision]; decide), List.forall_mem_nil _⟩

/-! ## Validators and schemas -/

/-- The critic decision a document spells. -/
def ReadsCriticDocument (document : Json) (d : ValidatedDecision) : Prop :=
  ∃ payload, document = .obj payload ∧ ReadsCritic payload d

/-- The verifier decision a document spells. -/
def ReadsVerifierDocument (document : Json) (d : ValidatedDecision) : Prop :=
  ∃ payload, document = .obj payload ∧ ReadsVerifier payload d

theorem criticDecisionAccepted_iff (document : Json) : criticDecisionAccepted document ↔
    ∃ d, ReadsCriticDocument document d ∧ CodeRules d := by
  cases document with
  | obj payload =>
      rw [criticDecisionAccepted, passes_iff]
      refine exists_congr fun d => ?_
      rw [validateCriticDecision_eq_ok]
      simp [ReadsCriticDocument]
  | _ => simp [criticDecisionAccepted, ReadsCriticDocument]

theorem verifierDecisionAccepted_iff (document : Json) : verifierDecisionAccepted document ↔
    ∃ d, ReadsVerifierDocument document d ∧ CodeRules d := by
  cases document with
  | obj payload =>
      rw [verifierDecisionAccepted, passes_iff]
      refine exists_congr fun d => ?_
      rw [validateVerifierDecision_eq_ok]
      simp [ReadsVerifierDocument]
  | _ => simp [verifierDecisionAccepted, ReadsVerifierDocument]

theorem NonBlank.ne_empty {text : String} (h : NonBlank text) : text ≠ "" := by
  rintro rfl
  cases h

theorem ne_empty_of_isSafeId {text : String} (h : isSafeId text) : text ≠ "" := by
  rintro rfl
  cases h

theorem CodeCorrection.schema {brief : CorrectionBrief} (h : CodeCorrection brief) :
    SchemaCorrection brief where
  rationale := h.rationale.ne_empty
  nonEmpty := List.length_pos_of_ne_nil h.nonEmpty
  instructions := fun text htext => (h.instructions text htext).ne_empty
  validationFocus := fun text htext => (h.validationFocus text htext).ne_empty

/-- The two options every escalation offers are two options. -/
theorem CodeEscalation.schema {request : EscalationRequest} (h : CodeEscalation request) :
    SchemaEscalation request where
  reason := h.reason.ne_empty
  question := h.question.ne_empty
  several := by
    have hnodup : escalationOptions.Nodup := by decide
    exact (List.subperm_of_subset hnodup h.offered).length_le
  options := fun text htext => (h.options text htext).ne_empty

theorem CodeRules.criticShared {d : ValidatedDecision} (h : CodeRules d) : CriticShared d where
  actorId := ne_empty_of_isSafeId h.actorId
  summary := h.summary.ne_empty
  findings := fun finding hfinding => ⟨ne_empty_of_isSafeId (h.findings.each finding hfinding).code,
    (h.findings.each finding hfinding).message.ne_empty⟩
  nonEmpty := h.findings.nonEmpty
  correctionBrief := fun brief hbrief => (h.correctionBrief brief hbrief).schema
  escalation := fun request hrequest => (h.escalation request hrequest).schema

theorem CodeRules.verifierShared {d : ValidatedDecision} (h : CodeRules d) : VerifierShared d where
  actorId := h.actorId
  summary := h.summary.ne_empty
  findings := fun finding hfinding => ⟨(h.findings.each finding hfinding).code,
    (h.findings.each finding hfinding).message.ne_empty,
    fun path hpath => ((h.findings.each finding hfinding).path path hpath).ne_empty⟩
  nonEmpty := h.findings.nonEmpty

/-- Two descriptions of one format, the first with the rules `code`, the second with
    `shared` and `only`, agree on a document when the rules agree on what it spells. -/
theorem exists_rules_iff {α : Type} {reads code shared only : α → Prop}
    (unique : ∀ {a b}, reads a → reads b → a = b) (hshared : ∀ {a}, code a → shared a) :
    ((∃ a, reads a ∧ code a) ↔ ∃ a, reads a ∧ shared a ∧ only a) ↔
      ∀ a, reads a → shared a → (code a ↔ only a) := by
  constructor
  · intro h a ha hs
    constructor
    · intro hcode
      obtain ⟨b, hb, -, honly⟩ := h.mp ⟨a, ha, hcode⟩
      rwa [unique ha hb]
    · intro honly
      obtain ⟨b, hb, hcode⟩ := h.mpr ⟨a, ha, hs, honly⟩
      rwa [unique ha hb]
  · intro h
    constructor
    · rintro ⟨a, ha, hcode⟩
      exact ⟨a, ha, hshared hcode, (h a ha (hshared hcode)).mp hcode⟩
    · rintro ⟨a, ha, hs, honly⟩
      exact ⟨a, ha, (h a ha hs).mpr honly⟩

/-- The validators accept a document exactly when the published schemas do. -/
def SchemasAgree (document : Json) : Prop :=
  (criticDecisionAccepted document ↔ criticDecisionSchema document) ∧
    (verifierDecisionAccepted document ↔ verifierDecisionSchema document)

/-- On the documents of the common shape that keep the shared rules, the schemas agree with the
    validators exactly when the validators' rules about texts come to the 40 digits of the commit
    and, for a critic, to an approval without findings. -/
theorem schemasAgree_iff (document : Json) : SchemasAgree document ↔
    (∀ d, ReadsCriticDocument document d → CriticShared d → (CodeRules d ↔ CriticSchemaOnly d)) ∧
      ∀ d, ReadsVerifierDocument document d → VerifierShared d →
        (CodeRules d ↔ VerifierSchemaOnly d) := by
  have hcritic : criticDecisionSchema document ↔
      ∃ d, ReadsCriticDocument document d ∧ CriticShared d ∧ CriticSchemaOnly d := by
    rw [criticDecisionSchema_iff, exists_comm]
    simp only [ReadsCriticDocument, ← and_assoc, exists_and_right]
  have hverifier : verifierDecisionSchema document ↔
      ∃ d, ReadsVerifierDocument document d ∧ VerifierShared d ∧ VerifierSchemaOnly d := by
    rw [verifierDecisionSchema_iff, exists_comm]
    simp only [ReadsVerifierDocument, ← and_assoc, exists_and_right]
  have hcriticUnique : ∀ {a b}, ReadsCriticDocument document a → ReadsCriticDocument document b →
      a = b := by
    rintro a b ⟨payload, rfl, ha⟩ ⟨payload', h, hb⟩
    obtain rfl := Json.obj.inj h
    exact ha.unique hb
  have hverifierUnique : ∀ {a b}, ReadsVerifierDocument document a →
      ReadsVerifierDocument document b → a = b := by
    rintro a b ⟨payload, rfl, ha⟩ ⟨payload', h, hb⟩
    obtain rfl := Json.obj.inj h
    exact ha.unique hb
  rw [SchemasAgree, criticDecisionAccepted_iff, verifierDecisionAccepted_iff, hcritic, hverifier,
    exists_rules_iff hcriticUnique CodeRules.criticShared,
    exists_rules_iff hverifierUnique CodeRules.verifierShared]

/-- A critic decision, with its verdict, its summary and its findings. -/
def sampleCriticDecision (decision summary : String) (findings : List Json) : Json := .obj [
  ("protocol", .str "hoh.protocol"), ("protocol_version", .str "2.0"),
  ("message_type", .str "critic.decision"), ("decision_id", .str "decision-1"),
  ("bundle_id", .str "bundle-1"), ("bundle_sha256", .str (String.ofList (List.replicate 64 'a'))),
  ("critic", .obj [("identity", .str "critic-1"), ("kind", .str "agent")]),
  ("decision", .str decision), ("summary", .str summary), ("findings", .arr findings),
  ("correction_brief", .null), ("escalation", .null),
  ("created_at_utc", .str "2026-01-01T00:00:00Z"),
  ("attestation", .obj [
    ("reviewed_commit", .str (String.ofList (List.replicate 40 'b'))),
    ("reviewed_patch_sha256", .str (String.ofList (List.replicate 64 'c')))])]

/-- A finding that does not stand in the way of an approval. -/
def infoFinding : Json :=
  .obj [("code", .str "STYLE"), ("severity", .str "info"), ("message", .str "Consider a rename.")]

/-- The validator accepts an approval with an informational finding, the schema does not. -/
theorem not_schemasAgree_approvalWithFinding : ¬ ∀ document, SchemasAgree document := by
  intro h
  have haccepted : criticDecisionAccepted (sampleCriticDecision "approve" "Fine." [infoFinding]) := by
    decide +kernel
  have hrefused : ¬ criticDecisionSchema (sampleCriticDecision "approve" "Fine." [infoFinding]) := by
    decide +kernel
  exact hrefused ((h _).1.mp haccepted)

/-- The schema accepts a summary of white space, the validator does not. -/
example : criticDecisionSchema (sampleCriticDecision "approve" "  " []) = true ∧
    criticDecisionAccepted (sampleCriticDecision "approve" "  " []) = false := by decide +kernel

end LlmHarness
