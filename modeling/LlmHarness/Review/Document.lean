/-
  LlmHarness.Review.Document

  What a decision document says, apart from the rules about its texts: the shape
  both the validators and the published schemas ask for.  `Reads` relates a
  document to the record it spells; a validator accepts exactly the documents
  that spell a record which keeps the validator's own rules about texts.
-/

import LlmHarness.Lib.Guards
import LlmHarness.Review.Decision

namespace LlmHarness

open Python Guards

/-! ## Shapes -/

/-- The members of an object are exactly the given ones. -/
def HasKeys (members : List (String × Json)) (keys : List String) : Prop :=
  (∀ key ∈ keys, key ∈ members.map Prod.fst) ∧ ∀ key ∈ members.map Prod.fst, key ∈ keys

/-- A string or null. -/
def optionalText : Option String → Json
  | none => .null
  | some text => .str text

/-- The finding a value spells. -/
def ReadsFinding (value : Json) (finding : ReviewFinding) : Prop :=
  ∃ members, value = .obj members ∧
    (∀ key ∈ ["code", "severity", "message"], key ∈ members.map Prod.fst) ∧
    (∀ key ∈ members.map Prod.fst, key ∈ ["code", "severity", "message", "path"]) ∧
    field members "code" = .str finding.code ∧
    field members "severity" = .str finding.severity ∧ finding.severity ∈ severities ∧
    field members "message" = .str finding.message ∧
    field members "path" = optionalText finding.path

/-- The findings a value spells. -/
def ReadsFindings (value : Json) (findings : List ReviewFinding) : Prop :=
  ∃ items, value = .arr items ∧ List.Forall₂ ReadsFinding items findings

/-- The correction brief a value spells. -/
def ReadsCorrection (value : Json) (brief : CorrectionBrief) : Prop :=
  ∃ members, value = .obj members ∧
    HasKeys members ["rationale", "instructions", "validation_focus"] ∧
    field members "rationale" = .str brief.rationale ∧
    field members "instructions" = textList brief.instructions ∧
    field members "validation_focus" = textList brief.validationFocus

/-- The escalation a value spells. -/
def ReadsEscalation (value : Json) (request : EscalationRequest) : Prop :=
  ∃ members, value = .obj members ∧ HasKeys members ["reason", "question", "options"] ∧
    field members "reason" = .str request.reason ∧
    field members "question" = .str request.question ∧
    field members "options" = textList request.options

/-- The brief and the escalation that come with a verdict. -/
def ReadsVerdict (decision : ReviewDecision) (correction escalation : Json)
    (brief : Option CorrectionBrief) (request : Option EscalationRequest) : Prop :=
  match decision with
  | .approve => correction = .null ∧ escalation = .null ∧ brief = none ∧ request = none
  | .reject => escalation = .null ∧ request = none ∧
      ∃ b, brief = some b ∧ ReadsCorrection correction b
  | .escalate => correction = .null ∧ brief = none ∧
      ∃ r, request = some r ∧ ReadsEscalation escalation r

/-- What sets the two decision formats apart. -/
structure DecisionFormat where
  keys : List String
  version : String
  messageType : String
  /-- The member that names the reviewer, and the member of it that is the identity. -/
  actor : String
  actorId : String
  verdicts : List ReviewDecision

/-- `verifier.decision` 1.0. -/
def verifierFormat : DecisionFormat where
  keys := verifierDecisionKeys
  version := protocolVersion
  messageType := "verifier.decision"
  actor := "reviewer"
  actorId := "id"
  verdicts := [.approve, .reject]

/-- `critic.decision` 2.0. -/
def criticFormat : DecisionFormat where
  keys := criticDecisionKeys
  version := threeHeadProtocolVersion
  messageType := "critic.decision"
  actor := "critic"
  actorId := "identity"
  verdicts := [.approve, .reject, .escalate]

/-- The decision an object spells, in the members both formats have. -/
structure Reads (format : DecisionFormat) (payload : List (String × Json)) (d : ValidatedDecision) :
    Prop where
  keys : HasKeys payload format.keys
  protocol : field payload "protocol" = .str protocolNamespace
  version : field payload "protocol_version" = .str format.version
  messageType : field payload "message_type" = .str format.messageType
  protocolVersion : d.protocolVersion = format.version
  decisionId : field payload "decision_id" = .str d.decisionId
  decisionIdSafe : isSafeId d.decisionId
  bundleId : field payload "bundle_id" = .str d.bundleId
  bundleIdSafe : isSafeId d.bundleId
  bundleSha256 : field payload "bundle_sha256" = .str d.bundleSha256
  bundleDigest : isLowerHexOf 64 d.bundleSha256
  actor : ∃ members, field payload format.actor = .obj members ∧
    HasKeys members [format.actorId, "kind"] ∧ field members format.actorId = .str d.actorId ∧
    field members "kind" = .str d.actorKind
  actorKind : d.actorKind ∈ reviewerKinds
  decision : field payload "decision" = .str d.decision.text
  verdict : d.decision ∈ format.verdicts
  summary : field payload "summary" = .str d.summary
  findings : ReadsFindings (field payload "findings") d.findings
  createdAtUtc : field payload "created_at_utc" = .str d.createdAtUtc
  attestation : ∃ members, field payload "attestation" = .obj members ∧
    HasKeys members ["reviewed_commit", "reviewed_patch_sha256"] ∧
    field members "reviewed_commit" = .str d.reviewedCommit ∧
    field members "reviewed_patch_sha256" = .str d.reviewedPatchSha256
  patchDigest : isLowerHexOf 64 d.reviewedPatchSha256

/-- The verifier decision an object spells. -/
structure ReadsVerifier (payload : List (String × Json)) (d : ValidatedDecision) : Prop
    extends Reads verifierFormat payload d where
  correctionBrief : d.correctionBrief = none
  escalation : d.escalation = none

/-- The critic decision an object spells. -/
structure ReadsCritic (payload : List (String × Json)) (d : ValidatedDecision) : Prop
    extends Reads criticFormat payload d where
  outcome : ReadsVerdict d.decision (field payload "correction_brief") (field payload "escalation")
    d.correctionBrief d.escalation

/-! ## A document spells at most one decision -/

/-- Two texts or `null`s that are printed alike are one. -/
theorem optionalText_injective : Function.Injective optionalText := by
  intro a b h
  cases a <;> cases b <;> simp [optionalText] at h ⊢
  exact h

/-- Two lists of texts that are printed alike are one. -/
theorem textList_injective : Function.Injective textList := by
  intro a b h
  exact List.map_injective_iff.mpr (fun _ _ h => Json.str.inj h) (Json.arr.inj h)

/-- A value is read as one finding. -/
theorem ReadsFinding.unique {value : Json} {a b : ReviewFinding} (ha : ReadsFinding value a)
    (hb : ReadsFinding value b) : a = b := by
  obtain ⟨members, rfl, -, -, hcode, hseverity, -, hmessage, hpath⟩ := ha
  obtain ⟨members', h, -, -, hcode', hseverity', -, hmessage', hpath'⟩ := hb
  obtain rfl := Json.obj.inj h
  cases a
  cases b
  simp only [hcode, hseverity, hmessage, hpath, Json.str.injEq] at hcode' hseverity' hmessage' hpath'
  rw [hcode', hseverity', hmessage', optionalText_injective hpath']

/-- A list is read as one list of findings. -/
theorem ReadsFindings.unique {value : Json} {as bs : List ReviewFinding}
    (ha : ReadsFindings value as) (hb : ReadsFindings value bs) : as = bs := by
  obtain ⟨items, rfl, has⟩ := ha
  obtain ⟨items', h, hbs⟩ := hb
  obtain rfl := Json.arr.inj h
  clear h
  induction has generalizing bs with
  | nil => exact (List.forall₂_nil_left_iff.mp hbs).symm
  | cons hhead _ ih =>
      cases hbs with
      | cons hhead' hbs => rw [hhead.unique hhead', ih hbs]

/-- A value is read as one correction brief. -/
theorem ReadsCorrection.unique {value : Json} {a b : CorrectionBrief} (ha : ReadsCorrection value a)
    (hb : ReadsCorrection value b) : a = b := by
  obtain ⟨members, rfl, -, hrationale, hinstructions, hfocus⟩ := ha
  obtain ⟨members', h, -, hrationale', hinstructions', hfocus'⟩ := hb
  obtain rfl := Json.obj.inj h
  cases a
  cases b
  simp only [hrationale, hinstructions, hfocus, Json.str.injEq] at hrationale' hinstructions' hfocus'
  rw [hrationale', textList_injective hinstructions', textList_injective hfocus']

/-- A value is read as one escalation. -/
theorem ReadsEscalation.unique {value : Json} {a b : EscalationRequest} (ha : ReadsEscalation value a)
    (hb : ReadsEscalation value b) : a = b := by
  obtain ⟨members, rfl, -, hreason, hquestion, hoptions⟩ := ha
  obtain ⟨members', h, -, hreason', hquestion', hoptions'⟩ := hb
  obtain rfl := Json.obj.inj h
  cases a
  cases b
  simp only [hreason, hquestion, hoptions, Json.str.injEq] at hreason' hquestion' hoptions'
  rw [hreason', hquestion', textList_injective hoptions']

/-- The decision and its two fields are read as one verdict. -/
theorem ReadsVerdict.unique {decision : ReviewDecision} {correction escalation : Json}
    {brief brief' : Option CorrectionBrief} {request request' : Option EscalationRequest}
    (h : ReadsVerdict decision correction escalation brief request)
    (h' : ReadsVerdict decision correction escalation brief' request') :
    brief = brief' ∧ request = request' := by
  cases decision with
  | approve =>
      obtain ⟨-, -, rfl, rfl⟩ := h
      obtain ⟨-, -, rfl, rfl⟩ := h'
      exact ⟨rfl, rfl⟩
  | reject =>
      obtain ⟨-, rfl, b, rfl, hb⟩ := h
      obtain ⟨-, rfl, b', rfl, hb'⟩ := h'
      rw [hb.unique hb']
      exact ⟨rfl, rfl⟩
  | escalate =>
      obtain ⟨-, rfl, r, rfl, hr⟩ := h
      obtain ⟨-, rfl, r', rfl, hr'⟩ := h'
      rw [hr.unique hr']
      exact ⟨rfl, rfl⟩

/-- The three decisions are spelled differently. -/
theorem ReviewDecision.text_injective : Function.Injective ReviewDecision.text := by
  intro a b h
  cases a <;> cases b <;> simp [ReviewDecision.text] at h ⊢

/-- Two decisions one object spells agree in the members both formats have. -/
theorem Reads.unique {format : DecisionFormat} {payload : List (String × Json)}
    {a b : ValidatedDecision} (ha : Reads format payload a) (hb : Reads format payload b)
    (hbrief : a.correctionBrief = b.correctionBrief) (hrequest : a.escalation = b.escalation) :
    a = b := by
  -- the two objects inside the document are the same
  obtain ⟨actor, hactor, -, hactorId, hactorKind⟩ := ha.actor
  obtain ⟨actor', hactor', -, hactorId', hactorKind'⟩ := hb.actor
  obtain ⟨attestation, hattestation, -, hcommit, hpatch⟩ := ha.attestation
  obtain ⟨attestation', hattestation', -, hcommit', hpatch'⟩ := hb.attestation
  obtain rfl : actor = actor' := Json.obj.inj (hactor.symm.trans hactor')
  obtain rfl : attestation = attestation' := Json.obj.inj (hattestation.symm.trans hattestation')
  -- every other field is a text
  have hstr : ∀ {v : Json} {s t : String}, v = .str s → v = .str t → s = t :=
    fun hs ht => Json.str.inj (hs.symm.trans ht)
  have hversion := ha.protocolVersion.trans hb.protocolVersion.symm
  have hdecisionId := hstr ha.decisionId hb.decisionId
  have hbundleId := hstr ha.bundleId hb.bundleId
  have hdigest := hstr ha.bundleSha256 hb.bundleSha256
  have hdecision := ReviewDecision.text_injective (hstr ha.decision hb.decision)
  have hsummary := hstr ha.summary hb.summary
  have hfindings := ha.findings.unique hb.findings
  have hcreated := hstr ha.createdAtUtc hb.createdAtUtc
  replace hactorId := hstr hactorId hactorId'
  replace hactorKind := hstr hactorKind hactorKind'
  replace hcommit := hstr hcommit hcommit'
  replace hpatch := hstr hpatch hpatch'
  cases a
  cases b
  simp_all only

/-- A v1 document is read as one decision. -/
theorem ReadsVerifier.unique {payload : List (String × Json)} {a b : ValidatedDecision}
    (ha : ReadsVerifier payload a) (hb : ReadsVerifier payload b) : a = b :=
  ha.toReads.unique hb.toReads (ha.correctionBrief.trans hb.correctionBrief.symm)
    (ha.escalation.trans hb.escalation.symm)

/-- A v2 document is read as one decision. -/
theorem ReadsCritic.unique {payload : List (String × Json)} {a b : ValidatedDecision}
    (ha : ReadsCritic payload a) (hb : ReadsCritic payload b) : a = b := by
  have hdecision : a.decision = b.decision :=
    ReviewDecision.text_injective (Json.str.inj (ha.decision.symm.trans hb.decision))
  have houtcome := ha.outcome
  rw [hdecision] at houtcome
  obtain ⟨hbrief, hrequest⟩ := houtcome.unique hb.outcome
  exact ha.toReads.unique hb.toReads hbrief hrequest

/-! ## The validators' rules about texts -/

/-- A text with a character that is not white space. -/
def NonBlank (text : String) : Prop := isBlank text.toList = false

instance (text : String) : Decidable (NonBlank text) := inferInstanceAs (Decidable (_ = _))

/-- The rules of `_normalize_findings`. -/
structure CodeFinding (decision : ReviewDecision) (finding : ReviewFinding) : Prop where
  code : isSafeId finding.code
  message : NonBlank finding.message
  path : ∀ path, finding.path = some path → NonBlank path
  severity : decision = .approve → finding.severity ∉ ["error", "blocker"]

/-- ... on the list. -/
structure CodeFindings (decision : ReviewDecision) (findings : List ReviewFinding) : Prop where
  each : ∀ finding ∈ findings, CodeFinding decision finding
  nonEmpty : decision ≠ .approve → findings ≠ []

/-- The rules of `_validate_correction_brief`. -/
structure CodeCorrection (brief : CorrectionBrief) : Prop where
  rationale : NonBlank brief.rationale
  nonEmpty : brief.instructions ≠ []
  instructions : ∀ text ∈ brief.instructions, NonBlank text
  validationFocus : ∀ text ∈ brief.validationFocus, NonBlank text

/-- The rules of `_validate_escalation`. -/
structure CodeEscalation (request : EscalationRequest) : Prop where
  reason : NonBlank request.reason
  question : NonBlank request.question
  options : ∀ text ∈ request.options, NonBlank text
  offered : ∀ text ∈ escalationOptions, text ∈ request.options

/-- The rules both validators have. -/
structure CodeRules (d : ValidatedDecision) : Prop where
  actorId : isSafeId d.actorId
  summary : NonBlank d.summary
  reviewedCommit : NonBlank d.reviewedCommit
  findings : CodeFindings d.decision d.findings
  correctionBrief : ∀ brief, d.correctionBrief = some brief → CodeCorrection brief
  escalation : ∀ request, d.escalation = some request → CodeEscalation request

/-! ## What each check accepts -/

theorem passes_iff {α : Type} (check : Check α) : passes check ↔ ∃ a, check = .ok a := by
  cases check <;> simp [passes]

theorem require_eq_ok {ok : Bool} {message : String} : require ok message = .ok () ↔ ok := by
  cases ok <;> simp [require, refuseReview]

theorem isText_iff (value : Json) (text : String) : isText value text ↔ value = .str text := by
  cases value <;> simp [isText]

/-- `_require_object` passes dicts. -/
theorem requireObject_eq_ok {value : Json} {label : String} {members : List (String × Json)} :
    requireObject value label = .ok members ↔ value = .obj members := by
  cases value <;> simp [requireObject, refuseReview]

/-- `_require_exact_keys` passes a dict with the keys and no others. -/
theorem requireExactKeys_eq_ok {payload : List (String × Json)} {keys : List String}
    {label : String} : requireExactKeys payload keys label = .ok () ↔ HasKeys payload keys := by
  rw [requireExactKeys, unit_bind_eq_ok, require_eq_ok, require_eq_ok, List.isEmpty_iff,
    List.isEmpty_iff, List.filter_eq_nil_iff, List.filter_eq_nil_iff]
  simp [HasKeys]

/-- The three members that name the protocol have one value each. -/
theorem requireProtocolVersion_eq_ok {payload : List (String × Json)} {version messageType : String} :
    requireProtocolVersion payload version messageType = .ok () ↔
      field payload "protocol" = .str protocolNamespace ∧
        field payload "protocol_version" = .str version ∧
        field payload "message_type" = .str messageType := by
  rw [requireProtocolVersion, unit_bind_eq_ok, unit_bind_eq_ok, require_eq_ok, require_eq_ok,
    require_eq_ok, isText_iff, isText_iff, isText_iff]

/-- A safe id is a string that the id pattern matches. -/
theorem requireSafeId_eq_ok {value : Json} {label s : String} :
    requireSafeId value label = .ok s ↔ value = .str s ∧ isSafeId s := by
  cases value with
  | str text =>
      rw [requireSafeId, Json.str.injEq]
      by_cases h : isSafeId text
      · rw [if_pos h, Except.ok.injEq]
        exact ⟨fun heq => ⟨heq, heq ▸ h⟩, fun heq => heq.1⟩
      · rw [if_neg h]
        exact iff_of_false (by simp [refuseReview]) fun heq => h (heq.1 ▸ heq.2)
  | _ => simp [requireSafeId, refuseReview]

/-- A digest is a string of 64 lower-case hexadecimal digits. -/
theorem requireSha256_eq_ok {value : Json} {message s : String} :
    requireSha256 value message = .ok s ↔ value = .str s ∧ isLowerHexOf 64 s := by
  cases value with
  | str text =>
      rw [requireSha256, Json.str.injEq]
      by_cases h : isLowerHexOf 64 text
      · rw [if_pos h, Except.ok.injEq]
        exact ⟨fun heq => ⟨heq, heq ▸ h⟩, fun heq => heq.1⟩
      · rw [if_neg h]
        exact iff_of_false (by simp [refuseReview]) fun heq => h (heq.1 ▸ heq.2)
  | _ => simp [requireSha256, refuseReview]

/-- A text that has to say something is a string that is not blank. -/
theorem requireNonBlank_eq_ok {value : Json} {message s : String} :
    requireNonBlank value message = .ok s ↔ value = .str s ∧ NonBlank s := by
  cases value with
  | str text =>
      rw [requireNonBlank, Json.str.injEq]
      by_cases h : isBlank text.toList
      · rw [if_pos h]
        refine iff_of_false (by simp [refuseReview]) fun heq => ?_
        have hnot : isBlank text.toList = false := heq.1 ▸ heq.2
        rw [hnot] at h
        cases h
      · rw [if_neg h, Except.ok.injEq]
        exact ⟨fun heq => ⟨heq, heq ▸ Bool.eq_false_of_not_eq_true h⟩, fun heq => heq.1⟩
  | _ => simp [requireNonBlank, refuseReview]

/-- A member of an enumeration is one of its strings. -/
theorem requireMember_eq_ok {value : Json} {allowed : List String} {message s : String} :
    requireMember value allowed message = .ok s ↔ value = .str s ∧ s ∈ allowed := by
  cases value with
  | str text =>
      rw [requireMember, Json.str.injEq]
      by_cases h : text ∈ allowed
      · rw [if_pos h, Except.ok.injEq]
        exact ⟨fun heq => ⟨heq, heq ▸ h⟩, fun heq => heq.1⟩
      · rw [if_neg h]
        exact iff_of_false (by simp [refuseReview]) fun heq => h (heq.1 ▸ heq.2)
  | _ => simp [requireMember, refuseReview]

/-- A timestamp is a string that `fromisoformat` reads, with an offset. -/
theorem requireTimestamp_eq_ok {fromisoformat : String → Option Bool} {value : Json}
    {label s : String} : requireTimestamp fromisoformat value label = .ok s ↔
      value = .str s ∧ fromisoformat (offsetSpelled s) = some true := by
  cases value with
  | str text =>
      rw [requireTimestamp, Json.str.injEq]
      cases h : fromisoformat (offsetSpelled text) with
      | none => exact iff_of_false (by simp [refuseReview]) fun heq => by simp [← heq.1, h] at heq
      | some aware =>
          cases aware with
          | false => exact iff_of_false (by simp [refuseReview]) fun heq => by simp [← heq.1, h] at heq
          | true =>
              rw [Except.ok.injEq]
              exact ⟨fun heq => ⟨heq, heq ▸ h⟩, fun heq => heq.1⟩
  | _ => simp [requireTimestamp, refuseReview]

/-- A loop of text checks accepts a list of strings that are not blank. -/
theorem forall₂_nonBlank {items : List Json} {message : String} {texts : List String} :
    List.Forall₂ (fun item text => requireNonBlank item message = .ok text) items texts ↔
      items = texts.map Json.str ∧ ∀ text ∈ texts, NonBlank text := by
  induction texts generalizing items with
  | nil => simp
  | cons text texts ih =>
      rw [List.forall₂_cons_right_iff, List.map_cons, List.forall_mem_cons]
      constructor
      · rintro ⟨item, rest, hitem, hrest, rfl⟩
        obtain ⟨rfl, htext⟩ := requireNonBlank_eq_ok.mp hitem
        obtain ⟨rfl, htexts⟩ := ih.mp hrest
        exact ⟨rfl, htext, htexts⟩
      · rintro ⟨rfl, htext, htexts⟩
        exact ⟨_, _, requireNonBlank_eq_ok.mpr ⟨rfl, htext⟩, ih.mpr ⟨rfl, htexts⟩, rfl⟩

/-- A list of texts holds strings that are not blank, and one at least where it has to. -/
theorem requireTexts_eq_ok {value : Json} {nonEmpty : Bool} {listMessage itemMessage : String}
    {texts : List String} : requireTexts value nonEmpty listMessage itemMessage = .ok texts ↔
      value = textList texts ∧ (nonEmpty → texts ≠ []) ∧ ∀ text ∈ texts, NonBlank text := by
  cases value with
  | arr items =>
      rw [requireTexts, textList, Json.arr.injEq]
      by_cases h : nonEmpty && items.isEmpty
      · rw [if_pos h]
        refine iff_of_false (by simp [refuseReview]) ?_
        rintro ⟨rfl, hne, -⟩
        rw [Bool.and_eq_true] at h
        exact hne h.1 (by simpa using h.2)
      · rw [if_neg h, mapM_eq_ok, forall₂_nonBlank]
        refine and_congr_right fun hitems => ⟨fun htexts => ⟨fun hnonEmpty hnil => ?_, htexts⟩,
          fun htexts => htexts.2⟩
        subst hitems hnil
        exact h (by simp [hnonEmpty])
  | _ => simp [requireTexts, refuseReview, textList]

/-- A decision is spelled as one of those that are allowed. -/
theorem requireDecision_eq_ok {value : Json} {allowed : List ReviewDecision} {message : String}
    {decision : ReviewDecision} : requireDecision value allowed message = .ok decision ↔
      value = .str decision.text ∧ decision ∈ allowed := by
  rw [requireDecision, bind_eq_ok]
  constructor
  -- the text is one of the allowed ones, and spells only one decision
  · rintro ⟨text, htext, hfind⟩
    obtain ⟨rfl, -⟩ := requireMember_eq_ok.mp htext
    cases hfound : allowed.find? fun decision => decision.text = text with
    | none => simp [hfound, refuseReview] at hfind
    | some found =>
        rw [hfound] at hfind
        obtain rfl := pure_eq_ok.mp hfind
        have hspelled : found.text = text := by simpa using List.find?_some hfound
        rw [hspelled]
        exact ⟨rfl, List.mem_of_find?_eq_some hfound⟩
  · rintro ⟨rfl, hallowed⟩
    refine ⟨decision.text, requireMember_eq_ok.mpr ⟨rfl, List.mem_map_of_mem hallowed⟩, ?_⟩
    have hfound : allowed.find? (fun d => decide (d.text = decision.text)) = some decision := by
      cases hfound : allowed.find? fun d => decide (d.text = decision.text) with
      | none => exact absurd (decide_eq_true rfl) (List.find?_eq_none.mp hfound decision hallowed)
      | some found =>
          have hspelled : found.text = decision.text := by simpa using List.find?_some hfound
          rw [ReviewDecision.text_injective hspelled]
    rw [hfound]
    rfl

/-! ## What the validators accept -/

/-- An optional text is `null` or a string that is not blank. -/
theorem requireOptionalText_eq_ok {value : Json} {message : String} {text : Option String} :
    requireOptionalText value message = .ok text ↔
      value = optionalText text ∧ ∀ t, text = some t → NonBlank t := by
  -- an optional text is null or a text that is not blank
  have hsome : ∀ value : Json, (requireNonBlank value message).map some = .ok text ↔
      ∃ t, text = some t ∧ value = .str t ∧ NonBlank t := by
    intro value
    cases h : requireNonBlank value message with
    | error e =>
        refine iff_of_false (by simp [Except.map]) ?_
        rintro ⟨t, -, ht⟩
        rw [requireNonBlank_eq_ok.mpr ht] at h
        cases h
    | ok s =>
        obtain ⟨rfl, hs⟩ := requireNonBlank_eq_ok.mp h
        simp only [Except.map, Except.ok.injEq, Json.str.injEq]
        constructor
        · rintro rfl
          exact ⟨s, rfl, rfl, hs⟩
        · rintro ⟨t, rfl, rfl, -⟩
          rfl
  cases value with
  | null =>
      cases text with
      | none => simp [requireOptionalText, optionalText]
      | some t => simp [requireOptionalText, optionalText]
  | _ =>
      rw [requireOptionalText, hsome]
      · cases text with
        | none => simp [optionalText]
        | some t => simp [optionalText]
      · simp

/-- A finding is normalized where it is read as one that the code accepts with the decision. -/
theorem normalizeFinding_eq_ok {decision : ReviewDecision} {index : Nat} {raw : Json}
    {finding : ReviewFinding} : normalizeFinding decision index raw = .ok finding ↔
      ReadsFinding raw finding ∧ CodeFinding decision finding := by
  simp only [normalizeFinding, bind_eq_ok, exists_unit, pure_eq_ok, requireObject_eq_ok,
    require_eq_ok, requireSafeId_eq_ok, requireMember_eq_ok, requireNonBlank_eq_ok,
    requireOptionalText_eq_ok, Bool.and_eq_true, List.all_eq_true, decide_eq_true_eq,
    Bool.not_eq_true', Bool.and_eq_false_iff, decide_eq_false_iff_not]
  constructor
  · rintro ⟨members, rfl, ⟨hrequired, hallowed⟩, code, ⟨hcode, hcodeSafe⟩, severity,
      ⟨hseverity, hsevere⟩, happrove, message, ⟨hmessage, hmessageText⟩, path, ⟨hpath, hpathText⟩, rfl⟩
    refine ⟨⟨members, rfl, hrequired, hallowed, hcode, hseverity, hsevere, hmessage, hpath⟩,
      ⟨hcodeSafe, hmessageText, hpathText, fun hdecision => ?_⟩⟩
    -- the severity is looked at only on an approval
    rcases happrove with hnot | hnot
    · exact absurd hdecision hnot
    · exact hnot
  · rintro ⟨⟨members, rfl, hrequired, hallowed, hcode, hseverity, hsevere, hmessage, hpath⟩,
      ⟨hcodeSafe, hmessageText, hpathText, happrove⟩⟩
    refine ⟨members, rfl, ⟨hrequired, hallowed⟩, _, ⟨hcode, hcodeSafe⟩, _, ⟨hseverity, hsevere⟩, ?_,
      _, ⟨hmessage, hmessageText⟩, _, ⟨hpath, hpathText⟩, rfl⟩
    by_cases hdecision : decision = .approve
    · exact Or.inr (happrove hdecision)
    · exact Or.inl hdecision

/-- The findings are normalized one by one, and the first that is refused ends the list. -/
theorem normalizeFindingsFrom_eq_ok {decision : ReviewDecision} {index : Nat} {items : List Json}
    {findings : List ReviewFinding} : normalizeFindingsFrom decision index items = .ok findings ↔
      List.Forall₂ ReadsFinding items findings ∧ ∀ finding ∈ findings, CodeFinding decision finding := by
  induction items generalizing index findings with
  | nil =>
      rw [normalizeFindingsFrom, Except.ok.injEq, List.forall₂_nil_left_iff]
      constructor
      · rintro rfl
        exact ⟨rfl, by simp⟩
      · exact fun h => h.1.symm
  | cons raw rest ih =>
      simp only [normalizeFindingsFrom, bind_eq_ok, pure_eq_ok, normalizeFinding_eq_ok, ih]
      rw [List.forall₂_cons_left_iff]
      constructor
      · rintro ⟨finding, ⟨hreads, hcode⟩, findings, ⟨hrest, hcodes⟩, rfl⟩
        exact ⟨⟨finding, findings, hreads, hrest, rfl⟩, List.forall_mem_cons.mpr ⟨hcode, hcodes⟩⟩
      · rintro ⟨⟨finding, findings, hreads, hrest, rfl⟩, hcodes⟩
        obtain ⟨hcode, hcodes⟩ := List.forall_mem_cons.mp hcodes
        exact ⟨finding, ⟨hreads, hcode⟩, findings, ⟨hrest, hcodes⟩, rfl⟩

/-- `_normalize_findings` accepts a list of findings that fits the decision. -/
theorem normalizeFindings_eq_ok {decision : ReviewDecision} {value : Json}
    {findings : List ReviewFinding} : normalizeFindings value decision = .ok findings ↔
      ReadsFindings value findings ∧ CodeFindings decision findings := by
  cases value with
  | arr items =>
      have hreads : ReadsFindings (.arr items) findings ↔ List.Forall₂ ReadsFinding items findings := by
        constructor
        · rintro ⟨items', hitems, h⟩
          rwa [Json.arr.inj hitems]
        · exact fun h => ⟨items, rfl, h⟩
      rw [normalizeFindings, hreads]
      -- only an approval may have no findings
      by_cases hempty : decision ≠ .approve ∧ items = []
      · rw [if_pos hempty]
        refine iff_of_false (by simp [refuseReview]) ?_
        rintro ⟨h, hcode⟩
        rw [hempty.2, List.forall₂_nil_left_iff] at h
        exact hcode.nonEmpty hempty.1 h
      · rw [if_neg hempty, normalizeFindingsFrom_eq_ok]
        refine and_congr_right fun h => ⟨fun hcodes => ⟨hcodes, fun hdecision hnil => ?_⟩,
          fun hcodes => hcodes.each⟩
        subst hnil
        exact hempty ⟨hdecision, List.forall₂_nil_right_iff.mp h⟩
  | _ => simp [normalizeFindings, refuseReview, ReadsFindings]

/-- A correction brief is accepted where it is read as one that the code accepts. -/
theorem validateCorrectionBrief_eq_ok {value : Json} {brief : CorrectionBrief} :
    validateCorrectionBrief value = .ok brief ↔ ReadsCorrection value brief ∧ CodeCorrection brief := by
  simp only [validateCorrectionBrief, bind_eq_ok, exists_unit, pure_eq_ok, requireObject_eq_ok,
    requireExactKeys_eq_ok, requireNonBlank_eq_ok, requireTexts_eq_ok]
  constructor
  · rintro ⟨members, rfl, hkeys, rationale, ⟨hrationale, hrationaleText⟩, instructions,
      ⟨hinstructions, hne, hinstructionTexts⟩, focus, ⟨hfocus, -, hfocusTexts⟩, rfl⟩
    exact ⟨⟨members, rfl, hkeys, hrationale, hinstructions, hfocus⟩,
      ⟨hrationaleText, hne trivial, hinstructionTexts, hfocusTexts⟩⟩
  · rintro ⟨⟨members, rfl, hkeys, hrationale, hinstructions, hfocus⟩, hcode⟩
    exact ⟨members, rfl, hkeys, _, ⟨hrationale, hcode.rationale⟩, _,
      ⟨hinstructions, fun _ => hcode.nonEmpty, hcode.instructions⟩, _,
      ⟨hfocus, by simp, hcode.validationFocus⟩, rfl⟩

/-- ... and so is an escalation. -/
theorem validateEscalation_eq_ok {value : Json} {request : EscalationRequest} :
    validateEscalation value = .ok request ↔ ReadsEscalation value request ∧ CodeEscalation request := by
  simp only [validateEscalation, bind_eq_ok, exists_unit, pure_eq_ok, requireObject_eq_ok,
    requireExactKeys_eq_ok, requireNonBlank_eq_ok, requireTexts_eq_ok, require_eq_ok,
    List.all_eq_true, decide_eq_true_eq]
  constructor
  · rintro ⟨members, rfl, hkeys, reason, ⟨hreason, hreasonText⟩, question,
      ⟨hquestion, hquestionText⟩, options, ⟨hoptions, -, hoptionTexts⟩, hoffered, rfl⟩
    exact ⟨⟨members, rfl, hkeys, hreason, hquestion, hoptions⟩,
      ⟨hreasonText, hquestionText, hoptionTexts, hoffered⟩⟩
  · rintro ⟨⟨members, rfl, hkeys, hreason, hquestion, hoptions⟩, hcode⟩
    exact ⟨members, rfl, hkeys, _, ⟨hreason, hcode.reason⟩, _, ⟨hquestion, hcode.question⟩, _,
      ⟨hoptions, by simp, hcode.options⟩, hcode.offered, rfl⟩

/-- The attestation names a commit and the digest of its patch. -/
theorem validateAttestation_eq_ok {value : Json} {commit patchSha256 : String} :
    validateAttestation value = .ok (commit, patchSha256) ↔
      (∃ members, value = .obj members ∧ HasKeys members ["reviewed_commit", "reviewed_patch_sha256"] ∧
        field members "reviewed_commit" = .str commit ∧
        field members "reviewed_patch_sha256" = .str patchSha256) ∧
      NonBlank commit ∧ isLowerHexOf 64 patchSha256 := by
  simp only [validateAttestation, bind_eq_ok, exists_unit, pure_eq_ok, requireObject_eq_ok,
    requireExactKeys_eq_ok, requireNonBlank_eq_ok, requireSha256_eq_ok, Prod.mk.injEq]
  constructor
  · rintro ⟨members, rfl, hkeys, c, ⟨hcommit, hcommitText⟩, p, ⟨hpatch, hdigest⟩, rfl, rfl⟩
    exact ⟨⟨members, rfl, hkeys, hcommit, hpatch⟩, hcommitText, hdigest⟩
  · rintro ⟨⟨members, rfl, hkeys, hcommit, hpatch⟩, hcommitText, hdigest⟩
    exact ⟨members, rfl, hkeys, _, ⟨hcommit, hcommitText⟩, _, ⟨hpatch, hdigest⟩, rfl, rfl⟩

theorem isNone_iff (value : Json) : isNone value ↔ value = .null := by
  cases value <;> simp [isNone]

/-- Each decision has its own fields: an approval none, a rejection the brief, an escalation the
    request. -/
theorem validateVerdict_eq_ok {decision : ReviewDecision} {correction escalation : Json}
    {brief : Option CorrectionBrief} {request : Option EscalationRequest} :
    validateVerdict decision correction escalation = .ok (brief, request) ↔
      ReadsVerdict decision correction escalation brief request ∧
        (∀ b, brief = some b → CodeCorrection b) ∧ ∀ r, request = some r → CodeEscalation r := by
  -- an object is not null
  have hbrief : ∀ {value : Json} {b : CorrectionBrief}, ReadsCorrection value b → isNone value = false := by
    rintro _ b ⟨members, rfl, -⟩
    rfl
  have hrequest : ∀ {value : Json} {r : EscalationRequest}, ReadsEscalation value r →
      isNone value = false := by
    rintro _ r ⟨members, rfl, -⟩
    rfl
  cases decision with
  | approve =>
      simp only [validateVerdict, unit_bind_eq_ok, require_eq_ok, Bool.and_eq_true, isNone_iff,
        pure_eq_ok, Prod.mk.injEq, ReadsVerdict]
      constructor
      · rintro ⟨⟨hcorrection, hescalation⟩, rfl, rfl⟩
        exact ⟨⟨hcorrection, hescalation, rfl, rfl⟩, by simp, by simp⟩
      · rintro ⟨⟨hcorrection, hescalation, rfl, rfl⟩, -, -⟩
        exact ⟨⟨hcorrection, hescalation⟩, rfl, rfl⟩
  | reject =>
      simp only [validateVerdict, bind_eq_ok, exists_unit, require_eq_ok, Bool.and_eq_true,
        isNone_iff, Bool.not_eq_true', pure_eq_ok, Prod.mk.injEq, ReadsVerdict,
        validateCorrectionBrief_eq_ok]
      constructor
      · rintro ⟨⟨-, hescalation⟩, b, ⟨hreads, hcode⟩, rfl, rfl⟩
        refine ⟨⟨hescalation, rfl, b, rfl, hreads⟩, ?_, by simp⟩
        rintro b' hb
        rwa [← Option.some.inj hb]
      · rintro ⟨⟨hescalation, rfl, b, rfl, hreads⟩, hcode, -⟩
        exact ⟨⟨hbrief hreads, hescalation⟩, b, ⟨hreads, hcode b rfl⟩, rfl, rfl⟩
  | escalate =>
      simp only [validateVerdict, bind_eq_ok, exists_unit, require_eq_ok, Bool.and_eq_true,
        isNone_iff, Bool.not_eq_true', pure_eq_ok, Prod.mk.injEq, ReadsVerdict,
        validateEscalation_eq_ok]
      constructor
      · rintro ⟨⟨-, hcorrection⟩, r, ⟨hreads, hcode⟩, rfl, rfl⟩
        refine ⟨⟨hcorrection, rfl, r, rfl, hreads⟩, by simp, ?_⟩
        rintro r' hr
        rwa [← Option.some.inj hr]
      · rintro ⟨⟨hcorrection, rfl, r, rfl, hreads⟩, -, hcode⟩
        exact ⟨⟨hrequest hreads, hcorrection⟩, r, ⟨hreads, hcode r rfl⟩, rfl, rfl⟩

/-- A v1 document names the protocol in its first version. -/
theorem requireProtocol_eq_ok {payload : List (String × Json)} {messageType : String} :
    requireProtocol payload messageType = .ok () ↔
      field payload "protocol" = .str protocolNamespace ∧
        field payload "protocol_version" = .str protocolVersion ∧
        field payload "message_type" = .str messageType :=
  requireProtocolVersion_eq_ok

/-- `validate_verifier_decision` accepts what spells a decision that keeps its rules. -/
theorem validateVerifierDecision_eq_ok {fromisoformat : String → Option Bool}
    {payload : List (String × Json)} {d : ValidatedDecision} :
    validateVerifierDecision fromisoformat payload = .ok d ↔
      ReadsVerifier payload d ∧ CodeRules d ∧
        fromisoformat (offsetSpelled d.createdAtUtc) = some true := by
  simp only [validateVerifierDecision, bind_eq_ok, exists_unit, pure_eq_ok, Prod.exists,
    requireExactKeys_eq_ok, requireProtocol_eq_ok, requireSafeId_eq_ok, requireSha256_eq_ok,
    requireObject_eq_ok, requireMember_eq_ok, requireDecision_eq_ok, requireNonBlank_eq_ok,
    requireTimestamp_eq_ok, validateAttestation_eq_ok, normalizeFindings_eq_ok]
  -- the checks in the order of the source, each naming the field it reads
  constructor
  · rintro ⟨hkeys, ⟨hprotocol, hversion, htype⟩, decisionId, ⟨hdecisionId, hdecisionSafe⟩,
      bundleId, ⟨hbundleId, hbundleSafe⟩, digest, ⟨hdigest, hdigestHex⟩, reviewer, hreviewer,
      hreviewerKeys, actorId, ⟨hactor, hactorSafe⟩, kind, ⟨hkind, hkindAllowed⟩, decision,
      ⟨hdecision, hverdict⟩, summary, ⟨hsummary, hsummaryText⟩, created, ⟨hcreated, htime⟩,
      commit, patch, ⟨⟨attestation, hattestation⟩, hcommitText, hpatchHex⟩, findings,
      ⟨hfindings, hfindingRules⟩, rfl⟩
    exact ⟨{
      keys := hkeys, protocol := hprotocol, version := hversion, messageType := htype
      protocolVersion := rfl, decisionId := hdecisionId, decisionIdSafe := hdecisionSafe
      bundleId := hbundleId, bundleIdSafe := hbundleSafe, bundleSha256 := hdigest
      bundleDigest := hdigestHex, actor := ⟨reviewer, hreviewer, hreviewerKeys, hactor, hkind⟩
      actorKind := hkindAllowed, decision := hdecision, verdict := hverdict, summary := hsummary
      findings := hfindings, createdAtUtc := hcreated, attestation := ⟨attestation, hattestation⟩
      patchDigest := hpatchHex, correctionBrief := rfl, escalation := rfl }, {
      actorId := hactorSafe, summary := hsummaryText, reviewedCommit := hcommitText
      findings := hfindingRules, correctionBrief := by simp, escalation := by simp }, htime⟩
  · rintro ⟨hreads, hrules, htime⟩
    obtain ⟨reviewer, hreviewer, hreviewerKeys, hactor, hkind⟩ := hreads.actor
    refine ⟨hreads.keys, ⟨hreads.protocol, hreads.version, hreads.messageType⟩, _,
      ⟨hreads.decisionId, hreads.decisionIdSafe⟩, _, ⟨hreads.bundleId, hreads.bundleIdSafe⟩, _,
      ⟨hreads.bundleSha256, hreads.bundleDigest⟩, reviewer, hreviewer, hreviewerKeys, _,
      ⟨hactor, hrules.actorId⟩, _, ⟨hkind, hreads.actorKind⟩, _, ⟨hreads.decision, hreads.verdict⟩,
      _, ⟨hreads.summary, hrules.summary⟩, _, ⟨hreads.createdAtUtc, htime⟩, _, _,
      ⟨hreads.attestation, hrules.reviewedCommit, hreads.patchDigest⟩, _,
      ⟨hreads.findings, hrules.findings⟩, ?_⟩
    cases d
    obtain rfl := hreads.protocolVersion
    obtain rfl := hreads.correctionBrief
    obtain rfl := hreads.escalation
    rfl

/-- `validate_critic_decision` accepts what spells a decision that keeps its rules. -/
theorem validateCriticDecision_eq_ok {fromisoformat : String → Option Bool}
    {payload : List (String × Json)} {d : ValidatedDecision} :
    validateCriticDecision fromisoformat payload = .ok d ↔
      ReadsCritic payload d ∧ CodeRules d ∧
        fromisoformat (offsetSpelled d.createdAtUtc) = some true := by
  simp only [validateCriticDecision, bind_eq_ok, exists_unit, pure_eq_ok, Prod.exists,
    requireExactKeys_eq_ok, requireProtocolVersion_eq_ok, requireSafeId_eq_ok, requireSha256_eq_ok,
    requireObject_eq_ok, requireMember_eq_ok, requireDecision_eq_ok, requireNonBlank_eq_ok,
    requireTimestamp_eq_ok, validateAttestation_eq_ok, normalizeFindings_eq_ok,
    validateVerdict_eq_ok]
  constructor
  -- The checks in the order the validator makes them, each filed under the rule it is.
  · rintro ⟨hkeys, ⟨hprotocol, hversion, htype⟩, decisionId, ⟨hdecisionId, hdecisionSafe⟩,
      bundleId, ⟨hbundleId, hbundleSafe⟩, digest, ⟨hdigest, hdigestHex⟩, critic, hcritic,
      hcriticKeys, actorId, ⟨hactor, hactorSafe⟩, kind, ⟨hkind, hkindAllowed⟩, decision,
      ⟨hdecision, hverdict⟩, summary, ⟨hsummary, hsummaryText⟩, created, ⟨hcreated, htime⟩,
      commit, patch, ⟨⟨attestation, hattestation⟩, hcommitText, hpatchHex⟩, findings,
      ⟨hfindings, hfindingRules⟩, brief, request, ⟨houtcome, hbrief, hrequest⟩, rfl⟩
    exact ⟨{
      keys := hkeys, protocol := hprotocol, version := hversion, messageType := htype
      protocolVersion := rfl, decisionId := hdecisionId, decisionIdSafe := hdecisionSafe
      bundleId := hbundleId, bundleIdSafe := hbundleSafe, bundleSha256 := hdigest
      bundleDigest := hdigestHex, actor := ⟨critic, hcritic, hcriticKeys, hactor, hkind⟩
      actorKind := hkindAllowed, decision := hdecision, verdict := hverdict, summary := hsummary
      findings := hfindings, createdAtUtc := hcreated, attestation := ⟨attestation, hattestation⟩
      patchDigest := hpatchHex, outcome := houtcome }, {
      actorId := hactorSafe, summary := hsummaryText, reviewedCommit := hcommitText
      findings := hfindingRules, correctionBrief := hbrief, escalation := hrequest }, htime⟩
  · rintro ⟨hreads, hrules, htime⟩
    obtain ⟨critic, hcritic, hcriticKeys, hactor, hkind⟩ := hreads.actor
    refine ⟨hreads.keys, ⟨hreads.protocol, hreads.version, hreads.messageType⟩, _,
      ⟨hreads.decisionId, hreads.decisionIdSafe⟩, _, ⟨hreads.bundleId, hreads.bundleIdSafe⟩, _,
      ⟨hreads.bundleSha256, hreads.bundleDigest⟩, critic, hcritic, hcriticKeys, _,
      ⟨hactor, hrules.actorId⟩, _, ⟨hkind, hreads.actorKind⟩, _, ⟨hreads.decision, hreads.verdict⟩,
      _, ⟨hreads.summary, hrules.summary⟩, _, ⟨hreads.createdAtUtc, htime⟩, _, _,
      ⟨hreads.attestation, hrules.reviewedCommit, hreads.patchDigest⟩, _,
      ⟨hreads.findings, hrules.findings⟩, _, _,
      ⟨hreads.outcome, hrules.correctionBrief, hrules.escalation⟩, ?_⟩
    -- The version of a decision is the one the validator writes.
    cases d
    obtain rfl := hreads.protocolVersion
    rfl

end LlmHarness
