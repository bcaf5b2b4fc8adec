/-
  LlmHarness.Review.Integrity

  Runs of decision imports among the other calls of the store.  The recorded
  decisions hold one decision for each bundle and for each decision id, each
  bound to its recorded bundle, and the critic of a three-head decision is the
  one its bundle names.
-/

import LlmHarness.Review.Import
import LlmHarness.State.Footprint

namespace LlmHarness

open Python StoreM Guards

/-- A step of a run: an import, an import that a crash cuts short after its first `written`
    writes, or another call.  The files and the repository an import finds are its own. -/
inductive ReviewEvent where
  | importDecision (call : ImportCall)
  | interruptedImport (call : ImportCall) (written : Nat)
  | other (op : Op) (keeps : op.recordsDecision = false)

/-- The durable writes of a step. -/
def ReviewEvent.writes (runtime : Runtime) (event : ReviewEvent) (s : Store) : List Write :=
  match event with
  | .importDecision call => (importVerifierDecision runtime call s).writes
  | .interruptedImport call written => (importVerifierDecision runtime call s).writes.take written
  | .other op _ => opWrites op s

/-- The store after a step. -/
def reviewStep (runtime : Runtime) (s : Store) (event : ReviewEvent) : Store :=
  s.applyAll (event.writes runtime s)

/-- The store after a sequence of steps, from an empty one. -/
def reviewRun (runtime : Runtime) (events : List ReviewEvent) : Store :=
  events.foldl (reviewStep runtime) Store.empty

/-- A valid bundle document with the given canonical content. -/
def HasContent (runtime : Runtime) (bundle : Payload) (content : Text) : Prop :=
  ∃ members, bundle.val = .obj members ∧ ValidBundle runtime members ∧
    canonicalJson (bundleContent members) = content

/-- A bundle document of the three-head protocol. -/
def Python.Payload.isStrict (bundle : Payload) : Prop :=
  ∃ members, bundle.val = .obj members ∧ LlmHarness.isStrict members

/-- The critic a bundle document names. -/
def Python.Payload.NamesCritic (bundle : Payload) (identity : String) : Prop :=
  ∃ members, bundle.val = .obj members ∧ criticIdentity members = .ok (.str identity)

/-- A decision agrees with its recorded bundle. -/
structure BoundTo (d : ReviewDecisionRecord) (b : ReviewBundleRecord) : Prop where
  commit : d.commit = b.commit
  bundleSha256 : d.bundleSha256 = b.bundleSha256
  runId : d.runId = b.runId
  workItemId : d.workItemId = b.workItemId

/-- A decision was made on the bundle with its digest: that bundle is of the three-head protocol
    exactly when the decision is, and then it names the reviewer as its critic. -/
def MadeOnBundle (runtime : Runtime) (d : ReviewDecisionRecord) : Prop :=
  ∃ content, runtime.sha256 content = d.bundleSha256 ∧
    (∃ bundle, HasContent runtime bundle content) ∧
    ∀ bundle, HasContent runtime bundle content →
      (bundle.isStrict ↔ d.isStrict) ∧ (bundle.isStrict → bundle.NamesCritic d.reviewerId)

/-- Decision integrity. -/
structure DecisionIntegrity (runtime : Runtime) (s : Store) : Prop where
  decisionIds : s.reviewDecisions.Pairwise fun a b => a.decisionId ≠ b.decisionId
  bundleIds : s.reviewDecisions.Pairwise fun a b => a.bundleId ≠ b.bundleId
  bound : ∀ d ∈ s.reviewDecisions, ∃ b,
    s.reviewBundles.find? (fun item => item.bundleId = d.bundleId) = some b ∧ BoundTo d b
  made : ∀ d ∈ s.reviewDecisions, MadeOnBundle runtime d

/-! ## One import -/

variable {runtime : Runtime} {s : Store}

/-- What an accepted import knows of its bundle. -/
theorem ImportChecked.made {call : ImportCall} {document : List (String × Json)}
    {validated : ValidatedDecision} {record : ReviewBundleRecord} {bundle : List (String × Json)}
    (h : ImportChecked runtime call s document validated record bundle) (importedAt : String) :
    MadeOnBundle runtime (decisionRecord validated record importedAt) := by
  -- the file the import read, as a payload
  obtain ⟨payload, hfile, hbundle⟩ := bind_eq_ok.mp h.bundleRead
  obtain ⟨hval, hdistinct⟩ : payload.val = .obj bundle ∧ (Json.obj bundle).DistinctKeys := by
    cases hp : payload.val with
    | obj members =>
        rw [hp] at hbundle
        obtain rfl := pure_eq_ok.mp hbundle
        exact ⟨rfl, hp ▸ payload.property⟩
    | _ => simp [hp, refuseReview] at hbundle
  refine ⟨canonicalJson (bundleContent bundle), h.digest.trans h.recordDigest.symm,
    ⟨payload, bundle, hval, h.valid, rfl⟩, ?_⟩
  -- any payload with this digest has the same content, so it is strict when the bundle is
  rintro other ⟨members, hother, -, hcontent⟩
  have hmembers : (Json.obj members).DistinctKeys := hother ▸ other.property
  have hstrict : isStrict members ↔ isStrict bundle :=
    ⟨isStrict_of_content hmembers hdistinct hcontent,
      isStrict_of_content hdistinct hmembers hcontent.symm⟩
  have hdecision : isStrict bundle ↔ (decisionRecord validated record importedAt).isStrict := by
    rw [h.strict, ← protocolVersion_of_validateDecision h.documentValid]
    exact decide_eq_true_iff.symm
  have hother' : other.isStrict ↔ isStrict members := by
    constructor
    · rintro ⟨members', hmembers', hs⟩
      obtain rfl : members' = members := Json.obj.inj (hmembers'.symm.trans hother)
      exact hs
    · exact fun hs => ⟨members, hother, hs⟩
  -- a strict one names the same critic
  refine ⟨hother'.trans (hstrict.trans hdecision), fun hs => ⟨members, hother, ?_⟩⟩
  exact criticIdentity_of_content hdistinct hmembers hcontent.symm
    (h.critic (hstrict.mp (hother'.mp hs)))

/-- `record_review_decision` on an id that is not recorded yet. -/
theorem findReviewDecision_of_fresh {record : ReviewDecisionRecord} {decisions : List ReviewDecisionRecord}
    (h : ∀ d ∈ decisions, d.decisionId ≠ record.decisionId) :
    findReviewDecision record decisions = .ok none ↔
      ∀ d ∈ decisions, d.bundleId ≠ record.bundleId := by
  induction decisions with
  | nil => simp [findReviewDecision]
  | cons d decisions ih =>
      obtain ⟨hd, hrest⟩ := List.forall_mem_cons.mp h
      rw [findReviewDecision, if_neg hd, List.forall_mem_cons]
      by_cases hb : d.bundleId = record.bundleId
      · simp [hb]
      · simp [hb, ih hrest]

theorem findReviewDecision_ne_some {record existing : ReviewDecisionRecord}
    {decisions : List ReviewDecisionRecord} (h : ∀ d ∈ decisions, d.decisionId ≠ record.decisionId) :
    findReviewDecision record decisions ≠ .ok (some existing) := by
  induction decisions with
  | nil => simp [findReviewDecision]
  | cons d decisions ih =>
      obtain ⟨hd, hrest⟩ := List.forall_mem_cons.mp h
      rw [findReviewDecision, if_neg hd]
      split
      · simp
      · exact ih hrest

theorem recordReviewDecision_of_new {record : ReviewDecisionRecord}
    (h : findReviewDecision record s.reviewDecisions = .ok none) :
    recordReviewDecision record s =
      ⟨[.reviewDecision record, .journal (decisionEvent record)], .ok record⟩ := by
  rw [recordReviewDecision, read_bind, h, lift_bind_ok _ rfl]
  rfl

theorem recordReviewDecision_of_error {record : ReviewDecisionRecord} {e : StateStoreError}
    (h : findReviewDecision record s.reviewDecisions = .error e) :
    recordReviewDecision record s = ⟨[], .error e⟩ := by
  rw [recordReviewDecision, read_bind, h, lift_bind_error _ rfl]

/-- The application of a recorded decision, for a three-head decision. -/
def applyPart (record : ReviewDecisionRecord) (now : String) : StoreM ReviewDecisionRecord :=
  if record.isStrict then do
    applyStrictDecisionIfPending record now
    return record
  else return record

theorem executeImport_recorded (existing : ReviewDecisionRecord) (now : String) :
    executeImport (.recorded existing) now = applyPart existing now := rfl

/-- A new decision is appended, journalled twice and then applied. -/
theorem executeImport_new {record : ReviewDecisionRecord} (document : Json) (now : String)
    (h : findReviewDecision record s.reviewDecisions = .ok none) :
    let appended := [.reviewDecision record, .journal (decisionEvent record),
      .journal (decisionPayloadEvent record document)]
    executeImport (.fresh record document) now s =
      ⟨appended ++ (applyPart record now (s.applyAll appended)).writes,
        (applyPart record now (s.applyAll appended)).value⟩ := by
  rw [executeImport, bind_of_ok (recordReviewDecision_of_new h), write_bind]
  rfl

theorem executeImport_error {record : ReviewDecisionRecord} {document : Json} {now : String}
    {e : StateStoreError} (h : findReviewDecision record s.reviewDecisions = .error e) :
    executeImport (.fresh record document) now s = ⟨[], .error e⟩ := by
  rw [executeImport, bind_of_error (recordReviewDecision_of_error h)]

theorem writesOnly_applyPart (record : ReviewDecisionRecord) (now : String) :
    WritesOnly NoDecision (applyPart record now) := by
  refine writesOnly_ite (WritesOnly.bind ?_ fun _ => writesOnly_pure _) (writesOnly_pure _)
  refine (writesOnly_read _).bind fun tasks => ?_
  split
  · exact writesOnly_refuse _
  · refine writesOnly_ite (writesOnly_pure _) ?_
    exact (writesOnly_resolveReview allows_noDecision ..).bind fun _ => writesOnly_pure _

/-- What an import of a new decision may append. -/
structure Appendable (runtime : Runtime) (s : Store) (record : ReviewDecisionRecord) : Prop where
  decisionId : ∀ d ∈ s.reviewDecisions, d.decisionId ≠ record.decisionId
  bundleId : ∀ d ∈ s.reviewDecisions, d.bundleId ≠ record.bundleId
  bound : ∃ b, s.reviewBundles.find? (fun item => item.bundleId = record.bundleId) = some b ∧
    BoundTo record b
  made : MadeOnBundle runtime record

/-- A new decision whose checks passed. -/
theorem ImportChecked.appendable {call : ImportCall} {document : List (String × Json)}
    {validated : ValidatedDecision} {record : ReviewBundleRecord} {bundle : List (String × Json)}
    (h : ImportChecked runtime call s document validated record bundle) (importedAt : String)
    (hnew : ∀ d ∈ s.reviewDecisions, d.decisionId ≠ validated.decisionId)
    (hfree : ∀ d ∈ s.reviewDecisions, d.bundleId ≠ record.bundleId) :
    Appendable runtime s (decisionRecord validated record importedAt) where
  decisionId := hnew
  bundleId := hfree
  bound := by
    have hid : record.bundleId = validated.bundleId := by simpa using List.find?_some h.recorded
    refine ⟨record, ?_, ⟨rfl, rfl, rfl, rfl⟩⟩
    rw [← h.recorded]
    simp only [decisionRecord, hid]
  made := h.made importedAt

/-- The outcome of an import whose checks passed: the writes that record the decision, then those
    that apply it. -/
def appliedImport (recorded : List Write) (stored : ReviewDecisionRecord) (now : String) (s : Store) :
    ImportOutcome :=
  let outcome := applyPart stored now (s.applyAll recorded)
  ⟨recorded ++ outcome.writes, match outcome.value with
    | .ok record => .ok record
    | .error e => .error (.protocol e.message)⟩

/-- What an import can do. -/
inductive ImportRun (runtime : Runtime) (call : ImportCall) (s : Store) : ImportOutcome → Prop where
  /-- A check refused the document, or the store refused the record. -/
  | refused (e : ReviewError) : ImportRun runtime call s ⟨[], .error e⟩
  /-- The decision is recorded already. -/
  | again {document : List (String × Json)} {validated : ValidatedDecision}
      {record : ReviewBundleRecord} {bundle : List (String × Json)} {existing : ReviewDecisionRecord}
      (checked : ImportChecked runtime call s document validated record bundle)
      (found : s.reviewDecisions.find? (fun item => item.decisionId = validated.decisionId) =
        some existing)
      (same : decisionMatches existing validated record) :
    ImportRun runtime call s (appliedImport [] existing call.appliedAt s)
  /-- The decision is appended, and the journal gets the document. -/
  | fresh {document : List (String × Json)} {validated : ValidatedDecision}
      {record : ReviewBundleRecord} {bundle : List (String × Json)}
      (checked : ImportChecked runtime call s document validated record bundle)
      (newId : ∀ d ∈ s.reviewDecisions, d.decisionId ≠ validated.decisionId)
      (newBundle : ∀ d ∈ s.reviewDecisions, d.bundleId ≠ record.bundleId) :
    ImportRun runtime call s (appliedImport
      [.reviewDecision (decisionRecord validated record call.importedAt),
        .journal (decisionEvent (decisionRecord validated record call.importedAt)),
        .journal (decisionPayloadEvent (decisionRecord validated record call.importedAt)
          (.obj document))]
      (decisionRecord validated record call.importedAt) call.appliedAt s)

/-- The import of a decision whose id and bundle are new. -/
theorem importVerifierDecision_new {call : ImportCall} {document : List (String × Json)}
    {validated : ValidatedDecision} {record : ReviewBundleRecord} {bundle : List (String × Json)}
    (hchecked : ImportChecked runtime call s document validated record bundle)
    (hids : ∀ d ∈ s.reviewDecisions, d.decisionId ≠ validated.decisionId)
    (hbundles : ∀ d ∈ s.reviewDecisions, d.bundleId ≠ record.bundleId) :
    importVerifierDecision runtime call s = appliedImport
      [.reviewDecision (decisionRecord validated record call.importedAt),
        .journal (decisionEvent (decisionRecord validated record call.importedAt)),
        .journal (decisionPayloadEvent (decisionRecord validated record call.importedAt)
          (.obj document))]
      (decisionRecord validated record call.importedAt) call.appliedAt s := by
  have hfind : s.reviewDecisions.find? (fun item => item.decisionId = validated.decisionId) = none :=
    List.find?_eq_none.mpr fun d hd => by simpa using hids d hd
  have hplan : planImport runtime call s =
      .ok (.fresh (decisionRecord validated record call.importedAt) (.obj document)) :=
    planImport_eq_ok.mpr ⟨document, validated, record, bundle, hchecked, Or.inr ⟨hfind, rfl⟩⟩
  have hrecord : findReviewDecision (decisionRecord validated record call.importedAt)
      s.reviewDecisions = .ok none := (findReviewDecision_of_fresh hids).mpr hbundles
  have hexecute := executeImport_new (.obj document) call.appliedAt hrecord
  rw [importVerifierDecision, hplan]
  simp only [hexecute]
  rfl

/-- **Every import is one of these.** -/
theorem importRun (runtime : Runtime) (call : ImportCall) (s : Store) :
    ImportRun runtime call s (importVerifierDecision runtime call s) := by
  cases hplan : planImport runtime call s with
  | error e =>
      rw [importVerifierDecision, hplan]
      exact .refused e
  | ok plan =>
      obtain ⟨document, validated, record, bundle, hchecked, hcase⟩ := planImport_eq_ok.mp hplan
      rcases hcase with ⟨existing, hfound, hsame, rfl⟩ | ⟨hnew, rfl⟩
      · rw [importVerifierDecision, hplan]
        exact .again hchecked hfound hsame
      · have hids : ∀ d ∈ s.reviewDecisions, d.decisionId ≠ validated.decisionId := by
          intro d hd
          simpa using List.find?_eq_none.mp hnew d hd
        cases hfind : findReviewDecision (decisionRecord validated record call.importedAt)
            s.reviewDecisions with
        | error e =>
            rw [importVerifierDecision, hplan]
            simp only [executeImport_error hfind]
            exact .refused _
        | ok found =>
            cases found with
            | some existing => exact absurd hfind (findReviewDecision_ne_some hids)
            | none =>
                have hbundles := (findReviewDecision_of_fresh hids).mp hfind
                rw [importVerifierDecision_new hchecked hids hbundles]
                exact .fresh hchecked hids hbundles

/-- The first write of an import may append a decision, no later one does. -/
theorem importWrites (runtime : Runtime) (call : ImportCall) (s : Store) :
    (∀ w ∈ (importVerifierDecision runtime call s).writes, NoDecision w) ∨
      ∃ record rest, (importVerifierDecision runtime call s).writes = .reviewDecision record :: rest ∧
        (∀ w ∈ rest, NoDecision w) ∧ Appendable runtime s record := by
  have hrun := importRun runtime call s
  generalize importVerifierDecision runtime call s = outcome at hrun ⊢
  cases hrun with
  | refused => exact Or.inl fun w hw => absurd hw List.not_mem_nil
  | again checked found same => exact Or.inl fun w hw => (writesOnly_applyPart _ _).each _ w hw
  | fresh checked newId newBundle =>
      refine Or.inr ⟨_, _, rfl, ?_, checked.appendable _ newId newBundle⟩
      intro w hw
      rcases List.mem_append.mp hw with hw | hw
      · simp only [List.mem_cons, List.not_mem_nil, or_false] at hw
        rcases hw with rfl | rfl <;> rfl
      · exact (writesOnly_applyPart _ _).each _ w hw

/-! ## Runs -/

/-- Bundles that are recorded stay recorded under their id. -/
theorem find?_append_some {bundles more : List ReviewBundleRecord} {p : ReviewBundleRecord → Bool}
    {b : ReviewBundleRecord} (h : bundles.find? p = some b) : (bundles ++ more).find? p = some b := by
  rw [List.find?_append, h]
  rfl

/-- Integrity is kept by writes that append no decision. -/
theorem DecisionIntegrity.keep (h : DecisionIntegrity runtime s) {ws : List Write}
    (hws : ∀ w ∈ ws, NoDecision w) : DecisionIntegrity runtime (s.applyAll ws) := by
  have hdecisions : (s.applyAll ws).reviewDecisions = s.reviewDecisions := by
    rw [applyAll_reviewDecisions, List.filterMap_eq_nil_iff.mpr hws, List.append_nil]
  refine ⟨hdecisions ▸ h.decisionIds, hdecisions ▸ h.bundleIds, ?_, hdecisions ▸ h.made⟩
  intro d hd
  obtain ⟨b, hb, hbound⟩ := h.bound d (hdecisions ▸ hd)
  exact ⟨b, by rw [applyAll_reviewBundles]; exact find?_append_some hb, hbound⟩

/-- ... and by one append of a decision whose checks passed. -/
theorem DecisionIntegrity.append (h : DecisionIntegrity runtime s) {record : ReviewDecisionRecord}
    (hrecord : Appendable runtime s record) :
    DecisionIntegrity runtime (s.apply (.reviewDecision record)) where
  decisionIds := List.pairwise_append.mpr ⟨h.decisionIds, List.pairwise_singleton _ _,
    fun d hd d' hd' => List.mem_singleton.mp hd' ▸ hrecord.decisionId d hd⟩
  bundleIds := List.pairwise_append.mpr ⟨h.bundleIds, List.pairwise_singleton _ _,
    fun d hd d' hd' => List.mem_singleton.mp hd' ▸ hrecord.bundleId d hd⟩
  bound := by
    intro d hd
    rcases List.mem_append.mp hd with hd | hd
    · exact h.bound d hd
    · exact List.mem_singleton.mp hd ▸ hrecord.bound
  made := by
    intro d hd
    rcases List.mem_append.mp hd with hd | hd
    · exact h.made d hd
    · exact List.mem_singleton.mp hd ▸ hrecord.made

/-- A step keeps integrity, also one that a crash cuts short. -/
theorem decisionIntegrity_step (h : DecisionIntegrity runtime s) (event : ReviewEvent) :
    DecisionIntegrity runtime (reviewStep runtime s event) := by
  have himport : ∀ call written,
      DecisionIntegrity runtime (s.applyAll ((importVerifierDecision runtime call s).writes.take written)) := by
    intro call written
    rcases importWrites runtime call s with hnone | ⟨record, rest, hws, hrest, hrecord⟩
    · exact h.keep fun w hw => hnone w (List.mem_of_mem_take hw)
    · rw [hws]
      cases written with
      | zero => exact h
      | succ written =>
          exact (h.append hrecord).keep fun w hw => hrest w (List.mem_of_mem_take hw)
  cases event with
  | importDecision call =>
      have hall := himport call (importVerifierDecision runtime call s).writes.length
      rwa [List.take_length] at hall
  | interruptedImport call written => exact himport call written
  | other op keeps => exact h.keep (noDecision_of_op op keeps s)

/-- **Decision integrity.**  Whatever is imported, in any order and among any other calls of the
    store, the recorded decisions hold at most one for each bundle and each decision id, agree with
    their recorded bundles, and a three-head bundle's decision is its critic's. -/
theorem decisionIntegrity_reviewRun (runtime : Runtime) (events : List ReviewEvent) :
    DecisionIntegrity runtime (reviewRun runtime events) := by
  have hsteps : ∀ s, DecisionIntegrity runtime s →
      DecisionIntegrity runtime (events.foldl (reviewStep runtime) s) := by
    induction events with
    | nil => exact fun s hs => hs
    | cons event events ih => exact fun s hs => ih _ (decisionIntegrity_step hs event)
  exact hsteps _ ⟨.nil, .nil, nofun, nofun⟩

end LlmHarness
