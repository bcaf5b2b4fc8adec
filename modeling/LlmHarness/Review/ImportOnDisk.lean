/-
  LlmHarness.Review.ImportOnDisk

  `import_verifier_decision` on the JSONL files of its state root.  It reads the
  bundles and the decisions before it checks against them, and each append reads
  its log: a log that cannot be read ends the import where it is met.

  An import on disk writes a first part of what the import of the model writes, and
  one that returns is the import of the model.
-/

import LlmHarness.Review.Integrity
import LlmHarness.State.OnDisk

namespace LlmHarness

open Python StoreM Guards

/-! ## The import -/

/-- Reading a log: what it raises. -/
def readLog (s : Store) (log : Log) : Check Unit :=
  if s.Readable log then .ok () else .error (.state (corruptedLog log).message)

instance : Durable.World Store Write := ⟨Store.apply⟩

/-- A part of an import. -/
abbrev ImportM (α : Type) : Type := Durable.Program Store Write ReviewError α

/-- A call of the store, its error raised as another. -/
def storing {α : Type} (raised : String → ReviewError) (m : StoreM α) : ImportM α := fun s =>
  let outcome := m s
  ⟨outcome.writes, outcome.value.mapError fun e => raised e.message⟩

/-- The durable part of an import.  The error of a store call becomes `ReviewProtocolError`; the
    document is journalled by the import itself, and the error of that append leaves the
    transaction as `StateStoreError`. -/
def executeImportOnDisk (plan : ImportPlan) (appliedAt : String) : ImportM ReviewDecisionRecord :=
  match plan with
  | .recorded existing => storing .protocol (onDisk (applyPart existing appliedAt))
  | .fresh record document => do
    let stored ← storing .protocol (reading .reviewDecisions (onDisk (recordReviewDecision record)))
    storing .state (onDisk (write (.journal (decisionPayloadEvent record document))))
    storing .protocol (onDisk (applyPart stored appliedAt))

/-- `import_verifier_decision` on disk. -/
def importOnDisk (runtime : Runtime) (call : ImportCall) (s : Store) : ImportOutcome :=
  match planImportReading (readLog s .reviewBundles) (readLog s .reviewDecisions) runtime call s with
  | .error e => ⟨[], .error e⟩
  | .ok plan =>
    let outcome := executeImportOnDisk plan call.appliedAt s
    ⟨outcome.writes, outcome.value⟩

/-! ## Beside the import of the model -/

/-- A part of an import does what a call of the store does; the two may raise different errors. -/
def CarriesOut {α : Type} (m : ImportM α) (model : StoreM α) : Prop :=
  ∀ s, (m s).writes = (model s).writes ∧ ∀ a, (m s).value = .ok a ↔ (model s).value = .ok a

section

variable {α β : Type}

theorem carriesOut_storing (raised : String → ReviewError) (m : StoreM α) :
    CarriesOut (storing raised m) m := by
  intro s
  rw [storing]
  cases (m s).value with
  | error e => simp [Except.mapError]
  | ok a => simp [Except.mapError]

theorem CarriesOut.bind {m : ImportM α} {model : StoreM α} {next : α → ImportM β}
    {nextModel : α → StoreM β} (h : CarriesOut m model) (hnext : ∀ a, CarriesOut (next a) (nextModel a)) :
    CarriesOut (m >>= next) (model >>= nextModel) := by
  intro s
  obtain ⟨hwrites, hvalue⟩ := h s
  rw [Durable.bind_run, bind_run]
  cases hm : (model s).value with
  | ok a =>
      obtain ⟨hlater, hlast⟩ := hnext a (s.applyAll (model s).writes)
      simp only [(hvalue a).mpr hm, hwrites]
      exact ⟨congrArg _ hlater, hlast⟩
  | error e =>
      cases hfirst : (m s).value with
      | ok a =>
          have := (hvalue a).mp hfirst
          rw [hm] at this
          cases this
      | error e' => simp [hwrites]

end

variable {runtime : Runtime} {call : ImportCall} {s : Store}

theorem readLog_eq_ok {log : Log} : readLog s log = .ok () ↔ s.Readable log := by
  rw [readLog]
  split <;> simp [*]

/-- Reading a log raises no `ReviewProtocolError`. -/
theorem readLog_ne_protocol {log : Log} {message : String} :
    readLog s log ≠ .error (.protocol message) := by
  rw [readLog]
  split <;> simp

/-- A new decision on disk: its record, its document and its application, one after the other. -/
theorem onDisk_executeImport_fresh (record : ReviewDecisionRecord) (document : Json) (now : String) :
    onDisk (executeImport (.fresh record document) now) =
      onDisk (recordReviewDecision record) >>= fun stored =>
        onDisk (write (.journal (decisionPayloadEvent record document))) >>= fun _ =>
          onDisk (applyPart stored now) := by
  have hsequence : executeImport (.fresh record document) now =
      recordReviewDecision record >>= fun stored =>
        write (.journal (decisionPayloadEvent record document)) >>= fun _ =>
          applyPart stored now := rfl
  rw [hsequence, onDisk_bind]
  simp only [onDisk_bind]

/-- The durable part of an import does what the import of the model does on disk. -/
theorem executeImportOnDisk_run (hread : s.Readable .reviewDecisions) (plan : ImportPlan)
    (now : String) :
    (executeImportOnDisk plan now s).writes = (onDisk (executeImport plan now) s).writes ∧
      ∀ stored, (executeImportOnDisk plan now s).value = .ok stored ↔
        (onDisk (executeImport plan now) s).value = .ok stored := by
  cases plan with
  | recorded existing => exact carriesOut_storing _ _ s
  | fresh record document =>
      have hcarries := ((carriesOut_storing .protocol
        (reading .reviewDecisions (onDisk (recordReviewDecision record)))).bind fun stored =>
          (carriesOut_storing .state (onDisk (write (.journal
            (decisionPayloadEvent record document))))).bind fun _ =>
              carriesOut_storing .protocol (onDisk (applyPart stored now))) s
      -- the import has read the decisions before
      rwa [bind_run, reading_of_readable hread, ← bind_run, ← onDisk_executeImport_fresh] at hcarries

/-- The import on disk, where its checks pass. -/
theorem importOnDisk_run {plan : ImportPlan} (hplan : planImport runtime call s = .ok plan)
    (hbundles : s.Readable .reviewBundles) (hdecisions : s.Readable .reviewDecisions) :
    (importOnDisk runtime call s).writes = (onDisk (executeImport plan call.appliedAt) s).writes ∧
      ∀ stored, (importOnDisk runtime call s).value = .ok stored ↔
        (onDisk (executeImport plan call.appliedAt) s).value = .ok stored := by
  have hreading : planImportReading (readLog s .reviewBundles) (readLog s .reviewDecisions) runtime
      call s = .ok plan :=
    planImportReading_iff.mpr ⟨readLog_eq_ok.mpr hbundles, readLog_eq_ok.mpr hdecisions, hplan⟩
  rw [importOnDisk, hreading]
  exact executeImportOnDisk_run hdecisions plan call.appliedAt

/-- What an import on disk found: its checks passed on records it could read, or it raised before
    its first write. -/
theorem importOnDisk_cases (runtime : Runtime) (call : ImportCall) (s : Store) :
    (∃ e, importOnDisk runtime call s = ⟨[], .error e⟩ ∧
        planImportReading (readLog s .reviewBundles) (readLog s .reviewDecisions) runtime call s =
          .error e) ∨
      ∃ plan, planImport runtime call s = .ok plan ∧ s.Readable .reviewBundles ∧
        s.Readable .reviewDecisions := by
  cases hreading : planImportReading (readLog s .reviewBundles) (readLog s .reviewDecisions) runtime
      call s with
  | error e =>
      refine Or.inl ⟨e, ?_, rfl⟩
      rw [importOnDisk, hreading]
  | ok plan =>
      obtain ⟨hbundles, hdecisions, hplan⟩ := planImportReading_iff.mp hreading
      exact Or.inr ⟨plan, hplan, readLog_eq_ok.mp hbundles, readLog_eq_ok.mp hdecisions⟩

/-- The writes of an import whose checks pass. -/
theorem importVerifierDecision_run {plan : ImportPlan}
    (hplan : planImport runtime call s = .ok plan) :
    (importVerifierDecision runtime call s).writes = (executeImport plan call.appliedAt s).writes ∧
      ∀ stored, (importVerifierDecision runtime call s).value = .ok stored ↔
        (executeImport plan call.appliedAt s).value = .ok stored := by
  rw [importVerifierDecision, hplan]
  refine ⟨rfl, fun stored => ?_⟩
  dsimp only
  cases (executeImport plan call.appliedAt s).value with
  | error e => simp
  | ok record => simp

/-- **An import on disk is an import cut short.** -/
theorem importOnDisk_prefix (runtime : Runtime) (call : ImportCall) (s : Store) :
    (importOnDisk runtime call s).writes <+: (importVerifierDecision runtime call s).writes := by
  rcases importOnDisk_cases runtime call s with ⟨e, hrun, -⟩ | ⟨plan, hplan, hbundles, hdecisions⟩
  · rw [hrun]
    exact List.nil_prefix
  · rw [(importOnDisk_run hplan hbundles hdecisions).1, (importVerifierDecision_run hplan).1]
    exact prefix_onDisk_writes _ s

/-- **An import that returns on disk** is the import of the model. -/
theorem importOnDisk_of_ok {stored : ReviewDecisionRecord}
    (h : (importOnDisk runtime call s).value = .ok stored) :
    (importVerifierDecision runtime call s).value = .ok stored ∧
      (importOnDisk runtime call s).writes = (importVerifierDecision runtime call s).writes := by
  rcases importOnDisk_cases runtime call s with ⟨e, hrun, -⟩ | ⟨plan, hplan, hbundles, hdecisions⟩
  · rw [hrun] at h
    cases h
  · obtain ⟨hwrites, hvalue⟩ := importOnDisk_run hplan hbundles hdecisions
    have hok := (hvalue stored).mp h
    have hcomplete := onDisk_of_complete (complete_of_onDisk hok)
    rw [hcomplete] at hok hwrites
    obtain ⟨hmodelWrites, hmodelValue⟩ := importVerifierDecision_run hplan
    exact ⟨(hmodelValue stored).mpr hok, hwrites.trans hmodelWrites.symm⟩

/-- The first part of a call none of whose appends is refused. -/
theorem complete_left {α β : Type} {m : StoreM α} {next : α → StoreM β}
    (h : s.refusedLog? ((m >>= next) s).writes = none) : s.refusedLog? (m s).writes = none := by
  rw [bind_run] at h
  cases hvalue : (m s).value with
  | error e => rwa [hvalue] at h
  | ok a =>
      rw [hvalue, refusedLog?_append] at h
      exact (Option.or_eq_none_iff.mp h).1

/-- ... and its second part. -/
theorem complete_right {α β : Type} {m : StoreM α} {next : α → StoreM β} {a : α}
    (h : s.refusedLog? ((m >>= next) s).writes = none) (hvalue : (m s).value = .ok a) :
    (s.applyAll (m s).writes).refusedLog? (next a (s.applyAll (m s).writes)).writes = none := by
  rw [bind_run, hvalue, refusedLog?_append] at h
  exact (Option.or_eq_none_iff.mp h).2

theorem storing_onDisk {α : Type} {m : StoreM α} (raised : String → ReviewError)
    (h : s.refusedLog? (m s).writes = none) : storing raised (onDisk m) s = storing raised m s := by
  rw [storing, storing, onDisk_of_complete h]

theorem storing_bind {α β : Type} (raised : String → ReviewError) (m : StoreM α)
    (next : α → StoreM β) :
    storing raised (m >>= next) = storing raised m >>= fun a => storing raised (next a) := by
  funext s
  rw [storing, bind_run, Durable.bind_run, storing]
  cases (m s).value <;> rfl

/-- Two sequences that agree on a store and on what the first part leaves of it. -/
theorem importM_bind_congr {α β : Type} {m m' : ImportM α} {next next' : α → ImportM β}
    (hfirst : m s = m' s) (hnext : ∀ a, (m' s).value = .ok a →
      next a (s.applyAll (m' s).writes) = next' a (s.applyAll (m' s).writes)) :
    (m >>= next) s = (m' >>= next') s := by
  rw [Durable.bind_run, Durable.bind_run, hfirst]
  cases hvalue : (m' s).value with
  | error e => rfl
  | ok a =>
      have hlater : next a (Durable.applyAll s (m' s).writes) =
          next' a (Durable.applyAll s (m' s).writes) := hnext a hvalue
      simp only [hlater]

/-- The durable part of an import none of whose appends is refused. -/
theorem executeImportOnDisk_of_complete {plan : ImportPlan} {now : String}
    (hread : s.Readable .reviewDecisions)
    (h : s.refusedLog? (executeImport plan now s).writes = none) :
    executeImportOnDisk plan now s = storing .protocol (executeImport plan now) s := by
  cases plan with
  | recorded existing => exact storing_onDisk .protocol h
  | fresh record document =>
      have hsequence : executeImport (.fresh record document) now =
          recordReviewDecision record >>= fun stored =>
            write (.journal (decisionPayloadEvent record document)) >>= fun _ =>
              applyPart stored now := rfl
      rw [hsequence] at h
      rw [hsequence, storing_bind, executeImportOnDisk]
      refine importM_bind_congr ?_ fun stored hstored => ?_
      · rw [storing, reading_of_readable hread, ← storing]
        exact storing_onDisk .protocol (complete_left h)
      · have hrecord : (recordReviewDecision record s).value = .ok stored :=
          ((carriesOut_storing .protocol (recordReviewDecision record)) s).2 stored |>.mp hstored
        have hlater := complete_right h hrecord
        rw [storing_bind]
        refine importM_bind_congr ?_ fun _ _ => storing_onDisk .protocol (complete_right hlater rfl)
        -- the document is appended, so the error of this append does not matter
        exact (storing_onDisk .state (complete_left hlater)).trans rfl

/-- An import none of whose appends is refused is the import of the model. -/
theorem importOnDisk_of_complete {plan : ImportPlan} (hplan : planImport runtime call s = .ok plan)
    (hbundles : s.Readable .reviewBundles) (hdecisions : s.Readable .reviewDecisions)
    (h : s.refusedLog? (executeImport plan call.appliedAt s).writes = none) :
    importOnDisk runtime call s = importVerifierDecision runtime call s := by
  have hreading : planImportReading (readLog s .reviewBundles) (readLog s .reviewDecisions) runtime
      call s = .ok plan :=
    planImportReading_iff.mpr ⟨readLog_eq_ok.mpr hbundles, readLog_eq_ok.mpr hdecisions, hplan⟩
  rw [importOnDisk, hreading, importVerifierDecision, hplan]
  simp only [executeImportOnDisk_of_complete hdecisions h, storing]
  cases (executeImport plan call.appliedAt s).value with
  | error e => rfl
  | ok stored => rfl

/-- Where every log can be read after an import, the import on disk is the import of the model. -/
theorem importOnDisk_of_readable
    (h : ∀ log, (s.applyAll (importVerifierDecision runtime call s).writes).Readable log) :
    importOnDisk runtime call s = importVerifierDecision runtime call s := by
  have hbundles : s.Readable .reviewBundles := (h _).of_later
  have hdecisions : s.Readable .reviewDecisions := (h _).of_later
  cases hplan : planImport runtime call s with
  | error e =>
      have hreading : planImportReading (readLog s .reviewBundles) (readLog s .reviewDecisions)
          runtime call s = .error e := by
        rwa [readLog_eq_ok.mpr hbundles, readLog_eq_ok.mpr hdecisions]
      rw [importOnDisk, importVerifierDecision, hreading, hplan]
  | ok plan =>
      rw [(importVerifierDecision_run hplan).1] at h
      exact importOnDisk_of_complete hplan hbundles hdecisions (refusedLog?_of_readable h)

/-! ## Runs on disk -/

/-- What happens to a state root: a step of a run, or an event that another part of the program
    records in the journal. -/
inductive DiskReviewEvent where
  | review (event : ReviewEvent)
  | record (event : JournalEvent)

/-- The durable writes of a step on disk. -/
def ReviewEvent.diskWrites (runtime : Runtime) (event : ReviewEvent) (s : Store) : List Write :=
  match event with
  | .importDecision call => (importOnDisk runtime call s).writes
  | .interruptedImport call written => (importOnDisk runtime call s).writes.take written
  | .other op _ => LlmHarness.diskWrites op s

/-- The store after an event. -/
def diskReviewStep (runtime : Runtime) (s : Store) : DiskReviewEvent → Store
  | .review event => s.applyAll (event.diskWrites runtime s)
  | .record event => s.applyAll (onDisk (write (.journal event)) s).writes

/-- The store after a run, from an empty state root. -/
def diskReviewRun (runtime : Runtime) (events : List DiskReviewEvent) : Store :=
  events.foldl (diskReviewStep runtime) Store.empty

/-- A step that nothing cuts short. -/
def ReviewEvent.isComplete : ReviewEvent → Bool
  | .importDecision _ => true
  | .interruptedImport _ _ => false
  | .other op _ => op.isComplete

/-- Where every log can be read after a step, the step on disk is the step of the model. -/
theorem diskReviewStep_of_readable {event : ReviewEvent} (hcomplete : event.isComplete)
    (h : ∀ log, (reviewStep runtime s event).Readable log) :
    diskReviewStep runtime s (.review event) = reviewStep runtime s event := by
  rw [diskReviewStep, reviewStep]
  cases event with
  | importDecision call =>
      rw [ReviewEvent.diskWrites, importOnDisk_of_readable h]
      rfl
  | interruptedImport call written => cases hcomplete
  | other op keeps =>
      rw [ReviewEvent.diskWrites, diskWrites_of_readable hcomplete h]
      rfl

theorem reviewRun_append_singleton (runtime : Runtime) (events : List ReviewEvent)
    (event : ReviewEvent) :
    reviewRun runtime (events ++ [event]) = reviewStep runtime (reviewRun runtime events) event := by
  rw [reviewRun, List.foldl_append]
  rfl

/-- **Runs that can be read.**  A run on disk is the run of the model where every log can be read
    at its end. -/
theorem diskReviewRun_of_readable {events : List ReviewEvent}
    (hcomplete : ∀ event ∈ events, event.isComplete)
    (h : ∀ log, (reviewRun runtime events).Readable log) :
    diskReviewRun runtime (events.map .review) = reviewRun runtime events := by
  induction events using List.reverseRecOn with
  | nil => rfl
  | append_singleton events event ih =>
      rw [List.forall_mem_append, List.forall_mem_singleton] at hcomplete
      rw [reviewRun_append_singleton] at h ⊢
      have hbefore := ih hcomplete.1 fun log => (h log).of_later
      rw [List.map_append, diskReviewRun, List.foldl_append, ← diskReviewRun, hbefore]
      exact diskReviewStep_of_readable hcomplete.2 h

/-- ... and so is an import at its end. -/
theorem importOnDisk_diskReviewRun {events : List ReviewEvent}
    (hcomplete : ∀ event ∈ events, event.isComplete)
    (h : ∀ log, (reviewRun runtime (events ++ [.importDecision call])).Readable log) :
    importOnDisk runtime call (diskReviewRun runtime (events.map .review)) =
      importVerifierDecision runtime call (reviewRun runtime events) := by
  rw [reviewRun_append_singleton] at h
  rw [diskReviewRun_of_readable hcomplete fun log => (h log).of_later]
  exact importOnDisk_of_readable h

/-- Every step only writes. -/
theorem diskReviewStep_applies (runtime : Runtime) (s : Store) (event : DiskReviewEvent) :
    ∃ ws, diskReviewStep runtime s event = s.applyAll ws := by
  cases event with
  | review event => exact ⟨_, rfl⟩
  | record event => exact ⟨_, rfl⟩

end LlmHarness
