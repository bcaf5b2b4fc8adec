/-
  LlmHarness.State.OnDisk

  The store on its JSONL files.  An append reads the whole log before it writes, and a
  log with a line that `read_jsonl` refuses takes no further record: the call raises
  `StateStoreError` there and keeps what it has written so far.

  A call on disk writes a prefix of what the call of the model writes, so what a run of
  the model keeps when its calls are cut short, a run on disk keeps.
-/

import Mathlib.Data.List.Infix
import LlmHarness.Journal.Interaction
import LlmHarness.State.Invariants

namespace LlmHarness

open Python StateCodec StoreM

/-! ## The lines of the logs -/

/-- The JSONL files of a state root. -/
inductive Log where
  | history
  | rollbackRecords
  | reviewBundles
  | reviewDecisions
  | operatorEvents
  | auditReports
  | journal
deriving DecidableEq

/-- The logs, one after the other. -/
def Log.all : List Log :=
  [.history, .rollbackRecords, .reviewBundles, .reviewDecisions, .operatorEvents, .auditReports,
    .journal]

theorem Log.mem_all (log : Log) : log ∈ Log.all := by
  cases log <;> decide

/-- The name of the file. -/
def Log.fileName : Log → String
  | .history => "history.jsonl"
  | .rollbackRecords => "rollback-records.jsonl"
  | .reviewBundles => "review-bundles.jsonl"
  | .reviewDecisions => "review-decisions.jsonl"
  | .operatorEvents => "operator-events.jsonl"
  | .auditReports => "audit-reports.jsonl"
  | .journal => "interaction-journal.jsonl"

/-- The literal of an event type. -/
def JournalEventType.text : JournalEventType → String
  | .interaction => "interaction"
  | .toolCall => "tool_call"
  | .toolResult => "tool_result"
  | .stateTransition => "state_transition"
  | .artifact => "artifact"
  | .decision => "decision"

/-- The `content` an event is recorded with: `enqueue_many` puts `from` and `to` beside what
    it announces, `_transition_event` puts its details into a member of their own. -/
def JournalEvent.recordedContent (event : JournalEvent) : Json :=
  match event.transition, event.content with
  | none, content => content
  | some ⟨none, current⟩, .obj members =>
    .obj (("from", .null) :: ("to", .str current.text) :: members)
  | some ⟨previous, current⟩, content =>
    .obj [("from", optionJson (fun status => .str status.text) previous),
      ("to", .str current.text), ("details", content)]

/-- The arguments of `journal.record`. -/
def JournalEvent.entry (event : JournalEvent) : Journal.Entry where
  eventType := event.eventType.text
  actor := event.actor
  action := event.action
  recipient := event.recipient
  content := .ofJson event.recordedContent
  metadata := none
  taskId := event.taskId
  runId := event.runId
  correlationId := event.correlationId

/-- The line of an event.  Its id and its time, which hold no separator, are left blank. -/
def JournalEvent.line (event : JournalEvent) : Json :=
  Journal.journalEventPayload (Journal.journalEvent "" "" event.entry)

/-- The directory the paths of the records are relative to. -/
def stateRoot : PurePath := PurePath.ofText []

/-- The line of a review bundle. -/
def ReviewBundleRecord.line (record : ReviewBundleRecord) : Json :=
  reviewBundleRecordToJson stateRoot
    { bundleId := record.bundleId
      createdAtUtc := record.createdAtUtc
      runId := record.runId
      workItemId := record.workItemId
      commit := record.commit
      bundleSha256 := record.bundleSha256
      bundlePath := PurePath.ofText record.bundlePath.toList }

/-- The line of an audit report. -/
def AuditRecord.line (record : AuditRecord) : Json :=
  auditRecordToJson stateRoot
    { auditId := record.auditId
      createdAtUtc := record.createdAtUtc
      ok := record.ok
      reportPath := PurePath.ofText record.reportPath.toList
      findingsCount := record.findingsCount
      commandResultsCount := record.commandResultsCount }

/-- The records of a log, as its file holds them. -/
def Store.lines (s : Store) : Log → List Json
  | .history => s.history.map runToJson
  | .rollbackRecords => s.rollbackRecords.map rollbackRecordToJson
  | .reviewBundles => s.reviewBundles.map ReviewBundleRecord.line
  | .reviewDecisions => s.reviewDecisions.map reviewDecisionRecordToJson
  | .operatorEvents => s.operatorEvents.map operatorEventToJson
  | .auditReports => s.auditReports.map AuditRecord.line
  | .journal => s.journal.map JournalEvent.line

/-- The log a write appends to, and the line it appends. -/
def Write.line? : Write → Option (Log × Json)
  | .queue _ => none
  | .history record => some (.history, runToJson record)
  | .rollbackRecord record => some (.rollbackRecords, rollbackRecordToJson record)
  | .reviewBundle record => some (.reviewBundles, record.line)
  | .reviewDecision record => some (.reviewDecisions, reviewDecisionRecordToJson record)
  | .operatorEvent event => some (.operatorEvents, operatorEventToJson event)
  | .auditReport record => some (.auditReports, record.line)
  | .telegramOffset _ => none
  | .journal event => some (.journal, event.line)

/-- Every line of the log is read back. -/
def Store.Readable (s : Store) (log : Log) : Prop := ∀ line ∈ s.lines log, line.LineSafe

instance (j : Json) : Decidable j.LineSafe :=
  inferInstanceAs (Decidable (∀ s ∈ j.strings, ∀ c ∈ s.toList, isUnescapedBoundary c = false))

instance (s : Store) (log : Log) : Decidable (s.Readable log) :=
  inferInstanceAs (Decidable (∀ line ∈ s.lines log, line.LineSafe))

theorem distinctKeys_eventLine (event : JournalEvent) : event.line.DistinctKeys :=
  (Journal.hides_journalEvent "" "" event.entry).distinct

theorem distinctKeys_lines (s : Store) (log : Log) : ∀ line ∈ s.lines log, line.DistinctKeys := by
  cases log <;> rw [Store.lines, List.forall_mem_map]
  · exact fun record _ => distinctKeys_runToJson record
  · exact fun record _ => distinctKeys_rollbackRecordToJson record
  · exact fun _ _ => distinctKeys_reviewBundleRecordToJson _ _
  · exact fun record _ => distinctKeys_reviewDecisionRecordToJson record
  · exact fun event _ => distinctKeys_operatorEventToJson event
  · exact fun _ _ => distinctKeys_auditRecordToJson _ _
  · exact fun event _ => distinctKeys_eventLine event

/-- A text that breaks no line. -/
def UnbrokenText (text : String) : Prop := ∀ c ∈ text.toList, isUnescapedBoundary c = false

instance (text : String) : Decidable (UnbrokenText text) :=
  inferInstanceAs (Decidable (∀ c ∈ text.toList, isUnescapedBoundary c = false))

theorem lineSafe_str (text : String) : (Json.str text).LineSafe ↔ UnbrokenText text :=
  List.forall_mem_singleton

theorem lineSafe_obj (members : List (String × Json)) :
    (Json.obj members).LineSafe ↔ ∀ member ∈ members, UnbrokenText member.1 ∧ member.2.LineSafe := by
  simp only [Json.LineSafe, Json.strings, mem_memberStrings, UnbrokenText]
  constructor
  · exact fun h member hmem => ⟨h _ ⟨member, hmem, Or.inl rfl⟩, fun s hs => h s ⟨member, hmem, Or.inr hs⟩⟩
  · rintro h s ⟨member, hmem, rfl | hs⟩
    · exact (h member hmem).1
    · exact (h member hmem).2 s hs

theorem lineSafe_optionText (text : Option String) :
    (optionJson Json.str text).LineSafe ↔ ∀ t ∈ text, UnbrokenText t := by
  cases text with
  | none => exact iff_of_true (List.forall_mem_nil _) fun _ h => by cases h
  | some t => simp [optionJson, lineSafe_str]

/-- The line of an event is read back when its names and its redacted content are. -/
theorem lineSafe_eventLine_iff (event : JournalEvent) :
    event.line.LineSafe ↔ UnbrokenText event.actor ∧ (∀ t ∈ event.recipient, UnbrokenText t) ∧
      UnbrokenText event.action ∧ (Journal.redact (.ofJson event.recordedContent)).LineSafe ∧
      (∀ t ∈ event.taskId, UnbrokenText t) ∧ (∀ t ∈ event.runId, UnbrokenText t) ∧
      ∀ t ∈ event.correlationId, UnbrokenText t := by
  have hnames : ∀ name ∈ ["journal_version", "event_id", "created_at_utc", "event_type", "actor",
      "recipient", "action", "content", "metadata", "task_id", "run_id", "correlation_id"],
      UnbrokenText name := by decide
  have hversion : UnbrokenText Journal.journalVersion ∧ UnbrokenText "" := by decide
  have htype : UnbrokenText event.eventType.text := by
    cases event.eventType <;> decide
  have hmetadata : (Json.obj (dictOfPairs [])).LineSafe := List.forall_mem_nil _
  simp only [List.forall_mem_cons] at hnames
  rw [JournalEvent.line, Journal.journalEventPayload, lineSafe_obj]
  simp only [Journal.JournalEvent.members, Journal.journalEvent, JournalEvent.entry,
    List.forall_mem_cons, hnames, lineSafe_str, lineSafe_optionText, hversion, htype, true_and,
    Option.getD_none, Journal.redactMembers, hmetadata]
  simp

/-- The texts an event is recorded with break no line. -/
structure JournalEvent.Plain (event : JournalEvent) : Prop where
  actor : UnbrokenText event.actor
  recipient : ∀ t ∈ event.recipient, UnbrokenText t
  action : UnbrokenText event.action
  content : event.recordedContent.LineSafe
  taskId : ∀ t ∈ event.taskId, UnbrokenText t
  runId : ∀ t ∈ event.runId, UnbrokenText t
  correlationId : ∀ t ∈ event.correlationId, UnbrokenText t

instance (event : JournalEvent) : Decidable event.Plain :=
  decidable_of_iff (UnbrokenText event.actor ∧ (∀ t ∈ event.recipient, UnbrokenText t) ∧
      UnbrokenText event.action ∧ event.recordedContent.LineSafe ∧ (∀ t ∈ event.taskId, UnbrokenText t) ∧
      (∀ t ∈ event.runId, UnbrokenText t) ∧ ∀ t ∈ event.correlationId, UnbrokenText t)
    ⟨fun h => ⟨h.1, h.2.1, h.2.2.1, h.2.2.2.1, h.2.2.2.2.1, h.2.2.2.2.2.1, h.2.2.2.2.2.2⟩,
      fun h => ⟨h.actor, h.recipient, h.action, h.content, h.taskId, h.runId, h.correlationId⟩⟩

/-- Redaction puts no line break into an event. -/
theorem JournalEvent.Plain.lineSafe {event : JournalEvent} (h : event.Plain) :
    event.line.LineSafe :=
  (lineSafe_eventLine_iff event).mpr ⟨h.actor, h.recipient, h.action,
    Journal.lineSafe_redact _ h.content, h.taskId, h.runId, h.correlationId⟩

/-- A journal of such events can be read. -/
theorem readable_journal {s : Store} (h : ∀ event ∈ s.journal, event.Plain) : s.Readable .journal :=
  List.forall_mem_map.mpr fun event hmem => (h event hmem).lineSafe

/-- A store whose journal is plain and whose other logs can be read. -/
theorem readable_of_plain {s : Store} (hjournal : ∀ event ∈ s.journal, event.Plain)
    (hrest : ∀ log ∈ Log.all.dropLast, s.Readable log) (log : Log) : s.Readable log := by
  rcases List.mem_append.mp (show log ∈ Log.all.dropLast ++ [.journal] from log.mem_all) with h | h
  · exact hrest log h
  · exact List.mem_singleton.mp h ▸ readable_journal hjournal

/-- **Reading a log.**  `read_jsonl` returns the records of a log exactly when each of its lines
    is read back. -/
theorem readable_iff (s : Store) (log : Log) :
    (∃ records, readJsonl (jsonlFile (s.lines log)) = .ok records) ↔ s.Readable log := by
  have hkeys := distinctKeys_lines s log
  constructor
  · rintro ⟨records, hread⟩
    by_contra hunsafe
    obtain ⟨good, bad, rest, hlines, hgood, hbad⟩ := first_not hunsafe
    rw [hlines] at hread hkeys
    have hfile : jsonlFile (good ++ bad :: rest) = some (renderJsonl (good ++ bad :: rest)) := by
      cases good <;> rfl
    rw [hfile, readJsonl_renderJsonl_refused rest (fun r hr => hkeys r (by simp [hr])) hgood hbad]
      at hread
    cases hread
  · exact fun hsafe => ⟨_, readJsonl_jsonlFile hkeys hsafe⟩

/-- **Appending to a log.**  `atomic_append_jsonl` adds a line exactly when every line before it is
    read back; the new line may be any. -/
theorem appends_iff (s : Store) (log : Log) (line : Json) :
    (∃ file, atomicAppendJsonl (jsonlFile (s.lines log)) line = .ok file) ↔ s.Readable log := by
  rw [← readable_iff, atomicAppendJsonl]
  cases readJsonl (jsonlFile (s.lines log)) with
  | error e => simp
  | ok records => simp

theorem lines_apply (s : Store) (w : Write) (log : Log) :
    (s.apply w).lines log =
      s.lines log ++ (w.line?.filter fun entry => entry.1 = log).toList.map Prod.snd := by
  cases w <;> cases log <;> simp [Store.apply, Store.lines, Write.line?, Option.filter]

/-! ## Calls -/

/-- The write goes through: its log, if it has one, can be read. -/
def Store.accepts (s : Store) (w : Write) : Bool :=
  match w.line? with
  | none => true
  | some entry => decide (s.Readable entry.1)

/-- The writes before the first append that is refused. -/
def Store.performed (s : Store) : List Write → List Write
  | [] => []
  | w :: ws => if s.accepts w then w :: (s.apply w).performed ws else []

/-- The log whose append is refused first. -/
def Store.refusedLog? (s : Store) : List Write → Option Log
  | [] => none
  | w :: ws => if s.accepts w then (s.apply w).refusedLog? ws else w.line?.map Prod.fst

/-- The error of a log that cannot be read.  The text ends before the number of the line and the
    message of the decoder. -/
def corruptedLog (log : Log) : StateStoreError := ⟨"Corrupted JSONL state at " ++ log.fileName⟩

namespace StoreM

variable {α β : Type}

/-- A call on disk: it ends with the first append that is refused. -/
def onDisk (m : StoreM α) : StoreM α := fun s =>
  let outcome := m s
  match s.refusedLog? outcome.writes with
  | none => outcome
  | some log => ⟨s.performed outcome.writes, .error (corruptedLog log)⟩

/-- A call that begins with the records of a log. -/
def reading (log : Log) (m : StoreM α) : StoreM α := fun s =>
  if s.Readable log then m s else ⟨[], .error (corruptedLog log)⟩

end StoreM

variable {α β : Type} {s : Store}

theorem Store.accepts_of_refused {w : Write} (h : s.accepts w = false) :
    ∃ entry, w.line? = some entry ∧ ¬ s.Readable entry.1 := by
  cases hline : w.line? with
  | none => simp [Store.accepts, hline] at h
  | some entry => exact ⟨entry, rfl, by simpa [Store.accepts, hline] using h⟩

theorem performed_of_complete {ws : List Write} (h : s.refusedLog? ws = none) :
    s.performed ws = ws := by
  induction ws generalizing s with
  | nil => rfl
  | cons w ws ih =>
      rw [Store.refusedLog?] at h
      by_cases hw : s.accepts w
      · rw [if_pos hw] at h
        rw [Store.performed, if_pos hw, ih h]
      · obtain ⟨entry, hline, -⟩ := Store.accepts_of_refused (Bool.not_eq_true _ ▸ hw)
        rw [if_neg hw, hline] at h
        cases h

/-- What is performed is a first part of the writes. -/
theorem prefix_performed (s : Store) (ws : List Write) : s.performed ws <+: ws := by
  induction ws generalizing s with
  | nil => exact List.prefix_rfl
  | cons w ws ih =>
      rw [Store.performed]
      split
      · exact List.prefix_cons_inj w |>.mpr (ih _)
      · exact List.nil_prefix

theorem performed_append_of_complete {ws : List Write} (h : s.refusedLog? ws = none)
    (ws' : List Write) : s.performed (ws ++ ws') = ws ++ (s.applyAll ws).performed ws' := by
  induction ws generalizing s with
  | nil => rfl
  | cons w ws ih =>
      rw [Store.refusedLog?] at h
      by_cases hw : s.accepts w
      · rw [if_pos hw] at h
        rw [List.cons_append, Store.performed, if_pos hw, ih h]
        rfl
      · obtain ⟨entry, hline, -⟩ := Store.accepts_of_refused (Bool.not_eq_true _ ▸ hw)
        rw [if_neg hw, hline] at h
        cases h

theorem performed_append_of_refused {ws : List Write} {log : Log}
    (h : s.refusedLog? ws = some log) (ws' : List Write) :
    s.performed (ws ++ ws') = s.performed ws := by
  induction ws generalizing s with
  | nil => cases h
  | cons w ws ih =>
      rw [Store.refusedLog?] at h
      rw [List.cons_append, Store.performed, Store.performed]
      by_cases hw : s.accepts w
      · rw [if_pos hw] at h
        rw [if_pos hw, if_pos hw, ih h]
      · rw [if_neg hw, if_neg hw]

theorem refusedLog?_append (s : Store) (ws ws' : List Write) :
    s.refusedLog? (ws ++ ws') = (s.refusedLog? ws).or ((s.applyAll ws).refusedLog? ws') := by
  induction ws generalizing s with
  | nil => rfl
  | cons w ws ih =>
      rw [List.cons_append, Store.refusedLog?, Store.refusedLog?]
      by_cases hw : s.accepts w
      · rw [if_pos hw, if_pos hw, ih]
        rfl
      · obtain ⟨entry, hline, -⟩ := Store.accepts_of_refused (Bool.not_eq_true _ ▸ hw)
        rw [if_neg hw, if_neg hw, hline]
        rfl

/-! ### A call on disk, part by part -/

theorem onDisk_of_complete {m : StoreM α} (h : s.refusedLog? (m s).writes = none) :
    onDisk m s = m s := by
  rw [onDisk, h]

theorem onDisk_of_refused {m : StoreM α} {log : Log}
    (h : s.refusedLog? (m s).writes = some log) :
    onDisk m s = ⟨s.performed (m s).writes, .error (corruptedLog log)⟩ := by
  rw [onDisk, h]

theorem onDisk_writes (m : StoreM α) (s : Store) :
    (onDisk m s).writes = s.performed (m s).writes := by
  cases h : s.refusedLog? (m s).writes with
  | none => rw [onDisk_of_complete h, performed_of_complete h]
  | some log => rw [onDisk_of_refused h]

/-- A call that succeeds on disk is the call of the model. -/
theorem complete_of_onDisk {m : StoreM α} {a : α} (h : (onDisk m s).value = .ok a) :
    s.refusedLog? (m s).writes = none := by
  cases hrefused : s.refusedLog? (m s).writes with
  | none => rfl
  | some log =>
      rw [onDisk_of_refused hrefused] at h
      cases h

/-- **On disk, call by call.**  A sequence on disk is the sequence of its parts on disk: where an
    append of the first part is refused, the second is not begun. -/
theorem onDisk_bind (m : StoreM α) (next : α → StoreM β) :
    onDisk (m >>= next) = onDisk m >>= fun a => onDisk (next a) := by
  funext s
  have hwhole := bind_run m next s
  cases hvalue : (m s).value with
  -- the first part raises, so nothing of the second is written
  | error e =>
      rw [hvalue] at hwhole
      cases hrefused : s.refusedLog? (m s).writes with
      -- its appends go through
      | none =>
          have hfirst : onDisk m s = ⟨(m s).writes, .error e⟩ := by
            rw [onDisk_of_complete hrefused, ← hvalue]
          have hall : s.refusedLog? ((m >>= next) s).writes = none := by
            rw [hwhole]
            exact hrefused
          rw [bind_of_error hfirst, onDisk_of_complete hall, hwhole]
      -- the first append that is refused ends the call
      | some log =>
          have hall : s.refusedLog? ((m >>= next) s).writes = some log := by
            rw [hwhole]
            exact hrefused
          rw [bind_of_error (onDisk_of_refused hrefused), onDisk_of_refused hall, hwhole]
  | ok a =>
      -- the first part answers, and the second goes on from its writes
      rw [hvalue] at hwhole
      cases hrefused : s.refusedLog? (m s).writes with
      | none =>
          have hfirst : onDisk m s = ⟨(m s).writes, .ok a⟩ := by
            rw [onDisk_of_complete hrefused, ← hvalue]
          rw [bind_of_ok hfirst]
          have hall : s.refusedLog? ((m >>= next) s).writes =
              (s.applyAll (m s).writes).refusedLog? (next a (s.applyAll (m s).writes)).writes := by
            rw [hwhole, refusedLog?_append, hrefused, Option.none_or]
          -- the log that refuses is one of the second part, if any
          cases hnext : (s.applyAll (m s).writes).refusedLog?
              (next a (s.applyAll (m s).writes)).writes with
          | none =>
              rw [onDisk_of_complete (hall.trans hnext), hwhole, onDisk_of_complete hnext]
          | some log =>
              rw [onDisk_of_refused (hall.trans hnext), onDisk_of_refused hnext, hwhole]
              simp only [performed_append_of_complete hrefused]
      -- an append of the first part is refused
      | some log =>
          rw [bind_of_error (onDisk_of_refused hrefused)]
          have hall : s.refusedLog? ((m >>= next) s).writes = some log := by
            rw [hwhole, refusedLog?_append, hrefused, Option.some_or]
          rw [onDisk_of_refused hall, hwhole]
          simp only [performed_append_of_refused hrefused]

/-! ### Which calls go through -/

/-- The lines a list of writes appends to a log. -/
def appendedLines (log : Log) (ws : List Write) : List Json :=
  ((ws.filterMap Write.line?).filter fun entry => entry.1 = log).map Prod.snd

/-- The log takes the lines one after the other: each line before the last is read back. -/
def Store.Takes (s : Store) (log : Log) (lines : List Json) : Prop :=
  lines = [] ∨ ∀ line ∈ s.lines log ++ lines.dropLast, line.LineSafe

/-- A log after some writes: the lines they append come last. -/
theorem lines_applyAll (s : Store) (ws : List Write) (log : Log) :
    (s.applyAll ws).lines log = s.lines log ++ appendedLines log ws := by
  induction ws generalizing s with
  | nil => exact (List.append_nil _).symm
  | cons w ws ih =>
      show ((s.apply w).applyAll ws).lines log = _
      rw [ih, lines_apply, List.append_assoc]
      cases hline : w.line? with
      | none => simp [appendedLines, hline]
      | some entry =>
          by_cases hlog : entry.1 = log
          · simp [appendedLines, hline, hlog, Option.filter]
          · simp [appendedLines, hline, hlog, Option.filter]

/-- No line is in the way of any append. -/
theorem refusedLog?_eq_none_iff (s : Store) (ws : List Write) :
    s.refusedLog? ws = none ↔ ∀ log, s.Takes log (appendedLines log ws) := by
  -- the induction is on the writes, with the store free
  induction ws generalizing s with
  | nil => exact iff_of_true rfl fun log => Or.inl rfl
  | cons w ws ih =>
      rw [Store.refusedLog?]
      cases hline : w.line? with
      | none =>
          -- the write has no log
          have hlines : ∀ log, (s.apply w).lines log = s.lines log := by
            intro log
            simp [lines_apply, hline]
          have happended : ∀ log, appendedLines log (w :: ws) = appendedLines log ws := by
            intro log
            simp [appendedLines, hline]
          rw [if_pos (by simp [Store.accepts, hline]), ih]
          simp only [Store.Takes, hlines, happended]
      | some entry =>
          obtain ⟨log, line⟩ := entry
          -- an append goes to one log, and stands behind its lines
          have hlines : ∀ log', (s.apply w).lines log' =
              s.lines log' ++ if log = log' then [line] else [] := by
            intro log'
            by_cases h : log = log' <;> simp [lines_apply, hline, h, Option.filter]
          have happended : ∀ log', appendedLines log' (w :: ws) =
              (if log = log' then [line] else []) ++ appendedLines log' ws := by
            intro log'
            by_cases h : log = log' <;> simp [appendedLines, hline, h]
          -- the log can be read, so the append goes through
          by_cases hread : s.Readable log
          · rw [if_pos (by simp [Store.accepts, hline, hread]), ih]
            refine forall_congr' fun log' => ?_
            simp only [Store.Takes, hlines, happended]
            by_cases h : log = log'
            · subst h
              simp only [if_true, List.singleton_append, List.append_assoc]
              -- the line is read before the next append of the log, if there is one
              cases appendedLines log ws with
              | nil => simpa [Store.Readable] using hread
              | cons next rest => simp
            · simp [h]
          -- the log cannot be read, and the write appends to it
          · rw [if_neg (by simp [Store.accepts, hline, hread])]
            refine iff_of_false (by simp) fun hall => ?_
            rcases hall log with hnil | hsafe
            · simp [happended] at hnil
            · exact hread fun line hmem => hsafe line (List.mem_append_left _ hmem)

/-! ## Runs -/

/-- `complete_rollback` on disk. -/
def completeRollbackOnDisk (record : RollbackRecord) (now : String) : StoreM RollbackRecord := do
  match record.ok, record.rollbackCommit with
  | true, some rollbackCommit =>
    let _ ← onDisk (markRolledBack record.workItemId record.targetCommit rollbackCommit now)
    reading .rollbackRecords (onDisk (recordRollback record))
  | _, _ => refuse "Only a successful rollback with a commit can complete state."

/-- The durable writes of a call on disk. -/
def diskWrites : Op → Store → List Write
  | .recordResult report, s => (reading .history (onDisk (recordResult report)) s).writes
  | .completeRollback record now, s => (completeRollbackOnDisk record now s).writes
  | .recordRollback record, s =>
    (reading .rollbackRecords (onDisk (recordRollback record)) s).writes
  | .recordReviewBundle record, s =>
    (reading .reviewBundles (onDisk (recordReviewBundle record)) s).writes
  | .recordReviewDecision record, s =>
    (reading .reviewDecisions (onDisk (recordReviewDecision record)) s).writes
  | .interrupted op written, s => (diskWrites op s).take written
  | op, s => s.performed (opWrites op s)

/-- What happens to a state root: a call of the store, or an event that another part of the
    program records in the journal. -/
inductive DiskEvent where
  | call (op : Op)
  | record (event : JournalEvent)

/-- The store after an event. -/
def diskStep (s : Store) : DiskEvent → Store
  | .call op => s.applyAll (diskWrites op s)
  | .record event => s.applyAll (onDisk (write (.journal event)) s).writes

/-- The store after a run, from an empty state root. -/
def diskRun (events : List DiskEvent) : Store := events.foldl diskStep Store.empty

theorem prefix_reading_writes (log : Log) (m : StoreM α) (s : Store) :
    (reading log m s).writes <+: (m s).writes := by
  rw [reading]
  split
  · exact List.prefix_rfl
  · exact List.nil_prefix

theorem prefix_onDisk_writes (m : StoreM α) (s : Store) : (onDisk m s).writes <+: (m s).writes := by
  rw [onDisk_writes]
  exact prefix_performed s _

/-- `complete_rollback` of a record that it takes. -/
theorem completeRollback_taken {record : RollbackRecord} {rollbackCommit : String}
    (hok : record.ok = true) (hcommit : record.rollbackCommit = some rollbackCommit) (now : String) :
    completeRollback record now = (do
      let _ ← markRolledBack record.workItemId record.targetCommit rollbackCommit now
      recordRollback record) ∧
    completeRollbackOnDisk record now = (do
      let _ ← onDisk (markRolledBack record.workItemId record.targetCommit rollbackCommit now)
      reading .rollbackRecords (onDisk (recordRollback record))) := by
  rw [completeRollback, completeRollbackOnDisk, hok, hcommit]
  exact ⟨rfl, rfl⟩

/-- `complete_rollback` of any other record raises. -/
theorem completeRollback_untaken {record : RollbackRecord}
    (h : ¬ ∃ rollbackCommit, record.ok = true ∧ record.rollbackCommit = some rollbackCommit)
    (now : String) : completeRollbackOnDisk record now = completeRollback record now := by
  rw [completeRollback, completeRollbackOnDisk]
  cases hok : record.ok with
  | false => rfl
  | true =>
      cases hcommit : record.rollbackCommit with
      | none => rfl
      | some rollbackCommit => exact absurd ⟨rollbackCommit, hok, hcommit⟩ h

theorem completeRollbackOnDisk_prefix (record : RollbackRecord) (now : String) (s : Store) :
    (completeRollbackOnDisk record now s).writes <+: (completeRollback record now s).writes := by
  by_cases htaken : ∃ rollbackCommit, record.ok = true ∧ record.rollbackCommit = some rollbackCommit
  · obtain ⟨rollbackCommit, hok, hcommit⟩ := htaken
    obtain ⟨hmodel, hdisk⟩ := completeRollback_taken hok hcommit now
    rw [hmodel, hdisk, bind_run, bind_run]
    cases hrefused : s.refusedLog? (markRolledBack record.workItemId record.targetCommit
        rollbackCommit now s).writes with
    | none =>
        rw [onDisk_of_complete hrefused]
        cases (markRolledBack record.workItemId record.targetCommit rollbackCommit now s).value with
        | error e => exact List.prefix_rfl
        | ok task =>
            refine (List.prefix_append_right_inj _).mpr ?_
            exact (prefix_reading_writes _ _ _).trans (prefix_onDisk_writes _ _)
    | some log =>
        -- the transition was cut, and the record is not reached
        rw [onDisk_of_refused hrefused]
        refine (prefix_performed s _).trans ?_
        cases (markRolledBack record.workItemId record.targetCommit rollbackCommit now s).value with
        | error e => exact List.prefix_rfl
        | ok task => exact List.prefix_append _ _
  · rw [completeRollback_untaken htaken]

/-- **A call on disk is a call cut short.** -/
theorem prefix_diskWrites (op : Op) (s : Store) : diskWrites op s <+: opWrites op s := by
  induction op with
  | completeRollback record now => exact completeRollbackOnDisk_prefix record now s
  | interrupted op written ih =>
      exact List.IsPrefix.take ih written
  | recordResult | recordRollback | recordReviewBundle | recordReviewDecision =>
      exact (prefix_reading_writes _ _ _).trans (prefix_onDisk_writes _ _)
  | _ => exact prefix_performed s _

theorem diskStep_call (s : Store) (op : Op) :
    diskStep s (.call op) = s.step (.interrupted op (diskWrites op s).length) := by
  have hcut := List.prefix_iff_eq_take.mp (prefix_diskWrites op s)
  rw [diskStep, Store.step, opWrites, ← hcut]

/-- A log that can be read after some writes could be read before them. -/
theorem Store.Readable.of_later {ws : List Write} {log : Log} (h : (s.applyAll ws).Readable log) :
    s.Readable log := fun line hline => h line (lines_applyAll s ws log ▸ List.mem_append_left _ hline)

/-- Where every log can be read afterwards no append was refused. -/
theorem refusedLog?_of_readable {ws : List Write} (h : ∀ log, (s.applyAll ws).Readable log) :
    s.refusedLog? ws = none := by
  induction ws generalizing s with
  | nil => rfl
  | cons w ws ih =>
      have haccepts : s.accepts w := by
        rw [Store.accepts]
        cases w.line? with
        | none => rfl
        | some entry => exact decide_eq_true (h entry.1).of_later
      rw [Store.refusedLog?, if_pos haccepts]
      exact ih h

theorem reading_of_readable {log : Log} {m : StoreM α} (h : s.Readable log) :
    reading log m s = m s := if_pos h

theorem completeRollbackOnDisk_of_readable {record : RollbackRecord} {now : String}
    (h : ∀ log, (s.applyAll (completeRollback record now s).writes).Readable log) :
    completeRollbackOnDisk record now s = completeRollback record now s := by
  by_cases htaken : ∃ rollbackCommit, record.ok = true ∧ record.rollbackCommit = some rollbackCommit
  · obtain ⟨rollbackCommit, hok, hcommit⟩ := htaken
    obtain ⟨hmodel, hdisk⟩ := completeRollback_taken hok hcommit now
    have hwhole := onDisk_of_complete (refusedLog?_of_readable h)
    rw [hmodel, onDisk_bind] at hwhole
    rw [hmodel] at h
    rw [hdisk, hmodel, ← hwhole, bind_run, bind_run]
    rw [← hwhole, bind_run] at h
    cases hvalue : (onDisk (markRolledBack record.workItemId record.targetCommit rollbackCommit
        now) s).value with
    | error e => rfl
    | ok task =>
        -- the records are read between the transition and the append
        rw [hvalue] at h
        dsimp only at h
        simp only [applyAll_append] at h
        simp only [reading_of_readable (h .rollbackRecords).of_later]
  · rw [completeRollback_untaken htaken]

/-- Where every log can be read after a call, the call on disk is the call of the model. -/
theorem diskWrites_of_readable {op : Op} (hcomplete : op.isComplete)
    (h : ∀ log, (s.step op).Readable log) : diskWrites op s = opWrites op s := by
  have hnone : s.refusedLog? (opWrites op s) = none := refusedLog?_of_readable h
  have hread : ∀ log, s.Readable log := fun log => (h log).of_later
  cases op with
  | interrupted => simp [Op.isComplete] at hcomplete
  | recordResult report =>
      rw [diskWrites, reading_of_readable (hread _), onDisk_of_complete hnone]
      rfl
  | recordRollback record =>
      rw [diskWrites, reading_of_readable (hread _), onDisk_of_complete hnone]
      rfl
  | recordReviewBundle record =>
      rw [diskWrites, reading_of_readable (hread _), onDisk_of_complete hnone]
      rfl
  | recordReviewDecision record =>
      rw [diskWrites, reading_of_readable (hread _), onDisk_of_complete hnone]
      rfl
  | completeRollback record now =>
      rw [diskWrites, completeRollbackOnDisk_of_readable h]
      rfl
  | _ => exact performed_of_complete hnone

/-- **Runs on disk.**  What every change of the queue keeps holds after every run on disk, if it
    holds of the empty queue. -/
theorem diskRun_induction {P : List QueueTask → Prop} (hempty : P [])
    (hstep : ∀ {R : EdgeKind → String → Prop} {tasks tasks' : List QueueTask},
      P tasks → TaskStep R tasks tasks' → P tasks')
    (events : List DiskEvent) : P (diskRun events).tasks := by
  have hinv : ∀ s event, P s.tasks → P (diskStep s event).tasks := by
    intro s event h
    cases event with
    | call op =>
        rw [diskStep_call]
        exact step_induction hstep h _
    | record event =>
        have hkeeps : (diskStep s (.record event)).tasks = s.tasks := by
          rw [diskStep, onDisk_writes, write_run, Store.performed]
          split <;> rfl
        rwa [hkeeps]
  exact @Run.invariant _ _ diskStep (fun s => P s.tasks) Store.empty hempty hinv events

/-- In every run on disk a live entry is the last of its id. -/
theorem liveQueue_diskRun (events : List DiskEvent) : LiveQueue (diskRun events).tasks :=
  diskRun_induction List.Pairwise.nil liveQueue_step events

end LlmHarness
