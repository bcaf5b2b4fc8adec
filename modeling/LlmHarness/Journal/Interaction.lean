/-
  LlmHarness.Journal.Interaction

  `InteractionJournal`: the events, the closed ingress for payloads of other programs,
  and the file they are appended to.

  A run is any sequence of `record` and `record_payload` calls on one file.  Whatever
  the calls hand over and however many of them fail, the file is the recorded events in
  order and none of them shows a secret; it is read back as these events exactly when no
  string of them holds a line separator that the file leaves in the clear.
-/

import LlmHarness.DurableIo
import LlmHarness.Journal.Redaction
import LlmHarness.Lib.Guards
import LlmHarness.Lib.Run
import LlmHarness.Python.DumpsCheck
import LlmHarness.Python.Strip
import LlmHarness.Python.Value

namespace LlmHarness.Journal

open Python Guards

/-! ## Events -/

/-- `JOURNAL_VERSION`. -/
def journalVersion : String := "1.0"

/-- `JournalEvent`. -/
structure JournalEvent where
  eventId : String
  createdAtUtc : String
  eventType : String
  actor : String
  recipient : Option String
  action : String
  content : Json
  metadata : List (String × Json)
  taskId : Option String
  runId : Option String
  correlationId : Option String
  version : String

/-- The members of `journal_event_payload`. -/
def JournalEvent.members (event : JournalEvent) : List (String × Json) :=
  [("journal_version", .str event.version), ("event_id", .str event.eventId),
    ("created_at_utc", .str event.createdAtUtc), ("event_type", .str event.eventType),
    ("actor", .str event.actor), ("recipient", optionJson Json.str event.recipient),
    ("action", .str event.action), ("content", event.content), ("metadata", .obj event.metadata),
    ("task_id", optionJson Json.str event.taskId), ("run_id", optionJson Json.str event.runId),
    ("correlation_id", optionJson Json.str event.correlationId)]

/-- `journal_event_payload`. -/
def journalEventPayload (event : JournalEvent) : Json := .obj event.members

/-- What the journal uses of Python: `repr` of a list or a dict, and `dict(value)` of a
    value that is no dict. -/
structure EventRuntime where
  reprOf : Json → String
  dictOf : Json → Option (List (String × Json))

variable (runtime : EventRuntime)

/-- `str(value)`. -/
def EventRuntime.str : Json → String
  | .arr items => runtime.reprOf (.arr items)
  | .obj members => runtime.reprOf (.obj members)
  | other => pyStr other

/-- `dict(value or {})`. -/
def EventRuntime.dict (value : Json) : Option (List (String × Json)) :=
  match value with
  | .obj members => some members
  | other => if isTruthy other then runtime.dictOf other else some []

/-- `str(value) if value is not None else None`. -/
def EventRuntime.optionalStr : Json → Option String
  | .null => none
  | other => some (runtime.str other)

/-- `journal_event_from_payload`; `none` where it raises. -/
def journalEventFromPayload : Json → Option JournalEvent
  | .obj data => do
    let eventId ← dictGet? data "event_id"
    let createdAtUtc ← dictGet? data "created_at_utc"
    let eventType ← dictGet? data "event_type"
    let actor ← dictGet? data "actor"
    let action ← dictGet? data "action"
    let metadata ← runtime.dict (field data "metadata")
    return { eventId := runtime.str eventId
             createdAtUtc := runtime.str createdAtUtc
             eventType := runtime.str eventType
             actor := runtime.str actor
             recipient := runtime.optionalStr (field data "recipient")
             action := runtime.str action
             content := field data "content"
             metadata := metadata
             taskId := runtime.optionalStr (field data "task_id")
             runId := runtime.optionalStr (field data "run_id")
             correlationId := runtime.optionalStr (field data "correlation_id")
             version := runtime.str ((dictGet? data "journal_version").getD (.str journalVersion)) }
  | _ => none

/-! ## Recording -/

/-- The arguments of `record`. -/
structure Entry where
  eventType : String
  actor : String
  action : String
  recipient : Option String
  content : Value
  metadata : Option (List (String × Value))
  taskId : Option String
  runId : Option String
  correlationId : Option String

/-- The event that `record` makes of its arguments, with its new id and time. -/
def journalEvent (id now : String) (entry : Entry) : JournalEvent where
  eventId := id
  createdAtUtc := now
  eventType := entry.eventType
  actor := entry.actor
  recipient := entry.recipient
  action := entry.action
  content := redact entry.content
  metadata := dictOfPairs (redactMembers (entry.metadata.getD []))
  taskId := entry.taskId
  runId := entry.runId
  correlationId := entry.correlationId
  version := journalVersion

/-- What a call on the journal can raise. -/
inductive JournalError where
  | value (message : String)
  | unhashable
  | durable (error : DurableIOError)
  | tooManyDigits
  | payload
deriving DecidableEq

/-- `str` writes every integer of the event. -/
def JournalEvent.isWritable (event : JournalEvent) : Bool :=
  (intsOf (journalEventPayload event)).all isWritableInt

/-- `InteractionJournal.record`: the event and the new content of the file.  The file is read
    before `json.dumps` meets an integer it cannot print. -/
def record (file : Option Text) (id now : String) (entry : Entry) :
    Except JournalError (JournalEvent × Option Text) :=
  match atomicAppendJsonl file (journalEventPayload (journalEvent id now entry)) with
  | .error e => .error (.durable e)
  | .ok file =>
    if (journalEvent id now entry).isWritable then .ok (journalEvent id now entry, file)
    else .error .tooManyDigits

/-- `InteractionJournal.events`. -/
def events (file : Option Text) : Except JournalError (List JournalEvent) :=
  match readJsonl file with
  | .error e => .error (.durable e)
  | .ok records => (records.mapM (journalEventFromPayload runtime)).elim (.error .payload) .ok

/-! ## The ingress -/

/-- The fields of a payload of `record_payload`. -/
def ingressFields : List String :=
  ["event_version", "event_type", "actor", "recipient", "action", "content", "metadata", "task_id",
    "run_id", "correlation_id"]

/-- `JournalEventType`. -/
def eventTypes : List String :=
  ["interaction", "tool_call", "tool_result", "state_transition", "artifact", "decision"]

/-- `','.join(sorted(names)) or 'none'`. -/
def namesOrNone (names : List String) : String :=
  if names.isEmpty then "none" else String.intercalate "," (names.insertionSort (· ≤ ·))

/-- `value.strip()` of a string that is not blank. -/
def strippedText? : Json → Option String
  | .str text => if isBlank text.toList then none else some (String.ofList (strip text.toList))
  | _ => none

/-- `_optional_text`. -/
def optionalText (value : Json) (label : String) : Except JournalError (Option String) :=
  if isNull value then .ok none
  else match strippedText? value with
    | some text => .ok (some text)
    | none => .error (.value ("Journal " ++ label ++ " must be a non-empty string or null."))

/-- `event_type not in {...}`. -/
def ingressEventType : Json → Except JournalError String
  | .str text =>
    if eventTypes.contains text then .ok text
    else .error (.value "Unsupported journal event_type.")
  | .arr _ => .error .unhashable
  | .obj _ => .error .unhashable
  | _ => .error (.value "Unsupported journal event_type.")

/-- The names of the payload are those of the ingress. -/
def ingressNames (payload : List (String × Json)) : Except JournalError Unit :=
  let unknown := (payload.map Prod.fst).filter fun name => !(ingressFields.contains name)
  let missing := ingressFields.filter fun name => !((payload.map Prod.fst).contains name)
  if missing.isEmpty && unknown.isEmpty then .ok ()
  else .error (.value ("Journal ingress must use the closed v1 fields; missing=" ++ namesOrNone missing ++
    " unknown=" ++ namesOrNone unknown))

/-- `payload["event_version"] != JOURNAL_INGRESS_VERSION`. -/
def ingressVersion : Json → Except JournalError Unit
  | .str "1.0" => .ok ()
  | _ => .error (.value "Unsupported journal ingress version.")

/-- The actor and the action. -/
def ingressTexts (actor action : Json) : Except JournalError (String × String) :=
  match strippedText? actor, strippedText? action with
  | some actor, some action => .ok (actor, action)
  | _, _ => .error (.value "Journal actor and action must be non-empty strings.")

/-- The recipient. -/
def ingressRecipient : Json → Except JournalError (Option String)
  | .null => .ok none
  | .str text => .ok (some text)
  | _ => .error (.value "Journal recipient must be a string or null.")

/-- The metadata. -/
def ingressMetadata : Json → Except JournalError (List (String × Json))
  | .obj members => .ok members
  | _ => .error (.value "Journal metadata must be an object.")

/-- `validate_journal_ingress`. -/
def validateJournalIngress (payload : List (String × Json)) : Except JournalError Entry := do
  ingressNames payload
  ingressVersion (field payload "event_version")
  let eventType ← ingressEventType (field payload "event_type")
  let texts ← ingressTexts (field payload "actor") (field payload "action")
  let recipient ← ingressRecipient (field payload "recipient")
  let metadata ← ingressMetadata (field payload "metadata")
  let taskId ← optionalText (field payload "task_id") "task_id"
  let runId ← optionalText (field payload "run_id") "run_id"
  let correlationId ← optionalText (field payload "correlation_id") "correlation_id"
  return { eventType := eventType
           actor := texts.1
           action := texts.2
           recipient := recipient
           content := Value.ofJson (field payload "content")
           metadata := some (Value.ofMembers metadata)
           taskId := taskId
           runId := runId
           correlationId := correlationId }

/-- `InteractionJournal.record_payload`. -/
def recordPayload (file : Option Text) (id now : String) (payload : List (String × Json)) :
    Except JournalError (JournalEvent × Option Text) := do
  let entry ← validateJournalIngress payload
  record file id now entry

/-! ## Runs -/

/-- A call on the journal, with the id and the time it takes. -/
inductive Call where
  | record (id now : String) (entry : Entry)
  | payload (id now : String) (payload : List (String × Json))

/-- What a call returns. -/
def Call.result (file : Option Text) : Call → Except JournalError (JournalEvent × Option Text)
  | .record id now entry => Journal.record file id now entry
  | .payload id now members => recordPayload file id now members

/-- The file and the events that were returned so far. -/
structure Written where
  file : Option Text
  recorded : List JournalEvent

/-- One call; one that raises leaves the file as it is. -/
def step (written : Written) (call : Call) : Written :=
  match call.result written.file with
  | .ok (event, file) => ⟨file, written.recorded ++ [event]⟩
  | .error _ => written

/-- The calls from an absent file. -/
def run (calls : List Call) : Written := calls.foldl step ⟨none, []⟩

/-! ## One event -/

/-- An event that shows no secret. -/
structure JournalEvent.Hides (event : JournalEvent) : Prop where
  content : Redacted event.content
  metadata : RedactedMembers event.metadata
  distinct : (journalEventPayload event).DistinctKeys

theorem nodup_members (event : JournalEvent) : (event.members.map Prod.fst).Nodup := by
  simp only [JournalEvent.members, List.map_cons, List.map_nil]
  decide

theorem hides_journalEvent (id now : String) (entry : Entry) : (journalEvent id now entry).Hides := by
  have hcontent := redacted_redact entry.content
  have hmetadata := redacted_redact (.mapping (entry.metadata.getD []))
  refine ⟨hcontent.1, hmetadata.1, ?_, (distinctMembers_iff _).mpr ?_⟩
  · exact nodup_members _
  · have hoption : ∀ text : Option String, (optionJson Json.str text).DistinctKeys := by
      intro text
      cases text <;> trivial
    simp only [JournalEvent.members, List.forall_mem_cons]
    exact ⟨trivial, trivial, trivial, trivial, trivial, hoption _, trivial, hcontent.2, hmetadata.2, hoption _,
      hoption _, hoption _, List.forall_mem_nil _⟩

/-- The event with the keys of its content and metadata sorted, as the file holds it. -/
def JournalEvent.sorted (event : JournalEvent) : JournalEvent :=
  { event with
    content := event.content.sortKeys
    metadata := (Json.sortMembers event.metadata).insertionSort fun a b => a.1 ≤ b.1 }

theorem optionalStr_optionJson (text : Option String) :
    runtime.optionalStr ((optionJson Json.str text).sortKeys) = text := by
  cases text <;> rfl

/-- An event is read back from its line. -/
theorem journalEventFromPayload_sortKeys (event : JournalEvent) :
    journalEventFromPayload runtime (journalEventPayload event).sortKeys = some event.sorted := by
  have hget := dictGet?_sortKeys (nodup_members event)
  rw [journalEventPayload, Json.sortKeys]
  simp only [journalEventFromPayload, field, hget]
  simp [JournalEvent.members, dictGet?, EventRuntime.dict, JournalEvent.sorted, EventRuntime.str, Json.sortKeys,
    optionalStr_optionJson, pyStr]

theorem mapM_journalEventFromPayload (recorded : List JournalEvent) :
    ((recorded.map journalEventPayload).map Json.sortKeys).mapM (journalEventFromPayload runtime) =
      some (recorded.map JournalEvent.sorted) := by
  induction recorded with
  | nil => rfl
  | cons event recorded ih =>
      rw [List.map_cons, List.map_cons, List.mapM_cons, journalEventFromPayload_sortKeys, ih]
      rfl

/-! ## The file -/

/-- No string of the event breaks its line. -/
def JournalEvent.LineSafe (event : JournalEvent) : Prop := (journalEventPayload event).LineSafe

section File

variable {recorded : List JournalEvent}

theorem distinct_payloads (hhides : ∀ event ∈ recorded, event.Hides) :
    ∀ record ∈ recorded.map journalEventPayload, record.DistinctKeys := by
  intro record hrecord
  obtain ⟨event, hevent, rfl⟩ := List.mem_map.mp hrecord
  exact (hhides event hevent).distinct

/-- The events are read back where no string breaks its line. -/
theorem events_jsonlFile (hhides : ∀ event ∈ recorded, event.Hides)
    (hsafe : ∀ event ∈ recorded, event.LineSafe) :
    events runtime (jsonlFile (recorded.map journalEventPayload)) =
      .ok (recorded.map JournalEvent.sorted) := by
  have hsafe' : ∀ record ∈ recorded.map journalEventPayload, record.LineSafe :=
    List.forall_mem_map.mpr hsafe
  rw [events, readJsonl_jsonlFile (distinct_payloads hhides) hsafe']
  show (((recorded.map journalEventPayload).map Json.sortKeys).mapM (journalEventFromPayload runtime)).elim
    (.error JournalError.payload) .ok = Except.ok (recorded.map JournalEvent.sorted)
  rw [mapM_journalEventFromPayload]
  rfl

/-- A string that breaks its line makes the whole file unreadable. -/
theorem readJsonl_unsafe (hhides : ∀ event ∈ recorded, event.Hides)
    (hbroken : ¬ ∀ event ∈ recorded, event.LineSafe) :
    ∃ e, readJsonl (jsonlFile (recorded.map journalEventPayload)) = .error e := by
  obtain ⟨good, bad, rest, hsplit, hgood, hbad⟩ := first_not (p := Json.LineSafe)
    (l := recorded.map journalEventPayload) fun hall => hbroken fun event hevent =>
      hall _ (List.mem_map_of_mem hevent)
  have hdistinct := distinct_payloads hhides
  rw [hsplit] at hdistinct ⊢
  have hfile : jsonlFile (good ++ bad :: rest) = some (renderJsonl (good ++ bad :: rest)) := by
    cases good <;> rfl
  rw [hfile]
  exact ⟨_, readJsonl_renderJsonl_refused rest (fun r hr => hdistinct r (by simp [hr])) hgood hbad⟩

/-- What an append to the events of the file leaves, if it does not raise. -/
theorem atomicAppendJsonl_eq_ok (hhides : ∀ event ∈ recorded, event.Hides) {payload : Json} {file : Option Text}
    (h : atomicAppendJsonl (jsonlFile (recorded.map journalEventPayload)) payload = .ok file) :
    file = jsonlFile (recorded.map journalEventPayload ++ [payload]) := by
  by_cases hsafe : ∀ event ∈ recorded, event.LineSafe
  · rw [atomicAppendJsonl_jsonlFile (distinct_payloads hhides) (List.forall_mem_map.mpr hsafe)] at h
    exact (Except.ok.inj h).symm
  · obtain ⟨e, hread⟩ := readJsonl_unsafe hhides hsafe
    rw [atomicAppendJsonl, hread] at h
    cases h

end File

/-! ## Runs of calls -/

/-- The file is the recorded events in order, and none of them shows a secret. -/
structure Journaled (written : Written) : Prop where
  hides : ∀ event ∈ written.recorded, event.Hides
  file : written.file = jsonlFile (written.recorded.map journalEventPayload)

theorem result_eq_ok {file file' : Option Text} {call : Call} {event : JournalEvent}
    (h : call.result file = .ok (event, file')) :
    event.Hides ∧ atomicAppendJsonl file (journalEventPayload event) = .ok file' := by
  have hrecord : ∀ {id now : String} {entry : Entry}, record file id now entry = .ok (event, file') →
      event.Hides ∧ atomicAppendJsonl file (journalEventPayload event) = .ok file' := by
    intro id now entry h
    rw [record] at h
    split at h
    · cases h
    · next happend =>
        split at h
        · cases h
          exact ⟨hides_journalEvent id now entry, happend⟩
        · cases h
  cases call with
  | record id now entry => exact hrecord h
  | payload id now members =>
      obtain ⟨entry, -, h⟩ := bind_eq_ok.mp (show (validateJournalIngress members >>= fun entry =>
        Journal.record file id now entry) = .ok (event, file') from h)
      exact hrecord h

theorem journaled_step (written : Written) (call : Call) (h : Journaled written) :
    Journaled (step written call) := by
  rw [step]
  split
  · next event file hresult =>
      obtain ⟨hhides, happend⟩ := result_eq_ok hresult
      rw [h.file] at happend
      refine ⟨fun other hother => ?_, ?_⟩
      · obtain hother | rfl : other ∈ written.recorded ∨ other = event := by simpa using hother
        · exact h.hides other hother
        · exact hhides
      · rw [List.map_append, List.map_singleton]
        exact atomicAppendJsonl_eq_ok h.hides happend
  · exact h

theorem journaled_run (calls : List Call) : Journaled (run calls) :=
  Run.invariant ⟨List.forall_mem_nil _, rfl⟩ journaled_step calls

/-- **The journal.**  After any calls the file holds the recorded events in order, no event
    in it shows a secret, and `events` returns them, with the keys of content and metadata
    sorted, exactly when none of their strings breaks its line. -/
theorem events_run (calls : List Call) :
    (run calls).file = jsonlFile ((run calls).recorded.map journalEventPayload) ∧
    (∀ event ∈ (run calls).recorded, event.Hides) ∧
    (events runtime (run calls).file = .ok ((run calls).recorded.map JournalEvent.sorted) ↔
      ∀ event ∈ (run calls).recorded, event.LineSafe) := by
  have h := journaled_run calls
  refine ⟨h.file, h.hides, fun hread => ?_, fun hsafe => ?_⟩
  · by_contra hbroken
    obtain ⟨e, herror⟩ := readJsonl_unsafe h.hides hbroken
    rw [h.file, events, herror] at hread
    cases hread
  · rw [h.file]
    exact events_jsonlFile runtime h.hides hsafe

/-! ## Runs through the ingress -/

/-- A string that `str.strip` leaves as it is, and is not empty. -/
def Stripped (text : String) : Prop := strippedText? (.str text) = some text

/-- What the ingress promises of an event. -/
structure JournalEvent.Closed (event : JournalEvent) : Prop where
  eventType : event.eventType ∈ eventTypes
  actor : Stripped event.actor
  action : Stripped event.action
  taskId : ∀ text, event.taskId = some text → Stripped text
  runId : ∀ text, event.runId = some text → Stripped text
  correlationId : ∀ text, event.correlationId = some text → Stripped text

theorem stripped_of_strippedText? {value : Json} {text : String} (h : strippedText? value = some text) :
    Stripped text := by
  cases value with
  | str original =>
      rw [strippedText?] at h
      split at h
      · cases h
      · next hblank =>
          cases h
          have hkept : isBlank (strip original.toList) = false := by
            rw [← Bool.not_eq_true, ← strip_eq_nil_iff, strip_strip, strip_eq_nil_iff]
            exact hblank
          rw [Stripped, strippedText?, String.toList_ofList, if_neg (by simp [hkept]), strip_strip]
  | _ => cases h

theorem stripped_of_optionalText {value : Json} {label : String} {result : Option String}
    (h : optionalText value label = .ok result) : ∀ text, result = some text → Stripped text := by
  rintro text rfl
  have hstripped : strippedText? value = some text := by
    rw [optionalText] at h
    split at h
    · cases h
    · split at h
      · next text' hvalue =>
          obtain rfl : text' = text := Option.some.inj (Except.ok.inj h)
          exact hvalue
      · cases h
  exact stripped_of_strippedText? hstripped

theorem mem_of_ingressEventType {value : Json} {text : String} (h : ingressEventType value = .ok text) :
    text ∈ eventTypes := by
  cases value with
  | str original =>
      rw [ingressEventType] at h
      split at h
      · next hmem =>
          cases h
          simpa using hmem
      · cases h
  | _ => cases h

theorem stripped_of_ingressTexts {actor action : Json} {texts : String × String}
    (h : ingressTexts actor action = .ok texts) : Stripped texts.1 ∧ Stripped texts.2 := by
  rw [ingressTexts] at h
  split at h
  · next hactor haction =>
      cases h
      exact ⟨stripped_of_strippedText? hactor, stripped_of_strippedText? haction⟩
  · cases h

/-- What the ingress lets through. -/
theorem closed_of_validate {members : List (String × Json)} {entry : Entry}
    (h : validateJournalIngress members = .ok entry) (id now : String) :
    (journalEvent id now entry).Closed := by
  rw [validateJournalIngress, unit_bind_eq_ok, unit_bind_eq_ok] at h
  obtain ⟨-, -, h⟩ := h
  obtain ⟨eventType, htype, h⟩ := bind_eq_ok.mp h
  obtain ⟨texts, htexts, h⟩ := bind_eq_ok.mp h
  obtain ⟨recipient, -, h⟩ := bind_eq_ok.mp h
  obtain ⟨metadata, -, h⟩ := bind_eq_ok.mp h
  obtain ⟨taskId, htask, h⟩ := bind_eq_ok.mp h
  obtain ⟨runId, hrun, h⟩ := bind_eq_ok.mp h
  obtain ⟨correlationId, hcorrelation, h⟩ := bind_eq_ok.mp h
  cases h
  obtain ⟨hactor, haction⟩ := stripped_of_ingressTexts htexts
  exact ⟨mem_of_ingressEventType htype, hactor, haction, stripped_of_optionalText htask,
    stripped_of_optionalText hrun, stripped_of_optionalText hcorrelation⟩

/-- A call through the ingress. -/
def Call.isPayload : Call → Bool
  | .record .. => false
  | .payload .. => true

theorem closed_of_result {file file' : Option Text} {call : Call} {event : JournalEvent}
    (hpayload : call.isPayload = true) (h : call.result file = .ok (event, file')) : event.Closed := by
  cases call with
  | record id now entry => cases hpayload
  | payload id now members =>
      obtain ⟨entry, hvalid, h⟩ := bind_eq_ok.mp (show (validateJournalIngress members >>= fun entry =>
        record file id now entry) = .ok (event, file') from h)
      rw [record] at h
      split at h
      · cases h
      · split at h
        · cases h
          exact closed_of_validate hvalid id now
        · cases h

/-- **The ingress.**  Where every call is a payload of another program, whatever they hold,
    every event of the file has a type of the journal, and an actor, an action and ids that
    are not blank and have no white space at an end. -/
theorem closed_run (calls : List Call) (hpayload : ∀ call ∈ calls, call.isPayload = true) :
    ∀ event ∈ (run calls).recorded, event.Closed := by
  induction calls using List.reverseRecOn with
  | nil => exact List.forall_mem_nil _
  | append_singleton calls call ih =>
      have hearlier := ih fun other hother => hpayload other (List.mem_append_left _ hother)
      rw [run, List.foldl_append, ← run]
      show ∀ event ∈ (step (run calls) call).recorded, event.Closed
      rw [step]
      split
      · next event file hresult =>
          have hevent := closed_of_result (hpayload call (by simp)) hresult
          intro other hother
          obtain hother | rfl : other ∈ (run calls).recorded ∨ other = event := by simpa using hother
          · exact hearlier other hother
          · exact hevent
      · exact hearlier

/-- A note that another program hands over. -/
def notePayload : List (String × Json) :=
  [("event_version", .str "1.0"), ("event_type", .str "interaction"), ("actor", .str " gui "),
    ("recipient", .null), ("action", .str "note"), ("content", .null), ("metadata", .obj []),
    ("task_id", .null), ("run_id", .null), ("correlation_id", .null)]

/-- The event that is recorded for the note. -/
def noteEvent : JournalEvent :=
  ⟨"e1", "t1", "interaction", "gui", none, "note", .null, [], none, none, none, "1.0"⟩

theorem closed_run_note :
    (run [.payload "e1" "t1" notePayload]).recorded = [noteEvent] ∧ noteEvent.Closed := by
  have hrecorded : (run [.payload "e1" "t1" notePayload]).recorded = [noteEvent] := rfl
  refine ⟨hrecorded, closed_run [.payload "e1" "t1" notePayload] ?_ noteEvent ?_⟩
  · intro call hcall
    rw [List.mem_singleton.mp hcall]
    rfl
  · rw [hrecorded]
    exact List.mem_singleton_self noteEvent

/-! ## What is read back -/

/-- An event with the content and the metadata as they were handed over. -/
def JournalEvent.withParts (event : JournalEvent) (content : Json) (metadata : List (String × Json)) :
    JournalEvent :=
  { event with content := content, metadata := metadata }

/-- The event of a payload that the ingress accepts, before redaction. -/
def Call.handed : Call → Option JournalEvent
  | .record .. => none
  | .payload id now members =>
    match validateJournalIngress members, field members "metadata" with
    | .ok entry, .obj metadata =>
      some ((journalEvent id now entry).withParts (field members "content") metadata)
    | _, _ => none

/-- Nothing in the event is to be hidden, and its integers can be written. -/
structure JournalEvent.Plain (event : JournalEvent) : Prop where
  content : isPlain event.content = true
  metadata : arePlainMembers event.metadata = true
  distinct : (journalEventPayload event).DistinctKeys
  writable : event.isWritable = true

theorem metadata_of_validate {members : List (String × Json)} {entry : Entry}
    (h : validateJournalIngress members = .ok entry) :
    ∃ metadata, field members "metadata" = .obj metadata ∧
      entry.content = Value.ofJson (field members "content") ∧
      entry.metadata = some (Value.ofMembers metadata) := by
  rw [validateJournalIngress, unit_bind_eq_ok, unit_bind_eq_ok] at h
  obtain ⟨-, -, h⟩ := h
  obtain ⟨_, -, h⟩ := bind_eq_ok.mp h
  obtain ⟨_, -, h⟩ := bind_eq_ok.mp h
  obtain ⟨_, -, h⟩ := bind_eq_ok.mp h
  obtain ⟨metadata, hmetadata, h⟩ := bind_eq_ok.mp h
  obtain ⟨_, -, h⟩ := bind_eq_ok.mp h
  obtain ⟨_, -, h⟩ := bind_eq_ok.mp h
  obtain ⟨_, -, h⟩ := bind_eq_ok.mp h
  cases h
  refine ⟨metadata, ?_, rfl, rfl⟩
  generalize field members "metadata" = value at hmetadata
  cases value with
  | obj members' =>
      cases hmetadata
      rfl
  | _ => cases hmetadata

theorem distinctKeys_of_payload {event : JournalEvent} (h : (journalEventPayload event).DistinctKeys) :
    event.content.DistinctKeys ∧ (Json.obj event.metadata).DistinctKeys := by
  have hmembers := (distinctMembers_iff _).mp h.2
  exact ⟨hmembers ("content", event.content) (by simp [JournalEvent.members]),
    hmembers ("metadata", .obj event.metadata) (by simp [JournalEvent.members])⟩

/-- A plain event is recorded as it was handed over. -/
theorem journalEvent_of_plain {members : List (String × Json)} {entry : Entry}
    (hvalid : validateJournalIngress members = .ok entry) (id now : String) :
    ∃ event, (Call.payload id now members).handed = some event ∧
      (event.Plain → journalEvent id now entry = event) := by
  obtain ⟨metadata, hfield, hcontent, hmetadata⟩ := metadata_of_validate hvalid
  refine ⟨_, by rw [Call.handed, hvalid, hfield], fun hplain => ?_⟩
  obtain ⟨hcontentKeys, hmetadataKeys⟩ := distinctKeys_of_payload hplain.distinct
  have hkeptContent : redact entry.content = field members "content" := by
    rw [hcontent]
    exact redact_ofJson _ hcontentKeys hplain.content
  have hkeptMetadata : dictOfPairs (redactMembers (entry.metadata.getD [])) = metadata := by
    rw [hmetadata, Option.getD_some, redactMembers_ofMembers metadata hmetadataKeys.2 hplain.metadata]
    exact dictOfPairs_of_nodup metadata hmetadataKeys.1
  show (journalEvent id now entry).withParts (redact entry.content)
    (dictOfPairs (redactMembers (entry.metadata.getD []))) = _
  rw [hkeptContent, hkeptMetadata]

/-- A payload that the ingress refuses leaves no event. -/
theorem handed_of_refused {members : List (String × Json)} {e : JournalError}
    (hvalid : validateJournalIngress members = .error e) (id now : String) :
    (Call.payload id now members).handed = none := by
  rw [Call.handed, hvalid]

/-- What one call with a plain payload does: nothing is appended, the event that was handed over
    is, or the file could not be read. -/
theorem step_handed (calls : List Call) {call : Call} (hpayload : call.isPayload = true)
    (hplain : ∀ event, call.handed = some event → event.Plain) :
    (run (calls ++ [call])).recorded = (run calls).recorded ++ call.handed.toList ∨
      ((run (calls ++ [call])).recorded = (run calls).recorded ∧
        ¬ ∀ event ∈ (run calls).recorded, event.LineSafe) := by
  rw [run, List.foldl_append, ← run]
  show (step (run calls) call).recorded = _ ∨ (step (run calls) call).recorded = _ ∧ _
  -- a call of `record` is no payload
  cases call with
  | record _ _ _ => cases hpayload
  | payload id now members =>
      rw [step]
      show (match recordPayload (run calls).file id now members with
        | .ok (event, file) => (⟨file, (run calls).recorded ++ [event]⟩ : Written)
        | .error _ => run calls).recorded = _ ∨ (match recordPayload (run calls).file id now members with
        | .ok (event, file) => (⟨file, (run calls).recorded ++ [event]⟩ : Written)
        | .error _ => run calls).recorded = _ ∧ _
      -- a payload that is refused leaves the file as it is
      cases hvalid : validateJournalIngress members with
      | error e =>
          have hraised : recordPayload (run calls).file id now members = .error e := by
            rw [recordPayload, hvalid]
            rfl
          rw [hraised, handed_of_refused hvalid, Option.toList_none, List.append_nil]
          exact Or.inl rfl
      | ok entry =>
          -- a valid payload is handed over as one event
          obtain ⟨event, hhanded, hkept⟩ := journalEvent_of_plain hvalid id now
          have hrecord : recordPayload (run calls).file id now members =
              record (run calls).file id now entry := by
            rw [recordPayload, hvalid]
            rfl
          rw [hrecord, record, hkept (hplain event hhanded), hhanded]
          have hjournaled := journaled_run calls
          -- the file is read before the append, and can be read when every recorded event is line
          -- safe
          by_cases hsafe : ∀ event ∈ (run calls).recorded, event.LineSafe
          · rw [hjournaled.file, atomicAppendJsonl_jsonlFile (distinct_payloads hjournaled.hides)
              (List.forall_mem_map.mpr hsafe)]
            simp only [(hplain event hhanded).writable, if_true]
            exact Or.inl rfl
          · obtain ⟨e, hread⟩ := readJsonl_unsafe hjournaled.hides hsafe
            rw [hjournaled.file, atomicAppendJsonl, hread]
            exact Or.inr ⟨rfl, hsafe⟩

section Handed

variable {calls : List Call}

/-- Every recorded event was handed over. -/
theorem recorded_subset_handed (hpayload : ∀ call ∈ calls, call.isPayload = true)
    (hplain : ∀ call ∈ calls, ∀ event, call.handed = some event → event.Plain) :
    ∀ event ∈ (run calls).recorded, event ∈ calls.filterMap Call.handed := by
  induction calls using List.reverseRecOn with
  | nil => exact List.forall_mem_nil _
  | append_singleton calls call ih =>
      have hearlier := ih (fun other hother => hpayload other (List.mem_append_left _ hother))
        fun other hother => hplain other (List.mem_append_left _ hother)
      have hlast : call ∈ calls ++ [call] := by simp
      intro event hevent
      rw [List.filterMap_append, List.mem_append]
      obtain hstep | ⟨hstep, -⟩ := step_handed calls (hpayload call hlast) (hplain call hlast)
      · rw [hstep, List.mem_append, Option.mem_toList] at hevent
        obtain hold | hnew := hevent
        · exact Or.inl (hearlier event hold)
        · refine Or.inr (List.mem_filterMap.mpr ⟨call, List.mem_singleton_self call, hnew⟩)
      · rw [hstep] at hevent
        exact Or.inl (hearlier event hevent)

/-- Where no recorded event breaks its line, every event handed over is recorded, in order. -/
theorem recorded_eq_handed (hpayload : ∀ call ∈ calls, call.isPayload = true)
    (hplain : ∀ call ∈ calls, ∀ event, call.handed = some event → event.Plain)
    (hsafe : ∀ event ∈ (run calls).recorded, event.LineSafe) :
    (run calls).recorded = calls.filterMap Call.handed := by
  induction calls using List.reverseRecOn with
  | nil => rfl
  | append_singleton calls call ih =>
      have hlast : call ∈ calls ++ [call] := by simp
      have hearlier := ih (fun other hother => hpayload other (List.mem_append_left _ hother))
        fun other hother => hplain other (List.mem_append_left _ hother)
      obtain hstep | ⟨hstep, hbroken⟩ :=
        step_handed calls (hpayload call hlast) (hplain call hlast)
      · rw [hstep] at hsafe
        rw [hstep, List.filterMap_append,
          hearlier fun event hevent => hsafe event (List.mem_append_left _ hevent)]
        cases hhanded : call.handed with
        | none => rw [List.filterMap_cons_none hhanded]; rfl
        | some event => rw [List.filterMap_cons_some hhanded]; rfl
      · rw [hstep] at hsafe
        exact absurd hsafe hbroken

end Handed

/-- **Round trip.**  When the payloads of other programs have nothing to hide, `events` returns
    every one that the ingress accepts, in order and with its content and metadata as they were
    handed over up to the order of keys, exactly when none of their strings breaks its line. -/
theorem events_handed {calls : List Call} (hpayload : ∀ call ∈ calls, call.isPayload = true)
    (hplain : ∀ call ∈ calls, ∀ event, call.handed = some event → event.Plain) :
    events runtime (run calls).file =
        .ok ((calls.filterMap Call.handed).map JournalEvent.sorted) ↔
      ∀ call ∈ calls, ∀ event, call.handed = some event → event.LineSafe := by
  have hjournaled := journaled_run calls
  have hmem : (∀ call ∈ calls, ∀ event, call.handed = some event → event.LineSafe) ↔
      ∀ event ∈ calls.filterMap Call.handed, event.LineSafe := by
    simp only [List.mem_filterMap, forall_exists_index, and_imp]
    exact ⟨fun h event call hcall hhanded => h call hcall event hhanded,
      fun h call hcall event hhanded => h event call hcall hhanded⟩
  rw [hmem]
  constructor
  · intro hread
    have hsafe : ∀ event ∈ (run calls).recorded, event.LineSafe := by
      by_contra hbroken
      obtain ⟨e, herror⟩ := readJsonl_unsafe hjournaled.hides hbroken
      rw [hjournaled.file, events, herror] at hread
      cases hread
    rwa [← recorded_eq_handed hpayload hplain hsafe]
  · intro hsafe
    have hrecorded : ∀ event ∈ (run calls).recorded, event.LineSafe := fun event hevent =>
      hsafe event (recorded_subset_handed hpayload hplain event hevent)
    rw [hjournaled.file, ← recorded_eq_handed hpayload hplain hrecorded]
    exact events_jsonlFile runtime hjournaled.hides hrecorded

/-- A result that another program hands over, with its keys out of order. -/
def resultPayload : List (String × Json) :=
  [("event_version", .str "1.0"), ("event_type", .str "tool_result"), ("actor", .str "worker "),
    ("recipient", .str "supervisor"), ("action", .str "patch.applied"),
    ("content", .obj [("summary", .str "two files"), ("files", .arr [.str "b.py", .str "a.py"]),
      ("exit", .int 0)]),
    ("metadata", .obj [("zone", .str "ci"), ("attempt", .int 2)]),
    ("task_id", .str " T-1"), ("run_id", .str "R-1"), ("correlation_id", .null)]

/-- The event of the result, as it is handed over. -/
def resultEvent : JournalEvent :=
  ⟨"e2", "t2", "tool_result", "worker", some "supervisor", "patch.applied",
    .obj [("summary", .str "two files"), ("files", .arr [.str "b.py", .str "a.py"]), ("exit", .int 0)],
    [("zone", .str "ci"), ("attempt", .int 2)], some "T-1", some "R-1", none, "1.0"⟩

theorem plain_noteEvent : noteEvent.Plain :=
  ⟨by decide, by decide, ⟨by decide, by simp [noteEvent, JournalEvent.members, optionJson,
    Json.DistinctMembers, Json.DistinctKeys]⟩, by decide⟩

theorem plain_resultEvent : resultEvent.Plain where
  content := by decide +kernel
  metadata := by decide +kernel
  distinct := by
    refine ⟨by decide, ?_⟩
    simp [resultEvent, JournalEvent.members, optionJson, Json.DistinctMembers, Json.DistinctKeys,
      Json.DistinctItems]
  writable := by decide +kernel

/-- The note and the result are read back in order, with white space stripped from their actors
    and ids and the keys sorted. -/
theorem events_handed_note :
    events ⟨fun _ => "", fun _ => none⟩
        (run [.payload "e1" "t1" notePayload, .payload "e2" "t2" resultPayload]).file =
      .ok [⟨"e1", "t1", "interaction", "gui", none, "note", .null, [], none, none, none, "1.0"⟩,
        ⟨"e2", "t2", "tool_result", "worker", some "supervisor", "patch.applied",
          .obj [("exit", .int 0), ("files", .arr [.str "b.py", .str "a.py"]), ("summary", .str "two files")],
          [("attempt", .int 2), ("zone", .str "ci")], some "T-1", some "R-1", none, "1.0"⟩] := by
  have hnote : (Call.payload "e1" "t1" notePayload).handed = some noteEvent := rfl
  have hresult : (Call.payload "e2" "t2" resultPayload).handed = some resultEvent := rfl
  have hpayload : ∀ call ∈ [Call.payload "e1" "t1" notePayload, .payload "e2" "t2" resultPayload],
      call.isPayload = true := by
    simp [Call.isPayload]
  have hhanded : ∀ p : JournalEvent → Prop, p noteEvent → p resultEvent →
      ∀ call ∈ [Call.payload "e1" "t1" notePayload, .payload "e2" "t2" resultPayload],
        ∀ event, call.handed = some event → p event := by
    intro p hp hp' call hcall event hevent
    obtain rfl | rfl : call = .payload "e1" "t1" notePayload ∨ call = .payload "e2" "t2" resultPayload := by
      simpa using hcall
    · rwa [← Option.some.inj (hnote.symm.trans hevent)]
    · rwa [← Option.some.inj (hresult.symm.trans hevent)]
  rw [(events_handed _ hpayload (hhanded _ plain_noteEvent plain_resultEvent)).mpr (hhanded _ ?_ ?_)]
  · rw [List.filterMap_cons_some hnote, List.filterMap_cons_some hresult, List.filterMap_nil]
    rfl
  · have hsafe : ∀ text ∈ (journalEventPayload noteEvent).strings, ∀ c ∈ text.toList,
        isUnescapedBoundary c = false := by decide +kernel
    exact hsafe
  · have hsafe : ∀ text ∈ (journalEventPayload resultEvent).strings, ∀ c ∈ text.toList,
        isUnescapedBoundary c = false := by decide +kernel
    exact hsafe

end LlmHarness.Journal
