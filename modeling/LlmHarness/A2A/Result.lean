/-
  LlmHarness.A2A.Result

  `A2AResult` of `a2a.py`: the texts and the data objects of a finished remote
  task, read from one Task object (`_send_message_non_streaming`) or from the
  events of a stream (`_stream_result`).  A JSON object is the list of its members.

  `uuid4()` is the parameter `requestId`; the answers of `GetTask` are those that
  arrive before the deadline.
-/

import LlmHarness.Python.Search
import LlmHarness.Python.UpperCase
import LlmHarness.Python.Value

namespace LlmHarness.A2A

open Python

/-- The members of a JSON object. -/
abbrev Members := List (String × Json)

/-- `A2AResult`. -/
structure A2AResult where
  texts : List String
  data : List Members
  taskId : Option String
  state : String
  requestId : String

/-- `A2AError`. -/
structure A2AError where
  message : String
deriving DecidableEq, Repr

/-! ## The parts of a message, a task or an event -/

/-- The objects of a list of parts. -/
def partObjects (parts : List Json) : List Members :=
  parts.filterMap fun
    | .obj part => some part
    | _ => none

/-- `collect` of `_all_parts`: the part objects of a container. -/
def collectParts : Json → List Members
  | .obj container =>
    match field container "parts" with
    | .arr parts => partObjects parts
    | _ => []
  | _ => []

/-- `collect` on each item of a list. -/
def collectEach : Json → List Members
  | .arr containers => containers.flatMap collectParts
  | _ => []

/-- `collect(status.get("message"))`. -/
def collectStatus : Json → List Members
  | .obj status => collectParts (field status "message")
  | _ => []

/-- `_all_parts`. -/
def allParts (value : Members) : List Members :=
  collectParts (.obj value) ++ collectEach (field value "artifacts") ++
    collectParts (field value "artifact") ++ collectEach (field value "history") ++
    collectStatus (field value "status")

/-- The text of a part. -/
def partText? (part : Members) : Option String :=
  match field part "text" with
  | .str text => some text
  | _ => none

/-- The data object of a part. -/
def partData? (part : Members) : Option Members :=
  match field part "data" with
  | .obj data => some data
  | _ => none

/-- `_extract_texts`. -/
def extractTexts (value : Members) : List String := (allParts value).filterMap partText?

/-- `_extract_data`. -/
def extractData (value : Members) : List Members := (allParts value).filterMap partData?

/-! ## The task an object is about, and its state -/

/-- `TERMINAL_STATES`. -/
def terminalStates : List String := ["COMPLETED", "FAILED", "CANCELED", "CANCELLED", "REJECTED"]

/-- The terminal states of a task that did not complete. -/
def failedStates : List String := ["FAILED", "CANCELED", "CANCELLED", "REJECTED"]

/-- `str(value)`, for the role of a message: only a text upper-cases to a role. -/
def roleText : Json → String
  | .str role => role
  | _ => ""

/-- `str.upper` on a text. -/
def upperText (text : String) : String := String.ofList (upper text.toList)

/-- `_looks_like_message`. -/
def looksLikeMessage (value : Members) : Bool :=
  (match field value "parts" with
    | .arr _ => true
    | _ => false) ||
  ["AGENT", "ROLE_AGENT"].contains (upperText (roleText (field value "role")))

/-- `_task_id`. -/
def taskId? (value : Members) : Option String :=
  match pyOr (field value "id") (field value "taskId") with
  | .str item => if item = "" then none else some item
  | _ => none

/-- The state an object holds, before it is normalised. -/
def rawState (value : Members) : Json :=
  match field value "status" with
  | .obj status => field status "state"
  | _ => field value "state"

/-- `_task_state`. -/
def taskState (value : Members) : String :=
  match rawState value with
  | .str state => String.ofList (replace "TASK_STATE_".toList [] (upper state.toList))
  | _ => if looksLikeMessage value then "COMPLETED" else ""

/-- The object under the first of the keys that holds one, or the value itself. -/
def unwrapKeys (value : Members) : List String → Members
  | [] => value
  | key :: keys =>
    match field value key with
    | .obj nested => nested
    | _ => unwrapKeys value keys

/-- `_unwrap_message_or_task`. -/
def unwrapMessageOrTask (value : Members) : Members := unwrapKeys value ["task", "message"]

/-- `_unwrap_stream_event`. -/
def unwrapStreamEvent (value : Members) : Members :=
  unwrapKeys value ["task", "message", "statusUpdate", "artifactUpdate"]

/-! ## Polling -/

/-- The loop of `_send_message_non_streaming`: the first payload in a terminal state, or
    none when the answers run out before there is one. -/
def pollTask (taskId : Option String) : List Members → Members → Option Members
  | [], payload => if taskId.isSome ∧ taskState payload ∉ terminalStates then none else some payload
  | answer :: answers, payload =>
    if taskId.isSome ∧ taskState payload ∉ terminalStates then
      pollTask taskId answers (unwrapMessageOrTask answer)
    else some payload

/-- `_send_message_non_streaming`, from the answer to `SendMessage` and those to `GetTask`. -/
def sendMessageNonStreaming (requestId : String) (first : Members) (answers : List Members) :
    Except A2AError A2AResult :=
  let taskId := taskId? (unwrapMessageOrTask first)
  match pollTask taskId answers (unwrapMessageOrTask first) with
  | none => .error ⟨"A2A task " ++ taskId.getD "" ++ " timed out and cancellation was requested."⟩
  | some payload =>
    let state := taskState payload
    if state ∈ failedStates then
      .error ⟨"A2A task " ++ taskId.getD requestId ++ " ended in " ++ state ++ ": " ++
        String.ofList (("\n".intercalate (extractTexts payload)).toList.take 2000)⟩
    else .ok ⟨extractTexts payload, extractData payload, taskId,
      if state = "" then "COMPLETED" else state, requestId⟩

/-! ## Streaming -/

/-- The items whose identity is not among those seen, each identity once. -/
def distinctBy {α β : Type} [DecidableEq β] (identity : α → β) : List β → List α → List α
  | _, [] => []
  | seen, item :: items =>
    if identity item ∈ seen then distinctBy identity seen items
    else item :: distinctBy identity (identity item :: seen) items

/-- `dict.fromkeys(texts)`. -/
def dictFromKeys (texts : List String) : List String := distinctBy id [] texts

/-- `json.dumps(item, sort_keys=True, ensure_ascii=False, separators=(",", ":"))`. -/
def dataIdentity (item : Members) : Text := (Json.sortKeys (.obj item)).dumpsWith []

/-- What `_stream_result` collects. -/
structure StreamTotals where
  texts : List String := []
  data : List Members := []
  taskId : Option String := none
  state : String := ""

/-- The body of the loop of `_stream_result`. -/
def streamStep (totals : StreamTotals) (event : Members) : StreamTotals :=
  let payload := unwrapStreamEvent event
  let candidate := if taskState payload ≠ "" then taskState payload else taskState event
  { texts := totals.texts ++ extractTexts payload
    data := totals.data ++ extractData payload
    taskId := ((taskId? payload).or (taskId? event)).or totals.taskId
    state := if candidate ≠ "" then candidate else totals.state }

/-- `_stream_result`. -/
def streamResult (events : List Members) (requestId : String) : A2AResult :=
  let totals := events.foldl streamStep {}
  { texts := dictFromKeys (totals.texts.filter (· ≠ ""))
    data := distinctBy dataIdentity [] totals.data
    taskId := totals.taskId
    state :=
      if totals.state ≠ "" then totals.state
      else if (!totals.texts.isEmpty || !totals.data.isEmpty) && totals.taskId.isNone then "COMPLETED"
      else ""
    requestId }

/-! ## The first of each identity -/

section Distinct

variable {α β : Type} [DecidableEq β] {identity : α → β}

theorem length_distinctBy_le (identity : α → β) (seen : List β) (items : List α) :
    (distinctBy identity seen items).length ≤ items.length := by
  induction items generalizing seen with
  | nil => exact Nat.le_refl _
  | cons item items ih =>
      rw [distinctBy]
      split
      · exact Nat.le_succ_of_le (ih seen)
      · exact Nat.succ_le_succ (ih _)

/-- Nothing is dropped exactly when no identity was seen before. -/
theorem distinctBy_eq_self_iff (seen : List β) (items : List α) :
    distinctBy identity seen items = items ↔
      (items.map identity).Nodup ∧ ∀ item ∈ items, identity item ∉ seen := by
  -- the induction is on the items, with what was seen free
  induction items generalizing seen with
  | nil => simp [distinctBy]
  | cons item items ih =>
      rw [distinctBy, List.map_cons, List.nodup_cons, List.forall_mem_cons]
      by_cases hseen : identity item ∈ seen
      -- an item that was seen is dropped, which shortens the list
      · rw [if_pos hseen]
        constructor
        · intro h
          have hlength := length_distinctBy_le identity seen items
          rw [h, List.length_cons] at hlength
          omega
        · rintro ⟨-, hfresh, -⟩
          exact absurd hseen hfresh
      -- a new item stays, and is seen by the rest
      · rw [if_neg hseen, List.cons.injEq, ih]
        simp only [true_and, List.mem_cons, not_or, List.mem_map, hseen, not_false_eq_true]
        constructor
        · rintro ⟨hnodup, hall⟩
          refine ⟨⟨?_, hnodup⟩, fun other hother => (hall other hother).2⟩
          rintro ⟨other, hother, hsame⟩
          exact (hall other hother).1 hsame
        · rintro ⟨⟨hnone, hnodup⟩, hall⟩
          exact ⟨hnodup, fun other hother => ⟨fun hsame => hnone ⟨other, hother, hsame⟩,
            hall other hother⟩⟩

theorem distinctBy_nil_eq_self_iff (items : List α) :
    distinctBy identity [] items = items ↔ (items.map identity).Nodup := by
  rw [distinctBy_eq_self_iff]
  exact and_iff_left fun item _ => List.not_mem_nil

end Distinct

/-! ## What a task and the events of a stream carry -/

/-- The texts of a list of parts. -/
def partTexts (parts : List Json) : List String := (partObjects parts).filterMap partText?

/-- The data objects of a list of parts. -/
def partData (parts : List Json) : List Members := (partObjects parts).filterMap partData?

/-- An artifact with the given parts. -/
def HasParts (artifact : Json) (parts : List Json) : Prop :=
  ∃ members, artifact = .obj members ∧ field members "parts" = .arr parts

/-- A Task object whose artifacts hold the parts, between them and in order. -/
structure TaskCarries (task : Members) (parts : List Json) : Prop where
  artifacts : ∃ containers slices, field task "artifacts" = .arr containers ∧
    List.Forall₂ HasParts containers slices ∧ slices.flatten = parts
  status : ∃ status, field task "status" = .obj status ∧ field status "message" = .null
  noParts : field task "parts" = .null
  noArtifact : field task "artifact" = .null
  noHistory : field task "history" = .null

/-- The event is of the named kind, and holds the update. -/
structure IsUpdate (event : Members) (kind : String) (update : Members) : Prop where
  holds : field event kind = .obj update
  others : ∀ key ∈ ["task", "message", "statusUpdate", "artifactUpdate"], key ≠ kind →
    field event key = .null
  noParts : field update "parts" = .null
  noArtifacts : field update "artifacts" = .null
  noHistory : field update "history" = .null

/-- An `artifactUpdate` event with a slice of the parts. -/
def UpdateCarries (event : Members) (slice : List Json) : Prop :=
  ∃ update, IsUpdate event "artifactUpdate" update ∧ HasParts (field update "artifact") slice ∧
    field update "status" = .null

/-- A `statusUpdate` event without a message. -/
def StatusOnly (event : Members) : Prop :=
  ∃ update status, IsUpdate event "statusUpdate" update ∧ field update "artifact" = .null ∧
    field update "status" = .obj status ∧ field status "message" = .null

theorem partObjects_append (parts parts' : List Json) :
    partObjects (parts ++ parts') = partObjects parts ++ partObjects parts' :=
  List.filterMap_append

theorem collectParts_of_hasParts {artifact : Json} {parts : List Json} (h : HasParts artifact parts) :
    collectParts artifact = partObjects parts := by
  obtain ⟨members, rfl, hparts⟩ := h
  rw [collectParts, hparts]

/-- The artifacts of a task hold the parts of all their slices. -/
theorem collectEach_of_hasParts {containers : List Json} {slices : List (List Json)}
    (h : List.Forall₂ HasParts containers slices) :
    collectEach (.arr containers) = partObjects slices.flatten := by
  rw [collectEach]
  induction h with
  | nil => rfl
  | cons hparts _ ih =>
      rw [List.flatMap_cons, List.flatten_cons, partObjects_append, ih, collectParts_of_hasParts hparts]

theorem collectParts_of_noParts {value : Members} (h : field value "parts" = .null) :
    collectParts (.obj value) = [] := by
  rw [collectParts, h]

theorem TaskCarries.allParts {task : Members} {parts : List Json} (h : TaskCarries task parts) :
    allParts task = partObjects parts := by
  obtain ⟨containers, slices, hartifacts, hslices, rfl⟩ := h.artifacts
  obtain ⟨status, hstatus, hmessage⟩ := h.status
  rw [A2A.allParts, collectParts_of_noParts h.noParts, hartifacts, collectEach_of_hasParts hslices,
    h.noArtifact, h.noHistory, hstatus]
  simp [collectParts, collectEach, collectStatus, hmessage]

theorem UpdateCarries.allParts {event : Members} {slice : List Json} (h : UpdateCarries event slice) :
    allParts (unwrapStreamEvent event) = partObjects slice := by
  obtain ⟨update, hkind, hartifact, hstatus⟩ := h
  have hunwrap : unwrapStreamEvent event = update := by
    simp [unwrapStreamEvent, unwrapKeys, hkind.holds, hkind.others]
  rw [hunwrap, A2A.allParts, collectParts_of_noParts hkind.noParts, hkind.noArtifacts,
    collectParts_of_hasParts hartifact, hkind.noHistory, hstatus]
  simp [collectEach, collectStatus]

theorem StatusOnly.allParts {event : Members} (h : StatusOnly event) :
    allParts (unwrapStreamEvent event) = [] := by
  obtain ⟨update, status, hkind, hartifact, hstatus, hmessage⟩ := h
  have hunwrap : unwrapStreamEvent event = update := by
    simp [unwrapStreamEvent, unwrapKeys, hkind.holds, hkind.others]
  rw [hunwrap, A2A.allParts, collectParts_of_noParts hkind.noParts, hkind.noArtifacts, hartifact,
    hkind.noHistory, hstatus]
  simp [collectParts, collectEach, collectStatus, hmessage]

/-! ## Two ways of delivery -/

/-- The texts and the data a stream adds up to. -/
theorem foldl_streamStep (totals : StreamTotals) (events : List Members) :
    (events.foldl streamStep totals).texts =
        totals.texts ++ events.flatMap (fun event => extractTexts (unwrapStreamEvent event)) ∧
      (events.foldl streamStep totals).data =
        totals.data ++ events.flatMap (fun event => extractData (unwrapStreamEvent event)) := by
  induction events generalizing totals with
  | nil => simp
  | cons event events ih =>
      obtain ⟨htexts, hdata⟩ := ih (streamStep totals event)
      rw [List.foldl_cons, htexts, hdata, List.flatMap_cons, List.flatMap_cons]
      constructor
      · rw [streamStep, List.append_assoc]
      · rw [streamStep, List.append_assoc]

/-- The events of the slices and the closing status carry the parts between them. -/
theorem flatMap_allParts {updates : List Members} {slices : List (List Json)} {last : Members}
    (hupdates : List.Forall₂ UpdateCarries updates slices) (hlast : StatusOnly last) :
    (updates ++ [last]).flatMap (fun event => allParts (unwrapStreamEvent event)) =
      partObjects slices.flatten := by
  induction hupdates with
  | nil => rw [List.nil_append, List.flatMap_singleton, hlast.allParts]; rfl
  | cons hslice _ ih =>
      rw [List.cons_append, List.flatMap_cons, ih, hslice.allParts, List.flatten_cons,
        partObjects_append]

/-- What a stream of slices results in: the texts that are not empty and the data objects,
    each once. -/
theorem streamResult_slices (requestId : String) {updates : List Members}
    {slices : List (List Json)} {last : Members}
    (hupdates : List.Forall₂ UpdateCarries updates slices) (hlast : StatusOnly last) :
    (streamResult (updates ++ [last]) requestId).texts =
        dictFromKeys ((partTexts slices.flatten).filter (· ≠ "")) ∧
      (streamResult (updates ++ [last]) requestId).data =
        distinctBy dataIdentity [] (partData slices.flatten) := by
  obtain ⟨htexts, hdata⟩ := foldl_streamStep {} (updates ++ [last])
  have hparts := flatMap_allParts hupdates hlast
  have hallTexts : ((updates ++ [last]).foldl streamStep {}).texts = partTexts slices.flatten := by
    rw [htexts, partTexts, ← hparts, List.filterMap_flatMap]
    rfl
  have hallData : ((updates ++ [last]).foldl streamStep {}).data = partData slices.flatten := by
    rw [hdata, partData, ← hparts, List.filterMap_flatMap]
    rfl
  constructor
  · show dictFromKeys (((updates ++ [last]).foldl streamStep {}).texts.filter (· ≠ "")) = _
    rw [hallTexts]
  · show distinctBy dataIdentity [] ((updates ++ [last]).foldl streamStep {}).data = _
    rw [hallData]

/-- A list of texts survives the stream's filter and its keys unchanged exactly when none is
    empty and none is repeated. -/
theorem dictFromKeys_filter_eq_self_iff (texts : List String) :
    dictFromKeys (texts.filter (· ≠ "")) = texts ↔ (∀ text ∈ texts, text ≠ "") ∧ texts.Nodup := by
  constructor
  · intro h
    have hlength := length_distinctBy_le id [] (texts.filter (· ≠ ""))
    rw [← dictFromKeys, h] at hlength
    have hfilter : texts.filter (· ≠ "") = texts :=
      List.filter_sublist.eq_of_length_le hlength
    refine ⟨fun text htext => by simpa using (List.filter_eq_self.mp hfilter) text htext, ?_⟩
    rw [hfilter, dictFromKeys, distinctBy_nil_eq_self_iff, List.map_id] at h
    exact h
  · rintro ⟨hsome, hnodup⟩
    rw [List.filter_eq_self.mpr (by simpa using hsome), dictFromKeys, distinctBy_nil_eq_self_iff,
      List.map_id]
    exact hnodup

/-- The loop ended with a task that did not fail: the result is what the task carries. -/
theorem sendMessageNonStreaming_carries (requestId : String) {first task : Members}
    {answers : List Members} {parts : List Json}
    (hpoll : pollTask (taskId? (unwrapMessageOrTask first)) answers (unwrapMessageOrTask first) =
      some task) (hstate : taskState task ∉ failedStates) (htask : TaskCarries task parts) :
    ∃ polled, sendMessageNonStreaming requestId first answers = .ok polled ∧
      polled.texts = partTexts parts ∧ polled.data = partData parts := by
  refine ⟨⟨extractTexts task, extractData task, taskId? (unwrapMessageOrTask first),
    if taskState task = "" then "COMPLETED" else taskState task, requestId⟩, ?_, ?_, ?_⟩
  · rw [sendMessageNonStreaming]
    simp only [hpoll, if_neg hstate]
  · show extractTexts task = _
    rw [extractTexts, htask.allParts, partTexts]
  · show extractData task = _
    rw [extractData, htask.allParts, partData]

/-- **Delivery paths.**  A stream of slices and one Task object give the same texts and data
    exactly when the parts hold no empty text, no text twice and no data object twice. -/
theorem streamResult_agrees_iff {requestId : String} {first task last : Members}
    {answers updates : List Members} {parts : List Json} {slices : List (List Json)}
    (hpoll : pollTask (taskId? (unwrapMessageOrTask first)) answers (unwrapMessageOrTask first) =
      some task) (hstate : taskState task ∉ failedStates) (htask : TaskCarries task parts)
    (hupdates : List.Forall₂ UpdateCarries updates slices) (hslices : slices.flatten = parts)
    (hlast : StatusOnly last) :
    (∃ polled, sendMessageNonStreaming requestId first answers = .ok polled ∧
        (streamResult (updates ++ [last]) requestId).texts = polled.texts ∧
        (streamResult (updates ++ [last]) requestId).data = polled.data) ↔
      (∀ text ∈ partTexts parts, text ≠ "") ∧ (partTexts parts).Nodup ∧
        ((partData parts).map dataIdentity).Nodup := by
  obtain ⟨polled, hpolled, htexts, hdata⟩ :=
    sendMessageNonStreaming_carries requestId hpoll hstate htask
  obtain ⟨hstreamTexts, hstreamData⟩ := streamResult_slices requestId hupdates hlast
  -- the polled result is the only one to compare with
  have hsame : (∃ result, sendMessageNonStreaming requestId first answers = .ok result ∧
      (streamResult (updates ++ [last]) requestId).texts = result.texts ∧
      (streamResult (updates ++ [last]) requestId).data = result.data) ↔
      (streamResult (updates ++ [last]) requestId).texts = polled.texts ∧
        (streamResult (updates ++ [last]) requestId).data = polled.data := by
    constructor
    · rintro ⟨result, hresult, hboth⟩
      rw [hpolled] at hresult
      cases hresult
      exact hboth
    · exact fun hboth => ⟨polled, hpolled, hboth⟩
  -- what is left are the filters of the two results
  rw [hsame, hstreamTexts, hstreamData, htexts, hdata, hslices, dictFromKeys_filter_eq_self_iff,
    distinctBy_nil_eq_self_iff, and_assoc]

/-! ## A part that is sent twice -/

/-- A text part. -/
def textPart (text : String) : Json := .obj [("text", .str text)]

/-- A completed task with one artifact. -/
def completedTask (parts : List Json) : Members :=
  [("id", .str "task-1"), ("status", .obj [("state", .str "TASK_STATE_COMPLETED")]),
    ("artifacts", .arr [.obj [("artifactId", .str "patch"), ("parts", .arr parts)]])]

/-- The event of a slice. -/
def artifactUpdate (slice : List Json) : Members :=
  [("artifactUpdate", .obj [("taskId", .str "task-1"),
    ("artifact", .obj [("artifactId", .str "patch"), ("parts", .arr slice)])])]

/-- The closing event. -/
def completedUpdate : Members :=
  [("statusUpdate", .obj [("taskId", .str "task-1"),
    ("status", .obj [("state", .str "TASK_STATE_COMPLETED")])])]

/-- An object with one member holds nothing under another key. -/
theorem field_singleton_of_ne {key other : String} {value : Json} (h : other ≠ key) :
    field [(key, value)] other = .null := by
  simp [field, dictGet?, Ne.symm h]

theorem taskCarries_completedTask (parts : List Json) : TaskCarries (completedTask parts) parts where
  artifacts := ⟨_, [parts], rfl, .cons ⟨_, rfl, rfl⟩ .nil, List.flatten_singleton⟩
  status := ⟨_, rfl, rfl⟩
  noParts := rfl
  noArtifact := rfl
  noHistory := rfl

theorem updateCarries_artifactUpdate (slice : List Json) :
    UpdateCarries (artifactUpdate slice) slice :=
  ⟨_, ⟨rfl, fun _ _ hne => field_singleton_of_ne hne, rfl, rfl, rfl⟩, ⟨_, rfl, rfl⟩, rfl⟩

theorem statusOnly_completedUpdate : StatusOnly completedUpdate :=
  ⟨_, _, ⟨rfl, fun _ _ hne => field_singleton_of_ne hne, rfl, rfl, rfl⟩, rfl, rfl, rfl⟩

/-- Two different texts, each in an event of its own. -/
theorem streamResult_agrees_distinct :
    ∃ polled, sendMessageNonStreaming "request-1" [("task", .obj (completedTask
        [textPart "-old", textPart "+new"]))] [] = .ok polled ∧
      (streamResult ([artifactUpdate [textPart "-old"], artifactUpdate [textPart "+new"]] ++
        [completedUpdate]) "request-1").texts = polled.texts ∧
      (streamResult ([artifactUpdate [textPart "-old"], artifactUpdate [textPart "+new"]] ++
        [completedUpdate]) "request-1").data = polled.data :=
  (streamResult_agrees_iff (by rfl) (by decide +kernel)
    (taskCarries_completedTask [textPart "-old", textPart "+new"])
    (.cons (updateCarries_artifactUpdate [textPart "-old"])
      (.cons (updateCarries_artifactUpdate [textPart "+new"]) .nil)) rfl
    statusOnly_completedUpdate).mpr (by decide +kernel)

/-- The same text in two parts: the stream delivers it once. -/
theorem not_streamResult_agrees_repeated :
    ¬ ∀ (requestId : String) (first task last : Members) (answers updates : List Members)
        (parts : List Json) (slices : List (List Json)),
      pollTask (taskId? (unwrapMessageOrTask first)) answers (unwrapMessageOrTask first) = some task →
      taskState task ∉ failedStates → TaskCarries task parts →
      List.Forall₂ UpdateCarries updates slices → slices.flatten = parts → StatusOnly last →
      ∃ polled, sendMessageNonStreaming requestId first answers = .ok polled ∧
        (streamResult (updates ++ [last]) requestId).texts = polled.texts ∧
        (streamResult (updates ++ [last]) requestId).data = polled.data := by
  intro hall
  let line := textPart "+same"
  obtain ⟨polled, hpolled, htexts, -⟩ := hall "request-1" [("task", .obj (completedTask [line, line]))]
    (completedTask [line, line]) completedUpdate [] [artifactUpdate [line], artifactUpdate [line]]
    [line, line] [[line], [line]] (by rfl) (by decide +kernel) (taskCarries_completedTask _)
    (.cons (updateCarries_artifactUpdate _) (.cons (updateCarries_artifactUpdate _) .nil)) rfl
    statusOnly_completedUpdate
  have hpolledTexts : (sendMessageNonStreaming "request-1"
      [("task", .obj (completedTask [line, line]))] []).map A2AResult.texts =
        .ok ["+same", "+same"] := by decide +kernel
  rw [hpolled] at hpolledTexts
  have htwice : polled.texts = ["+same", "+same"] := Except.ok.inj hpolledTexts
  rw [htwice] at htexts
  exact absurd htexts (by decide +kernel)

end LlmHarness.A2A
