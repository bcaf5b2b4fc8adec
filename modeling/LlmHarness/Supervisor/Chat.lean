/-
  LlmHarness.Supervisor.Chat

  The Supervisor chat of `supervisor_chat.py`: its messages, the history file, the
  prompt and the check of a reply.

  What is written as a history is loaded as the same messages.
-/

import LlmHarness.Lib.Guards
import LlmHarness.Python.JsonQuotes
import LlmHarness.Python.JsonRoundTrip
import LlmHarness.Python.UpperCase
import LlmHarness.Python.Value

namespace LlmHarness

open Python

/-- What the chat raises. -/
inductive ChatFault where
  | chatError (message : String)
  | durableIOError
  | typeError
deriving DecidableEq, Repr

/-- `Literal["user", "supervisor"]`. -/
inductive ChatRole where
  | user
  | supervisor
deriving DecidableEq, Repr

/-- The text of a role. -/
def ChatRole.text : ChatRole → String
  | .user => "user"
  | .supervisor => "supervisor"

/-- `SupervisorChatMessage`. -/
structure ChatMessage where
  messageId : String
  role : ChatRole
  text : String
  createdAtUtc : String
  readyToPlan : Bool := false
  requirementsSummary : String := ""
deriving DecidableEq, Repr

/-! ## The history file -/

/-- `CHAT_HISTORY_VERSION`. -/
def chatHistoryVersion : String := "1.0"

/-- `_message_payload`. -/
def messagePayload (message : ChatMessage) : Json := .obj [
  ("message_id", .str message.messageId),
  ("role", .str message.role.text),
  ("text", .str message.text),
  ("created_at_utc", .str message.createdAtUtc),
  ("ready_to_plan", .bool message.readyToPlan),
  ("requirements_summary", .str message.requirementsSummary)]

/-- `value.get("role") not in {"user", "supervisor"}`: a list or an object has no hash. -/
def roleFromPayload : Json → Except ChatFault ChatRole
  | .str "user" => .ok .user
  | .str "supervisor" => .ok .supervisor
  | .arr _ | .obj _ => .error .typeError
  | _ => .error (.chatError "Supervisor chat contains an invalid message record.")

/-- A required string of a message. -/
def identityField (payload : List (String × Json)) (name : String) : Except ChatFault String :=
  match field payload name with
  | .str text => .ok text
  | _ => .error (.chatError "Supervisor chat message identity fields are invalid.")

/-- `_message_from_payload`. -/
def messageFromPayload : Json → Except ChatFault ChatMessage
  | .obj payload => do
    let role ← roleFromPayload (field payload "role")
    let messageId ← identityField payload "message_id"
    let text ← identityField payload "text"
    let createdAtUtc ← identityField payload "created_at_utc"
    return {
      messageId, role, text, createdAtUtc
      readyToPlan := isTruthy ((dictGet? payload "ready_to_plan").getD (.bool false))
      requirementsSummary := pyStr ((dictGet? payload "requirements_summary").getD (.str "")) }
  | _ => .error (.chatError "Supervisor chat contains an invalid message record.")

/-- The payload of a history. -/
def chatPayload (messages : List ChatMessage) : Json :=
  .obj [("version", .str chatHistoryVersion), ("messages", .arr (messages.map messagePayload))]

/-- What `atomic_write_json` leaves of a history. -/
def chatFile (messages : List ChatMessage) : Text := (chatPayload messages).dumpsIndent ++ ['\n']

/-- `read_json` of the history, with the payload of an empty one as its default. -/
def readChat : Option Text → Except ChatFault Json
  | none => .ok (chatPayload [])
  | some text =>
    match loads (universalNewlines text) with
    | some payload => .ok payload
    | none => .error .durableIOError

/-- `load_supervisor_chat` of the file at a path. -/
def loadSupervisorChat (path : String) (file : Option Text) : Except ChatFault (List ChatMessage) := do
  match ← readChat file with
  | .obj payload =>
    match field payload "version" with
    | .str version =>
      if version ≠ chatHistoryVersion then
        .error (.chatError ("Unsupported or corrupted Supervisor chat history: " ++ path))
      else match field payload "messages" with
        | .arr items => items.mapM messageFromPayload
        | _ => .error (.chatError ("Supervisor chat messages must be a JSON array: " ++ path))
    | _ => .error (.chatError ("Unsupported or corrupted Supervisor chat history: " ++ path))
  | _ => .error (.chatError ("Unsupported or corrupted Supervisor chat history: " ++ path))

/-! ## Prompt and reply -/

/-- `_conversation_prompt`: the last thirty messages and the new one. -/
def conversationPrompt (history : List ChatMessage) (newMessage : Text) : Text :=
  let bounded := history.drop (history.length - 30)
  let lines := bounded.map fun item => upper item.role.text.toList ++ ": ".toList ++ item.text.toList
  "\n\n".toList.intercalate ("Conversation so far:".toList :: lines ++ ["USER: ".toList ++ newMessage])

/-- `_validate_chat_reply`. -/
def validateChatReply (output : List (String × Json)) : Except ChatFault (String × Bool × String) :=
  if (output.map Prod.fst).all (· ∈ ["reply", "ready_to_plan", "requirements_summary"]) &&
      ["reply", "ready_to_plan", "requirements_summary"].all (· ∈ output.map Prod.fst) then
    match field output "reply" with
    | .str reply =>
      if strip reply.toList = [] then
        .error (.chatError "Supervisor chat reply must contain non-empty reply text.")
      else match field output "ready_to_plan", field output "requirements_summary" with
        | .bool ready, .str summary =>
          .ok (String.ofList (strip reply.toList), ready, String.ofList (strip summary.toList))
        | _, _ => .error (.chatError "Supervisor chat readiness fields have invalid types.")
    | _ => .error (.chatError "Supervisor chat reply must contain non-empty reply text.")
  else .error (.chatError "Supervisor chat reply contains unexpected or missing fields.")

/-! ## What is written is loaded -/

theorem messageFromPayload_messagePayload (message : ChatMessage) :
    messageFromPayload (messagePayload message) = .ok message := by
  obtain ⟨messageId, role, text, createdAtUtc, readyToPlan, requirementsSummary⟩ := message
  cases role <;> cases readyToPlan <;> rfl

theorem distinctKeys_chatPayload (messages : List ChatMessage) :
    (chatPayload messages).DistinctKeys := by
  have hitems : ∀ item ∈ messages.map messagePayload, item.DistinctKeys := by
    intro item hitem
    obtain ⟨message, -, rfl⟩ := List.mem_map.mp hitem
    simp [messagePayload, Json.DistinctKeys, Json.DistinctMembers]
  have harray : (Json.arr (messages.map messagePayload)).DistinctKeys := (distinctItems_iff _).mpr hitems
  have hnames : ["version", "messages"].Nodup := by decide
  exact ⟨hnames, trivial, harray, trivial⟩

/-- **The history round trip.** -/
theorem loadSupervisorChat_chatFile (path : String) (messages : List ChatMessage) :
    loadSupervisorChat path (some (chatFile messages)) = .ok messages := by
  have hreturn : ∀ c ∈ chatFile messages, c ≠ '\r' :=
    List.forall_mem_append.mpr ⟨no_return_dumpsIndent _, by decide⟩
  have hread : readChat (some (chatFile messages)) = .ok (chatPayload messages) := by
    rw [readChat, universalNewlines_of_no_return _ hreturn, chatFile,
      loads_dumpsIndent _ (distinctKeys_chatPayload messages)]
  have hmessages := Guards.mapM_map_ok messagePayload messageFromPayload id
    messageFromPayload_messagePayload messages
  rw [List.map_id] at hmessages
  rw [loadSupervisorChat, hread]
  exact hmessages

end LlmHarness
