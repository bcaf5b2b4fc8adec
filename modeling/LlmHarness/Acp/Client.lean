/-
  LlmHarness.Acp.Client

  `_read_response` of `JsonRpcStdioClient`: the client waits for the response to one of
  its requests and serves what the agent writes meanwhile.

  `json.loads` is a parameter, so that what follows holds for each of its outcomes; the
  writes to the agent succeed, and `_emit` alters nothing.
-/

import LlmHarness.Acp.Permissions
import LlmHarness.Python.Float
import LlmHarness.Python.Search

namespace LlmHarness.Acp

open Python Config

/-- What `json.loads` does with a line: a `ValueError` that is no `JSONDecodeError` (an
    integer of too many digits) and a `RecursionError` are not caught. -/
inductive Loaded where
  | value (message : Json)
  | decodeError
  | raises

/-- What `_read_response` raises. -/
inductive ReadFault where
  | acpError (message : String)
  | typeError
  | attributeError
  | loadsError
deriving DecidableEq, Repr

/-- `item == name`. -/
def isNamed (name : String) : Json → Bool
  | .str text => text = name
  | _ => false

/-- `name in message`. -/
def isIn (name : String) : Json → Except ReadFault Bool
  | .obj members => .ok (dictGet? members name).isSome
  | .arr items => .ok (items.any (isNamed name))
  | .str text => .ok (find name.toList text.toList).isSome
  | _ => .error .typeError

/-- The object whose `get` is called. -/
def asObject : Json → Except ReadFault Members
  | .obj members => .ok members
  | _ => .error .attributeError

/-- `value == number`; a `bool` is a number for Python. -/
def equalsInt (value : Json) (number : Int) : Bool :=
  match value with
  | .int i => i = number
  | .bool b => (if b then 1 else 0) = number
  | .float f => f.value = .finite number
  | _ => false

variable [Config.Runtime] (policy : RoleMcpPolicyConfig)

/-- `_respond_to_server_request`: the message that is written. -/
def serverAnswer (message : Members) : Members :=
  if isNamed "session/request_permission" (field message "method") then
    [("jsonrpc", .str "2.0"), ("id", field message "id"),
      ("result", .obj [("outcome", .obj (permissionOutcome policy message))])]
  else
    [("jsonrpc", .str "2.0"), ("id", field message "id"),
      ("error", .obj [("code", .int (-32601)),
        ("message", .str ("Unsupported ACP client request: " ++ pyStr (field message "method")))])]

/-- What a message leads to. -/
inductive Dispatch where
  | answered (answer : Members)
  | noticed (notification : Json)
  | skipped
  | returned (response : Members)

/-- The loop's body on a message, for the response to the request `expectedId`. -/
def dispatch (expectedId : Int) (message : Json) : Except ReadFault Dispatch := do
  let method ← isIn "method" message
  let id ← isIn "id" message
  if method && id then
    return .answered (serverAnswer policy (← asObject message))
  else if method then
    return .noticed message
  else
    let response ← asObject message
    if equalsInt (field response "id") expectedId then
      if (dictGet? response "error").isSome then
        throw (.acpError ("ACP request failed: " ++ pyStr (field response "error")))
      else return .returned response
    else return .skipped

variable (loads : Text → Loaded)

/-- The loop's body on a line. -/
def readLine (expectedId : Int) (line : Text) : Except ReadFault Dispatch :=
  if line = [] then .error (.acpError "ACP server closed stdout before responding.")
  else if strip line = [] then .ok .skipped
  else match loads (strip line) with
    | .decodeError =>
      .error (.acpError ("Invalid ACP JSON-RPC line: " ++ String.ofList (strip line)))
    | .raises => .error .loadsError
    | .value message => dispatch policy expectedId message

/-- What the client leaves behind: the lines it has read, what it wrote, and what it noticed. -/
structure ClientState where
  read : List Text := []
  written : List Members := []
  notifications : List Json := []

/-- `_read_response` on the lines up to the end of file. -/
def readResponse (expectedId : Int) :
    List Text → ClientState → Except ReadFault Members × ClientState
  | [], state => (.error (.acpError "ACP server closed stdout before responding."), state)
  | line :: rest, state =>
    let state := { state with read := state.read ++ [line] }
    match readLine policy loads expectedId line with
    | .error fault => (.error fault, state)
    | .ok (.returned response) => (.ok response, state)
    | .ok (.answered answer) =>
      readResponse expectedId rest { state with written := state.written ++ [answer] }
    | .ok (.noticed notification) =>
      readResponse expectedId rest { state with notifications := state.notifications ++ [notification] }
    | .ok .skipped => readResponse expectedId rest state

end LlmHarness.Acp
