/-
  LlmHarness.Acp.Credentials

  How credentials reach an agent: `build_mcp_server_payloads` and `redact_acp_message` of
  `mcp.py`, and the session of `acp.py` that sends the one and shows the other to its
  observers.

  Two environments that define the same variables, and that find the same commands, differ in
  their credentials only.  The message that opens a session differs between them, and what is
  observed of the whole exchange does not.

  `_absolute_executable` asks the file system, `PATH` and the home directory, and is a parameter
  that sees the environment; the observer does not raise, and where it does the exchange goes on
  as it would.
-/

import LlmHarness.Acp.Client
import LlmHarness.Config.Mcp

namespace LlmHarness.Acp

open Python Guards Config

/-! ## Redaction -/

/-- A binding with its value hidden. -/
def redactBinding : Json → Json
  | .obj members =>
    .obj (members.map fun member => if member.1 = "value" then (member.1, .str "<redacted>") else member)
  | other => other

/-- The bindings of a server. -/
def redactBindings : Json → Json
  | .arr bindings => .arr (bindings.map redactBinding)
  | other => other

/-- A server with the values of its environment and headers hidden. -/
def redactServer : Json → Json
  | .obj members =>
    .obj (members.map fun member =>
      if member.1 = "env" ∨ member.1 = "headers" then (member.1, redactBindings member.2) else member)
  | other => other

/-- The servers of a session. -/
def redactServers : Json → Json
  | .arr servers => .arr (servers.map redactServer)
  | other => other

/-- The parameters of a message. -/
def redactParams : Json → Json
  | .obj members =>
    .obj (members.map fun member =>
      if member.1 = "mcpServers" then (member.1, redactServers member.2) else member)
  | other => other

/-- `redact_acp_message`. -/
def redactAcpMessage : Json → Json
  | .obj members =>
    .obj (members.map fun member =>
      if member.1 = "params" then (member.1, redactParams member.2) else member)
  | other => other

/-! ## The payloads of the servers -/

/-- `os.environ`. -/
abbrev Environment := String → Option String

/-- `bool(environment.get(name))`. -/
def Environment.provides (environment : Environment) (name : String) : Bool :=
  (environment name).getD "" ≠ ""

/-- The variables of the bindings that are missing or empty. -/
def missingSources (environment : Environment) (bindings : List SecretBinding) : List String :=
  ((bindings.map fun item => item.val.sourceEnv).filter fun source =>
    !environment.provides source).insertionSort (· ≤ ·)

/-- A binding with its value. -/
def bindingPayload (environment : Environment) (binding : SecretBinding) : Json :=
  .obj [("name", .str binding.val.name), ("value", .str ((environment binding.val.sourceEnv).getD ""))]

/-- `_resolve_bindings`. -/
def resolveBindings (environment : Environment) (bindings : List SecretBinding) (serverName : String) :
    Except String (List Json) :=
  if (missingSources environment bindings).isEmpty then .ok (bindings.map (bindingPayload environment))
  else .error ("MCP server '" ++ serverName ++ "' requires environment variables: " ++
    ", ".intercalate (missingSources environment bindings))

/-! ## Two environments -/

/-- The environments differ in the values of their variables only. -/
def SameVariables (environment environment' : Environment) : Prop :=
  ∀ name, environment.provides name = environment'.provides name

variable {environment environment' : Environment}

theorem missingSources_congr (h : SameVariables environment environment') (bindings : List SecretBinding) :
    missingSources environment bindings = missingSources environment' bindings := by
  have hprovides : (fun source => !environment.provides source) = fun source => !environment'.provides source :=
    funext fun source => congrArg _ (h source)
  rw [missingSources, missingSources, hprovides]

theorem redactBinding_bindingPayload (environment : Environment) (binding : SecretBinding) :
    redactBinding (bindingPayload environment binding) =
      .obj [("name", .str binding.val.name), ("value", .str "<redacted>")] := by
  simp [bindingPayload, redactBinding]

/-- Both environments resolve the bindings, to values that redaction hides, or neither. -/
theorem resolveBindings_congr (h : SameVariables environment environment') (bindings : List SecretBinding)
    (serverName : String) :
    (resolveBindings environment bindings serverName).map (List.map redactBinding) =
      (resolveBindings environment' bindings serverName).map (List.map redactBinding) := by
  have hpayload : ∀ other : Environment, (bindings.map (bindingPayload other)).map redactBinding =
      bindings.map fun binding => .obj [("name", .str binding.val.name), ("value", .str "<redacted>")] := by
    intro other
    rw [List.map_map]
    exact List.map_congr_left fun binding _ => redactBinding_bindingPayload other binding
  rw [resolveBindings, resolveBindings, missingSources_congr h]
  split
  · show Except.ok _ = Except.ok _
    rw [hpayload, hpayload]
  · rfl

/-- Results that agree once they are redacted: the same error, or redacted copies alike. -/
theorem map_eq_map_cases {α ε : Type} {f : α → α} {x y : Except ε α} (h : x.map f = y.map f) :
    (∃ e, x = .error e ∧ y = .error e) ∨ ∃ a b, x = .ok a ∧ y = .ok b ∧ f a = f b := by
  cases x with
  | error e =>
      cases y with
      | error e' => exact .inl ⟨e, rfl, congrArg Except.error (Except.error.inj h).symm⟩
      | ok b => cases h
  | ok a =>
      cases y with
      | error e' => cases h
      | ok b => exact .inr ⟨a, b, rfl, rfl, Except.ok.inj h⟩

/-! ## The servers of a policy -/

section

variable [Config.Runtime] (executable : Environment → String → Except String String)

/-- The payload of one server. -/
def serverPayload (environment : Environment) (capabilities : List (String × Bool))
    (server : McpServerConfig) : Except String Json :=
  if (server.val.transport = "http" ∨ server.val.transport = "sse") ∧
      (dictGet? capabilities server.val.transport).getD false = false then
    .error ("ACP agent does not advertise MCP " ++ server.val.transport.toUpper ++
      " support required by '" ++ server.val.name ++ "'.")
  else if server.val.transport = "stdio" then do
    let command ← executable environment (server.val.command.getD "")
    let env ← resolveBindings environment server.val.environment server.val.name
    return .obj [("name", .str server.val.name), ("command", .str command),
      ("args", textList server.val.args), ("env", .arr env)]
  else do
    let headers ← resolveBindings environment server.val.headers server.val.name
    return .obj [("type", .str server.val.transport), ("name", .str server.val.name),
      ("url", optionJson Json.str server.val.url), ("headers", .arr headers)]

/-- `build_mcp_server_payloads`. -/
def buildMcpServerPayloads (environment : Environment) (capabilities : List (String × Bool))
    (servers : List McpServerConfig) : Except String (List Json) :=
  servers.mapM (serverPayload executable environment capabilities)

/-! ## A session -/

/-- What an observer is shown: whether the client wrote the message, and its redacted copy. -/
structure Shown where
  outbound : Bool
  message : Json

variable (policy : RoleMcpPolicyConfig) (loads : Text → Loaded)

/-- What `_read_response` shows while it reads the lines up to the response. -/
def shownReading (expectedId : Int) : List Text → List Shown
  | [] => []
  | line :: rest =>
    if line = [] then []
    else if strip line = [] then shownReading expectedId rest
    else match loads (strip line) with
      | .decodeError => []
      | .raises => []
      | .value message =>
        ⟨false, redactAcpMessage message⟩ ::
          match dispatch policy expectedId message with
          | .error _ => []
          | .ok (.returned _) => []
          | .ok (.answered answer) =>
            ⟨true, redactAcpMessage (.obj answer)⟩ :: shownReading expectedId rest
          | .ok (.noticed _) => shownReading expectedId rest
          | .ok .skipped => shownReading expectedId rest

/-- What `new_session` raises. -/
inductive SessionFault where
  | acpError (message : String)
  | reading (fault : ReadFault)
deriving DecidableEq

/-- The identifier of the new session. -/
def sessionIdOf (response : Members) : Except SessionFault String :=
  match field response "result" with
  | .obj result =>
    match field result "sessionId" with
    | .str sessionId => .ok sessionId
    | _ => .error (.acpError "ACP session/new response did not contain sessionId.")
  | _ => .error (.acpError "ACP session/new response did not contain sessionId.")

/-- The `session/new` request. -/
def newSessionRequest (id : Int) (cwd : String) (servers : List Json) : Json :=
  .obj [("jsonrpc", .str "2.0"), ("id", .int id), ("method", .str "session/new"),
    ("params", .obj [("cwd", .str cwd), ("mcpServers", .arr servers)])]

omit [Config.Runtime] in
theorem redact_newSessionRequest (id : Int) (cwd : String) (servers : List Json) :
    redactAcpMessage (newSessionRequest id cwd servers) =
      newSessionRequest id cwd (servers.map redactServer) := by
  simp [newSessionRequest, redactAcpMessage, redactParams, redactServers]

/-- An exchange: its result, the messages that were written, and what was shown of it. -/
structure Exchange where
  result : Except SessionFault String
  written : List Json
  shown : List Shown

/-- `new_session`, with the lines that the agent writes. -/
def newSession (environment : Environment) (capabilities : List (String × Bool)) (id : Int)
    (cwd : String) (lines : List Text) : Exchange :=
  match buildMcpServerPayloads executable environment capabilities policy.val.servers with
  | .error message => ⟨.error (.acpError message), [], []⟩
  | .ok payloads =>
    let request := newSessionRequest id cwd payloads
    let reading := readResponse policy loads id lines {}
    { result := match reading.1 with
        | .error fault => .error (.reading fault)
        | .ok response => sessionIdOf response
      written := request :: reading.2.written.map Json.obj
      shown := ⟨true, redactAcpMessage request⟩ :: shownReading policy loads id lines }

/-! ## What two environments share -/

/-- The servers that are run as a command are found alike in both environments. -/
def FoundAlike (environment environment' : Environment) (servers : List McpServerConfig) : Prop :=
  ∀ server ∈ servers, server.val.transport = "stdio" →
    executable environment (server.val.command.getD "") =
      executable environment' (server.val.command.getD "")

variable {executable policy loads}

theorem serverPayload_congr (h : SameVariables environment environment') (capabilities : List (String × Bool))
    {server : McpServerConfig} (hfound : server.val.transport = "stdio" →
      executable environment (server.val.command.getD "") =
        executable environment' (server.val.command.getD "")) :
    (serverPayload executable environment capabilities server).map redactServer =
      (serverPayload executable environment' capabilities server).map redactServer := by
  rw [serverPayload, serverPayload]
  split
  · rfl
  · split
    · next hstdio =>
      rw [hfound hstdio]
      cases executable environment' (server.val.command.getD "") with
      | error e => rfl
      | ok command =>
          obtain ⟨e, hx, hy⟩ | ⟨env, env', hx, hy, hsame⟩ :=
            map_eq_map_cases (resolveBindings_congr h server.val.environment server.val.name)
          · simp only [hx, hy]
          · simp only [hx, hy, bind, Except.bind, pure, Except.pure, Except.map]
            simp [redactServer, redactBindings, hsame]
    · obtain ⟨e, hx, hy⟩ | ⟨headers, headers', hx, hy, hsame⟩ :=
        map_eq_map_cases (resolveBindings_congr h server.val.headers server.val.name)
      · rw [hx, hy]
      · simp only [hx, hy, bind, Except.bind, pure, Except.pure, Except.map]
        simp [redactServer, redactBindings, hsame]

theorem buildMcpServerPayloads_congr (h : SameVariables environment environment')
    (capabilities : List (String × Bool)) {servers : List McpServerConfig}
    (hfound : FoundAlike executable environment environment' servers) :
    (buildMcpServerPayloads executable environment capabilities servers).map (List.map redactServer) =
      (buildMcpServerPayloads executable environment' capabilities servers).map (List.map redactServer) := by
  rw [buildMcpServerPayloads, buildMcpServerPayloads]
  induction servers with
  | nil => rfl
  | cons server servers ih =>
      rw [List.mapM_cons, List.mapM_cons]
      obtain ⟨e, hx, hy⟩ | ⟨payload, payload', hx, hy, hsame⟩ :=
        map_eq_map_cases (serverPayload_congr h capabilities (hfound server List.mem_cons_self))
      · rw [hx, hy]
        rfl
      · obtain ⟨e, hxs, hys⟩ | ⟨payloads, payloads', hxs, hys, hrest⟩ :=
          map_eq_map_cases (ih fun other hother => hfound other (List.mem_cons_of_mem _ hother))
        · rw [hx, hy, hxs, hys]
          rfl
        · rw [hx, hy, hxs, hys]
          show Except.ok (redactServer payload :: payloads.map redactServer) =
            Except.ok (redactServer payload' :: payloads'.map redactServer)
          rw [hsame, hrest]

/-- **Credentials stay hidden.**  What is shown of a session and what comes of it are the same
    in two environments that define the same variables and find the same commands, whatever
    their values and whatever the agent answers. -/
theorem newSession_congr (h : SameVariables environment environment')
    (hfound : FoundAlike executable environment environment' policy.val.servers)
    (capabilities : List (String × Bool)) (id : Int) (cwd : String) (lines : List Text) :
    let exchange := newSession executable policy loads environment capabilities id cwd lines
    let exchange' := newSession executable policy loads environment' capabilities id cwd lines
    exchange.shown = exchange'.shown ∧ exchange.result = exchange'.result := by
  obtain ⟨e, hx, hy⟩ | ⟨payloads, payloads', hx, hy, hsame⟩ :=
    map_eq_map_cases (buildMcpServerPayloads_congr h capabilities hfound)
  · rw [newSession, newSession, hx, hy]
    exact ⟨rfl, rfl⟩
  · rw [newSession, newSession, hx, hy]
    refine ⟨?_, rfl⟩
    show (⟨true, redactAcpMessage (newSessionRequest id cwd payloads)⟩ : Shown) :: _ =
      ⟨true, redactAcpMessage (newSessionRequest id cwd payloads')⟩ :: _
    rw [redact_newSessionRequest, redact_newSessionRequest, hsame]

end

/-! ## Two tokens -/

/-- The server below has no URL. -/
local instance sessionRuntime : Config.Runtime := quietRuntime

/-- A server that is given a token. -/
def tokenServer : McpServerConfig :=
  Built.of _
    { name := "issues", command := some "issues-mcp"
      environment := [Built.of _ ⟨"API_TOKEN", "ISSUES_TOKEN"⟩ (by decide +kernel)] }
    (by decide +kernel)

/-- The role that it serves. -/
def tokenPolicy : RoleMcpPolicyConfig := Built.of _ { servers := [tokenServer] } (by decide +kernel)

/-- An environment with a token for it. -/
def tokenEnvironment (token : String) : Environment := fun name =>
  if name = "ISSUES_TOKEN" then some token
  else if name = "PATH" then some "/opt/bin"
  else none

/-- A file system with one executable, `/opt/bin/issues-mcp`. -/
def issuesExecutable (environment : Environment) (command : String) : Except String String :=
  if command = "issues-mcp" ∧ environment "PATH" = some "/opt/bin" then .ok "/opt/bin/issues-mcp"
  else .error ("MCP executable is unavailable: " ++ command)

theorem sameVariables_tokens : SameVariables (tokenEnvironment "alpha") (tokenEnvironment "beta") := by
  intro name
  simp only [Environment.provides, tokenEnvironment]
  split
  · decide
  · rfl

/-- `json.loads` on the one line that the agent writes. -/
def loadsResponse (text : Text) : Loaded :=
  if text = "response".toList then
    .value (.obj [("id", .int 1), ("result", .obj [("sessionId", .str "s-1")])])
  else .decodeError

/-- Two tokens look alike to an observer. -/
theorem newSession_tokens :
    let exchange := newSession issuesExecutable tokenPolicy loadsResponse
      (tokenEnvironment "alpha") [] 1 "/w" ["response".toList]
    let exchange' := newSession issuesExecutable tokenPolicy loadsResponse
      (tokenEnvironment "beta") [] 1 "/w" ["response".toList]
    exchange.shown = exchange'.shown ∧ exchange.result = exchange'.result :=
  newSession_congr sameVariables_tokens (fun _ _ _ => rfl) [] 1 "/w" ["response".toList]

end LlmHarness.Acp
