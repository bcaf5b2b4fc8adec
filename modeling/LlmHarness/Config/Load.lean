/-
  LlmHarness.Config.Load

  `load_config`: the loaders of the sections, each with its own defaults, and the reader of the
  file.
-/

import LlmHarness.Config.Payload
import LlmHarness.Lifecycle.TaskFile

namespace LlmHarness.Config

open Python Guards

/-! ## Values -/

/-- The members of a value that is used as a dict; any other value raises. -/
def asDict (fault : ConfigError) : Json → Except ConfigError (List (String × Json))
  | .obj members => .ok members
  | _ => .error fault

/-- `data[name]`. -/
def required (data : List (String × Json)) (name : String) : Except ConfigError Json :=
  match dictGet? data name with
  | some value => .ok value
  | none => .error (.keyError name)

/-- `str(data[name])`. -/
def requiredStr (data : List (String × Json)) (name : String) : Except ConfigError String := do
  let value ← required data name
  return pyStr value

/-- `data.get(name, default)`. -/
def getOr (data : List (String × Json)) (name : String) (default : Json) : Json :=
  (dictGet? data name).getD default

/-- `str(data.get(name, default))`. -/
def strOr (data : List (String × Json)) (name default : String) : String :=
  pyStr (getOr data name (.str default))

/-- `bool(data.get(name, default))`. -/
def boolOr (data : List (String × Json)) (name : String) (default : Bool) : Bool :=
  isTruthy (getOr data name (.bool default))

/-- What a `for` loop over a value sees. -/
def elements : Json → Except ConfigError (List Json)
  | .arr items => .ok items
  | .str text => .ok (text.toList.map fun c => .str c.toString)
  | .obj members => .ok (members.map fun m => .str m.1)
  | _ => .error .typeError

/-- `tuple(str(item) for item in data.get(name, default))`. -/
def stringsOr (data : List (String × Json)) (name : String) (default : List String) :
    Except ConfigError (List String) := do
  let items ← elements (getOr data name (textList default))
  return items.map pyStr

/-- `int(data.get(name, default))`. -/
def intOr (data : List (String × Json)) (name : String) (default : Int) : Except ConfigError Int :=
  (intOf (getOr data name (.int default))).mapError .number

/-- `_optional_config_string(data.get(name))`. -/
def optionalConfigString (data : List (String × Json)) (name : String) : Option String :=
  match field data name with
  | .null => none
  | value => some (pyStr value)

/-- `data.get(name)` for a field that holds a text or `None`. -/
def declaredText (data : List (String × Json)) (name : String) : Except ConfigError (Option String) :=
  match field data name with
  | .null => .ok none
  | .str text => .ok (some text)
  | _ => .error .undeclared

/-- The texts of a field that holds texts. -/
def declaredTexts (items : List Json) : Except ConfigError (List String) :=
  items.mapM fun item =>
    match item with
    | .str text => .ok text
    | _ => .error .undeclared

/-- A loader on a value that may be `None`. -/
def optionalValue {α : Type} (load : Json → Except ConfigError α) :
    Json → Except ConfigError (Option α)
  | .null => .ok none
  | value => (load value).map some

section

variable [Runtime]

/-- `float(value)`. -/
def floatValue : Json → Except ConfigError PyFloat
  | .float float => .ok float
  | value => ((floatOf value).map Runtime.floatRepr).mapError .number

/-- `float(data.get(name, default))`. -/
def floatOr (data : List (String × Json)) (name : String) (default : PyFloat) :
    Except ConfigError PyFloat :=
  floatValue (getOr data name (.float default))

/-! ## Sections -/

/-- `_model`. -/
def loadModel (value : Json) (defaultModel : String) : Except ConfigError CloudModelEndpoint :=
  if !isTruthy value then
    build CloudModelFields.postInit { provider := "stub", model := defaultModel }
  else do
    let data ← asDict .typeError value
    let provider ← requiredStr data "provider"
    let model ← requiredStr data "model"
    let baseUrl ← declaredText data "base_url"
    let apiKeyEnv ← declaredText data "api_key_env"
    let timeoutSeconds ← floatOr data "timeout_seconds" (floatLiteral "60.0")
    let maxRetries ← intOr data "max_retries" 2
    let maxOutputTokens ← intOr data "max_output_tokens" 8192
    build CloudModelFields.postInit
      { provider, model, baseUrl, apiKeyEnv, timeoutSeconds, maxRetries, maxOutputTokens }

/-- `_runtime`. -/
def loadRuntime (value : Json) : Except ConfigError RuntimeConfig :=
  if !isTruthy value then .ok { requireEmbeddedPython := Runtime.onWindows }
  else do
    let data ← asDict .attributeError value
    return { requireEmbeddedPython := boolOr data "require_embedded_python" Runtime.onWindows
             embeddedPythonPath := strOr data "embedded_python_path" "runtime/python/python.exe"
             wheelsPath := strOr data "wheels_path" "vendor/wheels" }

/-- `_scheduler`. -/
def loadScheduler (value : Json) : Except ConfigError SchedulerConfig :=
  if !isTruthy value then build SchedulerFields.postInit {}
  else do
    let data ← asDict .attributeError value
    let maxParallelTasks ← intOr data "max_parallel_tasks" 1
    build SchedulerFields.postInit { maxParallelTasks }

/-- `isinstance(value, dict)`. -/
def isDict : Json → Bool
  | .obj _ => true
  | _ => false

/-- The dicts of a list; anything else raises. -/
def objects (notList notObject : String) : Json → Except ConfigError (List Json)
  | .arr items =>
    if items.all isDict then .ok items else .error (.valueError notObject)
  | _ => .error (.valueError notList)

/-- An entry of `metrics.prices`. -/
def loadModelPrice (value : Json) : Except ConfigError ModelPriceConfig := do
  let data ← asDict .typeError value
  let provider ← requiredStr data "provider"
  let model ← requiredStr data "model"
  let inputPerMillion ← floatOr data "input_per_million" (floatLiteral "0.0")
  let outputPerMillion ← floatOr data "output_per_million" (floatLiteral "0.0")
  build ModelPriceFields.postInit
    { provider, model, inputPerMillion, outputPerMillion, currency := strOr data "currency" "USD" }

/-- `_metrics`. -/
def loadMetrics (value : Json) : Except ConfigError MetricsConfig :=
  if !isTruthy value then build MetricsFields.postInit {}
  else do
    let data ← asDict .attributeError value
    let items ← objects "metrics.prices must be a list." "metrics.prices entries must be objects."
      (getOr data "prices" (.arr []))
    let prices ← items.mapM loadModelPrice
    build MetricsFields.postInit { prices }

/-- `_audit`. -/
def loadAudit (value : Json) : Except ConfigError AuditConfig :=
  if !isTruthy value then build AuditFields.postInit {}
  else do
    let data ← asDict .attributeError value
    let languageAnalyzers ← stringsOr data "language_analyzers" ["python", "javascript", "typescript"]
    let entryPoints ← stringsOr data "entry_points" []
    let excludePaths ← stringsOr data "exclude_paths" []
    build AuditFields.postInit
      { languageAnalyzers, entryPoints, excludePaths
        failOnUnavailable := boolOr data "fail_on_unavailable" true }

/-- `_verification`. -/
def loadVerification (value : Json) : Except ConfigError VerificationConfig :=
  if !isTruthy value then .ok {}
  else do
    let data ← asDict .attributeError value
    let allowedCommands ← stringsOr data "allowed_commands" defaultAllowedCommands
    return { allowedCommands
             allowUnlistedCommands := boolOr data "allow_unlisted_commands" false
             inheritSecretEnvironment := boolOr data "inherit_secret_environment" false }

/-- `_coordination`. -/
def loadCoordination (value : Json) : Except ConfigError CoordinationConfig :=
  if !isTruthy value then build CoordinationFields.postInit {}
  else do
    let data ← asDict .attributeError value
    let stateLockTimeoutSeconds ← floatOr data "state_lock_timeout_seconds" (floatLiteral "5.0")
    let executionLockTimeoutSeconds ←
      floatOr data "execution_lock_timeout_seconds" (floatLiteral "5.0")
    let pollIntervalSeconds ← floatOr data "poll_interval_seconds" (floatLiteral "0.05")
    build CoordinationFields.postInit
      { stateLockTimeoutSeconds, executionLockTimeoutSeconds, pollIntervalSeconds }

/-- `_telegram`. -/
def loadTelegram (value : Json) : Except ConfigError TelegramConfig :=
  if !isTruthy value then .ok {}
  else do
    let data ← asDict .attributeError value
    let botTokenEnv ← declaredText data "bot_token_env"
    let chatIdEnv ← declaredText data "chat_id_env"
    let userIdEnv ← declaredText data "user_id_env"
    return { enabled := boolOr data "enabled" false, botTokenEnv, chatIdEnv, userIdEnv }

/-- `_role_identity`. -/
def loadRoleIdentity (value : Json) (default : RoleIdentityConfig) :
    Except ConfigError RoleIdentityConfig :=
  if !isTruthy value then .ok default
  else do
    let data ← asDict (.valueError "three_head role manifest must be an object.") value
    return ⟨strOr data "identity" default.identity, strOr data "provider" default.provider,
      strOr data "model" default.model⟩

/-- `_three_head`: the heads are looked for under `roles`. -/
def loadThreeHead (value : Json) : Except ConfigError ThreeHeadConfig :=
  if !isTruthy value then build ThreeHeadFields.postInit {}
  else do
    let data ← asDict .attributeError value
    let roles ← asDict (.valueError "three_head.roles must be an object.")
      (pyOr (field data "roles") (.obj []))
    let maxAttempts ← intOr data "max_attempts" 3
    let logic ← loadRoleIdentity (field roles "logic") defaultLogic
    let worker ← loadRoleIdentity (field roles "worker") defaultWorkerHead
    let critic ← loadRoleIdentity (field roles "critic") defaultCriticHead
    build ThreeHeadFields.postInit
      { mode := strOr data "mode" "manual", maxAttempts, logic, worker, critic }

/-- `_local_model`. -/
def loadLocalModel (value : Json) : Except ConfigError LocalModelEndpointTarget := do
  let data ← asDict .typeError value
  let name ← requiredStr data "name"
  let baseUrl ← requiredStr data "base_url"
  let model ← requiredStr data "model"
  return { name, baseUrl, model, protocol := strOr data "protocol" "openai_compatible" }

/-! ## Agents -/

/-- Pairs in the order of `sorted`: by name, and by value under one name. -/
def pairLe (a b : String × String) : Prop := a.1 < b.1 ∨ a.1 = b.1 ∧ a.2 ≤ b.2

instance : DecidableRel pairLe := fun a b =>
  inferInstanceAs (Decidable (a.1 < b.1 ∨ a.1 = b.1 ∧ a.2 ≤ b.2))

/-- An entry of an environment. -/
def environmentPair (m : String × Json) : Except ConfigError (String × String) :=
  match m.2 with
  | .str text => .ok (m.1, text)
  | _ => .error (.valueError "environment must contain only string keys and values.")

/-- `_environment`. -/
def loadEnvironment : Json → Except ConfigError Environment
  | .null => .ok []
  | .obj members => do
    let pairs ← members.mapM environmentPair
    return pairs.insertionSort pairLe
  | _ => .error (.valueError "environment must be a string-to-string mapping.")

/-- `_process_profile` of a value that is not `None`. -/
def loadProcessProfile (label : String) (value : Json) : Except ConfigError ProcessProfileConfig := do
  let data ← asDict (.valueError (label ++ " must be an object.")) value
  let requiredArgs ← stringsOr data "required_args" []
  let forbiddenArgs ← stringsOr data "forbidden_args" []
  let versionArgs ← stringsOr data "version_args" ["--version"]
  build ProcessProfileFields.postInit
    { profileId := strOr data "profile_id" "", promptTransport := strOr data "prompt_transport" "stdin"
      promptArgument := optionalConfigString data "prompt_argument", requiredArgs, forbiddenArgs
      modelArgument := optionalConfigString data "model_argument", versionArgs }

/-- `_agent`. -/
def loadAgent (value : Json) : Except ConfigError AgentConfig := do
  let data ← asDict .typeError value
  let name ← requiredStr data "name"
  let command ← requiredStr data "command"
  let args ← stringsOr data "args" []
  let environment ← loadEnvironment (field data "environment")
  let workerProcessProfile ← optionalValue (loadProcessProfile "agent.worker_process_profile")
    (field data "worker_process_profile")
  build AgentFields.postInit
    { name, command, args, environment
      supervisorDriver := optionalConfigString data "supervisor_driver"
      workerDriver := strOr data "worker_driver" "command"
      criticDriver := optionalConfigString data "critic_driver", workerProcessProfile }

/-- `_a2a_agent`. -/
def loadA2AAgent (value : Json) : Except ConfigError A2AAgentConfig := do
  let data ← asDict (.valueError "a2a_agents entries must be objects.") value
  let name ← requiredStr data "name"
  let cardUrl ← requiredStr data "card_url"
  let roles ← stringsOr data "roles" ["supervisor", "worker", "critic"]
  let scopes ← stringsOr data "scopes" []
  let timeoutSeconds ← floatOr data "timeout_seconds" (floatLiteral "300.0")
  let pollIntervalSeconds ← floatOr data "poll_interval_seconds" (floatLiteral "1.0")
  build A2AAgentFields.postInit
    { name, cardUrl, roles, authKind := strOr data "auth_kind" "none"
      credentialEnv := optionalConfigString data "credential_env"
      apiKeyHeader := optionalConfigString data "api_key_header"
      oauthFlow := strOr data "oauth_flow" "client_credentials"
      clientIdEnv := optionalConfigString data "client_id_env"
      clientSecretEnv := optionalConfigString data "client_secret_env"
      tokenUrl := optionalConfigString data "token_url"
      deviceAuthorizationUrl := optionalConfigString data "device_authorization_url"
      oidcDiscoveryUrl := optionalConfigString data "oidc_discovery_url", scopes
      clientAuthMethod := strOr data "client_auth_method" "basic"
      preferStreaming := boolOr data "prefer_streaming" true
      pushCallbackUrl := optionalConfigString data "push_callback_url"
      pushTokenEnv := optionalConfigString data "push_token_env", timeoutSeconds
      pollIntervalSeconds }

/-! ## Roles -/

/-- `_secret_bindings`. -/
def loadSecretBindings (label : String) (value : Json) : Except ConfigError (List SecretBinding) :=
  match value with
  | .null => .ok []
  | value => do
    let items ← objects (label ++ " must be a list of objects.") (label ++ " must be a list of objects.")
      value
    items.mapM fun item => do
      let data ← asDict .typeError item
      let name ← requiredStr data "name"
      let sourceEnv ← requiredStr data "source_env"
      build SecretBindingFields.postInit ⟨name, sourceEnv⟩

/-- `_mcp_server`. -/
def loadMcpServer (value : Json) : Except ConfigError McpServerConfig := do
  let data ← asDict .typeError value
  let name ← requiredStr data "name"
  let args ← stringsOr data "args" []
  let environment ← loadSecretBindings "MCP environment" (field data "environment")
  let headers ← loadSecretBindings "MCP headers" (field data "headers")
  build McpServerFields.postInit
    { name, transport := strOr data "transport" "stdio"
      command := optionalConfigString data "command", args
      url := optionalConfigString data "url", environment, headers }

/-- The fields of `worker_mcp_policy()`. -/
def workerMcpPolicy : RoleMcpPolicyFields :=
  { permissionMode := "allow_once", allowedToolKinds := acpToolKinds }

/-- `_mcp_policy`, with the default policy of the role. -/
def loadMcpPolicy (value : Json) (default : RoleMcpPolicyFields) :
    Except ConfigError RoleMcpPolicyConfig :=
  if !isTruthy value then build RoleMcpPolicyFields.postInit default
  else do
    let data ← asDict (.valueError "role.mcp must be an object.") value
    let items ← objects "role.mcp.servers must be a list of objects."
      "role.mcp.servers must be a list of objects." (getOr data "servers" (.arr []))
    let allowedToolKinds ← stringsOr data "allowed_tool_kinds" default.allowedToolKinds
    let servers ← items.mapM loadMcpServer
    build RoleMcpPolicyFields.postInit
      { permissionMode := strOr data "permission_mode" default.permissionMode, allowedToolKinds
        servers }

/-- `_driver_value`. -/
def driverValue (data : List (String × Json)) (role : DriverRole) (default : String) :
    Except ConfigError String :=
  match optionalConfigString data "driver", optionalConfigString data "type" with
  | some driver, some legacyType => do
    let resolvedDriver ← resolveDriver driver role
    let resolvedLegacy ← resolveDriver legacyType role
    refuse (resolvedDriver.driverId ≠ resolvedLegacy.driverId)
      (role.text ++ ".driver and legacy " ++ role.text ++ ".type must identify the same driver.")
    return driver
  | some driver, none => .ok driver
  | none, some legacyType => .ok legacyType
  | none, none => .ok default

/-- `_default_worker_invocation`. -/
def defaultWorkerInvocation (workerType : String) : String × List String :=
  let worker := normalized workerType
  if worker = "hermes_acp" ∨ worker = "hermes" then ("hermes", ["acp"])
  else if worker = "acp" then ("", [])
  else if worker = "claude_code" ∨ worker = "claude" then ("claude", [])
  else if worker = "openclaw" then ("openclaw", [])
  else if worker = "stub" then ("stub", [])
  else ("", [])

/-- `_worker_capabilities`. -/
def loadWorkerCapabilities (value : Json) (workerType : String) :
    Except ConfigError WorkerCapabilitiesConfig := do
  let defaults ← defaultWorkerCapabilities workerType
  if !isTruthy value then return defaults
  else do
    let data ← asDict .attributeError value
    return { taskTransport := strOr data "task_transport" defaults.taskTransport
             artifactContract := strOr data "artifact_contract" defaults.artifactContract
             requiresIsolatedWorktree :=
               boolOr data "requires_isolated_worktree" defaults.requiresIsolatedWorktree
             supportsSubagents := boolOr data "supports_subagents" defaults.supportsSubagents }

/-- `_worker`. -/
def loadWorker (value : Json) : Except ConfigError WorkerConfig :=
  if !isTruthy value then do
    let mcp ← build RoleMcpPolicyFields.postInit workerMcpPolicy
    build WorkerFields.postInit { mcp }
  else do
    let data ← asDict .attributeError value
    let driver ← driverValue data .worker "hermes_acp"
    let args ← stringsOr data "args" (defaultWorkerInvocation driver).2
    let environment ← loadEnvironment (field data "environment")
    let timeoutSeconds ← floatOr data "timeout_seconds" (floatLiteral "300.0")
    let maxBudgetUsd ← optionalValue floatValue (field data "max_budget_usd")
    let processProfile ← optionalValue (loadProcessProfile "worker.process_profile")
      (field data "process_profile")
    let capabilities ← loadWorkerCapabilities (field data "capabilities") driver
    let mcp ← loadMcpPolicy (field data "mcp") workerMcpPolicy
    build WorkerFields.postInit
      { driver := some driver, command := strOr data "command" (defaultWorkerInvocation driver).1, args
        environment, timeoutSeconds, model := optionalConfigString data "model", maxBudgetUsd
        thinking := optionalConfigString data "thinking", processProfile, capabilities, mcp }

/-- `_critic`. -/
def loadCritic (value : Json) : Except ConfigError CriticConfig :=
  if !isTruthy value then do
    let mcp ← build RoleMcpPolicyFields.postInit {}
    build CriticFields.postInit { mcp }
  else do
    let data ← asDict .attributeError value
    let driver ← driverValue data .critic "manual"
    let args ← stringsOr data "args" []
    let environment ← loadEnvironment (field data "environment")
    let timeoutSeconds ← floatOr data "timeout_seconds" (floatLiteral "300.0")
    let maxBudgetUsd ← optionalValue floatValue (field data "max_budget_usd")
    let mcp ← loadMcpPolicy (field data "mcp") {}
    build CriticFields.postInit
      { driver := some driver, command := strOr data "command" "claude", args, environment
        timeoutSeconds, maxBudgetUsd, mcp }

/-- `_supervisor`. -/
def loadSupervisor (value : Json) : Except ConfigError SupervisorConfig :=
  if !isTruthy value then do
    let mcp ← build RoleMcpPolicyFields.postInit {}
    build SupervisorFields.postInit { mcp }
  else do
    let data ← asDict .attributeError value
    let args ← stringsOr data "args" []
    let environment ← loadEnvironment (field data "environment")
    let timeoutSeconds ← floatOr data "timeout_seconds" (floatLiteral "300.0")
    let mcp ← loadMcpPolicy (field data "mcp") {}
    build SupervisorFields.postInit
      { driver := strOr data "driver" "model_json", command := strOr data "command" "", args
        environment, timeoutSeconds, model := optionalConfigString data "model", mcp }

/-! ## The configuration -/

/-- `parse_worker_trust_level` on the value of a file. -/
def loadTrustLevel (value : Json) : Except ConfigError WorkerTrustLevel :=
  match value with
  | .str text => parseWorkerTrustLevel text
  | value => .error (.valueError (unknownTrustLevel (pyStr value)))

/-- `agents or HarnessConfig().agents`. -/
def agentsOrDefault (agents : List AgentConfig) : Except ConfigError (List AgentConfig) :=
  if agents.isEmpty then defaultAgents else .ok agents

/-- `load_config` on the document of the file. -/
def configOfDocument (raw : Json) : Except ConfigError HarnessConfig := do
  let data ← asDict .attributeError raw
  let supervisorModel ← loadModel (field data "supervisor_model") "supervisor-stub"
  let verifierModel ← loadModel (field data "verifier_model") "verifier-stub"
  let runtime ← loadRuntime (field data "runtime")
  let telegram ← loadTelegram (field data "telegram")
  let supervisor ← loadSupervisor (field data "supervisor")
  let worker ← loadWorker (field data "worker")
  let critic ← loadCritic (field data "critic")
  let threeHead ← loadThreeHead (field data "three_head")
  let scheduler ← loadScheduler (field data "scheduler")
  let metrics ← loadMetrics (field data "metrics")
  let audit ← loadAudit (field data "audit")
  let verification ← loadVerification (field data "verification")
  let coordination ← loadCoordination (field data "coordination")
  let agentItems ← elements (getOr data "agents" (.arr []))
  let declared ← agentItems.mapM loadAgent
  let agents ← agentsOrDefault declared
  let remoteItems ← elements (getOr data "a2a_agents" (.arr []))
  let a2aAgents ← remoteItems.mapM loadA2AAgent
  let localItems ← elements (getOr data "local_models" (.arr []))
  let localModels ← localItems.mapM loadLocalModel
  let pathItems ← elements (getOr data "forbidden_paths" (textList [".git/"]))
  let forbiddenPaths ← declaredTexts pathItems
  let workerTrustLevel ← loadTrustLevel (getOr data "worker_trust_level" (.str "patch_only"))
  return { supervisorModel, verifierModel, runtime, telegram, supervisor, worker, critic, threeHead
           scheduler, metrics, audit, verification, coordination, agents, a2aAgents, localModels
           forbiddenPaths, requireTests := boolOr data "require_tests" true, workerTrustLevel }

/-- `_load_mapping` on the name and the text of a file. -/
def loadMapping (name file : Text) : Except ConfigError Json :=
  let suffix := Lifecycle.lowerName (Lifecycle.suffixOf name)
  if suffix = ".json".toList then
    match loads (Lifecycle.readAuthoredText file) with
    | some raw => .ok raw
    | none => .error .jsonDecodeError
  else if suffix = ".toml".toList then
    match Runtime.tomlLoads (Lifecycle.readAuthoredText file) with
    | some raw => .ok raw
    | none => .error .tomlDecodeError
  else .error (.valueError ("Unsupported config format: " ++ String.ofList (Lifecycle.suffixOf name)))

/-- `load_config`. -/
def loadConfig (name file : Text) : Except ConfigError HarnessConfig := do
  let raw ← loadMapping name file
  configOfDocument raw

/-- An integer that `json.dumps` refuses to print. -/
def isTooLong (value : Int) : Bool := 10 ^ maxStrDigits ≤ value.natAbs

/-- `json.dumps(payload, indent=2, ensure_ascii=False) + "\n"`. -/
def jsonText (payload : Json) : Except ConfigError Text := do
  refuse ((intsOf payload).any isTooLong)
    "Exceeds the limit (4300 digits) for integer string conversion; use sys.set_int_max_str_digits() to increase the limit"
  return payload.dumpsIndent ++ ['\n']

/-- `write_config`: the text of the file at the end. -/
def writeConfig (name : Text) (config : HarnessConfig) : Except ConfigError Text := do
  refuse (casefold (Lifecycle.suffixOf name) ≠ ".json".toList)
    "Writable project configuration must use the .json format."
  let file ← jsonText (configPayload config)
  let _ ← loadConfig name file
  return file

end

end LlmHarness.Config
