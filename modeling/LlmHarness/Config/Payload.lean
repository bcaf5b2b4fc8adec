/-
  LlmHarness.Config.Payload

  `config_payload`: a configuration as the JSON document that is written.  Its integers are the
  ones of the configuration, and every dict in it has distinct keys.
-/

import LlmHarness.Config.Harness
import LlmHarness.Python.DumpsCheck
import LlmHarness.Python.JsonRoundTrip
import LlmHarness.Python.Value

namespace LlmHarness.Config

open Python Guards

/-- A text or `None`. -/
def textJson (value : Option String) : Json := optionJson Json.str value

/-! ## Sections -/

/-- `asdict` of a `CloudModelEndpoint`. -/
def cloudModelToJson (model : CloudModelEndpoint) : Json :=
  .obj [("provider", .str model.val.provider), ("model", .str model.val.model),
    ("base_url", textJson model.val.baseUrl), ("api_key_env", textJson model.val.apiKeyEnv),
    ("timeout_seconds", .float model.val.timeoutSeconds),
    ("max_retries", .int model.val.maxRetries),
    ("max_output_tokens", .int model.val.maxOutputTokens)]

/-- `asdict` of a `RuntimeConfig`. -/
def runtimeToJson (runtime : RuntimeConfig) : Json :=
  .obj [("require_embedded_python", .bool runtime.requireEmbeddedPython),
    ("embedded_python_path", .str runtime.embeddedPythonPath),
    ("wheels_path", .str runtime.wheelsPath)]

/-- `asdict` of a `TelegramConfig`. -/
def telegramToJson (telegram : TelegramConfig) : Json :=
  .obj [("enabled", .bool telegram.enabled), ("bot_token_env", textJson telegram.botTokenEnv),
    ("chat_id_env", textJson telegram.chatIdEnv), ("user_id_env", textJson telegram.userIdEnv)]

/-- `asdict` of a `RoleIdentityConfig`. -/
def roleIdentityToJson (role : RoleIdentityConfig) : Json :=
  .obj [("identity", .str role.identity), ("provider", .str role.provider), ("model", .str role.model)]

/-- `asdict` of a `ThreeHeadConfig`: the heads beside the mode. -/
def threeHeadToJson (threeHead : ThreeHeadConfig) : Json :=
  .obj [("mode", .str threeHead.val.mode), ("max_attempts", .int threeHead.val.maxAttempts),
    ("logic", roleIdentityToJson threeHead.val.logic),
    ("worker", roleIdentityToJson threeHead.val.worker),
    ("critic", roleIdentityToJson threeHead.val.critic)]

/-- `asdict` of a `SchedulerConfig`. -/
def schedulerToJson (scheduler : SchedulerConfig) : Json :=
  .obj [("max_parallel_tasks", .int scheduler.val.maxParallelTasks)]

/-- `asdict` of a `ModelPriceConfig`. -/
def modelPriceToJson (price : ModelPriceConfig) : Json :=
  .obj [("provider", .str price.val.provider), ("model", .str price.val.model),
    ("input_per_million", .float price.val.inputPerMillion),
    ("output_per_million", .float price.val.outputPerMillion),
    ("currency", .str price.val.currency)]

/-- `asdict` of a `MetricsConfig`. -/
def metricsToJson (metrics : MetricsConfig) : Json :=
  .obj [("prices", .arr (metrics.val.prices.map modelPriceToJson))]

/-- `asdict` of an `AuditConfig`. -/
def auditToJson (audit : AuditConfig) : Json :=
  .obj [("language_analyzers", textList audit.val.languageAnalyzers),
    ("entry_points", textList audit.val.entryPoints),
    ("exclude_paths", textList audit.val.excludePaths),
    ("fail_on_unavailable", .bool audit.val.failOnUnavailable)]

/-- `asdict` of a `VerificationConfig`. -/
def verificationToJson (verification : VerificationConfig) : Json :=
  .obj [("allowed_commands", textList verification.allowedCommands),
    ("allow_unlisted_commands", .bool verification.allowUnlistedCommands),
    ("inherit_secret_environment", .bool verification.inheritSecretEnvironment)]

/-- `asdict` of a `CoordinationConfig`. -/
def coordinationToJson (coordination : CoordinationConfig) : Json :=
  .obj [("state_lock_timeout_seconds", .float coordination.val.stateLockTimeoutSeconds),
    ("execution_lock_timeout_seconds", .float coordination.val.executionLockTimeoutSeconds),
    ("poll_interval_seconds", .float coordination.val.pollIntervalSeconds)]

/-- `asdict` of a `LocalModelEndpointTarget`. -/
def localModelToJson (target : LocalModelEndpointTarget) : Json :=
  .obj [("name", .str target.name), ("base_url", .str target.baseUrl), ("model", .str target.model),
    ("protocol", .str target.protocol), ("target_type", .str target.targetType.text)]

/-! ## Agents -/

/-- `dict(environment)`. -/
def environmentToJson (environment : Environment) : Json :=
  .obj ((dictOfPairs environment).map fun pair => (pair.1, .str pair.2))

/-- `asdict` of a `ProcessProfileConfig`. -/
def processProfileToJson (profile : ProcessProfileConfig) : Json :=
  .obj [("profile_id", .str profile.val.profileId),
    ("prompt_transport", .str profile.val.promptTransport),
    ("prompt_argument", textJson profile.val.promptArgument),
    ("required_args", textList profile.val.requiredArgs),
    ("forbidden_args", textList profile.val.forbiddenArgs),
    ("model_argument", textJson profile.val.modelArgument),
    ("version_args", textList profile.val.versionArgs)]

/-- An entry of `payload["agents"]`. -/
def agentToJson (agent : AgentConfig) : Json :=
  .obj [("name", .str agent.val.name), ("command", .str agent.val.command),
    ("args", textList agent.val.args), ("environment", environmentToJson agent.val.environment),
    ("supervisor_driver", textJson agent.val.supervisorDriver),
    ("worker_driver", .str agent.val.workerDriver),
    ("critic_driver", textJson agent.val.criticDriver),
    ("worker_process_profile", optionJson processProfileToJson agent.val.workerProcessProfile)]

section

variable [Runtime]

/-- `asdict` of an `A2AAgentConfig`. -/
def a2aAgentToJson (agent : A2AAgentConfig) : Json :=
  .obj [("name", .str agent.val.name), ("card_url", .str agent.val.cardUrl),
    ("roles", textList agent.val.roles), ("auth_kind", .str agent.val.authKind),
    ("credential_env", textJson agent.val.credentialEnv),
    ("api_key_header", textJson agent.val.apiKeyHeader), ("oauth_flow", .str agent.val.oauthFlow),
    ("client_id_env", textJson agent.val.clientIdEnv),
    ("client_secret_env", textJson agent.val.clientSecretEnv),
    ("token_url", textJson agent.val.tokenUrl),
    ("device_authorization_url", textJson agent.val.deviceAuthorizationUrl),
    ("oidc_discovery_url", textJson agent.val.oidcDiscoveryUrl),
    ("scopes", textList agent.val.scopes), ("client_auth_method", .str agent.val.clientAuthMethod),
    ("prefer_streaming", .bool agent.val.preferStreaming),
    ("push_callback_url", textJson agent.val.pushCallbackUrl),
    ("push_token_env", textJson agent.val.pushTokenEnv),
    ("timeout_seconds", .float agent.val.timeoutSeconds),
    ("poll_interval_seconds", .float agent.val.pollIntervalSeconds)]

/-! ## Roles -/

/-- `asdict` of a `SecretBinding`. -/
def secretBindingToJson (binding : SecretBinding) : Json :=
  .obj [("name", .str binding.val.name), ("source_env", .str binding.val.sourceEnv)]

/-- `asdict` of a `McpServerConfig`. -/
def mcpServerToJson (server : McpServerConfig) : Json :=
  .obj [("name", .str server.val.name), ("transport", .str server.val.transport),
    ("command", textJson server.val.command), ("args", textList server.val.args),
    ("url", textJson server.val.url),
    ("environment", .arr (server.val.environment.map secretBindingToJson)),
    ("headers", .arr (server.val.headers.map secretBindingToJson))]

/-- `asdict` of a `RoleMcpPolicyConfig`. -/
def mcpPolicyToJson (policy : RoleMcpPolicyConfig) : Json :=
  .obj [("permission_mode", .str policy.val.permissionMode),
    ("allowed_tool_kinds", textList policy.val.allowedToolKinds),
    ("servers", .arr (policy.val.servers.map mcpServerToJson))]

/-- `asdict` of a `WorkerCapabilitiesConfig`. -/
def workerCapabilitiesToJson (capabilities : WorkerCapabilitiesConfig) : Json :=
  .obj [("task_transport", .str capabilities.taskTransport),
    ("artifact_contract", .str capabilities.artifactContract),
    ("requires_isolated_worktree", .bool capabilities.requiresIsolatedWorktree),
    ("supports_subagents", .bool capabilities.supportsSubagents)]

/-- `payload["worker"]`. -/
def workerToJson (worker : WorkerConfig) : Json :=
  .obj [("type", .str worker.val.type), ("driver", textJson worker.val.driver),
    ("command", .str worker.val.command), ("args", textList worker.val.args),
    ("environment", environmentToJson worker.val.environment),
    ("timeout_seconds", .float worker.val.timeoutSeconds), ("model", textJson worker.val.model),
    ("max_budget_usd", optionJson Json.float worker.val.maxBudgetUsd),
    ("thinking", textJson worker.val.thinking),
    ("process_profile", optionJson processProfileToJson worker.val.processProfile),
    ("capabilities", workerCapabilitiesToJson worker.val.capabilities),
    ("mcp", mcpPolicyToJson worker.val.mcp)]

/-- `payload["critic"]`. -/
def criticToJson (critic : CriticConfig) : Json :=
  .obj [("type", .str critic.val.type), ("driver", textJson critic.val.driver),
    ("command", .str critic.val.command), ("args", textList critic.val.args),
    ("environment", environmentToJson critic.val.environment),
    ("timeout_seconds", .float critic.val.timeoutSeconds),
    ("max_budget_usd", optionJson Json.float critic.val.maxBudgetUsd),
    ("mcp", mcpPolicyToJson critic.val.mcp)]

/-- `payload["supervisor"]`. -/
def supervisorToJson (supervisor : SupervisorConfig) : Json :=
  .obj [("driver", .str supervisor.val.driver), ("command", .str supervisor.val.command),
    ("args", textList supervisor.val.args),
    ("environment", environmentToJson supervisor.val.environment),
    ("timeout_seconds", .float supervisor.val.timeoutSeconds),
    ("model", textJson supervisor.val.model), ("mcp", mcpPolicyToJson supervisor.val.mcp)]

/-! ## The payload -/

/-- `config_payload`. -/
def configPayload (config : HarnessConfig) : Json :=
  .obj [("supervisor_model", cloudModelToJson config.supervisorModel),
    ("verifier_model", cloudModelToJson config.verifierModel),
    ("runtime", runtimeToJson config.runtime), ("telegram", telegramToJson config.telegram),
    ("supervisor", supervisorToJson config.supervisor), ("worker", workerToJson config.worker),
    ("critic", criticToJson config.critic), ("three_head", threeHeadToJson config.threeHead),
    ("scheduler", schedulerToJson config.scheduler), ("metrics", metricsToJson config.metrics),
    ("audit", auditToJson config.audit), ("verification", verificationToJson config.verification),
    ("coordination", coordinationToJson config.coordination),
    ("agents", .arr (config.agents.map agentToJson)),
    ("a2a_agents", .arr (config.a2aAgents.map a2aAgentToJson)),
    ("local_models", .arr (config.localModels.map localModelToJson)),
    ("forbidden_paths", textList config.forbiddenPaths),
    ("require_tests", .bool config.requireTests),
    ("worker_trust_level", .str config.workerTrustLevel.text)]

end

/-! ## Keys -/

theorem distinctKeys_textJson (value : Option String) : (textJson value).DistinctKeys :=
  distinctKeys_optionText value

/-- An environment is written from a dict, so no name stands in it twice. -/
theorem distinctKeys_environmentToJson (environment : Environment) :
    (environmentToJson environment).DistinctKeys := by
  rw [environmentToJson, Json.DistinctKeys, distinctMembers_iff, List.map_map]
  refine ⟨nodup_keys_dictOfPairs environment, fun m hm => ?_⟩
  obtain ⟨pair, -, rfl⟩ := List.mem_map.mp hm
  trivial

theorem distinctKeys_modelPriceToJson (price : ModelPriceConfig) :
    (modelPriceToJson price).DistinctKeys := by
  simp [modelPriceToJson, Json.DistinctKeys, Json.DistinctMembers]

theorem distinctKeys_localModelToJson (target : LocalModelEndpointTarget) :
    (localModelToJson target).DistinctKeys := by
  simp [localModelToJson, Json.DistinctKeys, Json.DistinctMembers]

/-- A process profile is one flat dict of texts and lists of texts. -/
theorem distinctKeys_processProfileToJson (profile : ProcessProfileConfig) :
    (processProfileToJson profile).DistinctKeys := by
  simp [processProfileToJson, Json.DistinctKeys, Json.DistinctMembers, distinctKeys_textJson,
    distinctKeys_textList]

/-- An agent holds an environment and perhaps a process profile, which have distinct keys. -/
theorem distinctKeys_agentToJson (agent : AgentConfig) : (agentToJson agent).DistinctKeys := by
  simp [agentToJson, Json.DistinctKeys, Json.DistinctMembers, distinctKeys_textJson,
    distinctKeys_textList, distinctKeys_environmentToJson,
    distinctKeys_optionJson distinctKeys_processProfileToJson]

/-- The model of a role is one flat dict. -/
theorem distinctKeys_cloudModelToJson (model : CloudModelEndpoint) :
    (cloudModelToJson model).DistinctKeys := by
  simp [cloudModelToJson, Json.DistinctKeys, Json.DistinctMembers, distinctKeys_textJson]

theorem distinctKeys_secretBindingToJson (binding : SecretBinding) :
    (secretBindingToJson binding).DistinctKeys := by
  simp [secretBindingToJson, Json.DistinctKeys, Json.DistinctMembers]

/-- A limit or `null` has no keys. -/
theorem distinctKeys_optionFloat (value : Option PyFloat) :
    (optionJson Json.float value).DistinctKeys :=
  distinctKeys_optionJson (fun number => show (Json.float number).DistinctKeys from trivial) value

section

variable [Runtime]

theorem distinctKeys_a2aAgentToJson (agent : A2AAgentConfig) : (a2aAgentToJson agent).DistinctKeys := by
  simp [a2aAgentToJson, Json.DistinctKeys, Json.DistinctMembers, distinctKeys_textJson,
    distinctKeys_textList]

/-- A server's only dicts are its secret bindings. -/
theorem distinctKeys_mcpServerToJson (server : McpServerConfig) :
    (mcpServerToJson server).DistinctKeys := by
  simp [mcpServerToJson, Json.DistinctKeys, Json.DistinctMembers, distinctKeys_textJson,
    distinctKeys_textList, distinctItems_map distinctKeys_secretBindingToJson]

/-- The policy of a role holds the dicts of its servers. -/
theorem distinctKeys_mcpPolicyToJson (policy : RoleMcpPolicyConfig) :
    (mcpPolicyToJson policy).DistinctKeys := by
  simp [mcpPolicyToJson, Json.DistinctKeys, Json.DistinctMembers, distinctKeys_textList,
    distinctItems_map distinctKeys_mcpServerToJson]

/-- The worker's section holds its capabilities, its environment, its profile and its policy. -/
theorem distinctKeys_workerToJson (worker : WorkerConfig) : (workerToJson worker).DistinctKeys := by
  simp [workerToJson, workerCapabilitiesToJson, Json.DistinctKeys, Json.DistinctMembers,
    distinctKeys_textJson, distinctKeys_textList, distinctKeys_environmentToJson,
    distinctKeys_optionJson distinctKeys_processProfileToJson, distinctKeys_optionFloat,
    distinctKeys_mcpPolicyToJson]

/-- The critic's section holds its environment and its policy. -/
theorem distinctKeys_criticToJson (critic : CriticConfig) : (criticToJson critic).DistinctKeys := by
  simp [criticToJson, Json.DistinctKeys, Json.DistinctMembers, distinctKeys_textJson,
    distinctKeys_textList, distinctKeys_environmentToJson, distinctKeys_optionFloat,
    distinctKeys_mcpPolicyToJson]

/-- ... and so does the supervisor's. -/
theorem distinctKeys_supervisorToJson (supervisor : SupervisorConfig) :
    (supervisorToJson supervisor).DistinctKeys := by
  simp [supervisorToJson, Json.DistinctKeys, Json.DistinctMembers, distinctKeys_textJson,
    distinctKeys_textList, distinctKeys_environmentToJson, distinctKeys_mcpPolicyToJson]

/-- Every dict of the payload has distinct keys. -/
theorem distinctKeys_configPayload (config : HarnessConfig) : (configPayload config).DistinctKeys := by
  simp [configPayload, runtimeToJson, telegramToJson, threeHeadToJson, roleIdentityToJson,
    schedulerToJson, metricsToJson, auditToJson, verificationToJson, coordinationToJson,
    Json.DistinctKeys, Json.DistinctMembers, distinctKeys_textJson, distinctKeys_textList,
    distinctKeys_cloudModelToJson, distinctKeys_supervisorToJson, distinctKeys_workerToJson,
    distinctKeys_criticToJson, distinctItems_map distinctKeys_modelPriceToJson,
    distinctItems_map distinctKeys_agentToJson, distinctItems_map distinctKeys_a2aAgentToJson,
    distinctItems_map distinctKeys_localModelToJson]

end

/-! ## Integers -/

/-- Items without integers have none together. -/
theorem itemInts_map {α : Type} {json : α → Json} (h : ∀ a, intsOf (json a) = []) (items : List α) :
    itemInts (items.map json) = [] := by
  induction items with
  | nil => rfl
  | cons a items ih => rw [List.map_cons, itemInts_cons, h, ih, List.append_nil]

/-- A list of strings holds no integer. -/
theorem intsOf_textList (texts : List String) : intsOf (textList texts) = [] :=
  itemInts_map (fun _ => rfl) texts

/-- An optional value holds an integer only if the value does. -/
theorem intsOf_optionJson {α : Type} {json : α → Json} (h : ∀ a, intsOf (json a) = [])
    (value : Option α) : intsOf (optionJson json value) = [] := by
  cases value with
  | none => rfl
  | some a => exact h a

theorem intsOf_textJson (value : Option String) : intsOf (textJson value) = [] :=
  intsOf_optionJson (fun _ => rfl) value

/-- The values of an environment are strings. -/
theorem intsOf_environmentToJson (environment : Environment) :
    intsOf (environmentToJson environment) = [] := by
  rw [environmentToJson, intsOf_obj]
  induction dictOfPairs environment with
  | nil => rfl
  | cons pair rest ih => rw [List.map_cons, memberInts_cons, ih]; rfl

theorem intsOf_processProfileToJson (profile : ProcessProfileConfig) :
    intsOf (processProfileToJson profile) = [] := by
  simp [processProfileToJson, intsOf_textJson, intsOf_textList]

/-- An agent holds no integer: its profile and its environment are texts. -/
theorem intsOf_agentToJson (agent : AgentConfig) : intsOf (agentToJson agent) = [] := by
  simp [agentToJson, intsOf_textJson, intsOf_textList, intsOf_environmentToJson,
    intsOf_optionJson intsOf_processProfileToJson]

/-- A limit is a float, and no integer to `json.dumps`. -/
theorem intsOf_optionFloat (value : Option PyFloat) : intsOf (optionJson Json.float value) = [] :=
  intsOf_optionJson (fun _ => rfl) value

section

variable [Runtime]

theorem intsOf_a2aAgentToJson (agent : A2AAgentConfig) : intsOf (a2aAgentToJson agent) = [] := by
  simp [a2aAgentToJson, intsOf_textJson, intsOf_textList]

/-- A server holds no integer. -/
theorem intsOf_mcpServerToJson (server : McpServerConfig) : intsOf (mcpServerToJson server) = [] := by
  have hbindings : ∀ binding, intsOf (secretBindingToJson binding) = [] := fun _ => rfl
  simp [mcpServerToJson, intsOf_textJson, intsOf_textList,
    itemInts_map hbindings]

/-- ... nor does the policy of a role. -/
theorem intsOf_mcpPolicyToJson (policy : RoleMcpPolicyConfig) : intsOf (mcpPolicyToJson policy) = [] := by
  simp [mcpPolicyToJson, intsOf_textList, itemInts_map intsOf_mcpServerToJson]

/-- The integers of the payload are those of the configuration. -/
theorem intsOf_configPayload (config : HarnessConfig) : intsOf (configPayload config) = config.ints := by
  have hprices : ∀ price, intsOf (modelPriceToJson price) = [] := fun _ => rfl
  have hlocal : ∀ target, intsOf (localModelToJson target) = [] := fun _ => rfl
  simp [configPayload, cloudModelToJson, runtimeToJson, telegramToJson, supervisorToJson, workerToJson,
    workerCapabilitiesToJson, criticToJson, threeHeadToJson, roleIdentityToJson, schedulerToJson,
    metricsToJson, auditToJson, verificationToJson, coordinationToJson,
    intsOf_textJson, intsOf_textList, intsOf_environmentToJson, intsOf_optionFloat,
    intsOf_mcpPolicyToJson, intsOf_optionJson intsOf_processProfileToJson, itemInts_map hprices,
    itemInts_map hlocal, itemInts_map intsOf_agentToJson, itemInts_map intsOf_a2aAgentToJson,
    HarnessConfig.ints]

end

end LlmHarness.Config
