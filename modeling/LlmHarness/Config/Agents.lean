/-
  LlmHarness.Config.Agents

  Declared agents: local ones with their drivers and process profiles, and remote ones behind an
  A2A endpoint.
-/

import LlmHarness.Config.Drivers
import LlmHarness.Lib.Built

namespace LlmHarness.Config

open Python Guards

/-! ## Process profiles -/

/-- `_argument_key`. -/
def argumentKey (value : String) : String :=
  normalized (String.ofList (value.toList.takeWhile (· ≠ '=')))

/-- The fields of `ProcessProfileConfig`. -/
structure ProcessProfileFields where
  profileId : String
  promptTransport : String := "stdin"
  promptArgument : Option String := none
  requiredArgs : List String := []
  forbiddenArgs : List String := []
  modelArgument : Option String := none
  versionArgs : List String := ["--version"]
deriving DecidableEq

/-- `not item.strip() or "\x00" in item`. -/
def isBadArgument (item : String) : Bool := stripped item = "" || item.toList.contains '\x00'

/-- The check of one list of arguments. -/
def checkArguments (label : String) (values : List String) : Except ConfigError Unit :=
  refuse (values.any isBadArgument)
    ("process " ++ label ++ " entries must be non-empty and contain no NUL bytes.")

/-- The elements of a set, in order. -/
def sortedKeys (keys : List String) : List String := keys.eraseDups.insertionSort (· ≤ ·)

/-- The arguments that are required and forbidden. -/
def ProcessProfileFields.overlap (fields : ProcessProfileFields) : List String :=
  sortedKeys ((fields.requiredArgs.map argumentKey).filter fun key =>
    (fields.forbiddenArgs.map argumentKey).contains key)

/-- `ProcessProfileConfig.__post_init__`. -/
@[irreducible] def ProcessProfileFields.postInit (fields : ProcessProfileFields) :
    Except ConfigError ProcessProfileFields := do
  let profileId := normalized fields.profileId
  let promptTransport := normalized fields.promptTransport
  refuse (profileId = "") "process profile_id must be non-empty."
  refuse (!(["stdin", "file"].contains promptTransport))
    "process prompt_transport must be 'stdin' or 'file'."
  refuse (promptTransport = "file" && stripped (fields.promptArgument.getD "") = "")
    "file process profiles require prompt_argument."
  refuse (promptTransport = "stdin" && fields.promptArgument.isSome)
    "stdin process profiles must not set prompt_argument."
  checkArguments "required_args" fields.requiredArgs
  checkArguments "forbidden_args" fields.forbiddenArgs
  checkArguments "version_args" fields.versionArgs
  refuse (fields.modelArgument.any fun item => stripped item = "")
    "process model_argument must be non-empty when provided."
  refuse (!fields.overlap.isEmpty)
    ("process profile arguments cannot be both required and forbidden: " ++
      ", ".intercalate fields.overlap)
  return { fields with profileId, promptTransport }

/-- `ProcessProfileConfig`. -/
abbrev ProcessProfileConfig : Type := Built ProcessProfileFields.postInit

theorem settles_processProfile : Settles ProcessProfileFields.postInit := by
  intro fields record h
  have h' := h
  rw [ProcessProfileFields.postInit] at h'
  obtain ⟨-, -, h'⟩ := bind_eq_ok.mp h'
  obtain ⟨-, -, h'⟩ := bind_eq_ok.mp h'
  obtain ⟨-, -, h'⟩ := bind_eq_ok.mp h'
  obtain ⟨-, -, h'⟩ := bind_eq_ok.mp h'
  obtain ⟨-, -, h'⟩ := bind_eq_ok.mp h'
  obtain ⟨-, -, h'⟩ := bind_eq_ok.mp h'
  obtain ⟨-, -, h'⟩ := bind_eq_ok.mp h'
  obtain ⟨-, -, h'⟩ := bind_eq_ok.mp h'
  obtain ⟨-, -, h'⟩ := bind_eq_ok.mp h'
  rw [← h, ← pure_eq_ok.mp h']
  simp only [ProcessProfileFields.postInit, ProcessProfileFields.overlap, normalized_normalized]

/-- Flags that carry a secret. -/
def sensitiveArguments : List String := ["--api-key", "--apikey", "--password", "--secret", "--token"]

/-- The arguments that a profile keeps to itself, or that carry a secret. -/
def processArgumentHits (configuredArgs : List String) (profile : ProcessProfileConfig) :
    List String :=
  let configured := configuredArgs.map argumentKey
  let required := profile.val.requiredArgs.map argumentKey
  let forbidden := profile.val.forbiddenArgs.map argumentKey ++ sensitiveArguments
  let owned := (profile.val.promptArgument.toList ++ profile.val.modelArgument.toList).map argumentKey
  sortedKeys ((configured.filter fun key => (forbidden ++ owned).contains key) ++
    required.filter fun key => (sensitiveArguments ++ owned).contains key)

/-- `validate_process_arguments`. -/
def validateProcessArguments (configuredArgs : List String) (profile : ProcessProfileConfig) :
    Except ConfigError Unit :=
  refuse (!(processArgumentHits configuredArgs profile).isEmpty)
    ("process args contain forbidden, secret-bearing, or HoH-owned flags: " ++
      ", ".intercalate (processArgumentHits configuredArgs profile))

/-- `validate_process_arguments`, where there is a profile. -/
def validateProfiled (configuredArgs : List String) :
    Option ProcessProfileConfig → Except ConfigError Unit
  | none => .ok ()
  | some profile => validateProcessArguments configuredArgs profile

/-! ## Local agents -/

/-- An environment, as pairs of a name and a value. -/
abbrev Environment : Type := List (String × String)

/-- The fields of `AgentConfig`. -/
structure AgentFields where
  name : String
  command : String
  args : List String := []
  environment : Environment := []
  supervisorDriver : Option String := none
  workerDriver : String := "command"
  criticDriver : Option String := none
  workerProcessProfile : Option ProcessProfileConfig := none
deriving DecidableEq

/-- The identifier of a driver that may be absent. -/
def resolveOptional (driver : Option String) (role : DriverRole) :
    Except ConfigError (Option String) :=
  match driver with
  | none => .ok none
  | some driverId => do
    let manifest ← resolveDriver driverId role
    return some manifest.driverId

theorem resolveOptional_again {driver resolved : Option String} {role : DriverRole}
    (h : resolveOptional driver role = .ok resolved) : resolveOptional resolved role = .ok resolved := by
  cases driver with
  | none =>
      cases Except.ok.inj h
      rfl
  | some driverId =>
      obtain ⟨manifest, hmanifest, hresolved⟩ := bind_eq_ok.mp h
      rw [← pure_eq_ok.mp hresolved]
      exact bind_eq_ok.mpr ⟨manifest, resolveDriver_again hmanifest, rfl⟩

/-- `AgentConfig.__post_init__`. -/
@[irreducible] def AgentFields.postInit (fields : AgentFields) : Except ConfigError AgentFields := do
  refuse (stripped fields.name = "" || stripped fields.command = "")
    "agent name and command must be non-empty."
  let worker ← resolveDriver fields.workerDriver .worker
  let supervisorDriver ← resolveOptional fields.supervisorDriver .supervisor
  let criticDriver ← resolveOptional fields.criticDriver .critic
  refuse (worker.driverId = "process" && fields.workerProcessProfile.isNone)
    "agent worker_driver='process' requires worker_process_profile."
  refuse (worker.driverId ≠ "process" && fields.workerProcessProfile.isSome)
    "agent worker_process_profile requires worker_driver='process'."
  validateProfiled fields.args fields.workerProcessProfile
  return { fields with workerDriver := worker.driverId, supervisorDriver, criticDriver }

/-- `AgentConfig`. -/
abbrev AgentConfig : Type := Built AgentFields.postInit

theorem settles_agent : Settles AgentFields.postInit := by
  intro fields record h
  rw [AgentFields.postInit] at h
  obtain ⟨_, hname, h⟩ := bind_eq_ok.mp h
  obtain ⟨worker, hworker, h⟩ := bind_eq_ok.mp h
  obtain ⟨supervisorDriver, hsupervisor, h⟩ := bind_eq_ok.mp h
  obtain ⟨criticDriver, hcritic, h⟩ := bind_eq_ok.mp h
  obtain ⟨_, hmissing, h⟩ := bind_eq_ok.mp h
  obtain ⟨_, hspare, h⟩ := bind_eq_ok.mp h
  obtain ⟨_, hprofile, h⟩ := bind_eq_ok.mp h
  rw [← pure_eq_ok.mp h, AgentFields.postInit]
  refine bind_eq_ok.mpr ⟨_, hname, bind_eq_ok.mpr ⟨worker, resolveDriver_again hworker, ?_⟩⟩
  refine bind_eq_ok.mpr ⟨_, resolveOptional_again hsupervisor, ?_⟩
  refine bind_eq_ok.mpr ⟨_, resolveOptional_again hcritic, bind_eq_ok.mpr ⟨_, hmissing, ?_⟩⟩
  exact bind_eq_ok.mpr ⟨_, hspare, bind_eq_ok.mpr ⟨_, hprofile, rfl⟩⟩

/-! ## Remote agents -/

/-- The fields of `A2AAgentConfig`. -/
structure A2AAgentFields where
  name : String
  cardUrl : String
  roles : List String := ["supervisor", "worker", "critic"]
  authKind : String := "none"
  credentialEnv : Option String := none
  apiKeyHeader : Option String := none
  oauthFlow : String := "client_credentials"
  clientIdEnv : Option String := none
  clientSecretEnv : Option String := none
  tokenUrl : Option String := none
  deviceAuthorizationUrl : Option String := none
  oidcDiscoveryUrl : Option String := none
  scopes : List String := []
  clientAuthMethod : String := "basic"
  preferStreaming : Bool := true
  pushCallbackUrl : Option String := none
  pushTokenEnv : Option String := none
  timeoutSeconds : PyFloat := floatLiteral "300.0"
  pollIntervalSeconds : PyFloat := floatLiteral "1.0"
deriving BEq

section

variable [Runtime]

/-- The checks of the card's URL. -/
def checkCardUrl (url : String) : Except ConfigError Unit := do
  let parsed ← urlparse url
  refuse parsed.isRelative "A2A card_url must be an absolute HTTP(S) URL."
  refuse parsed.hasCredentials "A2A card_url must not contain credentials."
  refuse (parsed.scheme == "http" && !parsed.isLoopback)
    "Remote A2A endpoints require HTTPS; HTTP is allowed only for loopback."

/-- `_valid_http_header_name`. -/
def validHttpHeaderName (value : String) : Bool :=
  value ≠ "" && value.toList.all fun c =>
    Runtime.isAlnum c || "!#$%&'*+-.^_`|~".toList.contains c

/-- The checks of the header that carries an API key. -/
def checkApiKeyHeader (authKind : String) (header : Option String) : Except ConfigError Unit :=
  if authKind = "api_key" then do
    refuse (!header.any validHttpHeaderName)
      "A2A api_key authentication requires a valid api_key_header."
    refuse (header.any fun name =>
        ["host", "content-length", "a2a-version", "a2a-extensions"].contains (folded name))
      "A2A api_key_header cannot override a protocol-owned HTTP header."
  else refuse header.isSome "A2A api_key_header is valid only with auth_kind='api_key'."

/-- The check of the name of an environment variable. -/
def checkEnvironmentName (label : String) (name : Option String) : Except ConfigError Unit :=
  refuse (name.any fun text => !isEnvironmentName text)
    ("A2A " ++ label ++ " must be an environment-variable name.")

/-- Whether an OAuth or OIDC endpoint has no credential of its own. -/
def needsClient (authKind : String) (credentialEnv : Option String) : Bool :=
  ["oauth2", "oidc"].contains authKind && credentialEnv.isNone

/-- `A2AAgentConfig.__post_init__`. -/
@[irreducible] def A2AAgentFields.postInit (fields : A2AAgentFields) :
    Except ConfigError A2AAgentFields := do
  let name := stripped fields.name
  let cardUrl := stripped fields.cardUrl
  let roles := distinctNormalized fields.roles
  let authKind := normalized fields.authKind
  let credentialEnv := textOrNone fields.credentialEnv
  let apiKeyHeader := textOrNone fields.apiKeyHeader
  let oauthFlow := normalized fields.oauthFlow
  let clientAuthMethod := normalized fields.clientAuthMethod
  let clientIdEnv := textOrNone fields.clientIdEnv
  let clientSecretEnv := textOrNone fields.clientSecretEnv
  let pushTokenEnv := textOrNone fields.pushTokenEnv
  let scopes := distinctStripped fields.scopes
  refuse (name = "") "A2A agent name must be non-empty."
  checkCardUrl cardUrl
  refuse (roles.isEmpty || roles.any fun item => !(["supervisor", "worker", "critic"].contains item))
    "A2A roles must contain supervisor, worker, and/or critic."
  refuse (!(["none", "bearer", "api_key", "oauth2", "oidc"].contains authKind))
    "A2A auth_kind must be none, bearer, api_key, oauth2, or oidc."
  refuse (["bearer", "api_key"].contains authKind && credentialEnv.isNone)
    "Authenticated A2A endpoints require credential_env."
  checkEnvironmentName "credential_env" credentialEnv
  checkApiKeyHeader authKind apiKeyHeader
  refuse (!(["client_credentials", "device_code"].contains oauthFlow))
    "A2A oauth_flow must be client_credentials or device_code."
  refuse (!(["basic", "post"].contains clientAuthMethod))
    "A2A client_auth_method must be basic or post."
  checkEnvironmentName "client_id_env" clientIdEnv
  checkEnvironmentName "client_secret_env" clientSecretEnv
  checkEnvironmentName "push_token_env" pushTokenEnv
  let tokenUrl ← optionalUrl fields.tokenUrl "A2A token_url"
  let deviceAuthorizationUrl ← optionalUrl fields.deviceAuthorizationUrl "A2A device_authorization_url"
  let oidcDiscoveryUrl ← optionalUrl fields.oidcDiscoveryUrl "A2A oidc_discovery_url"
  let pushCallbackUrl ← optionalUrl fields.pushCallbackUrl "A2A push_callback_url"
  refuse (needsClient authKind credentialEnv && clientIdEnv.isNone)
    "OAuth/OIDC A2A endpoints require client_id_env or credential_env."
  refuse (needsClient authKind credentialEnv && oauthFlow = "client_credentials" &&
      clientSecretEnv.isNone)
    "OAuth client_credentials requires client_secret_env."
  refuse (pushCallbackUrl.isSome && pushTokenEnv.isNone)
    "A2A push callbacks require push_token_env for webhook authentication."
  refuse (isAtMostZero fields.timeoutSeconds || isAtMostZero fields.pollIntervalSeconds)
    "A2A timeout and poll interval must be greater than zero."
  return { fields with name, cardUrl, roles, authKind, credentialEnv, apiKeyHeader, oauthFlow,
                       clientIdEnv, clientSecretEnv, tokenUrl, deviceAuthorizationUrl,
                       oidcDiscoveryUrl, scopes, clientAuthMethod, pushCallbackUrl, pushTokenEnv }

/-- `A2AAgentConfig`. -/
abbrev A2AAgentConfig : Type := Built A2AAgentFields.postInit

theorem settles_a2aAgent : Settles A2AAgentFields.postInit := by
  intro fields record h
  rw [A2AAgentFields.postInit] at h
  obtain ⟨_, hname, h⟩ := bind_eq_ok.mp h
  obtain ⟨_, hcard, h⟩ := bind_eq_ok.mp h
  obtain ⟨_, hroles, h⟩ := bind_eq_ok.mp h
  obtain ⟨_, hkind, h⟩ := bind_eq_ok.mp h
  obtain ⟨_, hcredential, h⟩ := bind_eq_ok.mp h
  obtain ⟨_, hcredentialName, h⟩ := bind_eq_ok.mp h
  obtain ⟨_, hheader, h⟩ := bind_eq_ok.mp h
  obtain ⟨_, hflow, h⟩ := bind_eq_ok.mp h
  obtain ⟨_, hmethod, h⟩ := bind_eq_ok.mp h
  obtain ⟨_, hclientId, h⟩ := bind_eq_ok.mp h
  obtain ⟨_, hclientSecret, h⟩ := bind_eq_ok.mp h
  obtain ⟨_, hpushToken, h⟩ := bind_eq_ok.mp h
  obtain ⟨tokenUrl, htoken, h⟩ := bind_eq_ok.mp h
  obtain ⟨deviceUrl, hdevice, h⟩ := bind_eq_ok.mp h
  obtain ⟨discoveryUrl, hdiscovery, h⟩ := bind_eq_ok.mp h
  obtain ⟨pushUrl, hpush, h⟩ := bind_eq_ok.mp h
  obtain ⟨_, hclient, h⟩ := bind_eq_ok.mp h
  obtain ⟨_, hsecret, h⟩ := bind_eq_ok.mp h
  obtain ⟨_, hcallback, h⟩ := bind_eq_ok.mp h
  obtain ⟨_, hpositive, h⟩ := bind_eq_ok.mp h
  rw [← pure_eq_ok.mp h, A2AAgentFields.postInit]
  simp only [stripped_stripped, normalized_normalized, textOrNone_textOrNone,
    distinctNormalized_distinctNormalized, distinctStripped_distinctStripped]
  refine bind_eq_ok.mpr ⟨_, hname, bind_eq_ok.mpr ⟨_, hcard, bind_eq_ok.mpr ⟨_, hroles, ?_⟩⟩⟩
  refine bind_eq_ok.mpr ⟨_, hkind, bind_eq_ok.mpr ⟨_, hcredential, ?_⟩⟩
  refine bind_eq_ok.mpr ⟨_, hcredentialName, bind_eq_ok.mpr ⟨_, hheader, ?_⟩⟩
  refine bind_eq_ok.mpr ⟨_, hflow, bind_eq_ok.mpr ⟨_, hmethod, bind_eq_ok.mpr ⟨_, hclientId, ?_⟩⟩⟩
  refine bind_eq_ok.mpr ⟨_, hclientSecret, bind_eq_ok.mpr ⟨_, hpushToken, ?_⟩⟩
  refine bind_eq_ok.mpr ⟨_, optionalUrl_again htoken, ?_⟩
  refine bind_eq_ok.mpr ⟨_, optionalUrl_again hdevice, ?_⟩
  refine bind_eq_ok.mpr ⟨_, optionalUrl_again hdiscovery, ?_⟩
  refine bind_eq_ok.mpr ⟨_, optionalUrl_again hpush, bind_eq_ok.mpr ⟨_, hclient, ?_⟩⟩
  refine bind_eq_ok.mpr ⟨_, hsecret, bind_eq_ok.mpr ⟨_, hcallback, ?_⟩⟩
  exact bind_eq_ok.mpr ⟨_, hpositive, rfl⟩

end

end LlmHarness.Config
