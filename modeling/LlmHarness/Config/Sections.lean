/-
  LlmHarness.Config.Sections

  The sections of the configuration that hold plain settings: model endpoints, the runtime, the
  three heads, prices, analyzers, allowed commands and lock timeouts.
-/

import LlmHarness.Config.Basic
import LlmHarness.Lib.Built
import LlmHarness.Verifier.CommandPolicy

namespace LlmHarness.Config

open Python Guards

/-! ## Model endpoints -/

/-- The fields of `CloudModelEndpoint`. -/
structure CloudModelFields where
  provider : String
  model : String
  baseUrl : Option String := none
  apiKeyEnv : Option String := none
  timeoutSeconds : PyFloat := floatLiteral "60.0"
  maxRetries : Int := 2
  maxOutputTokens : Int := 8192
deriving BEq

/-- `CloudModelEndpoint.__post_init__`. -/
@[irreducible] def CloudModelFields.postInit (fields : CloudModelFields) :
    Except ConfigError CloudModelFields := do
  let provider := normalized fields.provider
  refuse (!(["stub", "openai", "deepseek", "openai_compatible"].contains provider))
    "model provider must be 'stub', 'openai', 'deepseek', or 'openai_compatible'."
  refuse (stripped fields.model = "") "model name must be non-empty."
  refuse (provider = "openai_compatible" && isAbsent fields.baseUrl)
    "openai_compatible model provider requires base_url."
  refuse (provider = "openai_compatible" && isAbsent fields.apiKeyEnv)
    "openai_compatible model provider requires api_key_env."
  refuse (isAtMostZero fields.timeoutSeconds) "model timeout_seconds must be greater than zero."
  refuse (fields.maxRetries < 0) "model max_retries must be zero or greater."
  refuse (fields.maxOutputTokens < 1) "model max_output_tokens must be at least 1."
  return { fields with provider }

/-- `CloudModelEndpoint`. -/
abbrev CloudModelEndpoint : Type := Built CloudModelFields.postInit

/-- What the constructor returns: the fields with the provider in its normal form, and for
    `openai_compatible` neither a base URL nor the name of a credential is missing. -/
theorem CloudModelFields.postInit_eq_ok {fields record : CloudModelFields}
    (h : fields.postInit = .ok record) :
    record = { fields with provider := normalized fields.provider } ∧
      (normalized fields.provider = "openai_compatible" →
        isAbsent fields.baseUrl = false ∧ isAbsent fields.apiKeyEnv = false) := by
  rw [CloudModelFields.postInit] at h
  obtain ⟨-, h⟩ := unit_bind_eq_ok.mp h
  obtain ⟨-, h⟩ := unit_bind_eq_ok.mp h
  obtain ⟨hbase, h⟩ := unit_bind_eq_ok.mp h
  obtain ⟨hkey, h⟩ := unit_bind_eq_ok.mp h
  obtain ⟨-, h⟩ := unit_bind_eq_ok.mp h
  obtain ⟨-, h⟩ := unit_bind_eq_ok.mp h
  obtain ⟨-, h⟩ := unit_bind_eq_ok.mp h
  refine ⟨(pure_eq_ok.mp h).symm, fun hprovider => ?_⟩
  rw [refuse_eq_ok, hprovider] at hbase hkey
  exact ⟨by simpa using hbase, by simpa using hkey⟩

theorem settles_cloudModel : Settles CloudModelFields.postInit := by
  intro fields record h
  obtain ⟨rfl, -⟩ := CloudModelFields.postInit_eq_ok h
  rw [← h]
  simp only [CloudModelFields.postInit, normalized_normalized]

/-- `LocalModelEndpointTarget` with its `target_type`. -/
inductive ExecutionTargetType where
  | localAgent
  | localModelEndpoint
deriving DecidableEq

/-- The value of the enumeration. -/
def ExecutionTargetType.text : ExecutionTargetType → String
  | localAgent => "local_agent"
  | localModelEndpoint => "local_model_endpoint"

structure LocalModelEndpointTarget where
  name : String
  baseUrl : String
  model : String
  protocol : String := "openai_compatible"
  targetType : ExecutionTargetType := .localModelEndpoint
deriving DecidableEq

/-! ## Runtime and Telegram -/

/-- `RuntimeConfig`. -/
structure RuntimeConfig where
  requireEmbeddedPython : Bool
  embeddedPythonPath : String := "runtime/python/python.exe"
  wheelsPath : String := "vendor/wheels"
deriving DecidableEq

/-- `TelegramConfig`. -/
structure TelegramConfig where
  enabled : Bool := false
  botTokenEnv : Option String := none
  chatIdEnv : Option String := none
  userIdEnv : Option String := none
deriving DecidableEq

/-! ## The three heads -/

/-- `RoleIdentityConfig`. -/
structure RoleIdentityConfig where
  identity : String
  provider : String
  model : String
deriving DecidableEq

/-- Whether the identity, the provider or the model is blank. -/
def RoleIdentityConfig.isIncomplete (role : RoleIdentityConfig) : Bool :=
  stripped role.identity = "" || stripped role.provider = "" || stripped role.model = ""

/-- The default of `ThreeHeadConfig.logic`. -/
def defaultLogic : RoleIdentityConfig := ⟨"external-supervisor", "external", "supervisor-agent"⟩

/-- The default of `ThreeHeadConfig.worker`. -/
def defaultWorkerHead : RoleIdentityConfig := ⟨"configured-worker", "agent", "worker-agent"⟩

/-- The default of `ThreeHeadConfig.critic`. -/
def defaultCriticHead : RoleIdentityConfig := ⟨"external-critic", "external", "critic-agent"⟩

/-- The fields of `ThreeHeadConfig`. -/
structure ThreeHeadFields where
  mode : String := "manual"
  maxAttempts : Int := 3
  logic : RoleIdentityConfig := defaultLogic
  worker : RoleIdentityConfig := defaultWorkerHead
  critic : RoleIdentityConfig := defaultCriticHead
deriving DecidableEq

/-- The identities of the heads, as they are compared. -/
def ThreeHeadFields.identities (fields : ThreeHeadFields) : List String :=
  [fields.logic, fields.worker, fields.critic].map fun role => normalized role.identity

/-- `ThreeHeadConfig.__post_init__`. -/
@[irreducible] def ThreeHeadFields.postInit (fields : ThreeHeadFields) :
    Except ConfigError ThreeHeadFields := do
  let mode := normalized fields.mode
  refuse (!(["disabled", "manual", "required"].contains mode))
    "three_head.mode must be 'disabled', 'manual', or 'required'."
  refuse (fields.maxAttempts < 1) "three_head.max_attempts must be at least 1."
  refuse ([fields.logic, fields.worker, fields.critic].any RoleIdentityConfig.isIncomplete)
    "three_head role identity, provider, and model must be non-empty."
  refuse (mode = "required" && !decide fields.identities.Nodup)
    "three_head required mode needs distinct logic, worker, and critic identities."
  return { fields with mode }

/-- `ThreeHeadConfig`. -/
abbrev ThreeHeadConfig : Type := Built ThreeHeadFields.postInit

/-- With the default heads, the mode and the attempts that were accepted are accepted again. -/
theorem threeHead_defaultHeads {fields record : ThreeHeadFields}
    (h : ThreeHeadFields.postInit fields = .ok record) :
    ThreeHeadFields.postInit { mode := record.mode, maxAttempts := record.maxAttempts } =
      .ok { mode := record.mode, maxAttempts := record.maxAttempts } := by
  rw [ThreeHeadFields.postInit] at h
  obtain ⟨_, hmode, h⟩ := bind_eq_ok.mp h
  obtain ⟨_, hattempts, h⟩ := bind_eq_ok.mp h
  obtain ⟨-, -, h⟩ := bind_eq_ok.mp h
  obtain ⟨-, -, h⟩ := bind_eq_ok.mp h
  rw [← pure_eq_ok.mp h, ThreeHeadFields.postInit]
  simp only [normalized_normalized]
  have hcomplete : [defaultLogic, defaultWorkerHead, defaultCriticHead].any
      RoleIdentityConfig.isIncomplete = false := by decide +kernel
  have hdistinct : ∀ mode attempts, ThreeHeadFields.identities ⟨mode, attempts, defaultLogic,
      defaultWorkerHead, defaultCriticHead⟩ |>.Nodup := by
    have hnodup : ([defaultLogic, defaultWorkerHead, defaultCriticHead].map fun role =>
      normalized role.identity).Nodup := by decide +kernel
    exact fun _ _ => hnodup
  refine bind_eq_ok.mpr ⟨_, hmode, bind_eq_ok.mpr ⟨_, hattempts, bind_eq_ok.mpr ⟨(), ?_, ?_⟩⟩⟩
  · exact refuse_eq_ok.mpr hcomplete
  · refine bind_eq_ok.mpr ⟨(), refuse_eq_ok.mpr ?_, rfl⟩
    rw [decide_eq_true (hdistinct _ _), Bool.not_true, Bool.and_false]

/-- The mode and the attempts with the default heads. -/
def withDefaultHeads (threeHead : ThreeHeadConfig) : ThreeHeadConfig where
  val := { mode := threeHead.val.mode, maxAttempts := threeHead.val.maxAttempts }
  returned := by
    obtain ⟨fields, h⟩ := threeHead.returned
    exact ⟨_, threeHead_defaultHeads h⟩

/-- Every head is the default one. -/
def HasDefaultHeads (threeHead : ThreeHeadConfig) : Prop :=
  threeHead.val.logic = defaultLogic ∧ threeHead.val.worker = defaultWorkerHead ∧
    threeHead.val.critic = defaultCriticHead

theorem withDefaultHeads_eq_iff (threeHead : ThreeHeadConfig) :
    withDefaultHeads threeHead = threeHead ↔ HasDefaultHeads threeHead := by
  constructor
  · intro h
    rw [← h]
    exact ⟨rfl, rfl, rfl⟩
  · rintro ⟨hlogic, hworker, hcritic⟩
    refine Built.ext ?_
    show ThreeHeadFields.mk threeHead.val.mode threeHead.val.maxAttempts defaultLogic
      defaultWorkerHead defaultCriticHead = threeHead.val
    rw [← hlogic, ← hworker, ← hcritic]

/-! ## Scheduler, metrics and audit -/

/-- The fields of `SchedulerConfig`. -/
structure SchedulerFields where
  maxParallelTasks : Int := 1
deriving DecidableEq

/-- `SchedulerConfig.__post_init__`. -/
@[irreducible] def SchedulerFields.postInit (fields : SchedulerFields) :
    Except ConfigError SchedulerFields := do
  refuse (fields.maxParallelTasks < 1) "scheduler.max_parallel_tasks must be at least 1."
  return fields

/-- `SchedulerConfig`. -/
abbrev SchedulerConfig : Type := Built SchedulerFields.postInit

theorem settles_scheduler : Settles SchedulerFields.postInit := by
  intro fields record h
  have h' := h
  rw [SchedulerFields.postInit] at h'
  obtain ⟨-, -, h'⟩ := bind_eq_ok.mp h'
  rw [← h, pure_eq_ok.mp h']

/-- The fields of `ModelPriceConfig`. -/
structure ModelPriceFields where
  provider : String
  model : String
  inputPerMillion : PyFloat := floatLiteral "0.0"
  outputPerMillion : PyFloat := floatLiteral "0.0"
  currency : String := "USD"
deriving BEq

/-- `ModelPriceConfig.__post_init__`. -/
@[irreducible] def ModelPriceFields.postInit (fields : ModelPriceFields) :
    Except ConfigError ModelPriceFields := do
  let provider := normalized fields.provider
  let model := stripped fields.model
  let currency := capitals fields.currency
  refuse (provider = "" || model = "") "metrics price provider and model must be non-empty."
  refuse (isNegative fields.inputPerMillion || isNegative fields.outputPerMillion)
    "metrics prices cannot be negative."
  refuse (!isCurrencyCode currency) "metrics price currency must be a three-letter code."
  return { fields with provider, model, currency }

/-- `ModelPriceConfig`. -/
abbrev ModelPriceConfig : Type := Built ModelPriceFields.postInit

theorem settles_modelPrice : Settles ModelPriceFields.postInit := by
  intro fields record h
  have h' := h
  rw [ModelPriceFields.postInit] at h'
  obtain ⟨-, -, h'⟩ := bind_eq_ok.mp h'
  obtain ⟨-, -, h'⟩ := bind_eq_ok.mp h'
  obtain ⟨_, hcurrency, h'⟩ := bind_eq_ok.mp h'
  have hcode : isCurrencyCode (capitals fields.currency) = true := by
    rw [refuse_eq_ok, Bool.not_eq_false'] at hcurrency
    exact hcurrency
  rw [← h, ← pure_eq_ok.mp h']
  simp only [ModelPriceFields.postInit, normalized_normalized, stripped_stripped,
    capitals_of_isCurrencyCode hcode]

/-- The fields of `MetricsConfig`. -/
structure MetricsFields where
  prices : List ModelPriceConfig := []
deriving BEq

/-- What prices are told apart by. -/
def MetricsFields.keys (fields : MetricsFields) : List (String × String) :=
  fields.prices.map fun item => (item.val.provider, folded item.val.model)

/-- `MetricsConfig.__post_init__`. -/
@[irreducible] def MetricsFields.postInit (fields : MetricsFields) :
    Except ConfigError MetricsFields := do
  refuse (!decide fields.keys.Nodup) "metrics prices must contain unique provider/model pairs."
  return fields

/-- `MetricsConfig`. -/
abbrev MetricsConfig : Type := Built MetricsFields.postInit

theorem settles_metrics : Settles MetricsFields.postInit := by
  intro fields record h
  have h' := h
  rw [MetricsFields.postInit] at h'
  obtain ⟨-, -, h'⟩ := bind_eq_ok.mp h'
  rw [← h, pure_eq_ok.mp h']

/-- The fields of `AuditConfig`. -/
structure AuditFields where
  languageAnalyzers : List String := ["python", "javascript", "typescript"]
  entryPoints : List String := []
  excludePaths : List String := []
  failOnUnavailable : Bool := true
deriving DecidableEq

/-- `AuditConfig.__post_init__`. -/
@[irreducible] def AuditFields.postInit (fields : AuditFields) : Except ConfigError AuditFields := do
  let languageAnalyzers := distinctNormalized fields.languageAnalyzers
  refuse (languageAnalyzers.contains "") "audit.language_analyzers entries must be non-empty."
  return { fields with languageAnalyzers }

/-- `AuditConfig`. -/
abbrev AuditConfig : Type := Built AuditFields.postInit

theorem settles_audit : Settles AuditFields.postInit := by
  intro fields record h
  have h' := h
  rw [AuditFields.postInit] at h'
  obtain ⟨-, -, h'⟩ := bind_eq_ok.mp h'
  rw [← h, ← pure_eq_ok.mp h']
  simp only [AuditFields.postInit, distinctNormalized_distinctNormalized]

/-! ## Verification, coordination and trust -/

/-- `VerificationConfig`. -/
structure VerificationConfig where
  allowedCommands : List String := defaultAllowedCommands
  allowUnlistedCommands : Bool := false
  inheritSecretEnvironment : Bool := false
deriving DecidableEq

/-- The fields of `CoordinationConfig`. -/
structure CoordinationFields where
  stateLockTimeoutSeconds : PyFloat := floatLiteral "5.0"
  executionLockTimeoutSeconds : PyFloat := floatLiteral "5.0"
  pollIntervalSeconds : PyFloat := floatLiteral "0.05"
deriving BEq

/-- `CoordinationConfig.__post_init__`. -/
@[irreducible] def CoordinationFields.postInit (fields : CoordinationFields) :
    Except ConfigError CoordinationFields := do
  refuse (isAtMostZero fields.stateLockTimeoutSeconds)
    "coordination.state_lock_timeout_seconds must be greater than zero."
  refuse (isAtMostZero fields.executionLockTimeoutSeconds)
    "coordination.execution_lock_timeout_seconds must be greater than zero."
  refuse (isAtMostZero fields.pollIntervalSeconds)
    "coordination.poll_interval_seconds must be greater than zero."
  return fields

/-- `CoordinationConfig`. -/
abbrev CoordinationConfig : Type := Built CoordinationFields.postInit

theorem settles_coordination : Settles CoordinationFields.postInit := by
  intro fields record h
  have h' := h
  rw [CoordinationFields.postInit] at h'
  obtain ⟨-, -, h'⟩ := bind_eq_ok.mp h'
  obtain ⟨-, -, h'⟩ := bind_eq_ok.mp h'
  obtain ⟨-, -, h'⟩ := bind_eq_ok.mp h'
  rw [← h, pure_eq_ok.mp h']

/-- `WorkerTrustLevel`. -/
inductive WorkerTrustLevel where
  | patchOnly
  | branchOnly
  | branchAndCommit
deriving DecidableEq

/-- The value of the enumeration. -/
def WorkerTrustLevel.text : WorkerTrustLevel → String
  | patchOnly => "patch_only"
  | branchOnly => "branch_only"
  | branchAndCommit => "branch_and_commit"

/-- `WorkerTrustLevel(value)`. -/
def WorkerTrustLevel.ofText? (text : String) : Option WorkerTrustLevel :=
  [patchOnly, branchOnly, branchAndCommit].find? fun level => level.text = text

/-- The message for a level that does not exist. -/
def unknownTrustLevel (text : String) : String :=
  "Unknown worker trust level '" ++ text ++
    "'. Allowed values: patch_only, branch_only, branch_and_commit"

/-- `parse_worker_trust_level` on a text. -/
def parseWorkerTrustLevel (text : String) : Except ConfigError WorkerTrustLevel :=
  match WorkerTrustLevel.ofText? text with
  | none => .error (.valueError (unknownTrustLevel text))
  | some .patchOnly => .ok .patchOnly
  | some level => .error (.valueError ("Worker trust level '" ++ level.text ++
      "' is not supported in this release. HoH grants the Worker no Git authority at all: it works " ++
      "in a disposable worktree and returns a patch. Use 'patch_only'."))

/-- Only the level that this release implements is read. -/
theorem parseWorkerTrustLevel_refused {level : WorkerTrustLevel} (h : level ≠ .patchOnly) :
    ∃ e, parseWorkerTrustLevel level.text = .error e := by
  cases level with
  | patchOnly => exact absurd rfl h
  | branchOnly => exact ⟨_, rfl⟩
  | branchAndCommit => exact ⟨_, rfl⟩

end LlmHarness.Config
