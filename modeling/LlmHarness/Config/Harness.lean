/-
  LlmHarness.Config.Harness

  `HarnessConfig`, its default agents, and the equality of configurations: a configuration equals
  itself exactly when none of its floats is NaN.
-/

import LlmHarness.Config.Roles
import LlmHarness.Config.Sections

namespace LlmHarness.Config

open Python Guards

/-! ## The configuration -/

section

variable [Runtime]

/-- `HarnessConfig`. -/
structure HarnessConfig where
  supervisorModel : CloudModelEndpoint
  verifierModel : CloudModelEndpoint
  runtime : RuntimeConfig
  telegram : TelegramConfig
  supervisor : SupervisorConfig
  worker : WorkerConfig
  critic : CriticConfig
  threeHead : ThreeHeadConfig
  scheduler : SchedulerConfig
  metrics : MetricsConfig
  audit : AuditConfig
  verification : VerificationConfig
  coordination : CoordinationConfig
  agents : List AgentConfig
  a2aAgents : List A2AAgentConfig
  localModels : List LocalModelEndpointTarget
  forbiddenPaths : List String
  requireTests : Bool
  workerTrustLevel : WorkerTrustLevel
deriving BEq

end

/-- The process profile of the default agent `aider`. -/
def aiderProfile : ProcessProfileFields where
  profileId := "aider"
  promptTransport := "file"
  promptArgument := some "--message-file"
  requiredArgs := ["--no-stream", "--yes", "--no-auto-commits", "--no-dirty-commits"]
  forbiddenArgs :=
    ["--stream", "--auto-commits", "--dirty-commits", "--commit", "--message", "--msg", "-m"]
  modelArgument := some "--model"

/-- The fields of the default agents. -/
def defaultAgentFields (aider : ProcessProfileConfig) : List AgentFields :=
  [{ name := "codex", command := "npx", args := ["-y", "@agentclientprotocol/codex-acp@1.7.0"]
     supervisorDriver := some "acp", workerDriver := "acp", criticDriver := some "acp" },
    { name := "claude", command := "claude", workerDriver := "claude_code"
      criticDriver := some "claude_code" },
    { name := "hermes", command := "hermes", args := ["acp"], supervisorDriver := some "acp"
      workerDriver := "hermes_acp" },
    { name := "openclaw", command := "openclaw", workerDriver := "openclaw" },
    { name := "aider", command := "aider", workerDriver := "process"
      workerProcessProfile := some aider }]

/-- `HarnessConfig().agents`. -/
def defaultAgents : Except ConfigError (List AgentConfig) := do
  let aider ← build ProcessProfileFields.postInit aiderProfile
  (defaultAgentFields aider).mapM (build AgentFields.postInit)

theorem defaultAgents_ne_nil {agents : List AgentConfig} (h : defaultAgents = .ok agents) :
    agents ≠ [] := by
  obtain ⟨aider, -, h⟩ := bind_eq_ok.mp h
  have hlength := (mapM_eq_ok.mp h).length_eq
  rintro rfl
  cases hlength

/-! ## Equality -/

theorem beq_self_list {α : Type} [BEq α] (items : List α) :
    (items == items) = items.all fun item => item == item := by
  induction items with
  | nil => rfl
  | cons item items ih => rw [List.cons_beq_cons, ih, List.all_cons]

theorem beq_self_option {α : Type} [BEq α] (value : Option α) :
    (value == value) = value.all fun item => item == item := by
  cases value <;> rfl

theorem cloudModel_beq_self (model : CloudModelEndpoint) :
    (model == model) = !isNan model.val.timeoutSeconds := by
  show instBEqCloudModelFields.beq model.val model.val = _
  cases model.val
  simp [instBEqCloudModelFields.beq]

theorem supervisor_beq_self [Runtime] (supervisor : SupervisorConfig) :
    (supervisor == supervisor) = !isNan supervisor.val.timeoutSeconds := by
  show instBEqSupervisorFields.beq supervisor.val supervisor.val = _
  cases supervisor.val
  simp [instBEqSupervisorFields.beq]

theorem worker_beq_self [Runtime] (worker : WorkerConfig) :
    (worker == worker) =
      (!isNan worker.val.timeoutSeconds && worker.val.maxBudgetUsd.all fun budget => !isNan budget) := by
  show instBEqWorkerFields.beq worker.val worker.val = _
  cases worker.val
  simp [instBEqWorkerFields.beq, beq_self_option]

theorem critic_beq_self [Runtime] (critic : CriticConfig) :
    (critic == critic) =
      (!isNan critic.val.timeoutSeconds && critic.val.maxBudgetUsd.all fun budget => !isNan budget) := by
  show instBEqCriticFields.beq critic.val critic.val = _
  cases critic.val
  simp [instBEqCriticFields.beq, beq_self_option]

theorem modelPrice_beq_self (price : ModelPriceConfig) :
    (price == price) = (!isNan price.val.inputPerMillion && !isNan price.val.outputPerMillion) := by
  show instBEqModelPriceFields.beq price.val price.val = _
  cases price.val
  simp [instBEqModelPriceFields.beq]

theorem metrics_beq_self (metrics : MetricsConfig) :
    (metrics == metrics) = metrics.val.prices.all fun price =>
      !isNan price.val.inputPerMillion && !isNan price.val.outputPerMillion := by
  show (metrics.val.prices == metrics.val.prices) = _
  rw [beq_self_list]
  exact congrArg _ (funext modelPrice_beq_self)

theorem coordination_beq_self (coordination : CoordinationConfig) :
    (coordination == coordination) = (!isNan coordination.val.stateLockTimeoutSeconds &&
      (!isNan coordination.val.executionLockTimeoutSeconds &&
        !isNan coordination.val.pollIntervalSeconds)) := by
  show instBEqCoordinationFields.beq coordination.val coordination.val = _
  cases coordination.val
  simp [instBEqCoordinationFields.beq]

theorem a2aAgent_beq_self [Runtime] (agent : A2AAgentConfig) :
    (agent == agent) =
      (!isNan agent.val.timeoutSeconds && !isNan agent.val.pollIntervalSeconds) := by
  show instBEqA2AAgentFields.beq agent.val agent.val = _
  cases agent.val
  simp [instBEqA2AAgentFields.beq]

section

variable [Runtime]

/-- The floats of a configuration. -/
def HarnessConfig.floats (config : HarnessConfig) : List PyFloat :=
  [config.supervisorModel.val.timeoutSeconds, config.verifierModel.val.timeoutSeconds,
    config.supervisor.val.timeoutSeconds, config.worker.val.timeoutSeconds,
    config.critic.val.timeoutSeconds] ++
  config.worker.val.maxBudgetUsd.toList ++ config.critic.val.maxBudgetUsd.toList ++
  (config.metrics.val.prices.flatMap fun price =>
    [price.val.inputPerMillion, price.val.outputPerMillion]) ++
  [config.coordination.val.stateLockTimeoutSeconds,
    config.coordination.val.executionLockTimeoutSeconds,
    config.coordination.val.pollIntervalSeconds] ++
  config.a2aAgents.flatMap fun agent => [agent.val.timeoutSeconds, agent.val.pollIntervalSeconds]

/-- No float of a configuration is NaN. -/
def HarnessConfig.NanFree (config : HarnessConfig) : Prop := ∀ float ∈ config.floats, isNan float = false

/-- The integers of a configuration. -/
def HarnessConfig.ints (config : HarnessConfig) : List Int :=
  [config.supervisorModel.val.maxRetries, config.supervisorModel.val.maxOutputTokens,
    config.verifierModel.val.maxRetries, config.verifierModel.val.maxOutputTokens,
    config.threeHead.val.maxAttempts, config.scheduler.val.maxParallelTasks]

/-- A configuration with the default heads and other agents. -/
def HarnessConfig.reread (config : HarnessConfig) (agents : List AgentConfig) : HarnessConfig :=
  { config with threeHead := withDefaultHeads config.threeHead, agents }

theorem nanFree_iff (config : HarnessConfig) : config.NanFree ↔
    (config.supervisorModel == config.supervisorModel) = true ∧
      (config.verifierModel == config.verifierModel) = true ∧
      (config.supervisor == config.supervisor) = true ∧ (config.worker == config.worker) = true ∧
      (config.critic == config.critic) = true ∧ (config.metrics == config.metrics) = true ∧
      (config.coordination == config.coordination) = true ∧
      (config.a2aAgents == config.a2aAgents) = true := by
  simp only [HarnessConfig.NanFree, HarnessConfig.floats, cloudModel_beq_self, supervisor_beq_self,
    worker_beq_self, critic_beq_self, metrics_beq_self, coordination_beq_self, beq_self_list,
    a2aAgent_beq_self]
  simp only [List.forall_mem_append, List.forall_mem_cons, List.forall_mem_flatMap,
    List.not_mem_nil, false_imp_iff, implies_true, and_true, List.all_eq_true, Option.mem_toList,
    Option.all_eq_true, Bool.and_eq_true, Bool.not_eq_true', and_assoc]
  tauto

/-- A configuration equals the one it is reread as when nothing was replaced and no float is
    NaN. -/
theorem reread_beq (config : HarnessConfig) (agents : List AgentConfig) :
    (config.reread agents == config) = true ↔
      HasDefaultHeads config.threeHead ∧ agents = config.agents ∧ config.NanFree := by
  rw [nanFree_iff, ← withDefaultHeads_eq_iff]
  show instBEqHarnessConfig.beq (config.reread agents) config = true ↔ _
  cases config
  simp only [HarnessConfig.reread, instBEqHarnessConfig.beq, Bool.and_eq_true, beq_self_eq_true,
    beq_iff_eq, true_and]
  tauto

end

end LlmHarness.Config
