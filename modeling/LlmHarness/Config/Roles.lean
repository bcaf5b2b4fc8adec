/-
  LlmHarness.Config.Roles

  The three local roles: the worker with its capabilities, the critic and the supervisor.  A
  worker that keeps the default command or the default capabilities under another driver gets the
  ones of that driver.
-/

import LlmHarness.Config.Agents
import LlmHarness.Config.Mcp

namespace LlmHarness.Config

open Python Guards

/-! ## The worker -/

/-- `WorkerCapabilitiesConfig`. -/
structure WorkerCapabilitiesConfig where
  taskTransport : String := "acp_stdio"
  artifactContract : String := "worktree_diff"
  requiresIsolatedWorktree : Bool := true
  supportsSubagents : Bool := false
deriving DecidableEq

/-- The capabilities of a driver. -/
def DriverManifest.capabilities (manifest : DriverManifest) : WorkerCapabilitiesConfig where
  taskTransport := manifest.taskTransport
  artifactContract := match manifest.artifactContract with
    | some contract => if contract = "" then "worktree_diff" else contract
    | none => "worktree_diff"
  requiresIsolatedWorktree := manifest.requiresIsolatedWorktree
  supportsSubagents := manifest.supportsSubagents

/-- `_default_worker_capabilities`. -/
def defaultWorkerCapabilities (workerType : String) :
    Except ConfigError WorkerCapabilitiesConfig := do
  let manifest ← resolveDriver workerType .worker
  return manifest.capabilities

/-- `driver or type`. -/
def driverOr (driver : Option String) (type : String) : String :=
  match driver with
  | none => type
  | some text => if text = "" then type else text

/-- `max_budget_usd is not None and max_budget_usd <= 0`. -/
def isBadBudget (budget : Option PyFloat) : Bool := budget.any isAtMostZero

/-- `value is not None and not value.strip()`. -/
def isBlankText (value : Option String) : Bool := value.any fun text => stripped text = ""

/-- The default command of a driver that replaces the one of the Hermes worker. -/
def replacedCommand? (driver : String) : Option String :=
  if driver = "claude_code" then some "claude"
  else if driver = "openclaw" then some "openclaw"
  else if driver = "stub" then some "stub"
  else none

/-- The command and the arguments that a worker is started with. -/
def workerInvocation (driver command : String) (args : List String) : String × List String :=
  match replacedCommand? driver with
  | some replaced => if command = "hermes" && args = ["acp"] then (replaced, []) else (command, args)
  | none => (command, args)

/-- The capabilities that a worker declares, or those of its driver. -/
def workerCapabilities (manifest : DriverManifest) (declared : WorkerCapabilitiesConfig) :
    WorkerCapabilitiesConfig :=
  if declared = {} && manifest.driverId ≠ "hermes_acp" then manifest.capabilities else declared

theorem workerCapabilities_again (manifest : DriverManifest) (declared : WorkerCapabilitiesConfig) :
    workerCapabilities manifest (workerCapabilities manifest declared) =
      workerCapabilities manifest declared := by
  rw [workerCapabilities.eq_def manifest (workerCapabilities manifest declared)]
  split
  · next h =>
    rw [Bool.and_eq_true, decide_eq_true_eq] at h
    rw [workerCapabilities]
    split
    · rfl
    · next hnot =>
      -- the declared capabilities were kept, so they are not the default ones
      have hkept : workerCapabilities manifest declared = declared := if_neg hnot
      rw [hkept] at h
      exact absurd (by simp only [h.1, h.2, decide_true, Bool.and_self]) hnot
  · rfl

theorem workerInvocation_again (driver command : String) (args : List String) :
    workerInvocation driver (workerInvocation driver command args).1
      (workerInvocation driver command args).2 = workerInvocation driver command args := by
  cases hreplaced : replacedCommand? driver with
  | none => simp only [workerInvocation, hreplaced]
  | some replaced =>
      simp only [workerInvocation, hreplaced]
      by_cases h : (command = "hermes" && args = ["acp"]) = true
      · rw [if_pos h]
        exact ite_self _
      · rw [if_neg h]
        exact if_neg h

theorem mapError_eq_ok {ε ε' α : Type} {f : ε → ε'} {x : Except ε α} {a : α} :
    x.mapError f = .ok a ↔ x = .ok a := by
  cases x <;> simp [Except.mapError]

section

variable [Runtime]

/-- The fields of `WorkerConfig`. -/
structure WorkerFields where
  type : String := "hermes_acp"
  driver : Option String := none
  command : String := "hermes"
  args : List String := ["acp"]
  environment : Environment := []
  timeoutSeconds : PyFloat := floatLiteral "300.0"
  model : Option String := none
  maxBudgetUsd : Option PyFloat := none
  thinking : Option String := none
  processProfile : Option ProcessProfileConfig := none
  capabilities : WorkerCapabilitiesConfig := {}
  mcp : RoleMcpPolicyConfig
deriving BEq

/-- Whether a model was set that the process profile has no argument for. -/
def WorkerFields.modelUnrouted (fields : WorkerFields) (driver : String) : Bool :=
  driver = "process" && fields.model.isSome &&
    fields.processProfile.any fun profile => profile.val.modelArgument.isNone

/-- The checks of `WorkerConfig.__post_init__`. -/
def WorkerFields.check (fields : WorkerFields) (driver : String) : Except ConfigError Unit := do
  refuse (isAtMostZero fields.timeoutSeconds) "worker.timeout_seconds must be greater than zero."
  refuse (isBlankText fields.model) "worker.model must be non-empty when provided."
  refuse (isBadBudget fields.maxBudgetUsd)
    "worker.max_budget_usd must be greater than zero when provided."
  refuse (isBlankText fields.thinking) "worker.thinking must be non-empty when provided."
  refuse (driver = "process" && fields.processProfile.isNone)
    "worker.driver='process' requires worker.process_profile."
  refuse (driver ≠ "process" && fields.processProfile.isSome)
    "worker.process_profile requires worker.driver='process'."
  validateProfiled fields.args fields.processProfile
  refuse (fields.modelUnrouted driver) "worker.model requires process_profile.model_argument."

/-- The record that `WorkerConfig.__post_init__` leaves for a driver. -/
def WorkerFields.settle (fields : WorkerFields) (manifest : DriverManifest) : WorkerFields :=
  { fields with
    type := manifest.driverId
    driver := some manifest.driverId
    command := (workerInvocation manifest.driverId fields.command fields.args).1
    args := (workerInvocation manifest.driverId fields.command fields.args).2
    capabilities := workerCapabilities manifest fields.capabilities }

/-- `WorkerConfig.__post_init__`. -/
def WorkerFields.postInit (fields : WorkerFields) : Except ConfigError WorkerFields := do
  let named := normalized (driverOr fields.driver fields.type)
  refuse (named = "") "worker.driver must be non-empty."
  let manifest ← resolveDriver named .worker
  fields.check manifest.driverId
  return fields.settle manifest

/-- `WorkerConfig`. -/
abbrev WorkerConfig : Type := Built WorkerFields.postInit

/-- The arguments of a worker with a process profile are kept. -/
theorem WorkerFields.check_settle {fields : WorkerFields} {manifest : DriverManifest}
    (h : fields.check manifest.driverId = .ok ()) :
    (fields.settle manifest).check manifest.driverId = .ok () := by
  have hprofiled : validateProfiled (fields.settle manifest).args fields.processProfile =
      validateProfiled fields.args fields.processProfile := by
    cases hprofile : fields.processProfile with
    | none => rfl
    | some profile =>
        have hprocess : manifest.driverId = "process" := by
          rw [check] at h
          obtain ⟨-, -, h⟩ := bind_eq_ok.mp h
          obtain ⟨-, -, h⟩ := bind_eq_ok.mp h
          obtain ⟨-, -, h⟩ := bind_eq_ok.mp h
          obtain ⟨-, -, h⟩ := bind_eq_ok.mp h
          obtain ⟨-, -, h⟩ := bind_eq_ok.mp h
          obtain ⟨_, hspare, -⟩ := bind_eq_ok.mp h
          have hcond := refuse_eq_ok.mp hspare
          rw [hprofile, Option.isSome_some, Bool.and_true, decide_eq_false_iff_not, not_not] at hcond
          exact hcond
        rw [settle, hprocess]
        rfl
  rw [← h, check, check]
  exact congrArg _ rfl |>.trans (by rw [show (fields.settle manifest).processProfile =
    fields.processProfile from rfl, hprofiled]; rfl)

/-- A worker is built again from its own fields, whatever `type` says beside its driver. -/
theorem worker_again {fields record : WorkerFields} (h : WorkerFields.postInit fields = .ok record)
    (type : String) : WorkerFields.postInit { record with type } = .ok record := by
  obtain ⟨-, -, h⟩ := bind_eq_ok.mp h
  obtain ⟨manifest, hmanifest, h⟩ := bind_eq_ok.mp h
  obtain ⟨_, hcheck, h⟩ := bind_eq_ok.mp h
  obtain ⟨hne, hnormal⟩ := resolveDriver_word hmanifest
  have hnamed : normalized (driverOr (some manifest.driverId) type) = manifest.driverId := by
    rw [driverOr, if_neg hne, hnormal]
  rw [← pure_eq_ok.mp h]
  refine bind_eq_ok.mpr ⟨(), refuse_eq_ok.mpr ?_, bind_eq_ok.mpr ⟨manifest, ?_, ?_⟩⟩
  · exact hnamed ▸ decide_eq_false hne
  · exact hnamed ▸ resolveDriver_again hmanifest
  · refine bind_eq_ok.mpr ⟨(), WorkerFields.check_settle hcheck, pure_eq_ok.mpr ?_⟩
    have hinvocation := workerInvocation_again manifest.driverId fields.command fields.args
    simp only [WorkerFields.settle, hinvocation, workerCapabilities_again]

/-- The driver of a worker is one of the registry, and its type is the same. -/
theorem worker_resolved (worker : WorkerConfig) : ∃ manifest,
    resolveDriver manifest.driverId .worker = .ok manifest ∧
      worker.val.driver = some manifest.driverId ∧ worker.val.type = manifest.driverId := by
  obtain ⟨fields, h⟩ := worker.returned
  obtain ⟨-, -, h⟩ := bind_eq_ok.mp h
  obtain ⟨manifest, hmanifest, h⟩ := bind_eq_ok.mp h
  obtain ⟨-, -, h⟩ := bind_eq_ok.mp h
  rw [← pure_eq_ok.mp h]
  exact ⟨manifest, resolveDriver_again hmanifest, rfl, rfl⟩

/-! ## The critic -/

/-- The fields of `CriticConfig`. -/
structure CriticFields where
  type : String := "manual"
  driver : Option String := none
  command : String := "claude"
  args : List String := []
  environment : Environment := []
  timeoutSeconds : PyFloat := floatLiteral "300.0"
  maxBudgetUsd : Option PyFloat := none
  mcp : RoleMcpPolicyConfig
deriving BEq

/-- `str(exc).replace("critic driver", "critic.type")`. -/
def criticType : ConfigError → ConfigError
  | .valueError message => .valueError (message.replace "critic driver" "critic.type")
  | e => e

/-- `CriticConfig.__post_init__`. -/
def CriticFields.postInit (fields : CriticFields) : Except ConfigError CriticFields := do
  let named := normalized (driverOr fields.driver fields.type)
  let manifest ← (resolveDriver named .critic).mapError criticType
  refuse (manifest.driverId ≠ "model_json" && stripped fields.command = "")
    "critic.command must be non-empty."
  refuse (isAtMostZero fields.timeoutSeconds) "critic.timeout_seconds must be greater than zero."
  refuse (isBadBudget fields.maxBudgetUsd)
    "critic.max_budget_usd must be greater than zero when provided."
  return { fields with driver := some manifest.driverId, type := manifest.driverId }

/-- `CriticConfig`. -/
abbrev CriticConfig : Type := Built CriticFields.postInit

/-- A critic is built again from its own fields, whatever `type` says beside its driver. -/
theorem critic_again {fields record : CriticFields} (h : CriticFields.postInit fields = .ok record)
    (type : String) : CriticFields.postInit { record with type } = .ok record := by
  rw [CriticFields.postInit] at h
  obtain ⟨manifest, hmapped, h⟩ := bind_eq_ok.mp h
  obtain ⟨_, hcommand, h⟩ := bind_eq_ok.mp h
  obtain ⟨_, htimeout, h⟩ := bind_eq_ok.mp h
  obtain ⟨_, hbudget, h⟩ := bind_eq_ok.mp h
  have hmanifest := mapError_eq_ok.mp hmapped
  obtain ⟨hne, hnormal⟩ := resolveDriver_word hmanifest
  have hnamed : normalized (driverOr (some manifest.driverId) type) = manifest.driverId := by
    rw [driverOr, if_neg hne, hnormal]
  rw [← pure_eq_ok.mp h, CriticFields.postInit]
  refine bind_eq_ok.mpr ⟨manifest, mapError_eq_ok.mpr ?_, ?_⟩
  · show resolveDriver (normalized (driverOr (some manifest.driverId) type)) .critic = .ok manifest
    rw [hnamed]
    exact resolveDriver_again hmanifest
  · refine bind_eq_ok.mpr ⟨_, hcommand, bind_eq_ok.mpr ⟨_, htimeout, ?_⟩⟩
    exact bind_eq_ok.mpr ⟨_, hbudget, rfl⟩

/-- The driver of a critic is one of the registry, and its type is the same. -/
theorem critic_resolved (critic : CriticConfig) : ∃ manifest,
    resolveDriver manifest.driverId .critic = .ok manifest ∧
      critic.val.driver = some manifest.driverId ∧ critic.val.type = manifest.driverId := by
  obtain ⟨fields, h⟩ := critic.returned
  obtain ⟨manifest, hmapped, h⟩ := bind_eq_ok.mp h
  obtain ⟨-, -, h⟩ := bind_eq_ok.mp h
  obtain ⟨-, -, h⟩ := bind_eq_ok.mp h
  obtain ⟨-, -, h⟩ := bind_eq_ok.mp h
  rw [← pure_eq_ok.mp h]
  exact ⟨manifest, resolveDriver_again (mapError_eq_ok.mp hmapped), rfl, rfl⟩

/-! ## The supervisor -/

/-- The fields of `SupervisorConfig`. -/
structure SupervisorFields where
  driver : String := "model_json"
  command : String := ""
  args : List String := []
  environment : Environment := []
  timeoutSeconds : PyFloat := floatLiteral "300.0"
  model : Option String := none
  mcp : RoleMcpPolicyConfig
deriving BEq

/-- `SupervisorConfig.__post_init__`. -/
def SupervisorFields.postInit (fields : SupervisorFields) :
    Except ConfigError SupervisorFields := do
  let manifest ← resolveDriver fields.driver .supervisor
  refuse (manifest.driverId ≠ "model_json" && stripped fields.command = "")
    "supervisor.command must be non-empty for process drivers."
  refuse (isAtMostZero fields.timeoutSeconds) "supervisor.timeout_seconds must be greater than zero."
  refuse (isBlankText fields.model) "supervisor.model must be non-empty when provided."
  return { fields with driver := manifest.driverId }

/-- `SupervisorConfig`. -/
abbrev SupervisorConfig : Type := Built SupervisorFields.postInit

theorem settles_supervisor : Settles SupervisorFields.postInit := by
  intro fields record h
  rw [SupervisorFields.postInit] at h
  obtain ⟨manifest, hmanifest, h⟩ := bind_eq_ok.mp h
  obtain ⟨_, hcommand, h⟩ := bind_eq_ok.mp h
  obtain ⟨_, htimeout, h⟩ := bind_eq_ok.mp h
  obtain ⟨_, hmodel, h⟩ := bind_eq_ok.mp h
  rw [← pure_eq_ok.mp h, SupervisorFields.postInit]
  refine bind_eq_ok.mpr ⟨manifest, resolveDriver_again hmanifest, ?_⟩
  refine bind_eq_ok.mpr ⟨_, hcommand, bind_eq_ok.mpr ⟨_, htimeout, ?_⟩⟩
  exact bind_eq_ok.mpr ⟨_, hmodel, rfl⟩

-- a record type mentions these, and is not to look into them
attribute [irreducible] WorkerFields.postInit CriticFields.postInit SupervisorFields.postInit

end

end LlmHarness.Config
