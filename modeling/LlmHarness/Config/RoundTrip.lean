/-
  LlmHarness.Config.RoundTrip

  A configuration that is written and loaded again.  Each section comes back as it was, except
  that the loader of the three heads looks for them under `roles`, where they were not written, and
  that an empty list of agents is read as the default one.
-/

import LlmHarness.Config.Load
import LlmHarness.Python.JsonQuotes

namespace LlmHarness.Config

open Python Guards

/-! ## Values read back -/

section

variable {data : List (String × Json)} {name : String}

theorem stringsOr_ok {texts default : List String}
    (h : dictGet? data name = some (textList texts)) : stringsOr data name default = .ok texts := by
  rw [stringsOr, getOr, h]
  refine bind_eq_ok.mpr ⟨texts.map Json.str, rfl, pure_eq_ok.mpr ?_⟩
  rw [List.map_map]
  exact List.map_id texts

theorem optionalConfigString_ok {value : Option String} (h : dictGet? data name = some (textJson value)) :
    optionalConfigString data name = value := by
  rw [optionalConfigString, field, h]
  cases value <;> rfl

theorem declaredText_ok {value : Option String} (h : dictGet? data name = some (textJson value)) :
    declaredText data name = .ok value := by
  rw [declaredText, field, h]
  cases value <;> rfl

/-- A value that may be `None` is read back when the value is. -/
theorem optionalValue_ok {α : Type} (json : α → Json) {load : Json → Except ConfigError α}
    (hload : ∀ a, load (json a) = .ok a) (hnull : ∀ a, json a ≠ .null) {value : Option α}
    (h : dictGet? data name = some (optionJson json value)) :
    optionalValue load (field data name) = .ok value := by
  rw [field, h, Option.getD_some]
  cases value with
  | none => rfl
  | some a =>
      have hsome : optionalValue load (json a) = (load (json a)).map some := by
        cases hjson : json a with
        | null => exact absurd hjson (hnull a)
        | _ => rfl
      rw [optionJson, hsome, hload]
      rfl

end

/-- A list written item by item is read back item by item. -/
theorem mapM_loaded {α : Type} {json : α → Json} {load : Json → Except ConfigError α}
    {items : List α} (h : ∀ a ∈ items, load (json a) = .ok a) :
    (items.map json).mapM load = .ok items := by
  rw [mapM_eq_ok, List.forall₂_map_left_iff, List.forall₂_same]
  exact h

theorem declaredTexts_ok (texts : List String) : declaredTexts (texts.map Json.str) = .ok texts :=
  mapM_loaded fun _ _ => rfl

/-- Dicts pass the check of a list of dicts. -/
theorem objects_map {α : Type} {json : α → List (String × Json)} (notList notObject : String)
    (items : List α) : objects notList notObject (.arr (items.map fun a => .obj (json a))) =
      .ok (items.map fun a => .obj (json a)) := by
  have hall : (items.map fun a => Json.obj (json a)).all isDict = true := by
    refine List.all_eq_true.mpr fun item hitem => ?_
    obtain ⟨a, -, rfl⟩ := List.mem_map.mp hitem
    rfl
  rw [objects, if_pos hall]

/-! ## Environments -/

/-- An environment is sorted by distinct names. -/
def SortedByName (environment : Environment) : Prop := environment.Pairwise fun a b => a.1 < b.1

instance (environment : Environment) : Decidable (SortedByName environment) :=
  inferInstanceAs (Decidable (environment.Pairwise fun a b => a.1 < b.1))

theorem loadEnvironment_environmentToJson {environment : Environment} (h : SortedByName environment) :
    loadEnvironment (environmentToJson environment) = .ok environment := by
  have hnodup : (environment.map Prod.fst).Nodup := by
    rw [List.nodup_iff_pairwise_ne, List.pairwise_map]
    exact h.imp fun hlt => ne_of_lt hlt
  have hsorted : environment.insertionSort pairLe = environment :=
    (h.imp fun hlt => Or.inl hlt : environment.Pairwise pairLe).insertionSort_eq
  rw [environmentToJson, dictOfPairs_of_nodup _ hnodup]
  refine bind_eq_ok.mpr ⟨environment, ?_, pure_eq_ok.mpr hsorted⟩
  have hpairs := mapM_map_ok (fun pair : String × String => (pair.1, Json.str pair.2)) environmentPair id
    (fun _ => rfl) environment
  rwa [List.map_id] at hpairs

/-! ## Sections read back -/

theorem telegram_loaded (telegram : TelegramConfig) :
    loadTelegram (telegramToJson telegram) = .ok telegram := by
  refine bind_eq_ok.mpr ⟨_, rfl, bind_eq_ok.mpr ⟨_, declaredText_ok rfl, ?_⟩⟩
  exact bind_eq_ok.mpr ⟨_, declaredText_ok rfl, bind_eq_ok.mpr ⟨_, declaredText_ok rfl, rfl⟩⟩

/-- The heads are not read back: they were written beside the mode. -/
theorem threeHead_loaded (threeHead : ThreeHeadConfig) :
    loadThreeHead (threeHeadToJson threeHead) = .ok (withDefaultHeads threeHead) := by
  refine bind_eq_ok.mpr ⟨_, rfl, bind_eq_ok.mpr ⟨[], rfl, bind_eq_ok.mpr ⟨_, rfl, ?_⟩⟩⟩
  refine bind_eq_ok.mpr ⟨defaultLogic, rfl, bind_eq_ok.mpr ⟨defaultWorkerHead, rfl, ?_⟩⟩
  refine bind_eq_ok.mpr ⟨defaultCriticHead, rfl, ?_⟩
  obtain ⟨fields, h⟩ := threeHead.returned
  exact build_eq_ok (threeHead_defaultHeads h)

theorem scheduler_loaded (scheduler : SchedulerConfig) :
    loadScheduler (schedulerToJson scheduler) = .ok scheduler := by
  refine bind_eq_ok.mpr ⟨_, rfl, bind_eq_ok.mpr ⟨_, rfl, ?_⟩⟩
  exact settles_scheduler.build_val scheduler

theorem audit_loaded (audit : AuditConfig) : loadAudit (auditToJson audit) = .ok audit := by
  refine bind_eq_ok.mpr ⟨_, rfl, bind_eq_ok.mpr ⟨_, stringsOr_ok rfl, ?_⟩⟩
  refine bind_eq_ok.mpr ⟨_, stringsOr_ok rfl, bind_eq_ok.mpr ⟨_, stringsOr_ok rfl, ?_⟩⟩
  exact settles_audit.build_val audit

theorem verification_loaded (verification : VerificationConfig) :
    loadVerification (verificationToJson verification) = .ok verification := by
  refine bind_eq_ok.mpr ⟨_, rfl, bind_eq_ok.mpr ⟨_, stringsOr_ok rfl, rfl⟩⟩

/-- The type of a target is not read, so it is the default one. -/
theorem localModel_loaded {target : LocalModelEndpointTarget}
    (h : target.targetType = .localModelEndpoint) :
    loadLocalModel (localModelToJson target) = .ok target := by
  refine bind_eq_ok.mpr ⟨_, rfl, bind_eq_ok.mpr ⟨_, rfl, bind_eq_ok.mpr ⟨_, rfl, ?_⟩⟩⟩
  refine bind_eq_ok.mpr ⟨_, rfl, pure_eq_ok.mpr ?_⟩
  cases target
  cases h
  rfl

/-! ## Agents read back -/

theorem processProfile_loaded (label : String) (profile : ProcessProfileConfig) :
    loadProcessProfile label (processProfileToJson profile) = .ok profile := by
  refine bind_eq_ok.mpr ⟨_, rfl, bind_eq_ok.mpr ⟨_, stringsOr_ok rfl, ?_⟩⟩
  refine bind_eq_ok.mpr ⟨_, stringsOr_ok rfl, bind_eq_ok.mpr ⟨_, stringsOr_ok rfl, ?_⟩⟩
  rw [optionalConfigString_ok rfl, optionalConfigString_ok rfl]
  exact settles_processProfile.build_val profile

theorem agent_loaded {agent : AgentConfig} (h : SortedByName agent.val.environment) :
    loadAgent (agentToJson agent) = .ok agent := by
  have hprofile := processProfile_loaded "agent.worker_process_profile"
  refine bind_eq_ok.mpr ⟨_, rfl, bind_eq_ok.mpr ⟨_, rfl, bind_eq_ok.mpr ⟨_, rfl, ?_⟩⟩⟩
  refine bind_eq_ok.mpr ⟨_, stringsOr_ok rfl, ?_⟩
  refine bind_eq_ok.mpr ⟨_, loadEnvironment_environmentToJson h, ?_⟩
  refine bind_eq_ok.mpr ⟨_, optionalValue_ok processProfileToJson hprofile (fun _ h => by cases h) rfl, ?_⟩
  rw [optionalConfigString_ok rfl, optionalConfigString_ok rfl]
  exact settles_agent.build_val agent

theorem secretBindings_loaded (label : String) (bindings : List SecretBinding) :
    loadSecretBindings label (.arr (bindings.map secretBindingToJson)) = .ok bindings := by
  refine bind_eq_ok.mpr ⟨_, objects_map _ _ bindings, ?_⟩
  refine mapM_loaded fun binding _ => ?_
  refine bind_eq_ok.mpr ⟨_, rfl, bind_eq_ok.mpr ⟨_, rfl, bind_eq_ok.mpr ⟨_, rfl, ?_⟩⟩⟩
  exact settles_secretBinding.build_val binding

/-- Only the level that this release implements is read. -/
theorem patchOnly_of_loadTrustLevel {level parsed : WorkerTrustLevel}
    (h : loadTrustLevel (.str level.text) = .ok parsed) : level = .patchOnly := by
  by_contra hlevel
  obtain ⟨e, he⟩ := parseWorkerTrustLevel_refused hlevel
  rw [loadTrustLevel, he] at h
  cases h

theorem driverValue_ok {data : List (String × Json)} {role : DriverRole} {default : String}
    {manifest : DriverManifest} (hmanifest : resolveDriver manifest.driverId role = .ok manifest)
    (hdriver : dictGet? data "driver" = some (textJson (some manifest.driverId)))
    (htype : dictGet? data "type" = some (textJson (some manifest.driverId))) :
    driverValue data role default = .ok manifest.driverId := by
  rw [driverValue, optionalConfigString_ok hdriver, optionalConfigString_ok htype]
  refine bind_eq_ok.mpr ⟨manifest, hmanifest, bind_eq_ok.mpr ⟨manifest, hmanifest, ?_⟩⟩
  refine bind_eq_ok.mpr ⟨(), refuse_eq_ok.mpr ?_, rfl⟩
  exact decide_eq_false (not_not.mpr rfl)

theorem workerCapabilities_loaded {manifest : DriverManifest}
    (hmanifest : resolveDriver manifest.driverId .worker = .ok manifest)
    (capabilities : WorkerCapabilitiesConfig) :
    loadWorkerCapabilities (workerCapabilitiesToJson capabilities) manifest.driverId =
      .ok capabilities := by
  refine bind_eq_ok.mpr ⟨manifest.capabilities, bind_eq_ok.mpr ⟨manifest, hmanifest, rfl⟩, ?_⟩
  exact bind_eq_ok.mpr ⟨_, rfl, rfl⟩

section

variable [Runtime]

theorem model_loaded (model : CloudModelEndpoint) (default : String) :
    loadModel (cloudModelToJson model) default = .ok model := by
  refine bind_eq_ok.mpr ⟨_, rfl, bind_eq_ok.mpr ⟨_, rfl, bind_eq_ok.mpr ⟨_, rfl, ?_⟩⟩⟩
  refine bind_eq_ok.mpr ⟨_, declaredText_ok rfl, bind_eq_ok.mpr ⟨_, declaredText_ok rfl, ?_⟩⟩
  refine bind_eq_ok.mpr ⟨_, rfl, bind_eq_ok.mpr ⟨_, rfl, bind_eq_ok.mpr ⟨_, rfl, ?_⟩⟩⟩
  exact settles_cloudModel.build_val model

theorem runtime_loaded (runtime : RuntimeConfig) : loadRuntime (runtimeToJson runtime) = .ok runtime :=
  rfl

theorem modelPrice_loaded (price : ModelPriceConfig) :
    loadModelPrice (modelPriceToJson price) = .ok price := by
  refine bind_eq_ok.mpr ⟨_, rfl, bind_eq_ok.mpr ⟨_, rfl, bind_eq_ok.mpr ⟨_, rfl, ?_⟩⟩⟩
  refine bind_eq_ok.mpr ⟨_, rfl, bind_eq_ok.mpr ⟨_, rfl, ?_⟩⟩
  exact settles_modelPrice.build_val price

theorem metrics_loaded (metrics : MetricsConfig) : loadMetrics (metricsToJson metrics) = .ok metrics := by
  refine bind_eq_ok.mpr ⟨_, rfl, bind_eq_ok.mpr ⟨_, objects_map _ _ metrics.val.prices, ?_⟩⟩
  refine bind_eq_ok.mpr ⟨_, mapM_loaded fun price _ => modelPrice_loaded price, ?_⟩
  exact settles_metrics.build_val metrics

theorem coordination_loaded (coordination : CoordinationConfig) :
    loadCoordination (coordinationToJson coordination) = .ok coordination := by
  refine bind_eq_ok.mpr ⟨_, rfl, bind_eq_ok.mpr ⟨_, rfl, bind_eq_ok.mpr ⟨_, rfl, ?_⟩⟩⟩
  exact bind_eq_ok.mpr ⟨_, rfl, settles_coordination.build_val coordination⟩

theorem a2aAgent_loaded (agent : A2AAgentConfig) : loadA2AAgent (a2aAgentToJson agent) = .ok agent := by
  refine bind_eq_ok.mpr ⟨_, rfl, bind_eq_ok.mpr ⟨_, rfl, bind_eq_ok.mpr ⟨_, rfl, ?_⟩⟩⟩
  refine bind_eq_ok.mpr ⟨_, stringsOr_ok rfl, bind_eq_ok.mpr ⟨_, stringsOr_ok rfl, ?_⟩⟩
  refine bind_eq_ok.mpr ⟨_, rfl, bind_eq_ok.mpr ⟨_, rfl, ?_⟩⟩
  rw [optionalConfigString_ok rfl, optionalConfigString_ok rfl, optionalConfigString_ok rfl,
    optionalConfigString_ok rfl, optionalConfigString_ok rfl, optionalConfigString_ok rfl,
    optionalConfigString_ok rfl, optionalConfigString_ok rfl, optionalConfigString_ok rfl]
  exact settles_a2aAgent.build_val agent

/-! ## Roles read back -/

theorem mcpServer_loaded (server : McpServerConfig) :
    loadMcpServer (mcpServerToJson server) = .ok server := by
  refine bind_eq_ok.mpr ⟨_, rfl, bind_eq_ok.mpr ⟨_, rfl, bind_eq_ok.mpr ⟨_, stringsOr_ok rfl, ?_⟩⟩⟩
  refine bind_eq_ok.mpr ⟨_, secretBindings_loaded _ server.val.environment, ?_⟩
  refine bind_eq_ok.mpr ⟨_, secretBindings_loaded _ server.val.headers, ?_⟩
  rw [optionalConfigString_ok rfl, optionalConfigString_ok rfl]
  exact settles_mcpServer.build_val server

theorem mcpPolicy_loaded (policy : RoleMcpPolicyConfig) (default : RoleMcpPolicyFields) :
    loadMcpPolicy (mcpPolicyToJson policy) default = .ok policy := by
  refine bind_eq_ok.mpr ⟨_, rfl, bind_eq_ok.mpr ⟨_, objects_map _ _ policy.val.servers, ?_⟩⟩
  refine bind_eq_ok.mpr ⟨_, stringsOr_ok rfl, ?_⟩
  refine bind_eq_ok.mpr ⟨_, mapM_loaded fun server _ => mcpServer_loaded server, ?_⟩
  exact settles_roleMcpPolicy.build_val policy

theorem worker_loaded {worker : WorkerConfig} (h : SortedByName worker.val.environment) :
    loadWorker (workerToJson worker) = .ok worker := by
  obtain ⟨manifest, hmanifest, hdriver, htype⟩ := worker_resolved worker
  have hprofile := processProfile_loaded "worker.process_profile"
  refine bind_eq_ok.mpr ⟨_, rfl, bind_eq_ok.mpr ⟨manifest.driverId, ?_, ?_⟩⟩
  · refine driverValue_ok hmanifest (congrArg (fun text => some (textJson text)) hdriver) ?_
    exact congrArg (fun text => some (Json.str text)) htype
  · refine bind_eq_ok.mpr ⟨_, stringsOr_ok rfl, ?_⟩
    refine bind_eq_ok.mpr ⟨_, loadEnvironment_environmentToJson h, bind_eq_ok.mpr ⟨_, rfl, ?_⟩⟩
    refine bind_eq_ok.mpr ⟨_, optionalValue_ok Json.float (fun _ => rfl) (fun _ h => by cases h) rfl, ?_⟩
    refine bind_eq_ok.mpr ⟨_, optionalValue_ok processProfileToJson hprofile (fun _ h => by cases h) rfl, ?_⟩
    refine bind_eq_ok.mpr ⟨_, workerCapabilities_loaded hmanifest worker.val.capabilities, ?_⟩
    refine bind_eq_ok.mpr ⟨_, mcpPolicy_loaded worker.val.mcp workerMcpPolicy, ?_⟩
    rw [optionalConfigString_ok rfl, optionalConfigString_ok rfl, ← hdriver]
    obtain ⟨fields, hfields⟩ := worker.returned
    exact build_eq_ok (worker_again hfields "hermes_acp")

theorem critic_loaded {critic : CriticConfig} (h : SortedByName critic.val.environment) :
    loadCritic (criticToJson critic) = .ok critic := by
  obtain ⟨manifest, hmanifest, hdriver, htype⟩ := critic_resolved critic
  refine bind_eq_ok.mpr ⟨_, rfl, bind_eq_ok.mpr ⟨manifest.driverId, ?_, ?_⟩⟩
  · refine driverValue_ok hmanifest (congrArg (fun text => some (textJson text)) hdriver) ?_
    exact congrArg (fun text => some (Json.str text)) htype
  · refine bind_eq_ok.mpr ⟨_, stringsOr_ok rfl, ?_⟩
    refine bind_eq_ok.mpr ⟨_, loadEnvironment_environmentToJson h, bind_eq_ok.mpr ⟨_, rfl, ?_⟩⟩
    refine bind_eq_ok.mpr ⟨_, optionalValue_ok Json.float (fun _ => rfl) (fun _ h => by cases h) rfl, ?_⟩
    refine bind_eq_ok.mpr ⟨_, mcpPolicy_loaded critic.val.mcp {}, ?_⟩
    rw [← hdriver]
    obtain ⟨fields, hfields⟩ := critic.returned
    exact build_eq_ok (critic_again hfields "manual")

theorem supervisor_loaded {supervisor : SupervisorConfig}
    (h : SortedByName supervisor.val.environment) :
    loadSupervisor (supervisorToJson supervisor) = .ok supervisor := by
  refine bind_eq_ok.mpr ⟨_, rfl, bind_eq_ok.mpr ⟨_, stringsOr_ok rfl, ?_⟩⟩
  refine bind_eq_ok.mpr ⟨_, loadEnvironment_environmentToJson h, bind_eq_ok.mpr ⟨_, rfl, ?_⟩⟩
  refine bind_eq_ok.mpr ⟨_, mcpPolicy_loaded supervisor.val.mcp {}, ?_⟩
  rw [optionalConfigString_ok rfl]
  exact settles_supervisor.build_val supervisor

/-! ## The document -/

/-- The environments of a configuration are sorted by distinct names. -/
structure HarnessConfig.EnvironmentsSorted (config : HarnessConfig) : Prop where
  supervisor : SortedByName config.supervisor.val.environment
  worker : SortedByName config.worker.val.environment
  critic : SortedByName config.critic.val.environment
  agents : ∀ agent ∈ config.agents, SortedByName agent.val.environment

/-- The local model targets of a configuration are of the default target type. -/
def HarnessConfig.DefaultTargets (config : HarnessConfig) : Prop :=
  ∀ target ∈ config.localModels, target.targetType = .localModelEndpoint

variable {config : HarnessConfig}

/-- What a payload is read as: the configuration with the default heads, and with the default
    agents when it has none. -/
theorem configOfDocument_ok (hsorted : config.EnvironmentsSorted) (htargets : config.DefaultTargets)
    (htrust : config.workerTrustLevel = .patchOnly) {agents : List AgentConfig}
    (hagents : agentsOrDefault config.agents = .ok agents) :
    configOfDocument (configPayload config) = .ok (config.reread agents) := by
  refine bind_eq_ok.mpr ⟨_, rfl, bind_eq_ok.mpr ⟨_, model_loaded config.supervisorModel _, ?_⟩⟩
  -- One step for each section, in the order the loader reads them.
  refine bind_eq_ok.mpr ⟨_, model_loaded config.verifierModel _, ?_⟩
  refine bind_eq_ok.mpr ⟨_, runtime_loaded config.runtime, ?_⟩
  refine bind_eq_ok.mpr ⟨_, telegram_loaded config.telegram, ?_⟩
  refine bind_eq_ok.mpr ⟨_, supervisor_loaded hsorted.supervisor, ?_⟩
  refine bind_eq_ok.mpr ⟨_, worker_loaded hsorted.worker, ?_⟩
  refine bind_eq_ok.mpr ⟨_, critic_loaded hsorted.critic, ?_⟩
  refine bind_eq_ok.mpr ⟨_, threeHead_loaded config.threeHead, ?_⟩
  refine bind_eq_ok.mpr ⟨_, scheduler_loaded config.scheduler, ?_⟩
  refine bind_eq_ok.mpr ⟨_, metrics_loaded config.metrics, ?_⟩
  refine bind_eq_ok.mpr ⟨_, audit_loaded config.audit, ?_⟩
  refine bind_eq_ok.mpr ⟨_, verification_loaded config.verification, ?_⟩
  refine bind_eq_ok.mpr ⟨_, coordination_loaded config.coordination, bind_eq_ok.mpr ⟨_, rfl, ?_⟩⟩
  refine bind_eq_ok.mpr ⟨_, mapM_loaded fun agent h => agent_loaded (hsorted.agents agent h), ?_⟩
  refine bind_eq_ok.mpr ⟨agents, hagents, bind_eq_ok.mpr ⟨_, rfl, ?_⟩⟩
  refine bind_eq_ok.mpr ⟨_, mapM_loaded fun agent _ => a2aAgent_loaded agent, ?_⟩
  refine bind_eq_ok.mpr ⟨_, rfl, ?_⟩
  refine bind_eq_ok.mpr ⟨_, mapM_loaded fun target h => localModel_loaded (htargets target h), ?_⟩
  refine bind_eq_ok.mpr ⟨_, rfl, bind_eq_ok.mpr ⟨_, declaredTexts_ok config.forbiddenPaths, ?_⟩⟩
  refine bind_eq_ok.mpr ⟨.patchOnly, ?_, pure_eq_ok.mpr ?_⟩
  -- The trust level is the one that `patch_only` is written for.
  · show loadTrustLevel (.str config.workerTrustLevel.text) = .ok .patchOnly
    rw [htrust]
    rfl
  · rw [HarnessConfig.reread, htrust]
    rfl

/-- A payload that is read at all has the implemented trust level, and agents or default ones. -/
theorem configOfDocument_inv (hsorted : config.EnvironmentsSorted) {loaded : HarnessConfig}
    (h : configOfDocument (configPayload config) = .ok loaded) :
    config.workerTrustLevel = .patchOnly ∧ ∃ agents, agentsOrDefault config.agents = .ok agents := by
  simp only [configOfDocument, bind_eq_ok] at h
  -- the thirteen sections, the agents, the lists after them, the level
  obtain ⟨data, hdata, _, -, _, -, _, -, _, -, _, -, _, -, _, -, _, -, _, -, _, -, _, -, _, -, _, -,
    items, hitems, declared, hdeclared, agents, hagents, _, -, _, -, _, -, _, -, _, -, _, -,
    level, hlevel, -⟩ := h
  cases hdata
  cases hitems
  have hread := mapM_loaded fun agent h => agent_loaded (hsorted.agents agent h)
  cases hdeclared.symm.trans hread
  exact ⟨patchOnly_of_loadTrustLevel hlevel, agents, hagents⟩

end

end LlmHarness.Config
