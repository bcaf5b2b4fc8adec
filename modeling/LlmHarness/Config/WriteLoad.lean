/-
  LlmHarness.Config.WriteLoad

  `write_config` and `load_config` of one file.  The text that was written is read as the payload,
  so a configuration makes the round trip exactly when nothing of it is replaced on the way and
  its integers can be printed.
-/

import LlmHarness.Config.RoundTrip

namespace LlmHarness.Config

open Python Guards

/-! ## The name of the file -/

/-- The extension is `.json`, in letters of either case. -/
def IsJsonFile (name : Text) : Prop :=
  Lifecycle.lowerName (Lifecycle.suffixOf name) = ".json".toList

/-- A character of the extension, and the folding of what is lowered to it. -/
theorem casefoldChar_of_lower {c d : Char} (hd : d ∈ ".json".toList)
    (h : (if c = '\u212A' then 'k' else c.toLower) = d) : casefoldChar c = [d] := by
  have hcapitals : ∀ n : Fin 26, casefoldChar (Char.ofNat (65 + n)) = [(Char.ofNat (65 + n)).toLower] := by
    decide +kernel
  have hsmall : ∀ d ∈ ".json".toList, casefoldChar d = [d] ∧ d ≠ 'k' := by decide +kernel
  have hlower : c.toLower = d := by
    by_cases hkelvin : c = '\u212A'
    · rw [if_pos hkelvin] at h
      exact absurd h.symm (hsmall d hd).2
    · rwa [if_neg hkelvin] at h
  by_cases hcapital : 65 ≤ c.toNat ∧ c.toNat ≤ 90
  · have hat := hcapitals ⟨c.toNat - 65, by omega⟩
    rw [Nat.add_sub_cancel' hcapital.1, Char.ofNat_toNat] at hat
    rw [hat, hlower]
  · have hsame : c.toLower = c := by
      exact dif_neg fun hrange => hcapital hrange
    rw [← hlower, hsame] at hd ⊢
    exact (hsmall c hd).1

/-- The two ways of comparing the extension agree on it. -/
theorem casefold_suffix {name : Text} (h : IsJsonFile name) :
    casefold (Lifecycle.suffixOf name) = ".json".toList := by
  rw [IsJsonFile, Lifecycle.lowerName] at h
  have hchar : ∀ c ∈ Lifecycle.suffixOf name,
      casefoldChar c = [if c = '\u212A' then 'k' else c.toLower] := fun c hc =>
    casefoldChar_of_lower (h ▸ List.mem_map_of_mem hc) rfl
  rw [← h, List.map_eq_flatMap]
  exact List.flatMap_congr hchar

/-! ## The text of the file -/

theorem jsonText_eq_ok {payload : Json} {file : Text} : jsonText payload = .ok file ↔
    (∀ value ∈ intsOf payload, isTooLong value = false) ∧ payload.dumpsIndent ++ ['\n'] = file := by
  rw [jsonText, unit_bind_eq_ok, refuse_eq_ok, pure_eq_ok]
  refine and_congr_left fun _ => ?_
  rw [List.any_eq_false]
  exact forall₂_congr fun value _ => Bool.not_eq_true _ ▸ Iff.rfl

section

variable [Runtime] {name : Text} {config : HarnessConfig}

/-- What was written is read as the payload. -/
theorem loadConfig_written (hname : IsJsonFile name) :
    loadConfig name ((configPayload config).dumpsIndent ++ ['\n']) =
      configOfDocument (configPayload config) := by
  have hreturn : ∀ c ∈ (configPayload config).dumpsIndent ++ ['\n'], c ≠ '\r' :=
    List.forall_mem_append.mpr ⟨no_return_dumpsIndent _, by decide⟩
  have hread : Lifecycle.readAuthoredText ((configPayload config).dumpsIndent ++ ['\n']) =
      (configPayload config).dumpsIndent ++ ['\n'] := by
    -- the document starts with a brace, so there is no byte order mark to drop
    rw [Lifecycle.readAuthoredText]
    · exact universalNewlines_of_no_return _ hreturn
    · intro rest h
      have hbrace : '{' = '\uFEFF' := (List.cons.inj h).1
      exact absurd hbrace (by decide)
  have hmapping : loadMapping name ((configPayload config).dumpsIndent ++ ['\n']) =
      .ok (configPayload config) := by
    have hsuffix : Lifecycle.lowerName (Lifecycle.suffixOf name) = ".json".toList := hname
    rw [loadMapping, if_pos hsuffix, hread, loads_dumpsIndent _ (distinctKeys_configPayload config)]
  rw [loadConfig, hmapping]
  rfl

/-! ## The round trip -/

/-- The configuration is written, and what is loaded equals it. -/
def RoundTrips (name : Text) (config : HarnessConfig) : Prop :=
  ∃ file, writeConfig name config = .ok file ∧
    ∃ loaded, loadConfig name file = .ok loaded ∧ (loaded == config) = true

/-- Nothing of a configuration is lost in the file: its heads are the default ones, it has agents,
    its trust level is the implemented one, no float is NaN and every integer can be printed. -/
structure HarnessConfig.Preserved (config : HarnessConfig) : Prop where
  heads : HasDefaultHeads config.threeHead
  agents : config.agents ≠ []
  trust : config.workerTrustLevel = .patchOnly
  floats : config.NanFree
  ints : ∀ value ∈ config.ints, isTooLong value = false

theorem preserved_of_roundTrips (hname : IsJsonFile name) (hsorted : config.EnvironmentsSorted)
    (htargets : config.DefaultTargets) (h : RoundTrips name config) : config.Preserved := by
  obtain ⟨file, hwrite, loaded, hload, hequal⟩ := h
  obtain ⟨-, -, hwrite⟩ := bind_eq_ok.mp hwrite
  obtain ⟨text, htext, hwrite⟩ := bind_eq_ok.mp hwrite
  obtain ⟨-, -, hwrite⟩ := bind_eq_ok.mp hwrite
  obtain ⟨hints, htext⟩ := jsonText_eq_ok.mp htext
  rw [intsOf_configPayload] at hints
  rw [← pure_eq_ok.mp hwrite, ← htext, loadConfig_written hname] at hload
  obtain ⟨htrust, agents, hagents⟩ := configOfDocument_inv hsorted hload
  have hreread := configOfDocument_ok hsorted htargets htrust hagents
  rw [← Except.ok.inj (hreread.symm.trans hload), reread_beq] at hequal
  obtain ⟨hheads, hsame, hfloats⟩ := hequal
  refine ⟨hheads, fun hnone => ?_, htrust, hfloats, hints⟩
  -- without agents the default ones were read
  rw [hnone] at hagents hsame
  exact defaultAgents_ne_nil hagents hsame

theorem roundTrips_of_preserved (hname : IsJsonFile name) (hsorted : config.EnvironmentsSorted)
    (htargets : config.DefaultTargets) (h : config.Preserved) : RoundTrips name config := by
  have hagents : agentsOrDefault config.agents = .ok config.agents := by
    rw [agentsOrDefault, if_neg]
    rw [List.isEmpty_iff]
    exact h.agents
  have hload : loadConfig name ((configPayload config).dumpsIndent ++ ['\n']) =
      .ok (config.reread config.agents) := by
    rw [loadConfig_written hname]
    exact configOfDocument_ok hsorted htargets h.trust hagents
  refine ⟨_, ?_, _, hload, (reread_beq config config.agents).mpr ⟨h.heads, rfl, h.floats⟩⟩
  have htext := jsonText_eq_ok.mpr ⟨(intsOf_configPayload config).symm ▸ h.ints, rfl⟩
  refine bind_eq_ok.mpr ⟨(), refuse_eq_ok.mpr ?_, bind_eq_ok.mpr ⟨_, htext, ?_⟩⟩
  · rw [casefold_suffix hname]
    rfl
  · exact bind_eq_ok.mpr ⟨_, hload, rfl⟩

/-- **The round trip of a configuration.**  A configuration that the constructors accept, with
    environments sorted by distinct names and local models of the default target type, is written
    to a `.json` file and loaded back equal exactly when its heads are the default ones, it has
    agents, its trust level is the implemented one, none of its floats is NaN, and its integers
    have at most as many digits as are printed. -/
theorem roundTrips_iff (hname : IsJsonFile name) (hsorted : config.EnvironmentsSorted)
    (htargets : config.DefaultTargets) : RoundTrips name config ↔ config.Preserved :=
  ⟨preserved_of_roundTrips hname hsorted htargets, roundTrips_of_preserved hname hsorted htargets⟩

end

/-! ## Two configurations -/

/-- The configurations below hold no URL. -/
local instance writtenRuntime : Runtime := quietRuntime

/-- The policy that rejects. -/
def quietPolicy : RoleMcpPolicyConfig :=
  Built.of _ {} (by decide +kernel)

/-- A worker of the stub driver. -/
def quietWorker : WorkerConfig :=
  Built.of _
    { type := "stub", environment := [("HOME", "/root"), ("LANG", "C")], mcp := quietPolicy }
    (by decide +kernel)

def quietCritic : CriticConfig := Built.of _ { mcp := quietPolicy } (by decide +kernel)

def quietSupervisor : SupervisorConfig := Built.of _ { mcp := quietPolicy } (by decide +kernel)

def quietAgent : AgentConfig := Built.of _ { name := "coder", command := "coder" } (by decide +kernel)

/-- A model that is served on the same machine. -/
def localModel : LocalModelEndpointTarget where
  name := "local"
  baseUrl := "http://127.0.0.1:8080/v1"
  model := "qwen"

/-- A configuration with the stub worker, one agent, one local model and some heads. -/
def quietConfig (threeHead : ThreeHeadConfig) : HarnessConfig where
  supervisorModel := Built.of _ { provider := "stub", model := "supervisor-stub" } (by decide +kernel)
  verifierModel := Built.of _ { provider := "stub", model := "verifier-stub" } (by decide +kernel)
  runtime := { requireEmbeddedPython := false }
  telegram := {}
  supervisor := quietSupervisor
  worker := quietWorker
  critic := quietCritic
  threeHead
  scheduler := Built.of _ {} (by decide +kernel)
  metrics := Built.of _ {} (by decide +kernel)
  audit := Built.of _ {} (by decide +kernel)
  verification := {}
  coordination := Built.of _ {} (by decide +kernel)
  agents := [quietAgent]
  a2aAgents := []
  localModels := [localModel]
  forbiddenPaths := [".git/"]
  requireTests := true
  workerTrustLevel := .patchOnly

/-- The heads of a project that names its own supervisor. -/
def namedHeads : ThreeHeadConfig :=
  Built.of _ { logic := ⟨"planner", "openai", "gpt"⟩ } (by decide +kernel)

theorem sorted_quietConfig (threeHead : ThreeHeadConfig) :
    (quietConfig threeHead).EnvironmentsSorted where
  supervisor := by
    show SortedByName quietSupervisor.val.environment
    decide +kernel
  worker := by
    show SortedByName quietWorker.val.environment
    decide +kernel
  critic := by
    show SortedByName quietCritic.val.environment
    decide +kernel
  agents := by
    show ∀ agent ∈ [quietAgent], SortedByName agent.val.environment
    decide +kernel

theorem targets_quietConfig (threeHead : ThreeHeadConfig) : (quietConfig threeHead).DefaultTargets :=
  List.forall_mem_singleton.mpr rfl

theorem isJsonFile_harness : IsJsonFile "harness.json".toList := by
  rw [IsJsonFile]
  decide

/-- The heads of a configuration that sets none. -/
def unnamedHeads : ThreeHeadConfig := Built.of _ {} (by decide +kernel)

theorem preserved_quietConfig : (quietConfig unnamedHeads).Preserved where
  heads := by
    show unnamedHeads.val.logic = defaultLogic ∧ unnamedHeads.val.worker = defaultWorkerHead ∧
      unnamedHeads.val.critic = defaultCriticHead
    decide +kernel
  agents := List.cons_ne_nil _ _
  trust := rfl
  floats := by
    show ∀ float ∈ (quietConfig unnamedHeads).floats, isNan float = false
    decide +kernel
  ints := by decide +kernel

/-- A configuration that sets no heads. -/
theorem roundTrips_quietConfig : RoundTrips "harness.json".toList (quietConfig unnamedHeads) :=
  (roundTrips_iff isJsonFile_harness (sorted_quietConfig _) (targets_quietConfig _)).mpr
    preserved_quietConfig

/-- A project that names its own supervisor loses it. -/
theorem not_roundTrips_namedHeads : (quietConfig namedHeads).EnvironmentsSorted ∧
    (quietConfig namedHeads).DefaultTargets ∧ IsJsonFile "harness.json".toList ∧
    ¬ RoundTrips "harness.json".toList (quietConfig namedHeads) := by
  have hsorted := sorted_quietConfig namedHeads
  have htargets := targets_quietConfig namedHeads
  refine ⟨hsorted, htargets, isJsonFile_harness, fun h => ?_⟩
  have hlogic := (preserved_of_roundTrips isJsonFile_harness hsorted htargets h).heads.1
  have hnamed : namedHeads.val.logic ≠ defaultLogic := by decide +kernel
  exact hnamed hlogic

end LlmHarness.Config
