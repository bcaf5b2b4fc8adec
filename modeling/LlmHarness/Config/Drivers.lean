/-
  LlmHarness.Config.Drivers

  The registry of built-in drivers: each role has its own, a few have a second name, and a
  driver that was found is found again under its identifier.
-/

import LlmHarness.Config.Basic

namespace LlmHarness.Config

open Python Guards

inductive DriverRole where
  | supervisor
  | worker
  | critic
deriving DecidableEq

/-- The role as the registry's messages name it. -/
def DriverRole.text : DriverRole → String
  | supervisor => "supervisor"
  | worker => "worker"
  | critic => "critic"

/-- `DriverManifest`: what the configuration reads of it. -/
structure DriverManifest where
  driverId : String
  role : DriverRole
  taskTransport : String
  artifactContract : Option String
  requiresIsolatedWorktree : Bool
  supportsSubagents : Bool
deriving DecidableEq

/-- `_BUILTIN_DRIVERS`. -/
def builtinDrivers : List DriverManifest :=
  [⟨"model_json", .supervisor, "structured_model_request", none, false, false⟩,
    ⟨"acp", .supervisor, "acp_stdio", none, false, false⟩,
    ⟨"command_json", .supervisor, "stdin_prompt", none, false, false⟩,
    ⟨"a2a", .supervisor, "a2a_jsonrpc_v1", none, false, false⟩,
    ⟨"acp", .worker, "acp_stdio", some "worktree_diff", true, false⟩,
    ⟨"command", .worker, "stdin_prompt", some "worktree_diff", true, false⟩,
    ⟨"process", .worker, "profiled_process", some "worktree_diff", true, false⟩,
    ⟨"a2a", .worker, "a2a_jsonrpc_v1", some "unified_diff", false, false⟩,
    ⟨"hermes_acp", .worker, "acp_stdio", some "worktree_diff", true, false⟩,
    ⟨"claude_code", .worker, "stdin_prompt", some "worktree_diff", true, false⟩,
    ⟨"openclaw", .worker, "stdin_prompt", some "worktree_diff", true, false⟩,
    ⟨"stub", .worker, "in_process", some "direct_patch", false, false⟩,
    ⟨"model_json", .critic, "structured_model_request", none, false, false⟩,
    ⟨"command_json", .critic, "stdin_json", none, false, false⟩,
    ⟨"acp", .critic, "acp_stdio", none, false, false⟩,
    ⟨"a2a", .critic, "a2a_jsonrpc_v1", none, false, false⟩,
    ⟨"claude_code", .critic, "stdin_prompt", none, false, false⟩,
    ⟨"manual", .critic, "file_exchange", none, false, false⟩]

/-- `_ALIASES.get((role, driver_id), driver_id)`. -/
def unaliased (role : DriverRole) (driverId : String) : String :=
  if role = .worker ∧ driverId = "hermes" then "hermes_acp"
  else if role = .worker ∧ driverId = "claude" then "claude_code"
  else driverId

/-- `driver_catalog(role)`. -/
def driverCatalog (role : DriverRole) : List DriverManifest :=
  builtinDrivers.filter fun item => item.role = role

/-- The built-in driver of a role with an identifier. -/
def builtinDriver? (role : DriverRole) (driverId : String) : Option DriverManifest :=
  builtinDrivers.find? fun item => item.role = role && item.driverId = driverId

/-- The message of the `DriverRegistryError`. -/
def unsupportedDriver (driverId : String) (role : DriverRole) : String :=
  "Unsupported " ++ role.text ++ " driver '" ++ driverId ++ "'. Available drivers: " ++
    ", ".intercalate ((driverCatalog role).map DriverManifest.driverId)

/-- `resolve_driver`. -/
def resolveDriver (driverId : String) (role : DriverRole) : Except ConfigError DriverManifest :=
  match builtinDriver? role (unaliased role (normalized driverId)) with
  | some manifest => .ok manifest
  | none => .error (.valueError (unsupportedDriver driverId role))

/-- The identifiers are words, and a driver is found under its own. -/
theorem builtinDrivers_found : ∀ manifest ∈ builtinDrivers,
    (manifest.driverId ≠ "" ∧ isLowerWord manifest.driverId) ∧
      builtinDriver? manifest.role (unaliased manifest.role manifest.driverId) = some manifest := by
  decide +kernel

/-- What is resolved is a built-in driver of the role. -/
theorem resolveDriver_mem {driverId : String} {role : DriverRole} {manifest : DriverManifest}
    (h : resolveDriver driverId role = .ok manifest) :
    manifest ∈ builtinDrivers ∧ manifest.role = role := by
  have hfound : builtinDriver? role (unaliased role (normalized driverId)) = some manifest := by
    rw [resolveDriver] at h
    cases hfind : builtinDriver? role (unaliased role (normalized driverId)) with
    | none =>
        rw [hfind] at h
        cases h
    | some other =>
        rw [hfind] at h
        exact congrArg some (Except.ok.inj h)
  have hmatches := List.find?_some hfound
  rw [Bool.and_eq_true, decide_eq_true_eq] at hmatches
  exact ⟨List.mem_of_find?_eq_some hfound, hmatches.1⟩

/-- An identifier that was resolved is not empty, and is normalised. -/
theorem resolveDriver_word {driverId : String} {role : DriverRole} {manifest : DriverManifest}
    (h : resolveDriver driverId role = .ok manifest) :
    manifest.driverId ≠ "" ∧ normalized manifest.driverId = manifest.driverId := by
  obtain ⟨hne, hword⟩ := (builtinDrivers_found manifest (resolveDriver_mem h).1).1
  exact ⟨hne, normalized_of_isLowerWord hword⟩

theorem resolveDriver_again {driverId : String} {role : DriverRole} {manifest : DriverManifest}
    (h : resolveDriver driverId role = .ok manifest) :
    resolveDriver manifest.driverId role = .ok manifest := by
  obtain ⟨hmem, hrole⟩ := resolveDriver_mem h
  have hfound := (builtinDrivers_found manifest hmem).2
  rw [hrole] at hfound
  rw [resolveDriver, (resolveDriver_word h).2, hfound]

end LlmHarness.Config
