/-
  LlmHarness.Config.Mcp

  `mcp.py`: secret bindings, MCP servers and the policy of a role.  Each constructor strips and
  folds its texts, checks them, and returns the record that it returns for that record too.
-/

import LlmHarness.Config.Basic
import LlmHarness.Lib.Built

namespace LlmHarness.Config

open Python Guards

/-! ## Secret bindings -/

/-- The fields of `SecretBinding`. -/
structure SecretBindingFields where
  name : String
  sourceEnv : String
deriving DecidableEq

/-- `SecretBinding.__post_init__`. -/
@[irreducible] def SecretBindingFields.postInit (fields : SecretBindingFields) :
    Except ConfigError SecretBindingFields := do
  let name := stripped fields.name
  let source := stripped fields.sourceEnv
  refuse (name = "") "MCP secret binding name must be non-empty."
  refuse (!isEnvironmentName source) "MCP secret source_env must be an environment-variable name."
  return ⟨name, source⟩

abbrev SecretBinding : Type := Built SecretBindingFields.postInit

theorem settles_secretBinding : Settles SecretBindingFields.postInit := by
  intro fields record h
  have h' := h
  rw [SecretBindingFields.postInit] at h'
  obtain ⟨-, -, h'⟩ := bind_eq_ok.mp h'
  obtain ⟨-, -, h'⟩ := bind_eq_ok.mp h'
  have hrecord := pure_eq_ok.mp h'
  rw [← h, ← hrecord]
  simp only [SecretBindingFields.postInit, stripped_stripped]

section

variable [Runtime]

/-! ## Servers -/

/-- `_HTTP_HEADER_NAME.fullmatch(name)`. -/
def isHttpHeaderName (name : String) : Bool :=
  name ≠ "" && name.toList.all fun c =>
    c.isAlphanum || "!#$%&'*+.^_`|~-".toList.contains c

/-- `_validate_remote_url`. -/
def validateRemoteUrl (url : String) : Except ConfigError Unit := do
  let parsed ← urlparse url
  refuse parsed.isRelative "MCP url must be an absolute HTTP(S) URL."
  refuse parsed.hasCredentials "MCP url must not contain credentials."
  refuse (parsed.scheme == "http" && !parsed.isLoopback)
    "Remote MCP servers require HTTPS; HTTP is allowed only for loopback."

/-- The fields of `McpServerConfig`. -/
structure McpServerFields where
  name : String
  transport : String := "stdio"
  command : Option String := none
  args : List String := []
  url : Option String := none
  environment : List SecretBinding := []
  headers : List SecretBinding := []
deriving DecidableEq

/-- The checks of a server that is run as a command. -/
def McpServerFields.checkStdio (fields : McpServerFields) : Except ConfigError Unit := do
  refuse (textOrNone fields.command).isNone "MCP stdio server requires command."
  refuse (((textOrNone fields.command).getD "").toList.contains '\x00')
    "MCP stdio command must not contain NUL bytes."
  refuse ((textOrNone fields.url).isSome || !fields.headers.isEmpty)
    "MCP stdio server cannot define url or HTTP headers."
  fields.environment.forM fun item =>
    refuse (!isEnvironmentName item.val.name)
      ("Invalid MCP process environment name: " ++ item.val.name)

/-- The checks of a server behind a URL. -/
def McpServerFields.checkRemote (fields : McpServerFields) : Except ConfigError Unit :=
  match textOrNone fields.url with
  | none => .error (.valueError "MCP HTTP/SSE server requires url.")
  | some url => do
    refuse ((textOrNone fields.command).isSome || !fields.args.isEmpty || !fields.environment.isEmpty)
      "MCP HTTP/SSE server cannot define command, args, or process environment."
    validateRemoteUrl url
    fields.headers.forM fun item => do
      refuse (!isHttpHeaderName item.val.name) ("Invalid MCP HTTP header name: " ++ item.val.name)
      refuse (["host", "content-length"].contains (folded item.val.name))
        "MCP headers cannot override Host or Content-Length."

/-- The checks of the transport. -/
def McpServerFields.checkTransport (fields : McpServerFields) : Except ConfigError Unit :=
  if normalized fields.transport = "stdio" then fields.checkStdio else fields.checkRemote

/-- The bindings whose names are told apart. -/
def McpServerFields.bindings (fields : McpServerFields) : List SecretBinding :=
  if normalized fields.transport = "stdio" then fields.environment else fields.headers

/-- `McpServerConfig.__post_init__`. -/
@[irreducible] def McpServerFields.postInit (fields : McpServerFields) : Except ConfigError McpServerFields := do
  let name := stripped fields.name
  let transport := normalized fields.transport
  refuse (name = "") "MCP server name must be non-empty."
  refuse (!(["stdio", "http", "sse"].contains transport)) "MCP transport must be stdio, http, or sse."
  fields.checkTransport
  refuse (fields.args.any fun item => item = "" || item.toList.contains '\x00')
    "MCP server args must be non-empty and contain no NUL bytes."
  refuse (!decide (fields.bindings.map fun item => folded item.val.name).Nodup)
    "MCP binding names must be unique within a server."
  return { fields with
    name, transport
    command := textOrNone fields.command
    url := textOrNone fields.url }

/-- `McpServerConfig`. -/
abbrev McpServerConfig : Type := Built McpServerFields.postInit

theorem settles_mcpServer : Settles McpServerFields.postInit := by
  intro fields record h
  have h' := h
  rw [McpServerFields.postInit] at h'
  obtain ⟨-, -, h'⟩ := bind_eq_ok.mp h'
  obtain ⟨-, -, h'⟩ := bind_eq_ok.mp h'
  obtain ⟨-, -, h'⟩ := bind_eq_ok.mp h'
  obtain ⟨-, -, h'⟩ := bind_eq_ok.mp h'
  obtain ⟨-, -, h'⟩ := bind_eq_ok.mp h'
  have hrecord := pure_eq_ok.mp h'
  rw [← h, ← hrecord]
  simp only [McpServerFields.postInit, McpServerFields.checkTransport, McpServerFields.checkStdio,
    McpServerFields.checkRemote, McpServerFields.bindings, stripped_stripped, normalized_normalized,
    textOrNone_textOrNone]
  rfl

/-! ## The policy of a role -/

/-- `ACP_TOOL_KINDS`. -/
def acpToolKinds : List String :=
  ["read", "edit", "delete", "move", "search", "execute", "think", "fetch", "switch_mode", "other"]

/-- The fields of `RoleMcpPolicyConfig`. -/
structure RoleMcpPolicyFields where
  permissionMode : String := "reject"
  allowedToolKinds : List String := []
  servers : List McpServerConfig := []
deriving DecidableEq

/-- `sorted(set(kinds) - set(ACP_TOOL_KINDS))`. -/
def unknownToolKinds (kinds : List String) : List String :=
  (kinds.filter fun kind => !acpToolKinds.contains kind).insertionSort (· ≤ ·)

/-- `RoleMcpPolicyConfig.__post_init__`. -/
@[irreducible] def RoleMcpPolicyFields.postInit (fields : RoleMcpPolicyFields) :
    Except ConfigError RoleMcpPolicyFields := do
  let mode := normalized fields.permissionMode
  let kinds := distinctNormalized fields.allowedToolKinds
  refuse (!(["reject", "allow_once"].contains mode))
    "MCP permission_mode must be reject or allow_once."
  refuse (!(unknownToolKinds kinds).isEmpty)
    ("Unknown ACP tool kinds: " ++ ", ".intercalate (unknownToolKinds kinds))
  refuse (mode = "reject" && !kinds.isEmpty)
    "MCP reject policy cannot contain allowed_tool_kinds."
  refuse (!decide (fields.servers.map fun item => folded item.val.name).Nodup)
    "MCP server names must be unique within a role policy."
  return { fields with permissionMode := mode, allowedToolKinds := kinds }

/-- `RoleMcpPolicyConfig`. -/
abbrev RoleMcpPolicyConfig : Type := Built RoleMcpPolicyFields.postInit

theorem settles_roleMcpPolicy : Settles RoleMcpPolicyFields.postInit := by
  intro fields record h
  have h' := h
  rw [RoleMcpPolicyFields.postInit] at h'
  obtain ⟨-, -, h'⟩ := bind_eq_ok.mp h'
  obtain ⟨-, -, h'⟩ := bind_eq_ok.mp h'
  obtain ⟨-, -, h'⟩ := bind_eq_ok.mp h'
  obtain ⟨-, -, h'⟩ := bind_eq_ok.mp h'
  have hrecord := pure_eq_ok.mp h'
  rw [← h, ← hrecord]
  simp only [RoleMcpPolicyFields.postInit, normalized_normalized,
    distinctNormalized_distinctNormalized]

end

end LlmHarness.Config
