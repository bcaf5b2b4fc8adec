/-
  LlmHarness.Models.Provider

  `JsonHttpsModelProvider`: the request it builds, and what it makes of one reply.

  `json.loads`, the `repr` of a list or a dict, `urlparse` and the digests are parameters
  (`Runtime`), so that what follows holds for each of their outcomes.
-/

import LlmHarness.Config.Sections
import LlmHarness.Domain
import LlmHarness.Python.DumpsCheck
import LlmHarness.Python.Value

namespace LlmHarness.Models

open Python

/-- The members of a JSON object. -/
abbrev Members := List (String × Json)

/-! ## The endpoint -/

/-- The providers other than the stub. -/
inductive Provider where
  | openai
  | deepseek
  | openaiCompatible
deriving DecidableEq, Repr

/-- The name of a provider. -/
def Provider.text : Provider → String
  | openai => "openai"
  | deepseek => "deepseek"
  | openaiCompatible => "openai_compatible"

/-- `DEFAULT_BASE_URLS`. -/
def defaultBaseUrl : Provider → Option String
  | .openai => some "https://api.openai.com/v1"
  | .deepseek => some "https://api.deepseek.com"
  | .openaiCompatible => none

/-- `DEFAULT_API_KEY_ENVS`. -/
def defaultApiKeyEnv : Provider → Option String
  | .openai => some "OPENAI_API_KEY"
  | .deepseek => some "DEEPSEEK_API_KEY"
  | .openaiCompatible => none

/-- A text that is given and not empty. -/
def given (text : Option String) : Option String := text.filter (· ≠ "")

/-- A `CloudModelEndpoint` whose provider is not the stub. -/
structure LiveEndpoint where
  config : Config.CloudModelEndpoint
  provider : Provider
  named : config.val.provider = provider.text

namespace LiveEndpoint

variable (endpoint : LiveEndpoint)

/-- `model`. -/
def model : String := endpoint.config.val.model

/-- `max_retries`, which no endpoint has below zero. -/
def maxRetries : Nat := endpoint.config.val.maxRetries.toNat

/-- `max_output_tokens`. -/
def maxOutputTokens : Int := endpoint.config.val.maxOutputTokens

/-- `base_url or DEFAULT_BASE_URLS[provider]`. -/
def baseUrlOr : Option String :=
  (given endpoint.config.val.baseUrl).or (defaultBaseUrl endpoint.provider)

/-- `api_key_env or DEFAULT_API_KEY_ENVS[provider]`. -/
def apiKeyEnvOr : Option String :=
  (given endpoint.config.val.apiKeyEnv).or (defaultApiKeyEnv endpoint.provider)

end LiveEndpoint

/-- `ModelRequest`. -/
structure ModelRequest where
  instructions : String
  inputText : String
  outputSchemaName : String
  outputSchema : Members

/-- `ModelResponse`. -/
structure ModelResponse where
  output : Members
  evidence : ModelInvocationEvidence

/-! ## Errors -/

/-- `ModelProviderError`. -/
structure ModelProviderError where
  message : String
  provider : String
  kind : String
  retryable : Bool := false
  statusCode : Option Int := none
  requestId : Option String := none
deriving DecidableEq, Repr

/-- What may be raised. -/
inductive Fault where
  | providerError (error : ModelProviderError)
  | keyError
  | indexError
  | typeError
  | valueError
  | attributeError
  | recursionError
  | overflowError
deriving DecidableEq, Repr

/-- What `json.dumps` raises. -/
def Fault.ofDumps : DumpsFault → Fault
  | .valueError => .valueError
  | .recursionError => .recursionError

/-- A `KeyError`, an `IndexError`, a `TypeError` or a `ValueError`. -/
def Fault.isShapeError : Fault → Bool
  | keyError => true
  | indexError => true
  | typeError => true
  | valueError => true
  | _ => false

/-! ## The library -/

/-- What `json.loads` does.  A `UnicodeDecodeError` or a `JSONDecodeError` is a decode error; a
    `ValueError` that is neither comes from an integer of too many digits. -/
inductive Loaded where
  | value (payload : Json)
  | decodeError
  | valueError
  | recursionError

/-- The parts of a URL that are looked at. -/
structure ParsedUrl where
  scheme : String
  netloc : String
  hostname : Option String
  path : String
deriving DecidableEq, Repr

/-- What the provider uses of Python's library; `urlparse` has no result where it raises, and
    `json.dumps` enters `encodeDepth` nested containers before the recursion limit. -/
structure Runtime (Body : Type) where
  encodeDepth : Nat
  loadsBody : Body → Loaded
  loadsText : String → Loaded
  reprOf : Json → String
  urlparse : String → Option ParsedUrl
  sha256Text : Text → String
  sha256Body : Body → String

variable {Body : Type} (runtime : Runtime Body)

/-- `str(value)`. -/
def Runtime.str (value : Json) : String :=
  match value with
  | .arr items => runtime.reprOf (.arr items)
  | .obj members => runtime.reprOf (.obj members)
  | other => pyStr other

/-! ## The request -/

/-- What is handed to the HTTP sender. -/
structure HttpRequest where
  url : String
  headers : List (String × String)
  body : Text
  timeoutSeconds : PyFloat

/-- `text.rstrip("/")`. -/
def dropSlashes (text : String) : String := String.ofList (text.toList.rdropWhile (· = '/'))

/-- `json.dumps(value, ensure_ascii=False, sort_keys=True)`, with a gap after each separator. -/
def Runtime.dumpsSorted (gap : Text) (value : Json) : Except Fault Text := do
  (dumpsCheck runtime.encodeDepth value.sortKeys).mapError Fault.ofDumps
  return value.sortKeys.dumpsWith gap

/-- `_canonical_json`. -/
def canonicalJson (payload : Json) : Except Fault Text := runtime.dumpsSorted [] payload

/-- The URL of `_build_request`. -/
def requestUrl (endpoint : LiveEndpoint) (baseUrl : String) : String :=
  dropSlashes baseUrl ++
    if endpoint.provider = .openai then "/responses" else "/chat/completions"

/-- The payload of the responses dialect. -/
def responsesPayload (endpoint : LiveEndpoint) (request : ModelRequest) : Json :=
  .obj [("model", .str endpoint.model),
    ("instructions", .str request.instructions),
    ("input", .str request.inputText),
    ("max_output_tokens", .int endpoint.maxOutputTokens),
    ("text", .obj [("format", .obj [("type", .str "json_schema"),
      ("name", .str request.outputSchemaName),
      ("strict", .bool true),
      ("schema", .obj request.outputSchema)])])]

/-- The payload of the chat dialect, around the printed contract. -/
def chatPayload (endpoint : LiveEndpoint) (request : ModelRequest) (contract : Text) : Json :=
  .obj [("model", .str endpoint.model),
    ("messages", .arr [
      .obj [("role", .str "system"), ("content", .str request.instructions)],
      .obj [("role", .str "user"), ("content", .str (request.inputText ++
        "\nReturn JSON only. The response must be a JSON object matching this contract:\n" ++
          String.ofList contract))]]),
    ("response_format", .obj [("type", .str "json_object")]),
    ("max_tokens", .int endpoint.maxOutputTokens),
    ("stream", .bool false)]

/-- `_build_request`, for the base URL. -/
def buildRequest (endpoint : LiveEndpoint) (baseUrl : String) (request : ModelRequest) :
    Except Fault (String × Json) :=
  if endpoint.provider = .openai then
    return (requestUrl endpoint baseUrl, responsesPayload endpoint request)
  else do
    let contract ← runtime.dumpsSorted [' '] (.obj request.outputSchema)
    return (requestUrl endpoint baseUrl, chatPayload endpoint request contract)

/-- `_validate_model_url` raises nothing. -/
def isModelUrl (url : String) : Bool :=
  match runtime.urlparse url with
  | none => false
  | some parsed =>
    (parsed.scheme = "https" && parsed.netloc ≠ "") ||
      (parsed.scheme = "http" && parsed.hostname ∈ [some "127.0.0.1", some "localhost", some "::1"])

/-- `_validate_model_url`. -/
def validateModelUrl (url : String) : Except Fault Unit :=
  if isModelUrl runtime url then .ok () else .error .valueError

/-- The name of the credential, and the credential itself; `credential` is
    `resolve_credential`. -/
def resolveApiKey (credential : String → Option String) (endpoint : LiveEndpoint) :
    Except Fault String := do
  let apiKeyEnv ← endpoint.apiKeyEnvOr.elim (.error .keyError) .ok
  (given (credential apiKeyEnv)).elim
    (.error (.providerError {
      message := s!"No credential for {apiKeyEnv}. Export it, or save it in project settings.",
      provider := endpoint.provider.text, kind := "authentication" })) .ok

/-- The first part of `invoke`, up to its loop. -/
def prepare (credential : String → Option String) (endpoint : LiveEndpoint)
    (request : ModelRequest) : Except Fault HttpRequest := do
  let apiKey ← resolveApiKey credential endpoint
  let baseUrl ← endpoint.baseUrlOr.elim (.error .keyError) .ok
  let built ← buildRequest runtime endpoint baseUrl request
  validateModelUrl runtime built.1
  let body ← canonicalJson runtime built.2
  return { url := built.1
           headers := [("Authorization", "Bearer " ++ apiKey), ("Content-Type", "application/json"),
             ("User-Agent", "llm-harness/0.2")]
           body := body
           timeoutSeconds := endpoint.config.val.timeoutSeconds }

/-! ## Reading a JSON value -/

/-- The object whose `get` is called. -/
def asMembers : Json → Except Fault Members
  | .obj members => .ok members
  | _ => .error .attributeError

/-- What a `for` goes through. -/
def elements : Json → Except Fault (List Json)
  | .arr items => .ok items
  | .obj members => .ok (members.map fun m => .str m.1)
  | .str text => .ok (text.toList.map fun c => .str (String.singleton c))
  | _ => .error .typeError

/-- `value[name]`. -/
def itemAt (value : Json) (name : String) : Except Fault Json :=
  match value with
  | .obj members => (dictGet? members name).elim (.error .keyError) .ok
  | _ => .error .typeError

/-- `value[0]`. -/
def firstItem : Json → Except Fault Json
  | .arr items => items.head?.elim (.error .indexError) .ok
  | .str text => text.toList.head?.elim (.error .indexError) fun c => .ok (.str (String.singleton c))
  | .obj _ => .error .keyError
  | _ => .error .typeError

/-- `members.get("type") == name`. -/
def hasType (members : Members) (name : String) : Bool :=
  match field members "type" with
  | .str text => text = name
  | _ => false

/-- `members.get(name, ())`. -/
def listField (members : Members) (name : String) : Json := (dictGet? members name).getD (.arr [])

/-- `_optional_int`. -/
def optionalInt : Json → Option Int
  | .int value => some value
  | .bool value => some (if value then 1 else 0)
  | _ => none

/-- `_header`. -/
def header (headers : List (String × String)) (name : String) : Option String :=
  (headers.find? fun entry => casefold entry.1.toList = casefold name.toList).map Prod.snd

/-! ## The text of a response -/

/-- The body of the inner loop of `_openai_output_text`. -/
def contentText (content : Json) : Except Fault (Option String) := do
  let members ← asMembers content
  if hasType members "output_text" then
    (dictGet? members "text").elim (.error .keyError) fun text => .ok (some (runtime.str text))
  else return none

/-- The body of the outer loop. -/
def itemText (item : Json) : Except Fault (Option String) := do
  let members ← asMembers item
  if hasType members "message" then
    let contents ← elements (listField members "content")
    contents.findSomeM? (contentText runtime)
  else return none

/-- `_openai_output_text`. -/
def openaiOutputText (payload : Members) : Except Fault String := do
  let items ← elements (listField payload "output")
  let found ← items.findSomeM? (itemText runtime)
  found.elim (.error .keyError) .ok

/-- The value that is read as the structured output. -/
def replyText (provider : Provider) (payload : Members) : Except Fault Json :=
  if provider = .openai then
    if isTruthy (field payload "output_text") then .ok (field payload "output_text")
    else Json.str <$> openaiOutputText runtime payload
  else do
    let choices ← itemAt (.obj payload) "choices"
    let choice ← firstItem choices
    let message ← itemAt choice "message"
    itemAt message "content"

/-- `json.loads(text)`, and that it is an object. -/
def loadsOutput : Json → Except Fault Members
  | .str text =>
    match runtime.loadsText text with
    | .value (.obj output) => .ok output
    | .recursionError => .error .recursionError
    | _ => .error .valueError
  | _ => .error .typeError

/-- The block of `_parse_response` that is guarded by shape errors: the output and the usage. -/
def readOutput (provider : Provider) (payload : Members) : Except Fault (Members × Members) := do
  let text ← replyText runtime provider payload
  let usage ← asMembers (pyOr (field payload "usage") (.obj []))
  let output ← loadsOutput runtime text
  return (output, usage)

/-- The names of the counts of input and output tokens. -/
def tokenNames (provider : Provider) : String × String :=
  if provider = .openai then ("input_tokens", "output_tokens")
  else ("prompt_tokens", "completion_tokens")

/-- `_header(headers, "x-request-id") or payload.get("id")`, printed. -/
def requestIdOf (headers : List (String × String)) (payload : Members) : Option String :=
  let requestId := pyOr ((header headers "x-request-id").elim .null Json.str) (field payload "id")
  if isTruthy requestId then some (runtime.str requestId) else none

/-- A response that cannot be used. -/
def invalidResponse (endpoint : LiveEndpoint) (message : String) : Fault :=
  .providerError { message := message, provider := endpoint.provider.text, kind := "invalid_response" }

/-- `except (KeyError, IndexError, TypeError, ValueError, json.JSONDecodeError)`. -/
def shapeGuarded {α : Type} (error : Fault) (outcome : Except Fault α) : Except Fault α :=
  match outcome with
  | .ok a => .ok a
  | .error fault => if fault.isShapeError then .error error else .error fault

/-- The rest of `_parse_response`, on an object. -/
def responseOf (endpoint : LiveEndpoint) (http : HttpRequest)
    (headers : List (String × String)) (body : Body) (attempts : Nat) (latencyMs : Int)
    (payload : Members) : Except Fault ModelResponse := do
  let (output, usage) ← shapeGuarded (invalidResponse endpoint
    "Model provider response did not contain a valid structured JSON object.")
    (readOutput runtime endpoint.provider payload)
  return { output := output
           evidence := {
             provider := endpoint.provider.text
             model := endpoint.model
             endpoint := ((runtime.urlparse http.url).map ParsedUrl.path).getD ""
             requestId := requestIdOf runtime headers payload
             attempts := attempts
             latencyMs := latencyMs
             inputTokens := optionalInt (field usage (tokenNames endpoint.provider).1)
             outputTokens := optionalInt (field usage (tokenNames endpoint.provider).2)
             totalTokens := optionalInt (field usage "total_tokens")
             requestSha256 := runtime.sha256Text http.body
             responseSha256 := runtime.sha256Body body } }

/-- `_parse_response`. -/
def parseResponse (endpoint : LiveEndpoint) (http : HttpRequest)
    (headers : List (String × String)) (body : Body) (attempts : Nat) (latencyMs : Int) :
    Except Fault ModelResponse :=
  match runtime.loadsBody body with
  | .decodeError => .error (invalidResponse endpoint "Model provider returned invalid JSON.")
  | .valueError => .error .valueError
  | .recursionError => .error .recursionError
  | .value (.obj payload) => responseOf runtime endpoint http headers body attempts latencyMs payload
  | .value _ =>
    .error (invalidResponse endpoint "Model provider returned a JSON value that is not an object.")

/-! ## The error of a status -/

/-- The code of the error object; an `AttributeError` where a `get` is missing. -/
def errorCode (payload : Json) : Except Fault String := do
  let members ← asMembers payload
  let error ← asMembers (pyOr (field members "error") (.obj []))
  return runtime.str (pyOr (pyOr (field error "code") (field error "type")) (.str ""))

/-- The code that `_http_status_error` finds; an `AttributeError` and a decode error leave it
    empty. -/
def statedCode (body : Body) : Except Fault String :=
  match runtime.loadsBody body with
  | .value payload => .ok ((errorCode runtime payload).toOption.getD "")
  | .decodeError => .ok ""
  | .valueError => .error .valueError
  | .recursionError => .error .recursionError

/-- The quota is used up. -/
def isQuota (status : Int) (code : String) : Bool :=
  casefold code.toList ∈ ["insufficient_quota".toList, "billing_hard_limit_reached".toList] ||
    status = 402

/-- The request may be sent again. -/
def isRetryable (status : Int) (code : String) : Bool :=
  !isQuota status code && (status ∈ [408, 429] || status ≥ 500)

/-- The kind of a status error. -/
def statusKind (status : Int) (code : String) : String :=
  if status ∈ [401, 403] then "authentication"
  else if isQuota status code then "quota"
  else if status = 408 then "timeout"
  else if status = 429 then "rate_limit"
  else if status ≥ 500 then "provider_unavailable"
  else "invalid_request"

/-- `_http_status_error`. -/
def httpStatusError (endpoint : LiveEndpoint) (status : Int)
    (headers : List (String × String)) (body : Body) : Except Fault ModelProviderError := do
  let code ← statedCode runtime body
  let kind := statusKind status code
  return { message := s!"Model provider request failed with HTTP {status} ({kind})."
           provider := endpoint.provider.text
           kind := kind
           retryable := isRetryable status code
           statusCode := some status
           requestId := header headers "x-request-id" }

/-! ## The defaults -/

theorem given_isSome_iff {text : Option String} :
    (given text).isSome = true ↔ Config.isAbsent text = false := by
  cases text with
  | none => simp [given, Config.isAbsent]
  | some text => by_cases h : text = "" <;> simp [given, Config.isAbsent, Option.filter, h]

namespace LiveEndpoint

/-- An `openai_compatible` endpoint was built with a base URL and the name of a credential. -/
theorem compatible_given (endpoint : LiveEndpoint) (h : endpoint.provider = .openaiCompatible) :
    (given endpoint.config.val.baseUrl).isSome ∧ (given endpoint.config.val.apiKeyEnv).isSome := by
  obtain ⟨fields, hfields⟩ := endpoint.config.returned
  obtain ⟨hval, hgiven⟩ := Config.CloudModelFields.postInit_eq_ok hfields
  -- the provider that the constructor compared is the one the record carries
  have hprovider : normalized fields.provider = "openai_compatible" := by
    have hnamed := endpoint.named
    rwa [hval, h, Provider.text] at hnamed
  rw [given_isSome_iff, given_isSome_iff, hval]
  exact hgiven hprovider

/-- The lookups in the tables of defaults find their provider. -/
theorem baseUrlOr_isSome (endpoint : LiveEndpoint) : endpoint.baseUrlOr.isSome := by
  rw [baseUrlOr, Option.isSome_or]
  cases hprovider : endpoint.provider with
  | openai => simp [defaultBaseUrl]
  | deepseek => simp [defaultBaseUrl]
  | openaiCompatible => simp [(endpoint.compatible_given hprovider).1]

theorem apiKeyEnvOr_isSome (endpoint : LiveEndpoint) : endpoint.apiKeyEnvOr.isSome := by
  rw [apiKeyEnvOr, Option.isSome_or]
  cases hprovider : endpoint.provider with
  | openai => simp [defaultApiKeyEnv]
  | deepseek => simp [defaultApiKeyEnv]
  | openaiCompatible => simp [(endpoint.compatible_given hprovider).2]

end LiveEndpoint

end LlmHarness.Models
