/-
  LlmHarness.Metrics.Usage

  Usage accounting of `metrics.py`: `_extract_usage` collects what one payload reports,
  `AdapterMetricsSink` merges it with what earlier payloads have reported, and the first
  terminal payload becomes one usage event.

  The exceptions of `float` and `int` that `_number` and `_integer` do not catch end
  `_observe`; `__call__` swallows them.  Recording in the ledger succeeds, and the measured
  duration, the identifier and the time of an event are data of the call.
-/

import LlmHarness.Config.Sections
import LlmHarness.Python.FloatNumber
import LlmHarness.Python.UpperCase
import LlmHarness.Python.Value

namespace LlmHarness.Metrics

open Python Config

/-- The members of a JSON object. -/
abbrev Members := List (String × Json)

/-! ## Numbers and texts -/

/-- `_number`; only an integer too large for a float is an error. -/
def number (value : Json) : Except NumberFault (Option FloatValue) :=
  match value with
  | .null => .ok none
  | .bool _ => .ok none
  | value =>
    match floatOf value with
    | .ok x => .ok (if x.nonneg?.isSome then some x else none)
    | .error .overflowError => .error .overflowError
    | .error _ => .ok none

/-- `_integer`; only an infinite float is an error. -/
def integer (value : Json) : Except NumberFault (Option Int) :=
  match value with
  | .null => .ok none
  | .bool _ => .ok none
  | value =>
    match intOf value with
    | .ok i => .ok (if 0 ≤ i then some i else none)
    | .error .overflowError => .error .overflowError
    | .error _ => .ok none

/-- `_text`. -/
def textOf (value : Json) : Option String :=
  match value with
  | .str text => if text = "" then none else some text
  | .int i => some (pyStr (.int i))
  | .bool b => some (pyStr (.bool b))
  | _ => none

/-- `candidate >= current` on two numbers. -/
def atLeast (candidate current : FloatValue) : Bool :=
  match candidate.nonneg?, current.nonneg? with
  | some x, some y => y ≤ x
  | _, _ => false

/-! ## What one payload reports -/

/-- The names under which each kind of usage is reported. -/
def aliases : List (String × List String) :=
  [("input_tokens", ["input_tokens", "inputTokens", "prompt_tokens"]),
    ("output_tokens", ["output_tokens", "outputTokens", "completion_tokens"]),
    ("total_tokens", ["total_tokens", "totalTokens"]),
    ("context_used_tokens", ["used"]),
    ("context_size_tokens", ["size"]),
    ("duration_ms", ["duration_ms", "durationMs", "latency_ms"]),
    ("cost_amount", ["total_cost_usd"]),
    ("invocation_id", ["request_id", "session_id", "sessionId", "id"]),
    ("provider", ["provider"]),
    ("model", ["model"])]

/-- Each kind with each of its names. -/
def aliasPairs : List (String × String) :=
  aliases.flatMap fun (target, names) => names.map fun name => (target, name)

/-- The kinds that are texts. -/
def isTextTarget (target : String) : Bool :=
  target = "provider" || target = "model" || target = "invocation_id"

/-- The greater of two reported numbers is kept, the later one of two equal ones. -/
def keepGreater (found : Members) (target : String) (candidate : Json) : Except NumberFault Members := do
  match ← number candidate with
  | none => return found
  | some x =>
    match ← number (field found target) with
    | none => return dictInsert found (target, candidate)
    | some y => return if atLeast x y then dictInsert found (target, candidate) else found

/-- One name of one kind in an object. -/
def visitAlias (object found : Members) (pair : String × String) : Except NumberFault Members :=
  match dictGet? object pair.2 with
  | none => .ok found
  | some .null => .ok found
  | some candidate =>
    if isTextTarget pair.1 then .ok (dictInsert found (pair.1, candidate))
    else keepGreater found pair.1 candidate

/-- The currency of a `cost` object. -/
def costCurrency (cost : Members) : Json :=
  .str (String.ofList (upper (pyStr (pyOr (field cost "currency") (.str "USD"))).toList))

/-- The `cost` of an object. -/
def visitCost (object found : Members) : Except NumberFault Members :=
  match field object "cost" with
  | .obj cost => do
    match ← number (field cost "amount") with
    | none => return found
    | some _ =>
      return dictInsert (dictInsert found ("cost_amount", field cost "amount"))
        ("cost_currency", costCurrency cost)
  | _ => .ok found

mutual
/-- `visit` of `_extract_usage`. -/
def visit (found : Members) : Json → Except NumberFault Members
  | .obj object => do
    let found ← aliasPairs.foldlM (visitAlias object) found
    let found ← visitCost object found
    visitMembers found object
  | .arr items => visitItems found items
  | _ => .ok found
def visitItems (found : Members) : List Json → Except NumberFault Members
  | [] => .ok found
  | item :: items => do
    let found ← visit found item
    visitItems found items
def visitMembers (found : Members) : Members → Except NumberFault Members
  | [] => .ok found
  | (_, value) :: members => do
    let found ← visit found value
    visitMembers found members
end

/-- The currency of an amount that has none. -/
def defaultCurrency (found : Members) : Members :=
  if (dictGet? found "cost_amount").isSome && (dictGet? found "cost_currency").isNone then
    dictInsert found ("cost_currency", .str "USD")
  else found

/-- `_extract_usage`. -/
def extractUsage (payload : Members) : Except NumberFault Members :=
  defaultCurrency <$> visit [] (.obj payload)

/-! ## What the sink keeps -/

/-- The kinds of usage that `_merge` compares. -/
def isNumberKey (key : String) : Bool :=
  ["input_tokens", "output_tokens", "total_tokens", "context_used_tokens", "context_size_tokens",
    "duration_ms", "cost_amount"].contains key

/-- The more telling of two invocation identifiers. -/
def mergeInvocation (usage : Members) (value : Json) : Members :=
  match textOf value with
  | none => usage
  | some candidate =>
    match textOf (field usage "invocation_id") with
    | none => dictInsert usage ("invocation_id", .str candidate)
    | some current =>
      if isDigitText current.toList && !isDigitText candidate.toList then
        dictInsert usage ("invocation_id", .str candidate)
      else usage

/-- `_merge` on one item. -/
def mergeItem (usage : Members) (item : String × Json) : Except NumberFault Members :=
  if isNull item.2 then .ok usage
  else if isNumberKey item.1 then keepGreater usage item.1 item.2
  else if item.1 = "invocation_id" then .ok (mergeInvocation usage item.2)
  else .ok (dictInsert usage item)

/-- `_merge`. -/
def merge (usage incoming : Members) : Except NumberFault Members := incoming.foldlM mergeItem usage

/-! ## The terminal payload -/

/-- `_is_terminal_adapter_payload`. -/
def isTerminal (payload : Members) : Bool :=
  let has := fun name => (dictGet? payload name).isSome
  let stopped := match field payload "result" with
    | .obj result => (dictGet? result "stopReason").isSome || (dictGet? result "stop_reason").isSome
    | _ => false
  !has "method" && (stopped || has "error" && has "id" ||
    ["return_code", "request_id", "patch_sha256", "status", "ok", "is_error", "total_cost_usd",
      "duration_ms", "durationMs", "latency_ms"].any has)

/-- `_payload_failed`. -/
def payloadFailed (payload : Members) : Except NumberFault Bool :=
  let flagged := match field payload "ok", field payload "is_error" with
    | .bool false, _ => true
    | _, .bool true => true
    | _, _ => (dictGet? payload "error").isSome
  if flagged then .ok true
  else do
    match ← integer (field payload "return_code") with
    | some code => if code ≠ 0 then return true
    | none => pure ()
    let status := casefold (pyStr ((dictGet? payload "status").getD (.str ""))).toList
    return ["error", "failed", "rejected", "canceled"].any fun word => status = word.toList

/-- The price of a model, or the one for all models of its provider. -/
def priceOf (prices : List ModelPriceConfig) (provider model : String) : Option ModelPriceConfig :=
  let named := prices.find? fun item =>
    item.val.provider = folded provider && folded item.val.model = folded model
  let general := prices.find? fun item => item.val.provider = folded provider && item.val.model = "*"
  named.or general

/-- `_calculated_cost`. -/
def calculatedCost (prices : List ModelPriceConfig) (provider model : String)
    (inputTokens outputTokens : Option Int) : Except NumberFault (Option (FloatValue × String)) :=
  if inputTokens.isNone && outputTokens.isNone then .ok none
  else match priceOf prices provider model with
    | none => .ok none
    | some price => do
      let input ← floatOfInt (inputTokens.getD 0)
      let output ← floatOfInt (outputTokens.getD 0)
      let amount := ((input.mul price.val.inputPerMillion.value).add
        (output.mul price.val.outputPerMillion.value)).divBy 1000000
      return some (amount.roundTo 8, price.val.currency)

/-- `UsageContext`. -/
structure UsageContext where
  role : String
  agent : String
  provider : String
  model : String
  driver : String
  taskId : Option String := none
  runId : Option String := none
deriving DecidableEq, Repr

/-- `UsageEvent` of an invocation. -/
structure UsageEvent where
  eventId : String
  createdAtUtc : String
  context : UsageContext
  invocationId : Option String
  durationMs : Int
  inputTokens : Option Int
  outputTokens : Option Int
  totalTokens : Option Int
  contextUsedTokens : Option Int
  contextSizeTokens : Option Int
  costAmount : Option FloatValue
  costCurrency : Option String
  costSource : Option String
  outcome : String

/-- An inbound payload, with the identifier, the time and the duration in milliseconds that the
    call takes from its environment. -/
structure Arrival where
  payload : Members
  eventId : String := ""
  createdAtUtc : String := ""
  elapsed : Nat := 0

-- the prices of the configuration and the context of the sink
variable (prices : List ModelPriceConfig) (context : UsageContext)

/-- What a text of the usage is, or of the context. -/
def usageText (usage : Members) (key : String) (default : String) : String :=
  pyStr (pyOr (field usage key) (.str default))

/-- The currency of a reported cost in the event. -/
def printedCurrency (currency : Json) : String :=
  String.ofList (upper (pyStr (pyOr currency (.str "USD"))).toList)

/-- The cost of the event: the one that is reported, or the one that is calculated. -/
def eventCost (usage : Members) (inputTokens outputTokens : Option Int) :
    Except NumberFault (Option (FloatValue × String) × Option String) := do
  match ← number (field usage "cost_amount") with
  | some amount =>
    return (some (amount, printedCurrency (field usage "cost_currency")), some "provider")
  | none =>
    let calculated ← calculatedCost prices (usageText usage "provider" context.provider)
      (usageText usage "model" context.model) inputTokens outputTokens
    return (calculated, calculated.map fun _ => "configured_price")

/-- The event of a terminal payload. -/
def usageEvent (usage : Members) (arrival : Arrival) : Except NumberFault UsageEvent := do
  let duration ← integer (field usage "duration_ms")
  let inputTokens ← integer (field usage "input_tokens")
  let outputTokens ← integer (field usage "output_tokens")
  let totalTokens ← integer (field usage "total_tokens")
  let cost ← eventCost prices context usage inputTokens outputTokens
  let failed ← payloadFailed arrival.payload
  let contextUsedTokens ← integer (field usage "context_used_tokens")
  let contextSizeTokens ← integer (field usage "context_size_tokens")
  return {
    eventId := arrival.eventId
    createdAtUtc := arrival.createdAtUtc
    context := { context with
      provider := usageText usage "provider" context.provider
      model := usageText usage "model" context.model }
    invocationId := textOf (field usage "invocation_id")
    durationMs := if duration.getD 0 = 0 then arrival.elapsed else duration.getD 0
    inputTokens, outputTokens, totalTokens, contextUsedTokens, contextSizeTokens
    costAmount := cost.1.map Prod.fst
    costCurrency := cost.1.map Prod.snd
    costSource := cost.2
    outcome := if failed then "failure" else "success" }

/-- `AdapterMetricsSink` and the ledger it writes. -/
structure Sink where
  usage : Members := []
  recorded : Bool := false
  ledger : List UsageEvent := []

/-- The end of `_observe`, with the merged usage. -/
def Sink.settle (sink : Sink) (usage : Members) (arrival : Arrival) : Sink :=
  if isTerminal arrival.payload then
    match usageEvent prices context usage arrival with
    | .error _ => { sink with usage }
    | .ok event => { usage, recorded := true, ledger := sink.ledger ++ [event] }
  else { sink with usage }

/-- `__call__` on an inbound payload: `_observe` with its exceptions swallowed. -/
def Sink.observe (sink : Sink) (arrival : Arrival) : Sink :=
  if sink.recorded then sink
  else match extractUsage arrival.payload with
    | .error _ => sink
    | .ok incoming =>
      match merge sink.usage incoming with
      | .error _ => sink
      | .ok usage => sink.settle prices context usage arrival

end LlmHarness.Metrics
