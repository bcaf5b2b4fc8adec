/-
  LlmHarness.Models.Invoke

  `JsonHttpsModelProvider.invoke`: the retry loop over whatever the HTTP sender does, and
  when it ends as it should.

  A request whose `json.dumps` raises ends the call before anything is sent.  A body whose
  `json.loads` raises a `ValueError` or a `RecursionError`, a list or a text where an object is
  expected, and a back-off of more than 1024 doublings end the loop with an exception that is no
  `ModelProviderError`.
-/

import LlmHarness.Lib.EarlyExit
import LlmHarness.Lib.Guards
import LlmHarness.Models.Provider

namespace LlmHarness.Models

open Python

/-! ## The loop -/

/-- What a call of the HTTP sender does. -/
inductive Reply (Body : Type) where
  | response (status : Int) (headers : List (String × String)) (body : Body)
  | timeoutError
  | urlError

/-- What surrounds a call: the credentials, the HTTP sender, the clock and the random source. -/
structure World (Body : Type) where
  credential : String → Option String
  send : HttpRequest → Nat → Reply Body
  latencyMs : Nat → Int
  jitter : Nat → FloatValue

/-- The status of a success. -/
def isSuccess (status : Int) : Bool := !(status < 200 || status ≥ 300)

/-- The error of a request that was not answered. -/
def transportError (endpoint : LiveEndpoint) : ModelProviderError where
  message := "Model request timed out or could not reach the provider."
  provider := endpoint.provider.text
  kind := "transport"
  retryable := true

/-- `except ModelProviderError`: whether the loop may go on. -/
def attemptOf (outcome : Except Fault ModelResponse) : Attempt (Except Fault ModelResponse) :=
  match outcome with
  | .error (.providerError error) =>
    if error.retryable then .transient outcome else .final outcome
  | _ => .final outcome

/-- `min(8.0, delay)`. -/
def atMostEight (delay : FloatValue) : FloatValue :=
  match delay with
  | .finite seconds => if seconds < 8 then .finite seconds else .finite 8
  | .infinite true => .infinite true
  | _ => .finite 8

/-- The delay for a power of two. -/
def delayOf (jitter : FloatValue) : Except NumberFault FloatValue → Except Fault FloatValue
  | .ok power =>
    .ok (atMostEight (((FloatValue.finite (1 / 2)).mul power).add (jitter.mul (.finite (1 / 4)))))
  | .error _ => .error .overflowError

/-- The back-off after an attempt. -/
def backoff (attempts : Nat) (jitter : FloatValue) : Except Fault FloatValue :=
  delayOf jitter (floatOfInt (2 ^ (attempts - 1)))

section

variable {Body : Type} (runtime : Runtime Body) (endpoint : LiveEndpoint)

/-- The outcome of a reply. -/
def outcomeOf (http : HttpRequest) (reply : Reply Body) (attempts : Nat) (latencyMs : Int) :
    Except Fault ModelResponse :=
  match reply with
  | .response status headers body =>
    if isSuccess status then parseResponse runtime endpoint http headers body attempts latencyMs
    else httpStatusError runtime endpoint status headers body >>= fun error =>
      .error (.providerError error)
  | .timeoutError => .error (.providerError (transportError endpoint))
  | .urlError => .error (.providerError (transportError endpoint))

/-- The loop of `invoke`, on the replies. -/
def sendLoop (http : HttpRequest) (replies : Nat → Reply Body) (latencyMs : Nat → Int)
    (jitter : Nat → FloatValue) : Retried (Except Fault ModelResponse) FloatValue :=
  Retried.retry
    (fun n => attemptOf (outcomeOf runtime endpoint http (replies n) (n + 1) (latencyMs n)))
    (fun n => (backoff (n + 1) (jitter n)).mapError .error)
    endpoint.maxRetries 0

/-- `invoke`. -/
def invoke (world : World Body) (request : ModelRequest) :
    Retried (Except Fault ModelResponse) FloatValue :=
  match prepare runtime world.credential endpoint request with
  | .error fault => ⟨.error fault, 0, []⟩
  | .ok http => sendLoop runtime endpoint http (world.send http) world.latencyMs world.jitter

/-! ## The law -/

/-- A reply after which the request may be sent again. -/
def Retryable : Reply Body → Prop
  | .response status _ body =>
    isSuccess status = false ∧ ∃ code, statedCode runtime body = .ok code ∧ isRetryable status code = true
  | .timeoutError => True
  | .urlError => True

/-- A content without a text: `_openai_output_text` passes over it. -/
def PassesContent (content : Json) : Prop :=
  ∃ members, content = .obj members ∧ hasType members "output_text" = false

/-- An item without a text. -/
def PassesItem (item : Json) : Prop :=
  ∃ members, item = .obj members ∧ (hasType members "message" = true →
    ∃ contents, elements (listField members "content") = .ok contents ∧ ∀ content ∈ contents, PassesContent content)

/-- The first text among the contents of the messages. -/
def FirstText (payload : Members) (text : Json) : Prop :=
  ∃ items before message after contents earlier content later,
    elements (listField payload "output") = .ok items ∧
    items = before ++ .obj message :: after ∧ (∀ item ∈ before, PassesItem item) ∧
    hasType message "message" = true ∧ elements (listField message "content") = .ok contents ∧
    contents = earlier ++ .obj content :: later ∧ (∀ content ∈ earlier, PassesContent content) ∧
    hasType content "output_text" = true ∧ dictGet? content "text" = some text

/-- The value that a dialect holds the structured output in. -/
inductive ReplyText (payload : Members) : Provider → Json → Prop where
  | outputText (h : isTruthy (field payload "output_text") = true) :
      ReplyText payload .openai (field payload "output_text")
  | message {text : Json} (h : isTruthy (field payload "output_text") = false)
      (htext : FirstText payload text) : ReplyText payload .openai (.str (runtime.str text))
  | choice {provider : Provider} {choice message : Members} {rest : List Json} {text : Json}
      (hprovider : provider ≠ .openai)
      (hchoices : dictGet? payload "choices" = some (.arr (.obj choice :: rest)))
      (hmessage : dictGet? choice "message" = some (.obj message))
      (htext : dictGet? message "content" = some text) : ReplyText payload provider text

/-- The output is the object that a body holds. -/
def ParsedFrom (body : Body) (output : Members) : Prop :=
  ∃ payload text, runtime.loadsBody body = .value (.obj payload) ∧
    ReplyText runtime payload endpoint.provider (.str text) ∧ runtime.loadsText text = .value (.obj output)

/-- The response is that of the last of `sends` replies, the first that is a success. -/
def Answered (replies : Nat → Reply Body) (sends : Nat) (response : ModelResponse) : Prop :=
  ∃ last status headers body, sends = last + 1 ∧ replies last = .response status headers body ∧
    isSuccess status = true ∧
    (∀ i < last, ∀ status headers body, replies i = .response status headers body → isSuccess status = false) ∧
    ParsedFrom runtime endpoint body response.output ∧ response.evidence.attempts = sends

/-- What a call promises, for the replies it is given. -/
structure Kept (replies : Nat → Reply Body) (run : Retried (Except Fault ModelResponse) FloatValue) :
    Prop where
  bounded : run.attempts ≤ endpoint.maxRetries + 1
  persistent : ∀ i, i + 1 < run.attempts → Retryable runtime (replies i)
  ends : (∃ response, run.result = .ok response ∧ Answered runtime endpoint replies run.attempts response) ∨
    ∃ error, run.result = .error (.providerError error)

/-- **Totality of an invocation.** -/
def InvocationTotal (world : World Body) (request : ModelRequest) : Prop :=
  ∃ http, prepare runtime world.credential endpoint request = .ok http ∧
    Kept runtime endpoint (world.send http) (invoke runtime endpoint world request)

/-! ## When it is kept -/

/-- An element that is no object is met before a content that would end the search. -/
def StrayContent (contents : List Json) : Prop :=
  ∃ before content after, contents = before ++ content :: after ∧
    (∀ other ∈ before, PassesContent other) ∧ ∀ members, content ≠ .obj members

/-- ... or is met in an item, or is the item. -/
def StrayItem (item : Json) : Prop :=
  (∀ members, item ≠ .obj members) ∨
    ∃ members contents, item = .obj members ∧ hasType members "message" = true ∧
      elements (listField members "content") = .ok contents ∧ StrayContent contents

/-- ... or is met in the output of a payload without an `output_text`. -/
def StrayOutput (payload : Members) : Prop :=
  isTruthy (field payload "output_text") = false ∧
    ∃ items before item after, elements (listField payload "output") = .ok items ∧
      items = before ++ item :: after ∧ (∀ other ∈ before, PassesItem other) ∧ StrayItem item

/-- `usage` can be asked for its counts. -/
def UsageReadable (payload : Members) : Prop :=
  isTruthy (field payload "usage") = true → ∃ members, field payload "usage" = .obj members

/-- A payload whose reading ends with an object or a shape error. -/
structure PayloadReadable (payload : Members) : Prop where
  output : endpoint.provider = .openai → ¬ StrayOutput payload
  usage : ∀ text, ReplyText runtime payload endpoint.provider text → UsageReadable payload
  text : ∀ text, ReplyText runtime payload endpoint.provider (.str text) →
    runtime.loadsText text ≠ .recursionError

/-- `json.loads` of a body ends with a value or a decode error. -/
def Loads (body : Body) : Prop :=
  runtime.loadsBody body ≠ .valueError ∧ runtime.loadsBody body ≠ .recursionError

/-- A reply that the provider can read. -/
def Readable : Reply Body → Prop
  | .response status _ body => Loads runtime body ∧ (isSuccess status = true →
      ∀ payload, runtime.loadsBody body = .value (.obj payload) → PayloadReadable runtime endpoint payload)
  | .timeoutError => True
  | .urlError => True

/-- The containers around the contract, in the payload of a dialect: `text`, `format` and the
    payload itself, or none where the contract is sent as a text. -/
def contractDepth (provider : Provider) : Nat := if provider = .openai then 3 else 0

/-- A request that `json.dumps` prints. -/
structure Encodable (request : ModelRequest) : Prop where
  maxOutputTokens : isWritableInt endpoint.maxOutputTokens
  schema : ∀ value ∈ intsOf (.obj request.outputSchema), isWritableInt value
  room : 3 ≤ runtime.encodeDepth
  depth : contractDepth endpoint.provider + nesting (.obj request.outputSchema) ≤ runtime.encodeDepth

/-- Every reply that is reached is readable, and no retry follows the attempt 1025. -/
structure Manageable (replies : Nat → Reply Body) : Prop where
  readable : ∀ n ≤ endpoint.maxRetries, (∀ i < n, Retryable runtime (replies i)) →
    Readable runtime endpoint (replies n)
  backoff : 1025 ≤ endpoint.maxRetries → ∃ i < 1025, ¬ Retryable runtime (replies i)

end

end LlmHarness.Models
