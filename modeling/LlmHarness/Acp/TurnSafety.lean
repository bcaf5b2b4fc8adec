/-
  LlmHarness.Acp.TurnSafety

  What a turn of the client promises, whatever the agent writes: it ends with the first
  error-free response to its request or with an `AcpError`, it answers every request of the
  agent once and in order, and a permission answer names no option that it must not name.

  The loop takes every line for an object, takes `True` for the number one, and takes the
  identifier of an option for its kind.  Where the agent writes none of these up to the
  line the loop ends at, the promise is kept, and only there.
-/

import LlmHarness.Acp.Client
import LlmHarness.Python.JsonRoundTrip
import LlmHarness.Python.Strip

namespace LlmHarness.Acp

open Python Config

section

variable [Config.Runtime] (policy : RoleMcpPolicyConfig) (loads : Text → Loaded) (expectedId : Int)

/-! ## What the agent has written -/

/-- The message on a line, if the line holds one. -/
def lineMessage (line : Text) : Option Json :=
  if strip line = [] then none
  else match loads (strip line) with
    | .value message => some message
    | _ => none

/-- A message with a method and an identifier is a request. -/
def serverRequest? : Json → Option Members
  | .obj message =>
    if (dictGet? message "method").isSome ∧ (dictGet? message "id").isSome then some message else none
  | _ => none

/-- The requests among the lines. -/
def serverRequests (lines : List Text) : List Members :=
  lines.filterMap fun line => (lineMessage loads line).bind serverRequest?

/-- A value is the number of a request. -/
def HasId (value : Json) (number : Int) : Prop :=
  match value with
  | .int i => i = number
  | .float f => f.value = .finite number
  | _ => False

/-- A message is an error-free response to the request. -/
def ErrorFree : Json → Prop
  | .obj message =>
    dictGet? message "method" = none ∧ HasId (field message "id") expectedId ∧
      dictGet? message "error" = none
  | _ => False

/-! ## The promise -/

/-- An answer selects an option. -/
def Selects (answer : Members) (optionId : String) : Prop :=
  ∃ result outcome, field answer "result" = .obj result ∧ field result "outcome" = .obj outcome ∧
    field outcome "optionId" = .str optionId

/-- The answer to a request. -/
structure Answers (request answer : Members) : Prop where
  version : field answer "jsonrpc" = .str "2.0"
  id : field answer "id" = field request "id"
  kind : (dictGet? answer "result").isSome = !(dictGet? answer "error").isSome
  permission : field request "method" = .str "session/request_permission" →
    ∀ optionId, Selects answer optionId → SafeOption policy request optionId

/-- The last of the lines that were read holds the first error-free response. -/
def FirstResponse (read : List Text) (response : Members) : Prop :=
  ∃ before line, read = before ++ [line] ∧ lineMessage loads line = some (.obj response) ∧
    ErrorFree expectedId (.obj response) ∧
    ∀ earlier ∈ before, ∀ message, lineMessage loads earlier = some message →
      ¬ ErrorFree expectedId message

/-- How the turn may end. -/
def EndsSafely (read : List Text) : Except ReadFault Members → Prop
  | .ok response => FirstResponse loads expectedId read response
  | .error (.acpError _) => True
  | .error _ => False

/-- **The promise of a turn.** -/
def TurnSafe (lines : List Text) : Prop :=
  let turn := readResponse policy loads expectedId lines {}
  EndsSafely loads expectedId turn.2.read turn.1 ∧
    List.Forall₂ (Answers policy) (serverRequests loads turn.2.read) turn.2.written

/-! ## When it is kept -/

/-- What the client can do with a message. -/
def FineMessage : Json → Prop
  | .obj message =>
    (∀ request, serverRequest? (.obj message) = some request →
      field request "method" = .str "session/request_permission" → ClearChoice policy request) ∧
    (dictGet? message "method" = none → dictGet? message "error" = none →
      ∀ flag, field message "id" = .bool flag → equalsInt (.bool flag) expectedId = false)
  | .arr items => .str "method" ∈ items ∧ .str "id" ∉ items
  | .str text => "method".toList <:+: text.toList ∧ ¬ "id".toList <:+: text.toList
  | _ => False

/-- ... and with a line. -/
def FineLine (line : Text) : Prop :=
  strip line = [] ∨
    match loads (strip line) with
    | .value message => FineMessage policy expectedId message
    | .decodeError => True
    | .raises => False

/-- The loop ends at a line: the end of file, no JSON document, or a response. -/
def EndsAt (line : Text) : Prop :=
  line = [] ∨ strip line ≠ [] ∧
    match loads (strip line) with
    | .value (.obj message) =>
      dictGet? message "method" = none ∧ equalsInt (field message "id") expectedId = true
    | .value _ => False
    | .decodeError => True
    | .raises => False

/-- Every line up to the one the loop ends at is fine. -/
def FineTurn : List Text → Prop
  | [] => True
  | line :: rest =>
    FineLine policy loads expectedId line ∧ (EndsAt loads expectedId line ∨ FineTurn rest)

/-! ## One line -/

variable {policy loads expectedId}

/-- What the client has read, written and noticed before. -/
def ClientState.append (before after : ClientState) : ClientState where
  read := before.read ++ after.read
  written := before.written ++ after.written
  notifications := before.notifications ++ after.notifications

/-- What was there before does not alter the turn. -/
theorem readResponse_append (lines : List Text) (state : ClientState) :
    readResponse policy loads expectedId lines state =
      ((readResponse policy loads expectedId lines {}).1,
        state.append (readResponse policy loads expectedId lines {}).2) := by
  induction lines generalizing state with
  | nil => simp [readResponse, ClientState.append]
  | cons line rest ih =>
      rw [readResponse, readResponse]
      cases readLine policy loads expectedId line with
      | error fault => simp [ClientState.append]
      | ok next =>
          cases next with
          | returned response => simp [ClientState.append]
          | answered answer =>
              simp only
              rw [ih, ih { read := [] ++ [line], written := [] ++ [answer] }]
              simp [ClientState.append]
          | noticed notification =>
              simp only
              rw [ih, ih { read := [] ++ [line], notifications := [] ++ [notification] }]
              simp [ClientState.append]
          | skipped =>
              simp only
              rw [ih, ih { read := [] ++ [line] }]
              simp [ClientState.append]

omit [Config.Runtime] in
theorem serverRequests_cons (line : Text) (lines : List Text) :
    serverRequests loads (line :: lines) =
      ((lineMessage loads line).bind serverRequest?).toList ++ serverRequests loads lines := by
  unfold serverRequests
  rw [List.filterMap_cons]
  cases (lineMessage loads line).bind serverRequest? <;> rfl

omit [Config.Runtime] in
/-- A line before the response changes nothing about it. -/
theorem endsSafely_cons {line : Text}
    (hline : ∀ message, lineMessage loads line = some message → ¬ ErrorFree expectedId message)
    (read : List Text) (outcome : Except ReadFault Members) :
    EndsSafely loads expectedId (line :: read) outcome ↔ EndsSafely loads expectedId read outcome := by
  cases outcome with
  | error fault => cases fault <;> exact Iff.rfl
  | ok response =>
      show FirstResponse loads expectedId (line :: read) response ↔ FirstResponse loads expectedId read response
      constructor
      · rintro ⟨before, last, hread, hlast, hfree, hbefore⟩
        cases before with
        | nil =>
            cases hread
            exact absurd hfree (hline _ hlast)
        | cons first before =>
            cases hread
            exact ⟨before, last, rfl, hlast, hfree, fun earlier h => hbefore earlier (List.mem_cons_of_mem _ h)⟩
      · rintro ⟨before, last, rfl, hlast, hfree, hbefore⟩
        exact ⟨line :: before, last, rfl, hlast, hfree, List.forall_mem_cons.mpr ⟨hline, hbefore⟩⟩

/-- A line that raises: the turn is safe if it raises an `AcpError` and no request is on it. -/
theorem turnSafe_of_error {line : Text} {fault : ReadFault}
    (h : readLine policy loads expectedId line = .error fault)
    (hnone : (lineMessage loads line).bind serverRequest? = none) (rest : List Text) :
    TurnSafe policy loads expectedId (line :: rest) ↔ ∃ message, fault = .acpError message := by
  have hturn : readResponse policy loads expectedId (line :: rest) {} =
      (.error fault, { read := [line] }) := by
    rw [readResponse, h]
    rfl
  have hrequests : serverRequests loads [line] = [] := by
    rw [serverRequests_cons, hnone]
    rfl
  rw [TurnSafe, hturn]
  show EndsSafely loads expectedId [line] (.error fault) ∧ List.Forall₂ _ (serverRequests loads [line]) [] ↔ _
  rw [hrequests, and_iff_left List.Forall₂.nil]
  cases fault with
  | acpError message => exact iff_of_true trivial ⟨message, rfl⟩
  | _ => exact ⟨False.elim, fun ⟨_, hfault⟩ => by cases hfault⟩

/-- A line that holds what is returned. -/
theorem turnSafe_of_returned {line : Text} {response : Members}
    (h : readLine policy loads expectedId line = .ok (.returned response))
    (hline : lineMessage loads line = some (.obj response))
    (hnone : serverRequest? (.obj response) = none) (rest : List Text) :
    TurnSafe policy loads expectedId (line :: rest) ↔ ErrorFree expectedId (.obj response) := by
  have hturn : readResponse policy loads expectedId (line :: rest) {} =
      (.ok response, { read := [line] }) := by
    rw [readResponse, h]
    rfl
  have hrequests : serverRequests loads [line] = [] := by
    rw [serverRequests_cons, hline, Option.bind_some, hnone]
    rfl
  rw [TurnSafe, hturn]
  show FirstResponse loads expectedId [line] response ∧
    List.Forall₂ _ (serverRequests loads [line]) [] ↔ _
  rw [hrequests, and_iff_left List.Forall₂.nil]
  constructor
  · rintro ⟨before, last, hread, hlast, hfree, -⟩
    exact hfree
  · intro hfree
    exact ⟨[], line, rfl, hline, hfree, fun _ hmem => (nomatch hmem)⟩

/-- A line after which the loop goes on. -/
theorem turnSafe_of_continued {line : Text} {next : Dispatch}
    (h : readLine policy loads expectedId line = .ok next)
    (hnext : next = .skipped ∨ ∃ notification, next = .noticed notification)
    (hnone : (lineMessage loads line).bind serverRequest? = none)
    (hline : ∀ message, lineMessage loads line = some message → ¬ ErrorFree expectedId message)
    (rest : List Text) :
    TurnSafe policy loads expectedId (line :: rest) ↔ TurnSafe policy loads expectedId rest := by
  obtain ⟨noticed, hturn⟩ : ∃ noticed, readResponse policy loads expectedId (line :: rest) {} =
      readResponse policy loads expectedId rest { read := [line], notifications := noticed } := by
    rw [readResponse, h]
    rcases hnext with rfl | ⟨notification, rfl⟩
    · exact ⟨[], rfl⟩
    · exact ⟨[notification], rfl⟩
  rw [TurnSafe, TurnSafe, hturn, readResponse_append]
  show EndsSafely loads expectedId (line :: _) _ ∧
    List.Forall₂ _ (serverRequests loads (line :: _)) ([] ++ _) ↔ _
  rw [endsSafely_cons hline, serverRequests_cons, hnone]
  exact Iff.rfl

/-- A line with a request. -/
theorem turnSafe_of_answered {line : Text} {request answer : Members}
    (h : readLine policy loads expectedId line = .ok (.answered answer))
    (hline : lineMessage loads line = some (.obj request))
    (hrequest : serverRequest? (.obj request) = some request) (rest : List Text) :
    TurnSafe policy loads expectedId (line :: rest) ↔
      Answers policy request answer ∧ TurnSafe policy loads expectedId rest := by
  have hturn : readResponse policy loads expectedId (line :: rest) {} =
      readResponse policy loads expectedId rest { read := [line], written := [answer] } := by
    rw [readResponse, h]
    rfl
  -- a line with a method is no response, so the loop goes on behind it
  have hmethod : (dictGet? request "method").isSome := by
    by_contra hno
    simp [serverRequest?, hno] at hrequest
  have hfree : ∀ message, lineMessage loads line = some message → ¬ ErrorFree expectedId message := by
    intro message hmessage hfree
    rw [hline] at hmessage
    cases hmessage
    rw [hfree.1] at hmethod
    cases hmethod
  rw [TurnSafe, TurnSafe, hturn, readResponse_append]
  show EndsSafely loads expectedId (line :: _) _ ∧
    List.Forall₂ _ (serverRequests loads (line :: _)) (answer :: _) ↔ _
  rw [endsSafely_cons hfree, serverRequests_cons, hline, Option.bind_some, hrequest]
  show _ ∧ List.Forall₂ _ (request :: _) (answer :: _) ↔ _
  rw [List.forall₂_cons, and_left_comm]
  exact Iff.rfl

/-! ## Answers -/

theorem selects_permissionAnswer (version id : Json) (message : Members) (optionId : String) :
    Selects [("jsonrpc", version), ("id", id),
        ("result", .obj [("outcome", .obj (permissionOutcome policy message))])] optionId ↔
      permissionOption policy message = some optionId := by
  have hresult : ∀ outcome : Members, field [("jsonrpc", version), ("id", id),
      ("result", .obj [("outcome", .obj outcome)])] "result" = .obj [("outcome", .obj outcome)] :=
    fun _ => rfl
  have houtcome : ∀ outcome : Members, field [("outcome", Json.obj outcome)] "outcome" = .obj outcome :=
    fun _ => rfl
  unfold Selects
  simp only [hresult, Json.obj.injEq]
  constructor
  · rintro ⟨result, outcome, rfl, hout, hid⟩
    rw [houtcome, Json.obj.injEq] at hout
    subst hout
    unfold permissionOutcome at hid
    -- the outcome selects an option exactly when the policy found one
    cases hoption : permissionOption policy message with
    | none =>
        rw [hoption] at hid
        cases hid
    | some chosen =>
        rw [hoption] at hid
        exact congrArg some (Json.str.inj hid)
  · intro hoption
    refine ⟨_, _, rfl, houtcome _, ?_⟩
    rw [permissionOutcome, hoption]
    rfl

omit [Config.Runtime] in
theorem isNamed_iff {name : String} {value : Json} : isNamed name value = true ↔ value = .str name := by
  cases value <;> simp [isNamed]

/-- The answer to a request is right, but for the option of a permission. -/
theorem answers_serverAnswer_iff (request : Members) :
    Answers policy request (serverAnswer policy request) ↔
      (field request "method" = .str "session/request_permission" → ClearChoice policy request) := by
  unfold serverAnswer
  by_cases hmethod : isNamed "session/request_permission" (field request "method") = true
  · have hpermission := isNamed_iff.mp hmethod
    rw [if_pos hmethod]
    constructor
    · intro h _
      refine safeOption_iff.mp fun optionId hoption => ?_
      exact h.permission hpermission optionId ((selects_permissionAnswer _ _ _ _).mpr hoption)
    · intro h
      refine ⟨rfl, rfl, rfl, fun _ optionId hselects => ?_⟩
      exact safeOption_iff.mpr (h hpermission) optionId ((selects_permissionAnswer _ _ _ _).mp hselects)
  · have hother : field request "method" ≠ .str "session/request_permission" := fun hsame =>
      hmethod (isNamed_iff.mpr hsame)
    rw [if_neg hmethod]
    exact iff_of_true ⟨rfl, rfl, rfl, fun h => absurd h hother⟩ fun h => absurd h hother

/-! ## The promise, line by line -/

omit [Config.Runtime] in
theorem isIn_obj (name : String) (message : Members) :
    isIn name (.obj message) = .ok (dictGet? message name).isSome := rfl

omit [Config.Runtime] in
theorem hasId_iff (value : Json) (number : Int) :
    HasId value number ↔ equalsInt value number = true ∧ ∀ flag, value ≠ .bool flag := by
  cases value <;> simp [HasId, equalsInt]

/-- What the loop does with an object. -/
theorem dispatch_obj (message : Members) :
    dispatch policy expectedId (.obj message) =
      if (dictGet? message "method").isSome = true ∧ (dictGet? message "id").isSome = true then
        .ok (.answered (serverAnswer policy message))
      else if (dictGet? message "method").isSome = true then .ok (.noticed (.obj message))
      else if equalsInt (field message "id") expectedId = true then
        if (dictGet? message "error").isSome = true then
          .error (.acpError ("ACP request failed: " ++ pyStr (field message "error")))
        else .ok (.returned message)
      else .ok .skipped := by
  simp only [dispatch, isIn_obj, asObject, Bool.and_eq_true]
  rfl

/-- An object with a method is a request, which is answered, or a notification. -/
theorem turnSafe_method {line : Text} {message : Members}
    (hread : readLine policy loads expectedId line = dispatch policy expectedId (.obj message))
    (hline : lineMessage loads line = some (.obj message)) (rest : List Text)
    (hmethod : (dictGet? message "method").isSome = true) :
    TurnSafe policy loads expectedId (line :: rest) ↔
      FineMessage policy expectedId (.obj message) ∧ TurnSafe policy loads expectedId rest := by
  rw [dispatch_obj] at hread
  have hno : dictGet? message "method" ≠ none := Option.isSome_iff_ne_none.mp hmethod
  -- with an id it is a request and is answered, without one it is a notification
  by_cases hid : (dictGet? message "id").isSome = true
  · have hrequest : serverRequest? (.obj message) = some message := if_pos ⟨hmethod, hid⟩
    rw [if_pos ⟨hmethod, hid⟩] at hread
    rw [turnSafe_of_answered hread hline hrequest, answers_serverAnswer_iff]
    constructor
    · rintro ⟨hclear, hrest⟩
      refine ⟨⟨fun request hsame => ?_, fun hnone => absurd hnone hno⟩, hrest⟩
      rw [hrequest] at hsame
      cases hsame
      exact hclear
    · rintro ⟨⟨hclear, -⟩, hrest⟩
      exact ⟨hclear message hrequest, hrest⟩
  · have hrequest : serverRequest? (.obj message) = none := if_neg fun h => hid h.2
    -- a notification is no response
    have hfree : ∀ other, lineMessage loads line = some other → ¬ ErrorFree expectedId other := by
      intro other hother hfree
      rw [hline] at hother
      cases hother
      exact hno hfree.1
    have hfine : FineMessage policy expectedId (.obj message) := by
      refine ⟨fun request hsame => ?_, fun hnone => absurd hnone hno⟩
      rw [hrequest] at hsame
      cases hsame
    rw [if_neg fun h => hid h.2, if_pos hmethod] at hread
    rw [turnSafe_of_continued hread (Or.inr ⟨_, rfl⟩) (by rw [hline]; exact hrequest) hfree]
    exact (and_iff_right hfine).symm

/-- What is fine of an object without a method: a flag is not taken for the expected id. -/
theorem fineMessage_response {message : Members} (hnone : dictGet? message "method" = none) :
    FineMessage policy expectedId (.obj message) ↔
      (dictGet? message "error" = none → ∀ flag, field message "id" = .bool flag →
        equalsInt (.bool flag) expectedId = false) := by
  refine ⟨fun h => h.2 hnone, fun h => ⟨fun request hsame => ?_, fun _ => h⟩⟩
  have hrequest : serverRequest? (.obj message) = none := if_neg fun h => by
    rw [hnone] at h
    cases h.1
  rw [hrequest] at hsame
  cases hsame

/-- An object without a method is a response, to this request or to another one. -/
theorem turnSafe_response {line : Text} {message : Members}
    (hread : readLine policy loads expectedId line = dispatch policy expectedId (.obj message))
    (hline : lineMessage loads line = some (.obj message)) (rest : List Text)
    (hnone : dictGet? message "method" = none) :
    TurnSafe policy loads expectedId (line :: rest) ↔
      FineMessage policy expectedId (.obj message) ∧
        (equalsInt (field message "id") expectedId = true ∨ TurnSafe policy loads expectedId rest) := by
  have hmethod : ¬ (dictGet? message "method").isSome = true := by
    rw [hnone]
    exact Bool.false_ne_true
  have hrequest : serverRequest? (.obj message) = none := if_neg fun h => hmethod h.1
  have hquiet : (lineMessage loads line).bind serverRequest? = none := by
    rw [hline]
    exact hrequest
  rw [dispatch_obj, if_neg fun h => hmethod h.1, if_neg hmethod] at hread
  rw [fineMessage_response hnone]
  -- a response to this request ends the loop, with an error or with its result
  by_cases hid : equalsInt (field message "id") expectedId = true
  · rw [if_pos hid] at hread
    by_cases herror : (dictGet? message "error").isSome = true
    · rw [if_pos herror] at hread
      rw [turnSafe_of_error hread hquiet]
      refine iff_of_true ⟨_, rfl⟩ ⟨fun hno => ?_, Or.inl hid⟩
      rw [hno] at herror
      cases herror
    · have hno : dictGet? message "error" = none := Option.not_isSome_iff_eq_none.mp herror
      rw [if_neg herror] at hread
      rw [turnSafe_of_returned hread hline hrequest]
      show dictGet? message "method" = none ∧ HasId (field message "id") expectedId ∧
        dictGet? message "error" = none ↔ _
      rw [hasId_iff]
      constructor
      · rintro ⟨-, ⟨-, hflag⟩, -⟩
        exact ⟨fun _ flag hsame => absurd hsame (hflag flag), Or.inl hid⟩
      · rintro ⟨hflag, -⟩
        refine ⟨hnone, ⟨hid, fun flag hsame => ?_⟩, hno⟩
        rw [hsame, hflag hno flag hsame] at hid
        cases hid
  · rw [if_neg hid] at hread
    have hfree : ∀ other, lineMessage loads line = some other → ¬ ErrorFree expectedId other := by
      intro other hother hfree
      rw [hline] at hother
      cases hother
      exact hid ((hasId_iff _ _).mp hfree.2.1).1
    rw [turnSafe_of_continued hread (Or.inl rfl) hquiet hfree, or_iff_right hid]
    refine (and_iff_right fun _ flag hsame => ?_).symm
    rw [hsame] at hid
    exact Bool.eq_false_iff.mpr hid

/-- A line with an object. -/
theorem turnSafe_obj {line : Text} {message : Members}
    (hread : readLine policy loads expectedId line = dispatch policy expectedId (.obj message))
    (hline : lineMessage loads line = some (.obj message)) (rest : List Text) :
    TurnSafe policy loads expectedId (line :: rest) ↔
      FineMessage policy expectedId (.obj message) ∧
        ((dictGet? message "method" = none ∧ equalsInt (field message "id") expectedId = true) ∨
          TurnSafe policy loads expectedId rest) := by
  by_cases hmethod : (dictGet? message "method").isSome = true
  · have hno : dictGet? message "method" ≠ none := Option.isSome_iff_ne_none.mp hmethod
    rw [turnSafe_method hread hline rest hmethod, or_iff_right fun h => hno h.1]
  · have hnone : dictGet? message "method" = none := Option.not_isSome_iff_eq_none.mp hmethod
    rw [turnSafe_response hread hline rest hnone, and_iff_right hnone]

/-- A line with a document that is no object: it is noticed, or something is raised that is
    no `AcpError`. -/
theorem turnSafe_other {line : Text} {message : Json}
    (hread : readLine policy loads expectedId line = dispatch policy expectedId message)
    (hline : lineMessage loads line = some message) (hother : ∀ members, message ≠ .obj members)
    (rest : List Text) :
    TurnSafe policy loads expectedId (line :: rest) ↔
      FineMessage policy expectedId message ∧ TurnSafe policy loads expectedId rest := by
  have hrequest : (lineMessage loads line).bind serverRequest? = none := by
    rw [hline, Option.bind_some]
    cases message with
    | obj members => exact absurd rfl (hother members)
    | _ => rfl
  -- what is no object is no response
  have hfree : ∀ other, lineMessage loads line = some other → ¬ ErrorFree expectedId other := by
    intro other hsame hfree
    rw [hline] at hsame
    cases hsame
    cases message with
    | obj members => exact hother members rfl
    | _ => exact hfree
  have hnoticed : (∃ notification, dispatch policy expectedId message = .ok (.noticed notification)) →
      FineMessage policy expectedId message →
      (TurnSafe policy loads expectedId (line :: rest) ↔
        FineMessage policy expectedId message ∧ TurnSafe policy loads expectedId rest) := by
    rintro ⟨notification, hnotification⟩ hfine
    rw [hnotification] at hread
    rw [turnSafe_of_continued hread (Or.inr ⟨_, rfl⟩) hrequest hfree, and_iff_right hfine]
  have hraised : (∃ fault, dispatch policy expectedId message = .error fault ∧
        ∀ text, fault ≠ .acpError text) → ¬ FineMessage policy expectedId message →
      (TurnSafe policy loads expectedId (line :: rest) ↔
        FineMessage policy expectedId message ∧ TurnSafe policy loads expectedId rest) := by
    rintro ⟨fault, hfault, hacp⟩ hfine
    rw [hfault] at hread
    rw [turnSafe_of_error hread hrequest]
    exact iff_of_false (fun ⟨text, hsame⟩ => hacp text hsame) fun h => hfine h.1
  have hdispatch : ∀ method id, isIn "method" message = .ok method → isIn "id" message = .ok id →
      asObject message = .error .attributeError →
      dispatch policy expectedId message =
        if method = true ∧ id = false then .ok (.noticed message) else .error .attributeError := by
    -- a text or a list may hold the two words, and then counts as a notification
    intro method id hmethod hid hobject
    simp only [dispatch, hmethod, hid, hobject]
    cases method <;> cases id <;> rfl
  have hsettle : ∀ method id, isIn "method" message = .ok method → isIn "id" message = .ok id →
      asObject message = .error .attributeError →
      (FineMessage policy expectedId message ↔ method = true ∧ id = false) →
      (TurnSafe policy loads expectedId (line :: rest) ↔
        FineMessage policy expectedId message ∧ TurnSafe policy loads expectedId rest) := by
    intro method id hmethod hid hobject hfine
    have hdone := hdispatch method id hmethod hid hobject
    by_cases hboth : method = true ∧ id = false
    · rw [if_pos hboth] at hdone
      exact hnoticed ⟨message, hdone⟩ (hfine.mpr hboth)
    · rw [if_neg hboth] at hdone
      exact hraised ⟨_, hdone, fun _ => nofun⟩ fun h => hboth (hfine.mp h)
  cases message with
  -- what is no object can at most be taken for a notification
  | obj members => exact absurd rfl (hother members)
  | arr items =>
      have hmem : ∀ name : String, items.any (isNamed name) = true ↔ .str name ∈ items := by
        intro name
        simp only [List.any_eq_true, isNamed_iff]
        exact ⟨fun ⟨item, hitem, hsame⟩ => hsame ▸ hitem, fun h => ⟨_, h, rfl⟩⟩
      refine hsettle _ _ rfl rfl rfl ?_
      rw [hmem, Bool.eq_false_iff, ne_eq, hmem]
      exact Iff.rfl
  | str text =>
      have hfind : ∀ name : String, (find name.toList text.toList).isSome = true ↔
          name.toList <:+: text.toList := by
        intro name
        rw [Option.isSome_iff_ne_none, ne_eq, find_eq_none_iff, not_not]
      refine hsettle _ _ rfl rfl rfl ?_
      rw [hfind, Bool.eq_false_iff, ne_eq, hfind]
      exact Iff.rfl
  | _ => exact hraised ⟨.typeError, rfl, fun _ => nofun⟩ id

/-- **One line of a turn.** -/
theorem turnSafe_cons (line : Text) (rest : List Text) :
    TurnSafe policy loads expectedId (line :: rest) ↔
      FineLine policy loads expectedId line ∧
        (EndsAt loads expectedId line ∨ TurnSafe policy loads expectedId rest) := by
  -- the end of the output, a blank line, or a line with a document
  by_cases hempty : line = []
  · have hblank : strip line = [] := by rw [hempty]; rfl
    have hread : readLine policy loads expectedId line =
        .error (.acpError "ACP server closed stdout before responding.") := if_pos hempty
    have hnone : (lineMessage loads line).bind serverRequest? = none := by
      rw [lineMessage, if_pos hblank]
      rfl
    rw [turnSafe_of_error hread hnone]
    exact iff_of_true ⟨_, rfl⟩ ⟨Or.inl hblank, Or.inl (Or.inl hempty)⟩
  by_cases hblank : strip line = []
  · have hread : readLine policy loads expectedId line = .ok .skipped := by
      rw [readLine, if_neg hempty, if_pos hblank]
    have hmessage : lineMessage loads line = none := if_pos hblank
    have hquiet : ∀ message, lineMessage loads line = some message → ¬ ErrorFree expectedId message := by
      intro message hsome
      rw [hmessage] at hsome
      cases hsome
    rw [turnSafe_of_continued hread (Or.inl rfl) (by rw [hmessage]; rfl) hquiet]
    have hends : ¬ EndsAt loads expectedId line := by
      rintro (h | ⟨h, -⟩)
      · exact hempty h
      · exact h hblank
    rw [or_iff_right hends]
    exact (and_iff_right (Or.inl hblank)).symm
  -- a line that is not blank is fine, and ends the loop, by what its JSON document is
  rw [FineLine, or_iff_right hblank, EndsAt, or_iff_right hempty, and_iff_right hblank]
  cases hloads : loads (strip line) with
  | decodeError =>
      have hread : readLine policy loads expectedId line =
          .error (.acpError ("Invalid ACP JSON-RPC line: " ++ String.ofList (strip line))) := by
        rw [readLine, if_neg hempty, if_neg hblank, hloads]
      have hmessage : lineMessage loads line = none := by
        rw [lineMessage, if_neg hblank, hloads]
      rw [turnSafe_of_error hread (by rw [hmessage]; rfl)]
      exact iff_of_true ⟨_, rfl⟩ ⟨trivial, Or.inl trivial⟩
  | raises =>
      have hread : readLine policy loads expectedId line = .error .loadsError := by
        rw [readLine, if_neg hempty, if_neg hblank, hloads]
      have hmessage : lineMessage loads line = none := by
        rw [lineMessage, if_neg hblank, hloads]
      rw [turnSafe_of_error hread (by rw [hmessage]; rfl)]
      refine iff_of_false ?_ And.left
      rintro ⟨message, h⟩
      cases h
  | value message =>
      have hread : readLine policy loads expectedId line = dispatch policy expectedId message := by
        rw [readLine, if_neg hempty, if_neg hblank, hloads]
      have hmessage : lineMessage loads line = some message := by
        rw [lineMessage, if_neg hblank, hloads]
      cases message with
      | obj members => exact turnSafe_obj hread hmessage rest
      | _ =>
          rw [turnSafe_other hread hmessage (fun _ h => by cases h)]
          exact and_congr_right fun _ => (or_iff_right id).symm

/-- **The promise of a turn is kept exactly when every line up to its end is fine.** -/
theorem turnSafe_iff (lines : List Text) :
    TurnSafe policy loads expectedId lines ↔ FineTurn policy loads expectedId lines := by
  induction lines with
  | nil => exact iff_of_true ⟨trivial, List.Forall₂.nil⟩ trivial
  | cons line rest ih => rw [turnSafe_cons, FineTurn, ih]

end

/-! ## Two lines that break it -/

/-- The policies below have no servers. -/
local instance turnRuntime : Config.Runtime := quietRuntime

/-- `json.loads` on documents without long integers and deep nesting. -/
def loadsShallow (text : Text) : Loaded :=
  match Python.loads text with
  | some message => .value message
  | none => .decodeError

/-- A request to edit that offers one option to allow once and to allow always. -/
def sharedOption : Members :=
  [("id", .int 7), ("method", .str "session/request_permission"),
    ("params", .obj [("toolCall", .obj [("kind", .str "edit")]),
      ("options", .arr [.obj [("kind", .str "allow_once"), ("optionId", .str "go")],
        .obj [("kind", .str "allow_always"), ("optionId", .str "go")]])])]

theorem loadsShallow_sharedOption :
    loadsShallow (strip (Json.dumps (.obj sharedOption))) = .value (.obj sharedOption) := by
  have hhead : lstrip (Json.dumps (.obj sharedOption)) = Json.dumps (.obj sharedOption) :=
    lstrip_of_head (by decide)
  have hstrip : strip (Json.dumps (.obj sharedOption)) = Json.dumps (.obj sharedOption) := by
    rw [strip, hhead]
    exact rstrip_append_singleton (by decide)
  have hkeys : Json.DistinctKeys (.obj sharedOption) := by
    simp [sharedOption, Json.DistinctKeys, Json.DistinctMembers, Json.DistinctItems]
  rw [hstrip, loadsShallow, loads_dumps _ hkeys]

/-- The role that may edit. -/
def editPolicy : RoleMcpPolicyConfig :=
  Built.of _ { permissionMode := "allow_once", allowedToolKinds := ["edit"] } (by decide +kernel)

/-- The role that may do nothing. -/
def rejectPolicy : RoleMcpPolicyConfig := Built.of _ {} (by decide +kernel)

theorem not_clearChoice_sharedOption : ¬ ClearChoice editPolicy sharedOption := by
  intro hclear
  have hfirst : OffersFirst sharedOption "allow_once" "go" := ⟨[], _, _, rfl, rfl, nofun⟩
  exact hclear.allowed (by decide +kernel) "go" hfirst ⟨_, rfl, _, List.mem_cons_of_mem _ List.mem_cons_self, rfl⟩

/-- A line with a number is a `TypeError`, and the option of a permission may be one that
    allows always. -/
theorem not_turnSafe_agent :
    ¬ TurnSafe rejectPolicy loadsShallow 1 ["5\n".toList] ∧
      ¬ TurnSafe editPolicy loadsShallow 1 [Json.dumps (.obj sharedOption)] := by
  constructor
  · rintro ⟨hends, -⟩
    have hturn : (readResponse rejectPolicy loadsShallow 1 ["5\n".toList] {}).1 = .error .typeError := rfl
    rw [hturn] at hends
    exact hends
  · rw [turnSafe_cons, FineLine, loadsShallow_sharedOption]
    rintro ⟨hblank | hfine, -⟩
    · have hvalue := loadsShallow_sharedOption
      rw [hblank] at hvalue
      cases hvalue
    · exact not_clearChoice_sharedOption (hfine.1 sharedOption rfl rfl)

end LlmHarness.Acp
