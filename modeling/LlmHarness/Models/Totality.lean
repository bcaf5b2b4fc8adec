/-
  LlmHarness.Models.Totality

  An invocation ends as promised exactly when every reply that is reached is readable and
  no retry follows the attempt 1025.
-/

import LlmHarness.Models.Reading

namespace LlmHarness.Models

open Python

section

variable {Body : Type} {runtime : Runtime Body} {endpoint : LiveEndpoint}

/-! ## One reply -/

/-- An outcome other than a response and a `ModelProviderError`. -/
def Escapes (outcome : Except Fault ModelResponse) : Prop :=
  ∃ fault, outcome = .error fault ∧ ∀ error, fault ≠ .providerError error

theorem not_escapes_iff {outcome : Except Fault ModelResponse} :
    ¬ Escapes outcome ↔ (∃ response, outcome = .ok response) ∨
      ∃ error, outcome = .error (.providerError error) := by
  constructor
  · intro h
    cases outcome with
    | ok response => exact Or.inl ⟨response, rfl⟩
    | error fault =>
      by_cases hfault : ∃ error, fault = .providerError error
      · obtain ⟨error, rfl⟩ := hfault
        exact Or.inr ⟨error, rfl⟩
      · exact absurd ⟨fault, rfl, fun error herror => hfault ⟨error, herror⟩⟩ h
  · rintro (⟨response, rfl⟩ | ⟨error, rfl⟩) ⟨fault, hfault, hnot⟩
    · cases hfault
    · exact hnot error (Except.error.inj hfault).symm

theorem asMembers_eq_ok_iff {value : Json} {members : Members} :
    asMembers value = .ok members ↔ value = .obj members := by
  constructor
  · intro h
    cases value with
    | obj members' => rw [Except.ok.inj h]
    | _ => cases h
  · rintro rfl
    rfl

theorem asMembers_error {value : Json} {fault : Fault} (h : asMembers value = .error fault) :
    fault = .attributeError ∧ ∀ members, value ≠ .obj members := by
  refine ⟨?_, ?_⟩
  · cases value with
    | obj members => cases h
    | _ => exact (Except.error.inj h).symm
  · rintro members rfl
    cases h

theorem usage_isObject_iff {payload : Members} :
    (∃ members, pyOr (field payload "usage") (.obj []) = .obj members) ↔ UsageReadable payload := by
  rw [pyOr, UsageReadable]
  by_cases htruthy : isTruthy (field payload "usage") = true
  · rw [if_pos htruthy]
    exact ⟨fun h _ => h, fun h => h htruthy⟩
  · rw [if_neg htruthy]
    exact ⟨fun _ h => absurd h htruthy, fun _ => ⟨[], rfl⟩⟩

theorem loadsOutput_error {text : Json} {fault : Fault} (h : loadsOutput runtime text = .error fault) :
    fault.isShapeError = true ∨
      (fault = .recursionError ∧ ∃ t, text = .str t ∧ runtime.loadsText t = .recursionError) := by
  cases text with
  | str t =>
    rw [loadsOutput] at h
    cases hloads : runtime.loadsText t with
    | value output =>
      rw [hloads] at h
      cases output with
      | obj members => cases h
      | _ => exact Or.inl (by rw [← Except.error.inj h]; rfl)
    | recursionError =>
      rw [hloads] at h
      exact Or.inr ⟨(Except.error.inj h).symm, t, rfl, hloads⟩
    | _ =>
      rw [hloads] at h
      exact Or.inl (by rw [← Except.error.inj h]; rfl)
  | _ => exact Or.inl (by rw [← Except.error.inj h]; rfl)

theorem loadsOutput_of_recursionError {text : String} (h : runtime.loadsText text = .recursionError) :
    loadsOutput runtime (.str text) = .error .recursionError := by
  rw [loadsOutput, h]

theorem loadsOutput_eq_ok_iff {text : Json} {output : Members} :
    loadsOutput runtime text = .ok output ↔
      ∃ t, text = .str t ∧ runtime.loadsText t = .value (.obj output) := by
  constructor
  · intro h
    cases text with
    | str t =>
      rw [loadsOutput] at h
      cases hloads : runtime.loadsText t with
      | value value =>
        rw [hloads] at h
        cases value with
        | obj members =>
          rw [Except.ok.inj h] at hloads
          exact ⟨t, rfl, hloads⟩
        | _ => cases h
      | _ => rw [hloads] at h; cases h
    | _ => cases h
  · rintro ⟨t, rfl, hloads⟩
    rw [loadsOutput, hloads]

/-- The guarded block of `_parse_response` lets through exactly what its conditions exclude. -/
theorem readOutput_guarded_iff {payload : Members} :
    (∀ fault, readOutput runtime endpoint.provider payload = .error fault → fault.isShapeError = true) ↔
      PayloadReadable runtime endpoint payload := by
  constructor
  · intro h
    -- each part of the reply that may raise past the guard gives one condition
    refine ⟨?_, ?_, ?_⟩
    · intro hprovider hstray
      have htext : replyText runtime endpoint.provider payload = .error .attributeError :=
        replyText_attributeError_iff.mpr ⟨hprovider, hstray⟩
      cases h .attributeError (Guards.bind_eq_error.mpr (Or.inl htext))
    · intro text htext
      rw [← usage_isObject_iff]
      by_contra hobject
      have husage : asMembers (pyOr (field payload "usage") (.obj [])) = .error .attributeError := by
        cases husage : asMembers (pyOr (field payload "usage") (.obj [])) with
        | ok members => exact absurd ⟨members, asMembers_eq_ok_iff.mp husage⟩ hobject
        | error fault => rw [(asMembers_error husage).1]
      cases h .attributeError (Guards.bind_eq_error.mpr (Or.inr ⟨text, replyText_eq_ok_iff.mpr htext,
        Guards.bind_eq_error.mpr (Or.inl husage)⟩))
    · intro text htext hloads
      cases husage : asMembers (pyOr (field payload "usage") (.obj [])) with
      | error fault =>
        have hescape := h fault (Guards.bind_eq_error.mpr (Or.inr ⟨_, replyText_eq_ok_iff.mpr htext,
          Guards.bind_eq_error.mpr (Or.inl husage)⟩))
        rw [(asMembers_error husage).1] at hescape
        cases hescape
      | ok usage =>
        have houtput := loadsOutput_of_recursionError hloads
        cases h .recursionError (Guards.bind_eq_error.mpr (Or.inr ⟨_, replyText_eq_ok_iff.mpr htext,
          Guards.bind_eq_error.mpr (Or.inr ⟨usage, husage, Guards.bind_eq_error.mpr (Or.inl houtput)⟩)⟩))
  -- what is raised comes from the text, the usage or the output of the reply
  · intro hreadable fault h
    rcases Guards.bind_eq_error.mp h with htext | ⟨text, htext, h⟩
    · by_contra hshape
      have hattribute : fault = .attributeError := by
        have hread := replyText_error htext
        rw [Fault.isReadError, Bool.eq_false_iff.mpr hshape, Bool.false_or] at hread
        exact of_decide_eq_true hread
      rw [hattribute] at htext
      obtain ⟨hprovider, hstray⟩ := replyText_attributeError_iff.mp htext
      exact hreadable.output hprovider hstray
    · rw [replyText_eq_ok_iff] at htext
      rcases Guards.bind_eq_error.mp h with husage | ⟨usage, -, h⟩
      · obtain ⟨members, hmembers⟩ := usage_isObject_iff.mpr (hreadable.usage text htext)
        exact absurd hmembers ((asMembers_error husage).2 members)
      · rcases Guards.bind_eq_error.mp h with houtput | ⟨output, -, hpure⟩
        · rcases loadsOutput_error houtput with hshape | ⟨-, t, rfl, hloads⟩
          · exact hshape
          · exact absurd hloads (hreadable.text t htext)
        · cases hpure

theorem readOutput_not_providerError {payload : Members} {error : ModelProviderError} :
    readOutput runtime endpoint.provider payload ≠ .error (.providerError error) := by
  intro h
  rcases Guards.bind_eq_error.mp h with htext | ⟨text, -, h⟩
  · cases replyText_error htext
  · rcases Guards.bind_eq_error.mp h with husage | ⟨usage, -, h⟩
    · cases (asMembers_error husage).1
    · rcases Guards.bind_eq_error.mp h with houtput | ⟨output, -, hpure⟩
      · rcases loadsOutput_error houtput with hshape | ⟨hrecursion, -⟩
        · cases hshape
        · cases hrecursion
      · cases hpure

/-- A payload that is read holds the output. -/
theorem readOutput_ok {payload output usage : Members}
    (h : readOutput runtime endpoint.provider payload = .ok (output, usage)) :
    ∃ text, ReplyText runtime payload endpoint.provider (.str text) ∧
      runtime.loadsText text = .value (.obj output) := by
  rw [readOutput, Guards.bind_eq_ok] at h
  obtain ⟨text, htext, h⟩ := h
  rw [Guards.bind_eq_ok] at h
  obtain ⟨usage', -, h⟩ := h
  rw [Guards.bind_eq_ok] at h
  obtain ⟨output', houtput, hpair⟩ := h
  obtain ⟨t, rfl, hloads⟩ := loadsOutput_eq_ok_iff.mp houtput
  rw [Guards.pure_eq_ok] at hpair
  rw [(Prod.mk.inj hpair).1] at hloads
  exact ⟨t, replyText_eq_ok_iff.mp htext, hloads⟩

theorem shapeGuarded_eq_ok_iff {α : Type} {error : Fault} {outcome : Except Fault α} {a : α} :
    shapeGuarded error outcome = .ok a ↔ outcome = .ok a := by
  cases outcome with
  | ok b => rfl
  | error fault =>
    rw [shapeGuarded]
    by_cases hshape : fault.isShapeError = true
    · rw [if_pos hshape]
      exact ⟨fun h => (nomatch h), fun h => (nomatch h)⟩
    · rw [if_neg hshape]

theorem shapeGuarded_eq_error_iff {α : Type} {error fault : Fault} {outcome : Except Fault α} :
    shapeGuarded error outcome = .error fault ↔ ∃ raised, outcome = .error raised ∧
      fault = if raised.isShapeError then error else raised := by
  cases outcome with
  | ok b => exact ⟨fun h => (nomatch h), fun ⟨_, h, _⟩ => (nomatch h)⟩
  | error raised =>
    rw [shapeGuarded]
    constructor
    · intro h
      refine ⟨raised, rfl, ?_⟩
      by_cases hshape : raised.isShapeError = true
      · rw [if_pos hshape] at h ⊢
        exact (Except.error.inj h).symm
      · rw [if_neg hshape] at h ⊢
        exact (Except.error.inj h).symm
    · rintro ⟨raised', hraised, rfl⟩
      cases hraised
      split <;> rfl

variable {http : HttpRequest} {headers : List (String × String)} {body : Body} {attempts : Nat}
  {latencyMs : Int}

theorem responseOf_ok {payload : Members} {response : ModelResponse}
    (h : responseOf runtime endpoint http headers body attempts latencyMs payload = .ok response) :
    (∃ usage, readOutput runtime endpoint.provider payload = .ok (response.output, usage)) ∧
      response.evidence.attempts = attempts := by
  rw [responseOf, Guards.bind_eq_ok] at h
  obtain ⟨⟨output, usage⟩, hguarded, h⟩ := h
  rw [shapeGuarded_eq_ok_iff] at hguarded
  have hresponse := Guards.pure_eq_ok.mp h
  rw [← hresponse]
  exact ⟨⟨usage, hguarded⟩, rfl⟩

theorem responseOf_eq_error_iff {payload : Members} {fault : Fault} :
    responseOf runtime endpoint http headers body attempts latencyMs payload = .error fault ↔
      ∃ raised, readOutput runtime endpoint.provider payload = .error raised ∧
        fault = if raised.isShapeError then invalidResponse endpoint
          "Model provider response did not contain a valid structured JSON object." else raised := by
  rw [responseOf, Guards.bind_eq_error, ← shapeGuarded_eq_error_iff]
  constructor
  · rintro (h | ⟨pair, -, h⟩)
    · exact h
    · cases h
  · exact Or.inl

/-- A response holds the object of its body, and the count of the attempts. -/
theorem parseResponse_ok {response : ModelResponse}
    (h : parseResponse runtime endpoint http headers body attempts latencyMs = .ok response) :
    ParsedFrom runtime endpoint body response.output ∧ response.evidence.attempts = attempts := by
  cases hbody : runtime.loadsBody body with
  | value value =>
    cases value with
    | obj payload =>
      rw [parseResponse, hbody] at h
      obtain ⟨⟨usage, hread⟩, hattempts⟩ := responseOf_ok h
      obtain ⟨text, htext, hloads⟩ := readOutput_ok hread
      exact ⟨⟨payload, text, hbody, htext, hloads⟩, hattempts⟩
    | _ => rw [parseResponse, hbody] at h; cases h
  | _ => rw [parseResponse, hbody] at h; cases h

theorem invalidResponse_eq (message : String) : invalidResponse endpoint message =
    .providerError { message := message, provider := endpoint.provider.text, kind := "invalid_response" } := rfl

/-- The errors of a response are not retried. -/
theorem parseResponse_error {error : ModelProviderError}
    (h : parseResponse runtime endpoint http headers body attempts latencyMs = .error (.providerError error)) :
    error.retryable = false := by
  -- every fault of the answer that is reported is reported as not retryable
  have hinvalid : ∀ message, invalidResponse endpoint message = .providerError error → error.retryable = false := by
    intro message hmessage
    rw [invalidResponse_eq] at hmessage
    rw [← Fault.providerError.inj hmessage]
  cases hbody : runtime.loadsBody body with
  | value value =>
    cases value with
    | obj payload =>
      rw [parseResponse, hbody] at h
      obtain ⟨raised, hraised, hfault⟩ := responseOf_eq_error_iff.mp h
      -- a fault of the shape becomes an invalid response, any other goes on as it is
      by_cases hshape : raised.isShapeError = true
      · rw [if_pos hshape] at hfault
        exact hinvalid _ hfault.symm
      · rw [if_neg hshape] at hfault
        rw [← hfault] at hraised
        exact absurd hraised readOutput_not_providerError
    | _ =>
      rw [parseResponse, hbody] at h
      exact hinvalid _ (Except.error.inj h)
  | decodeError =>
    rw [parseResponse, hbody] at h
    exact hinvalid _ (Except.error.inj h)
  | _ => rw [parseResponse, hbody] at h; cases h

theorem responseOf_escapes_iff {payload : Members} :
    ¬ Escapes (responseOf runtime endpoint http headers body attempts latencyMs payload) ↔
      PayloadReadable runtime endpoint payload := by
  rw [← readOutput_guarded_iff]
  constructor
  · intro h fault hfault
    by_contra hshape
    refine h ⟨fault, ?_, ?_⟩
    · rw [responseOf_eq_error_iff]
      exact ⟨fault, hfault, by rw [if_neg hshape]⟩
    · rintro error rfl
      exact readOutput_not_providerError hfault
  · rintro h ⟨fault, hfault, hnot⟩
    obtain ⟨raised, hraised, hsame⟩ := responseOf_eq_error_iff.mp hfault
    rw [if_pos (h raised hraised), invalidResponse_eq] at hsame
    exact hnot _ hsame

theorem parseResponse_escapes_iff :
    ¬ Escapes (parseResponse runtime endpoint http headers body attempts latencyMs) ↔
      Loads runtime body ∧
        ∀ payload, runtime.loadsBody body = .value (.obj payload) → PayloadReadable runtime endpoint payload := by
  -- an invalid response is reported, never raised past the caller
  have hkept : ∀ message, ¬ Escapes (Except.error (invalidResponse endpoint message)) := by
    rintro message ⟨fault, hfault, hnot⟩
    exact hnot _ (Except.error.inj hfault).symm
  -- a body that loads is read on; the two errors of the loader that are not caught escape
  cases hbody : runtime.loadsBody body with
  | value value =>
    have hloads : Loads runtime body := by
      rw [Loads, hbody]
      exact ⟨fun h => (nomatch h), fun h => (nomatch h)⟩
    rw [parseResponse, hbody]
    cases value with
    | obj payload =>
      refine responseOf_escapes_iff.trans ⟨fun h => ⟨hloads, ?_⟩, fun h => h.2 payload rfl⟩
      intro payload' hpayload
      rw [← Json.obj.inj (Loaded.value.inj hpayload)]
      exact h
    | _ => exact ⟨fun _ => ⟨hloads, fun _ h => (nomatch h)⟩, fun _ => hkept _⟩
  | decodeError =>
    have hloads : Loads runtime body := by
      rw [Loads, hbody]
      exact ⟨fun h => (nomatch h), fun h => (nomatch h)⟩
    rw [parseResponse, hbody]
    exact ⟨fun _ => ⟨hloads, fun _ h => (nomatch h)⟩, fun _ => hkept _⟩
  -- neither of the two is caught where the body is loaded
  | valueError =>
    rw [parseResponse, hbody]
    exact ⟨fun h => absurd ⟨_, rfl, fun _ h => (nomatch h)⟩ h, fun h => absurd hbody h.1.1⟩
  | recursionError =>
    rw [parseResponse, hbody]
    exact ⟨fun h => absurd ⟨_, rfl, fun _ h => (nomatch h)⟩ h, fun h => absurd hbody h.1.2⟩

/-! ## The error of a status -/

theorem statedCode_ok_iff : (∃ code, statedCode runtime body = .ok code) ↔ Loads runtime body := by
  rw [Loads, statedCode]
  cases hbody : runtime.loadsBody body with
  | value value => exact ⟨fun _ => ⟨fun h => (nomatch h), fun h => (nomatch h)⟩, fun _ => ⟨_, rfl⟩⟩
  | decodeError => exact ⟨fun _ => ⟨fun h => (nomatch h), fun h => (nomatch h)⟩, fun _ => ⟨"", rfl⟩⟩
  | valueError => exact ⟨fun ⟨_, h⟩ => (nomatch h), fun h => absurd rfl h.1⟩
  | recursionError => exact ⟨fun ⟨_, h⟩ => (nomatch h), fun h => absurd rfl h.2⟩

theorem statedCode_not_providerError {error : ModelProviderError} :
    statedCode runtime body ≠ .error (.providerError error) := by
  rw [statedCode]
  cases hbody : runtime.loadsBody body with
  | _ => exact fun h => (nomatch h)

/-! ## One attempt -/

theorem attemptOf_providerError (error : ModelProviderError) :
    attemptOf (.error (.providerError error)) =
      if error.retryable then .transient (.error (.providerError error))
      else .final (.error (.providerError error)) := rfl

theorem attemptOf_of_not {outcome : Except Fault ModelResponse}
    (h : ∀ error, outcome ≠ .error (.providerError error)) : attemptOf outcome = .final outcome := by
  cases outcome with
  | ok response => rfl
  | error fault =>
    cases fault with
    | providerError error => exact absurd rfl (h error)
    | _ => rfl

theorem attemptOf_outcome (outcome : Except Fault ModelResponse) : (attemptOf outcome).outcome = outcome := by
  by_cases h : ∃ error, outcome = .error (.providerError error)
  · obtain ⟨error, rfl⟩ := h
    rw [attemptOf_providerError]
    by_cases hretryable : error.retryable = true
    · rw [if_pos hretryable]
      rfl
    · rw [if_neg hretryable]
      rfl
  · rw [attemptOf_of_not fun error herror => h ⟨error, herror⟩]
    rfl

theorem attemptOf_isTransient_iff {outcome : Except Fault ModelResponse} :
    (attemptOf outcome).isTransient = true ↔
      ∃ error, outcome = .error (.providerError error) ∧ error.retryable = true := by
  by_cases h : ∃ error, outcome = .error (.providerError error)
  · obtain ⟨error, rfl⟩ := h
    rw [attemptOf_providerError]
    by_cases hretryable : error.retryable = true
    · rw [if_pos hretryable]
      exact ⟨fun _ => ⟨error, rfl, hretryable⟩, fun _ => rfl⟩
    · rw [if_neg hretryable]
      refine ⟨fun h => (nomatch h), fun ⟨error', herror, h⟩ => ?_⟩
      rw [← Fault.providerError.inj (Except.error.inj herror)] at h
      exact absurd h hretryable
  · rw [attemptOf_of_not fun error herror => h ⟨error, herror⟩]
    exact ⟨fun h => (nomatch h), fun ⟨error, herror, _⟩ => absurd ⟨error, herror⟩ h⟩

theorem outcomeOf_of_success {status : Int} (h : isSuccess status = true) :
    outcomeOf runtime endpoint http (.response status headers body) attempts latencyMs =
      parseResponse runtime endpoint http headers body attempts latencyMs := by
  rw [outcomeOf, if_pos h]

theorem outcomeOf_of_status {status : Int} (h : isSuccess status = false) :
    outcomeOf runtime endpoint http (.response status headers body) attempts latencyMs =
      (httpStatusError runtime endpoint status headers body >>= fun error => .error (.providerError error)) := by
  rw [outcomeOf, if_neg (by rw [h]; exact Bool.false_ne_true)]

variable (runtime endpoint http headers attempts latencyMs) in
/-- What a status leads to: an error that can be retried as the status and its code say, or
    what the body raises. -/
theorem outcomeOf_of_code {status : Int} (h : isSuccess status = false) {code : String}
    (hcode : statedCode runtime body = .ok code) :
    ∃ error, outcomeOf runtime endpoint http (.response status headers body) attempts latencyMs =
      .error (.providerError error) ∧ error.retryable = isRetryable status code := by
  rw [outcomeOf_of_status h, httpStatusError, hcode]
  exact ⟨_, rfl, rfl⟩

theorem outcomeOf_of_fault {status : Int} (h : isSuccess status = false) {fault : Fault}
    (hcode : statedCode runtime body = .error fault) :
    outcomeOf runtime endpoint http (.response status headers body) attempts latencyMs = .error fault := by
  rw [outcomeOf_of_status h, httpStatusError, hcode]
  rfl

/-- An attempt may be followed by another exactly when its reply is retryable. -/
theorem outcomeOf_isTransient_iff {reply : Reply Body} :
    (attemptOf (outcomeOf runtime endpoint http reply attempts latencyMs)).isTransient = true ↔
      Retryable runtime reply := by
  rw [attemptOf_isTransient_iff]
  cases reply with
  | response status headers body =>
    -- a success is never tried again
    cases hsuccess : isSuccess status with
    | true =>
      rw [outcomeOf_of_success hsuccess]
      constructor
      · rintro ⟨error, herror, hretryable⟩
        rw [parseResponse_error herror] at hretryable
        cases hretryable
      · rintro ⟨hfalse, -⟩
        rw [hsuccess] at hfalse
        cases hfalse
    | false =>
      -- of the other answers the code that the body states decides
      cases hcode : statedCode runtime body with
      | ok code =>
        obtain ⟨error, houtcome, hretryable⟩ := outcomeOf_of_code runtime endpoint http headers
          attempts latencyMs hsuccess hcode
        rw [houtcome]
        constructor
        · rintro ⟨error', herror, h⟩
          rw [← Fault.providerError.inj (Except.error.inj herror), hretryable] at h
          exact ⟨hsuccess, code, hcode, h⟩
        · rintro ⟨-, code', hcode', h⟩
          rw [hcode] at hcode'
          rw [← Except.ok.inj hcode', ← hretryable] at h
          exact ⟨error, rfl, h⟩
      | error fault =>
        rw [outcomeOf_of_fault hsuccess hcode]
        constructor
        · rintro ⟨error, herror, -⟩
          rw [Except.error.inj herror] at hcode
          exact absurd hcode statedCode_not_providerError
        · rintro ⟨-, code, hok, -⟩
          rw [hcode] at hok
          cases hok
  | timeoutError => exact ⟨fun _ => trivial, fun _ => ⟨_, rfl, rfl⟩⟩
  | urlError => exact ⟨fun _ => trivial, fun _ => ⟨_, rfl, rfl⟩⟩

/-- An attempt ends as it should exactly when its reply is readable. -/
theorem outcomeOf_escapes_iff {reply : Reply Body} :
    ¬ Escapes (outcomeOf runtime endpoint http reply attempts latencyMs) ↔ Readable runtime endpoint reply := by
  -- an error of the provider is reported
  have hkept : ∀ error, ¬ Escapes (Except.error (Fault.providerError error)) := by
    rintro error ⟨fault, hfault, hnot⟩
    exact hnot error (Except.error.inj hfault).symm
  cases reply with
  | response status headers body =>
    -- the body of a success is read as a response, any other body as an error
    cases hsuccess : isSuccess status with
    | true =>
      rw [outcomeOf_of_success hsuccess, parseResponse_escapes_iff]
      exact ⟨fun h => ⟨h.1, fun _ => h.2⟩, fun h => ⟨h.1, h.2 hsuccess⟩⟩
    | false =>
      cases hcode : statedCode runtime body with
      | ok code =>
        obtain ⟨error, houtcome, -⟩ := outcomeOf_of_code runtime endpoint http headers
          attempts latencyMs hsuccess hcode
        rw [houtcome]
        refine ⟨fun _ => ⟨statedCode_ok_iff.mp ⟨code, hcode⟩, fun h => ?_⟩, fun _ => hkept error⟩
        rw [hsuccess] at h
        cases h
      | error fault =>
        rw [outcomeOf_of_fault hsuccess hcode]
        constructor
        · intro h
          refine absurd ⟨fault, rfl, ?_⟩ h
          rintro error rfl
          exact statedCode_not_providerError hcode
        · rintro ⟨hloads, -⟩
          obtain ⟨code, hok⟩ := statedCode_ok_iff.mpr hloads
          rw [hcode] at hok
          cases hok
  | timeoutError => exact ⟨fun _ => trivial, fun _ => hkept _⟩
  | urlError => exact ⟨fun _ => trivial, fun _ => hkept _⟩

/-- A response is that of a readable success. -/
theorem outcomeOf_ok {reply : Reply Body} {response : ModelResponse}
    (h : outcomeOf runtime endpoint http reply attempts latencyMs = .ok response) :
    ∃ status headers body, reply = .response status headers body ∧ isSuccess status = true ∧
      ParsedFrom runtime endpoint body response.output ∧ response.evidence.attempts = attempts := by
  cases reply with
  | response status headers body =>
    cases hsuccess : isSuccess status with
    | true =>
      rw [outcomeOf_of_success hsuccess] at h
      obtain ⟨hparsed, hattempts⟩ := parseResponse_ok h
      exact ⟨status, headers, body, rfl, hsuccess, hparsed, hattempts⟩
    | false =>
      rw [outcomeOf_of_status hsuccess] at h
      obtain ⟨error, -, h⟩ := Guards.bind_eq_ok.mp h
      cases h
  | timeoutError => cases h
  | urlError => cases h

/-! ## The back-off -/

/-- The back-off overflows from the attempt 1025 on. -/
theorem backoff_of_lt {attempts : Nat} (jitter : FloatValue) (h : attempts < 1024) :
    ∃ delay, backoff (attempts + 1) jitter = .ok delay := by
  rw [backoff, Nat.add_sub_cancel, floatOfInt_two_pow, if_pos h]
  exact ⟨_, rfl⟩

theorem backoff_of_le {attempts : Nat} (jitter : FloatValue) (h : 1024 ≤ attempts) :
    backoff (attempts + 1) jitter = .error .overflowError := by
  rw [backoff, Nat.add_sub_cancel, floatOfInt_two_pow, if_neg (by omega)]
  rfl

/-! ## The run -/

section

variable (runtime endpoint http) (replies : Nat → Reply Body) (latencies : Nat → Int)
  (jitter : Nat → FloatValue)

/-- The attempts of the loop, by their number. -/
def attemptAt (n : Nat) : Attempt (Except Fault ModelResponse) :=
  attemptOf (outcomeOf runtime endpoint http (replies n) (n + 1) (latencies n))

/-- The wait after an attempt. -/
def waitAt (n : Nat) : Except (Except Fault ModelResponse) FloatValue :=
  (backoff (n + 1) (jitter n)).mapError .error

theorem sendLoop_eq : sendLoop runtime endpoint http replies latencies jitter =
    Retried.retry (attemptAt runtime endpoint http replies latencies) (waitAt jitter) endpoint.maxRetries 0 := rfl

end

variable {replies : Nat → Reply Body} {latencies : Nat → Int} {jitter : Nat → FloatValue}

variable (jitter) in
theorem waitAt_ok_iff {n : Nat} : (∃ delay, waitAt jitter n = .ok delay) ↔ n < 1024 := by
  rcases Nat.lt_or_ge n 1024 with hlt | hge
  · obtain ⟨delay, hdelay⟩ := backoff_of_lt (jitter n) hlt
    rw [waitAt, hdelay]
    exact ⟨fun _ => hlt, fun _ => ⟨delay, rfl⟩⟩
  · rw [waitAt, backoff_of_le (jitter n) hge]
    exact ⟨fun ⟨_, h⟩ => (nomatch h), fun h => absurd h (Nat.not_lt.mpr hge)⟩

theorem waitAt_error {n : Nat} {result : Except Fault ModelResponse} (h : waitAt jitter n = .error result) :
    result = .error .overflowError ∧ 1024 ≤ n := by
  rcases Nat.lt_or_ge n 1024 with hlt | hge
  · obtain ⟨delay, hdelay⟩ := (waitAt_ok_iff jitter).mpr hlt
    rw [hdelay] at h
    cases h
  · rw [waitAt, backoff_of_le (jitter n) hge] at h
    exact ⟨(Except.error.inj h).symm, hge⟩

/-- The loop goes on after a retryable reply to one of the first 1024 attempts. -/
theorem continues_iff {n : Nat} :
    Retried.Continues (attemptAt runtime endpoint http replies latencies) (waitAt jitter) n ↔
      Retryable runtime (replies n) ∧ n < 1024 := by
  rw [Retried.Continues, attemptAt, outcomeOf_isTransient_iff, waitAt_ok_iff]

/-- Every run: no more requests than the budget has, none after a reply that is not retryable,
    and the last one ends the loop. -/
theorem sendLoop_ends (runtime : Runtime Body) (endpoint : LiveEndpoint) (http : HttpRequest)
    (replies : Nat → Reply Body) (latencies : Nat → Int) (jitter : Nat → FloatValue) :
    ∃ last ≤ endpoint.maxRetries,
      (sendLoop runtime endpoint http replies latencies jitter).attempts = last + 1 ∧
      (∀ i < last, Retryable runtime (replies i)) ∧
      Retried.Ends (attemptAt runtime endpoint http replies latencies) (waitAt jitter)
        (endpoint.maxRetries - last) last (sendLoop runtime endpoint http replies latencies jitter).result := by
  rw [sendLoop_eq]
  obtain ⟨last, hlast, hattempts, hbefore, hends⟩ := Retried.retry_ends
    (attemptAt runtime endpoint http replies latencies) (waitAt jitter) endpoint.maxRetries 0
  simp only [Nat.zero_add, continues_iff] at hattempts hbefore hends
  exact ⟨last, hlast, hattempts, fun i hi => (hbefore i hi).1, hends⟩

/-- A readable run: what the loop ends with is a response or an error of the provider. -/
theorem kept_of_manageable (h : Manageable runtime endpoint replies) :
    Kept runtime endpoint replies (sendLoop runtime endpoint http replies latencies jitter) := by
  obtain ⟨k, hk, hattempts, hretryable, hends⟩ :=
    sendLoop_ends runtime endpoint http replies latencies jitter
  refine ⟨by omega, fun i hi => hretryable i (by omega), ?_⟩
  -- the loop ended with an outcome of its own, or in the computation of the wait
  rcases hends with ⟨hresult, -⟩ | ⟨hleft, htransient, hwait⟩
  · -- the last attempt's own outcome
    rw [attemptAt, attemptOf_outcome] at hresult
    have hreadable := h.readable k hk hretryable
    have hends : ¬ Escapes (outcomeOf runtime endpoint http (replies k) (k + 1) (latencies k)) :=
      outcomeOf_escapes_iff.mpr hreadable
    rcases not_escapes_iff.mp hends with ⟨response, hresponse⟩ | ⟨error, herror⟩
    · obtain ⟨status, headers, body, hreply, hsuccess, hparsed, hcount⟩ := outcomeOf_ok hresponse
      refine Or.inl ⟨response, by rw [hresult, hresponse], k, status, headers, body, hattempts, hreply,
        hsuccess, ?_, hparsed, ?_⟩
      -- every attempt before the last was refused as retryable, so the count is the last one's
      · intro i hi status headers body hreply
        have hretry := hretryable i hi
        rw [hreply] at hretry
        exact hretry.1
      · rw [hcount, hattempts]
    · exact Or.inr ⟨error, by rw [hresult, herror]⟩
  · -- the wait after the attempt 1025
    exfalso
    rw [attemptAt, outcomeOf_isTransient_iff] at htransient
    -- only the wait after the attempt 1025 can raise, and the replies stop before it
    have hmany := (waitAt_error hwait).2
    obtain ⟨i, hi, hnot⟩ := h.backoff (by omega)
    rcases Nat.lt_or_ge i k with hlt | hge
    · exact hnot (hretryable i hlt)
    · have hsame : i = k := by omega
      rw [hsame] at hnot
      exact hnot htransient

variable (http latencies jitter) in
/-- The loop ends at a reached attempt after which it does not go on. -/
theorem sendLoop_of_reached {k : Nat} (hk : k ≤ endpoint.maxRetries)
    (hbefore : ∀ i < k, Retryable runtime (replies i) ∧ i < 1024)
    (hstop : ¬ (Retryable runtime (replies k) ∧ k < 1024)) :
    Retried.Ends (attemptAt runtime endpoint http replies latencies) (waitAt jitter) (endpoint.maxRetries - k) k
      (sendLoop runtime endpoint http replies latencies jitter).result := by
  rw [sendLoop_eq]
  have hends := (Retried.retry_of_ends (attemptAt runtime endpoint http replies latencies)
    (waitAt jitter) (show k ≤ endpoint.maxRetries from hk)
    (fun i hi => by rw [Nat.zero_add, continues_iff]; exact hbefore i hi)
    (by rw [Nat.zero_add, continues_iff]; exact hstop)).2
  rwa [Nat.zero_add] at hends

/-- After 1025 retryable replies the back-off overflows. -/
theorem sendLoop_overflows (hmany : 1025 ≤ endpoint.maxRetries)
    (hretryable : ∀ i < 1025, Retryable runtime (replies i)) :
    (sendLoop runtime endpoint http replies latencies jitter).result = .error .overflowError := by
  have hends := sendLoop_of_reached http latencies jitter
    (show 1024 ≤ endpoint.maxRetries by omega)
    (fun i hi => ⟨hretryable i (by omega), hi⟩) (fun h => absurd h.2 (Nat.lt_irrefl 1024))
  have htransient : (attemptAt runtime endpoint http replies latencies 1024).isTransient = true := by
    rw [attemptAt, outcomeOf_isTransient_iff]
    exact hretryable 1024 (by omega)
  rcases hends with ⟨-, hleft | hfinal⟩ | ⟨-, -, hwait⟩
  · omega
  · rw [htransient] at hfinal
    cases hfinal
  · exact (waitAt_error hwait).1

theorem manageable_of_kept
    (h : Kept runtime endpoint replies (sendLoop runtime endpoint http replies latencies jitter)) :
    Manageable runtime endpoint replies := by
  -- neither end of the loop is the overflow of the wait
  have hoverflow : (sendLoop runtime endpoint http replies latencies jitter).result ≠ .error .overflowError := by
    intro hresult
    rcases h.ends with ⟨response, hok, -⟩ | ⟨error, herror⟩
    · rw [hok] at hresult
      cases hresult
    · rw [herror] at hresult
      cases hresult
  refine ⟨?_, ?_⟩
  · intro n hn hretryable
    -- with more than 1024 retryable replies the loop reaches the wait that raises
    rcases Nat.lt_or_ge 1024 n with hlarge | hsmall
    · exact absurd (sendLoop_overflows (by omega) fun i hi => hretryable i (by omega)) hoverflow
    · by_contra hunreadable
      have hescapes : Escapes (outcomeOf runtime endpoint http (replies n) (n + 1) (latencies n)) := by
        by_contra hnot
        exact hunreadable (outcomeOf_escapes_iff.mp hnot)
      -- an answer that escapes is the last, as no attempt follows it
      have hfinal : (attemptAt runtime endpoint http replies latencies n).isTransient = false := by
        rw [← Bool.not_eq_true, attemptAt, attemptOf_isTransient_iff]
        rintro ⟨error, herror, -⟩
        obtain ⟨fault, hfault, hnot⟩ := hescapes
        rw [herror] at hfault
        exact hnot error (Except.error.inj hfault).symm
      have hstop : ¬ (Retryable runtime (replies n) ∧ n < 1024) := by
        rintro ⟨hretry, -⟩
        have htransient : (attemptAt runtime endpoint http replies latencies n).isTransient = true :=
          outcomeOf_isTransient_iff.mpr hretry
        rw [htransient] at hfinal
        cases hfinal
      have hends := sendLoop_of_reached http latencies jitter hn
        (fun i hi => ⟨hretryable i hi, by omega⟩) hstop
      -- the loop ends there with that answer, which it may not
      rcases hends with ⟨hresult, -⟩ | ⟨-, htransient, -⟩
      · rw [attemptAt, attemptOf_outcome] at hresult
        rw [← hresult] at hescapes
        refine not_escapes_iff.mpr ?_ hescapes
        rcases h.ends with ⟨response, hok, -⟩ | herror
        · exact Or.inl ⟨response, hok⟩
        · exact Or.inr herror
      · rw [hfinal] at htransient
        cases htransient
  · intro hmany
    -- were all of them retryable, the loop would overflow
    by_contra hall
    exact hoverflow (sendLoop_overflows hmany fun i hi => by
      by_contra hnot
      exact hall ⟨i, hi, hnot⟩)

/-! ## The law -/

/-- A credential is available, and the URL of the request is accepted. -/
structure Ready (runtime : Runtime Body) (endpoint : LiveEndpoint) (world : World Body) : Prop where
  credential : ∀ name, endpoint.apiKeyEnvOr = some name → (given (world.credential name)).isSome
  url : ∀ baseUrl, endpoint.baseUrlOr = some baseUrl →
    isModelUrl runtime (requestUrl endpoint baseUrl) = true

variable {world : World Body} {request : ModelRequest}

theorem resolveApiKey_ok (h : Ready runtime endpoint world) :
    ∃ apiKey, resolveApiKey world.credential endpoint = .ok apiKey := by
  obtain ⟨name, hname⟩ := Option.isSome_iff_exists.mp endpoint.apiKeyEnvOr_isSome
  obtain ⟨apiKey, hkey⟩ := Option.isSome_iff_exists.mp (h.credential name hname)
  refine ⟨apiKey, ?_⟩
  rw [resolveApiKey, hname]
  exact Guards.bind_eq_ok.mpr ⟨name, rfl, by rw [hkey]; rfl⟩

/-- A value is printed exactly when its integers are short and its nesting has room. -/
theorem dumpsSorted_ok_iff (gap : Text) (value : Json) :
    (∃ text, runtime.dumpsSorted gap value = .ok text) ↔
      (∀ n ∈ intsOf value, isWritableInt n) ∧ nesting value ≤ runtime.encodeDepth := by
  rw [← dumpsCheck_iff, ← dumpsCheck_sortKeys, Runtime.dumpsSorted]
  cases dumpsCheck runtime.encodeDepth value.sortKeys with
  | error fault => exact ⟨fun ⟨_, h⟩ => (nomatch h), fun h => (nomatch h)⟩
  | ok => exact ⟨fun _ => rfl, fun _ => ⟨_, rfl⟩⟩

theorem buildRequest_url {baseUrl url : String} {payload : Json}
    (h : buildRequest runtime endpoint baseUrl request = .ok (url, payload)) :
    url = requestUrl endpoint baseUrl := by
  rw [buildRequest] at h
  split_ifs at h
  · exact (Prod.mk.inj (Guards.pure_eq_ok.mp h)).1.symm
  · obtain ⟨contract, -, h⟩ := Guards.bind_eq_ok.mp h
    exact (Prod.mk.inj (Guards.pure_eq_ok.mp h)).1.symm

/-- The payload of the responses dialect holds the contract three containers deep. -/
theorem responsesPayload_printed_iff :
    ((∀ n ∈ intsOf (responsesPayload endpoint request), isWritableInt n) ∧
        nesting (responsesPayload endpoint request) ≤ runtime.encodeDepth) ↔
      isWritableInt endpoint.maxOutputTokens ∧
        (∀ n ∈ intsOf (.obj request.outputSchema), isWritableInt n) ∧
        3 + nesting (.obj request.outputSchema) ≤ runtime.encodeDepth := by
  have hdepth : nesting (responsesPayload endpoint request) = 3 + nesting (.obj request.outputSchema) := by
    simp only [responsesPayload, nesting, memberNesting]
    omega
  rw [hdepth, responsesPayload]
  simp [and_assoc]

/-- ... and that of the chat dialect holds only the limit on tokens, in three containers. -/
theorem chatPayload_printed_iff (contract : Text) :
    ((∀ n ∈ intsOf (chatPayload endpoint request contract), isWritableInt n) ∧
        nesting (chatPayload endpoint request contract) ≤ runtime.encodeDepth) ↔
      isWritableInt endpoint.maxOutputTokens ∧ 3 ≤ runtime.encodeDepth := by
  have hdepth : nesting (chatPayload endpoint request contract) = 3 := by
    simp [chatPayload, nesting, memberNesting, itemNesting]
  rw [hdepth, chatPayload]
  simp

/-- Both dialects: the request is built and printed exactly when it is encodable. -/
theorem encoded_iff (baseUrl : String) :
    (∃ built, buildRequest runtime endpoint baseUrl request = .ok built ∧
        ∃ body, canonicalJson runtime built.2 = .ok body) ↔ Encodable runtime endpoint request := by
  by_cases hprovider : endpoint.provider = .openai
  · rw [buildRequest, if_pos hprovider]
    constructor
    -- the request of the first provider carries the schema as it is
    · rintro ⟨built, hbuilt, hbody⟩
      rw [← Guards.pure_eq_ok.mp hbuilt, canonicalJson, dumpsSorted_ok_iff,
        responsesPayload_printed_iff] at hbody
      obtain ⟨htokens, hschema, hdepth⟩ := hbody
      exact ⟨htokens, hschema, by omega, by rwa [contractDepth, if_pos hprovider]⟩
    · intro h
      have hdepth := h.depth
      rw [contractDepth, if_pos hprovider] at hdepth
      exact ⟨_, rfl, (dumpsSorted_ok_iff _ _).mpr
        (responsesPayload_printed_iff.mpr ⟨h.maxOutputTokens, h.schema, hdepth⟩)⟩
  · rw [buildRequest, if_neg hprovider]
    constructor
    -- ... that of the others also carries it as a printed text
    · rintro ⟨built, hbuilt, hbody⟩
      obtain ⟨contract, hcontract, hbuilt⟩ := Guards.bind_eq_ok.mp hbuilt
      rw [← Guards.pure_eq_ok.mp hbuilt, canonicalJson, dumpsSorted_ok_iff,
        chatPayload_printed_iff] at hbody
      obtain ⟨hschema, hdepth⟩ := (dumpsSorted_ok_iff _ _).mp ⟨contract, hcontract⟩
      exact ⟨hbody.1, hschema, hbody.2, by rwa [contractDepth, if_neg hprovider, Nat.zero_add]⟩
    · intro h
      have hdepth := h.depth
      rw [contractDepth, if_neg hprovider, Nat.zero_add] at hdepth
      obtain ⟨contract, hcontract⟩ := (dumpsSorted_ok_iff [' '] _).mpr ⟨h.schema, hdepth⟩
      exact ⟨_, Guards.bind_eq_ok.mpr ⟨contract, hcontract, rfl⟩, (dumpsSorted_ok_iff _ _).mpr
        ((chatPayload_printed_iff contract).mpr ⟨h.maxOutputTokens, h.room⟩)⟩

/-- With a credential and an accepted URL, there is a request to send exactly when it can be
    printed. -/
theorem prepare_ok_iff (h : Ready runtime endpoint world) :
    (∃ http, prepare runtime world.credential endpoint request = .ok http) ↔
      Encodable runtime endpoint request := by
  obtain ⟨apiKey, hkey⟩ := resolveApiKey_ok h
  obtain ⟨baseUrl, hbase⟩ := Option.isSome_iff_exists.mp endpoint.baseUrlOr_isSome
  -- every provider has a default address
  have hbased : endpoint.baseUrlOr.elim (.error Fault.keyError) Except.ok = .ok baseUrl := by
    rw [hbase]
    rfl
  rw [← encoded_iff baseUrl]
  constructor
  · rintro ⟨http, hhttp⟩
    -- key, address, request, check of the address and body, in the order of the source
    rw [prepare] at hhttp
    obtain ⟨_, -, hhttp⟩ := Guards.bind_eq_ok.mp hhttp
    obtain ⟨other, hother, hhttp⟩ := Guards.bind_eq_ok.mp hhttp
    obtain rfl : baseUrl = other := Except.ok.inj (hbased.symm.trans hother)
    obtain ⟨built, hbuilt, hhttp⟩ := Guards.bind_eq_ok.mp hhttp
    obtain ⟨-, hhttp⟩ := Guards.unit_bind_eq_ok.mp hhttp
    obtain ⟨body, hbody, -⟩ := Guards.bind_eq_ok.mp hhttp
    exact ⟨built, hbuilt, body, hbody⟩
  · rintro ⟨⟨url, payload⟩, hbuilt, body, hbody⟩
    -- the address is checked on the url of the request, which the readiness allows
    have hurl : validateModelUrl runtime url = .ok () := by
      rw [validateModelUrl, buildRequest_url hbuilt, h.url baseUrl hbase]
      rfl
    exact ⟨_, Guards.bind_eq_ok.mpr ⟨apiKey, hkey, Guards.bind_eq_ok.mpr ⟨baseUrl, hbased,
      Guards.bind_eq_ok.mpr ⟨(url, payload), hbuilt, Guards.unit_bind_eq_ok.mpr ⟨hurl,
        Guards.bind_eq_ok.mpr ⟨body, hbody, rfl⟩⟩⟩⟩⟩⟩

theorem invoke_of_prepared {http : HttpRequest}
    (h : prepare runtime world.credential endpoint request = .ok http) :
    invoke runtime endpoint world request =
      sendLoop runtime endpoint http (world.send http) world.latencyMs world.jitter := by
  rw [invoke, h]

/-- **Totality of an invocation**, exactly: the request can be printed, every reply that is
    reached is readable, and the first 1025 replies are not all retryable where there are as many
    retries. -/
theorem invocationTotal_iff (h : Ready runtime endpoint world) :
    InvocationTotal runtime endpoint world request ↔
      Encodable runtime endpoint request ∧
        ∀ http, prepare runtime world.credential endpoint request = .ok http →
          Manageable runtime endpoint (world.send http) := by
  constructor
  · rintro ⟨http, hhttp, hkept⟩
    refine ⟨(prepare_ok_iff h).mp ⟨http, hhttp⟩, fun http' hhttp' => ?_⟩
    rw [hhttp] at hhttp'
    rw [← Except.ok.inj hhttp']
    rw [invoke_of_prepared hhttp] at hkept
    exact manageable_of_kept hkept
  · rintro ⟨hencodable, hmanageable⟩
    obtain ⟨http, hhttp⟩ := (prepare_ok_iff h).mpr hencodable
    refine ⟨http, hhttp, ?_⟩
    rw [invoke_of_prepared hhttp]
    exact kept_of_manageable (hmanageable http hhttp)

end

/-! ## Two runs -/

namespace Sample

/-- A body that holds an object. -/
def body : String := "\x7b\"output_text\":\"\x7b\x7d\"\x7d"

/-- The body with a list as its usage. -/
def listUsage : String := "\x7b\"output_text\":\"\x7b\x7d\",\"usage\":[1]\x7d"

/-- The body of the request below. -/
def requestBody : String :=
  "\x7b\"input\":\"\",\"instructions\":\"\",\"max_output_tokens\":8192,\"model\":\"m\"," ++
    "\"text\":\x7b\"format\":\x7b\"name\":\"s\",\"schema\":\x7b\x7d,\"strict\":true,\"type\":\"json_schema\"\x7d\x7d\x7d"

/-- The library on the texts of the runs below. -/
def runtime : Runtime String where
  encodeDepth := 900
  loadsBody := fun text =>
    if text = body then .value (.obj [("output_text", .str "\x7b\x7d")])
    else if text = listUsage then .value (.obj [("output_text", .str "\x7b\x7d"), ("usage", .arr [.int 1])])
    else .decodeError
  loadsText := fun text => if text = "\x7b\x7d" then .value (.obj []) else .decodeError
  reprOf := fun value => String.ofList value.dumps
  urlparse := fun url =>
    if url = "https://api.openai.com/v1/responses" then
      some ⟨"https", "api.openai.com", some "api.openai.com", "/v1/responses"⟩
    else none
  sha256Text := fun text =>
    if text = requestBody.toList then "6b589b26c3ab39df013b891dca1fad9c2d47e41f3c2b9c4e95d516f0884ac997"
    else ""
  sha256Body := fun text =>
    if text = body then "4ab9313fb9fff6479ebacc50ac944a0ed1a74d4977b667cafef0fd912cba28fb"
    else if text = listUsage then "ad21a62dc08009b8c19b7c761362586bf6f78c13832527e90b34b37072004c25"
    else ""

/-- The fields of the endpoint: the defaults. -/
def fields : Config.CloudModelFields := { provider := "openai", model := "m" }

theorem postInit_fields : Config.CloudModelFields.postInit fields = .ok fields := by
  cases hmade : fields.postInit with
  | error fault =>
    have hok : fields.postInit.isOk = true := by decide +kernel
    rw [hmade] at hok
    cases hok
  | ok record =>
    rw [(Config.CloudModelFields.postInit_eq_ok hmade).1]
    have hprovider : normalized fields.provider = fields.provider := by decide +kernel
    rw [hprovider]

def endpoint : LiveEndpoint where
  config := ⟨fields, fields, postInit_fields⟩
  provider := .openai
  named := rfl

def request : ModelRequest := ⟨"", "", "s", []⟩

/-- A world whose sender answers with one body. -/
def world (text : String) : World String where
  credential := fun name => if name = "OPENAI_API_KEY" then some "k" else none
  send := fun _ _ => .response 200 [] text
  latencyMs := fun _ => 1
  jitter := fun _ => .finite 0

theorem ready (text : String) : Ready runtime endpoint (world text) where
  credential := fun name hname => by
    rw [← Option.some.inj ((show endpoint.apiKeyEnvOr = some "OPENAI_API_KEY" from rfl).symm.trans hname)]
    rfl
  url := fun baseUrl hbase => by
    rw [← Option.some.inj
      ((show endpoint.baseUrlOr = some "https://api.openai.com/v1" from rfl).symm.trans hbase)]
    decide

theorem encodable : Encodable runtime endpoint request where
  maxOutputTokens := by decide
  schema := by decide
  room := by decide
  depth := by decide

theorem loadsBody_body : runtime.loadsBody body = .value (.obj [("output_text", .str "\x7b\x7d")]) := by
  simp [runtime]

theorem payloadReadable : PayloadReadable runtime endpoint [("output_text", .str "\x7b\x7d")] where
  output := fun _ h => Bool.noConfusion (h.1 : true = false)
  usage := fun _ _ h => Bool.noConfusion (h : false = true)
  text := by
    intro text htext
    have hread : Except.ok (Json.str "\x7b\x7d") = Except.ok (Json.str text) := replyText_eq_ok_iff.mpr htext
    rw [← Json.str.inj (Except.ok.inj hread)]
    exact fun h => (nomatch h)

theorem manageable : Manageable runtime endpoint fun _ => Reply.response 200 [] body := by
  refine ⟨fun _ _ _ => ⟨?_, fun _ payload hpayload => ?_⟩, fun h => absurd h (by decide)⟩
  · rw [Loads, loadsBody_body]
    exact ⟨fun h => (nomatch h), fun h => (nomatch h)⟩
  · rw [loadsBody_body] at hpayload
    rw [← Json.obj.inj (Loaded.value.inj hpayload)]
    exact payloadReadable

end Sample

theorem invocationTotal_sample :
    InvocationTotal Sample.runtime Sample.endpoint (Sample.world Sample.body) Sample.request :=
  (invocationTotal_iff (Sample.ready Sample.body)).mpr ⟨Sample.encodable, fun _ _ => Sample.manageable⟩

/-- A list as the usage of an object ends the call with an `AttributeError`. -/
theorem not_invocationTotal_listUsage :
    Ready Sample.runtime Sample.endpoint (Sample.world Sample.listUsage) ∧
      ¬ InvocationTotal Sample.runtime Sample.endpoint (Sample.world Sample.listUsage) Sample.request := by
  refine ⟨Sample.ready Sample.listUsage, ?_⟩
  rintro ⟨http, hhttp, hkept⟩
  have hresult : (invoke Sample.runtime Sample.endpoint (Sample.world Sample.listUsage) Sample.request).result =
      .error .attributeError := by
    rw [invoke_of_prepared hhttp]
    rfl
  rcases hkept.ends with ⟨response, hok, -⟩ | ⟨error, herror⟩
  · rw [hresult] at hok
    cases hok
  · rw [hresult] at herror
    cases herror

end LlmHarness.Models
