/-
  LlmHarness.Metrics.UsageLaw

  The law of usage accounting, and exactly when the sink keeps it.

  The counts of the event are right where the value that is left under a key, the last of
  those that are greatest as floats, reads as the greatest integer reported under it; the
  cost is right where the amount that is left was also reported in the currency that is
  left; and there is an event where no exception ends the terminal payload.
-/

import LlmHarness.Metrics.Accounting

namespace LlmHarness.Metrics

open Python Config

/-! ## The law -/

/-- The payloads of an invocation, up to and including the first terminal one. -/
structure Invocation where
  pending : List Arrival
  terminal : Arrival
  pending_not : ∀ arrival ∈ pending, isTerminal arrival.payload = false
  terminal_is : isTerminal terminal.payload = true

def Invocation.arrivals (invocation : Invocation) : List Arrival :=
  invocation.pending ++ [invocation.terminal]

/-- The token counts of an event. -/
inductive TokenCount where
  | input
  | output
  | total
  | contextUsed
  | contextSize

namespace TokenCount

/-- The key of a count. -/
def key : TokenCount → String
  | input => "input_tokens"
  | output => "output_tokens"
  | total => "total_tokens"
  | contextUsed => "context_used_tokens"
  | contextSize => "context_size_tokens"

/-- The count of an event. -/
def ofEvent (event : UsageEvent) : TokenCount → Option Int
  | input => event.inputTokens
  | output => event.outputTokens
  | total => event.totalTokens
  | contextUsed => event.contextUsedTokens
  | contextSize => event.contextSizeTokens

end TokenCount

/-- The greatest of the non-negative integers that are reported under a key. -/
def maxReported (key : String) (arrivals : List Arrival) : Option Int :=
  ((arrivals.flatMap fun arrival => valuesOf key (reportsOf arrival)).filterMap fun
    | .int i => if 0 ≤ i then some i else none
    | _ => none).max?

/-- A report gives an amount in a currency. -/
def Report.Gives (amount : FloatValue) (currency : String) : Report → Prop
  | .named target value => target = "cost_amount" ∧ number value = .ok (some amount) ∧ currency = "USD"
  | .cost value unit => number value = .ok (some amount) ∧ currency = printedCurrency unit

/-- The event is right about the payloads. -/
structure Accurate (arrivals : List Arrival) (event : UsageEvent) : Prop where
  counts : ∀ count : TokenCount, count.ofEvent event = maxReported count.key arrivals
  cost : event.costSource = some "provider" → ∃ amount currency, event.costAmount = some amount ∧
    event.costCurrency = some currency ∧
      ∃ arrival ∈ arrivals, ∃ report ∈ reportsOf arrival, report.Gives amount currency

variable (prices : List ModelPriceConfig) (context : UsageContext) (invocation : Invocation)

/-- **Usage accounting**: exactly one event is recorded, and it is right. -/
def UsageAccounted : Prop :=
  ∃ event, (invocation.arrivals.foldl (Sink.observe prices context) {}).ledger = [event] ∧
    Accurate invocation.arrivals event

/-! ## When it is kept -/

/-- What the payloads that are not lost have reported under a key. -/
def Invocation.values (key : String) : List Json :=
  (counted invocation.arrivals).flatMap (valuesOf key)

/-- ... and the amounts of their costs. -/
def Invocation.amounts : List Json := (counted invocation.arrivals).flatMap amountsLeft

/-- The currency that was reported last. -/
def Invocation.currency : Json :=
  ((counted invocation.arrivals).filterMap payloadCurrency).getLast?.getD .null

/-- A text that was reported last, or the one of the context. -/
def Invocation.text (key default : String) : String :=
  pyStr (pyOr ((invocation.values key).getLast?.getD .null) (.str default))

/-- The last of the greatest numbers reads as an integer; without numbers there is none. -/
def Reads (values : List Json) (found : Option Int) : Prop :=
  (∃ value r, Greatest.IsLast rank values value r ∧ integer value = .ok found) ∨
    found = none ∧ ∀ value ∈ values, rank value = none

/-- The condition of the law. -/
structure Accountable : Prop where
  extracted : overflows invocation.terminal = false
  status : ∃ failed, payloadFailed invocation.terminal.payload = .ok failed
  duration : ∃ found, Reads (invocation.values "duration_ms") found
  counts : ∀ count : TokenCount,
    Reads (invocation.values count.key) (maxReported count.key invocation.arrivals)
  priced : (∀ amount ∈ invocation.amounts, rank amount = none) →
    ∃ cost, calculatedCost prices (invocation.text "provider" context.provider)
      (invocation.text "model" context.model) (maxReported "input_tokens" invocation.arrivals)
      (maxReported "output_tokens" invocation.arrivals) = .ok cost
  cost : ∀ value r amount, Greatest.IsLast rank invocation.amounts value r →
    number value = .ok (some amount) →
      ∃ arrival ∈ invocation.arrivals, ∃ report ∈ reportsOf arrival,
        report.Gives amount (printedCurrency invocation.currency)

/-! ## The event -/

variable {prices context invocation}

/-- What is left under a key is read as an integer. -/
theorem integer_field_iff {usage : Members} {key : String} {values : List Json}
    (h : dictGet? usage key = Greatest.last rank values) (found : Option Int) :
    integer (field usage key) = .ok found ↔ Reads values found := by
  rw [field, h]
  -- the value kept is the greatest of those that count, or none counts
  cases hlast : Greatest.last rank values with
  | none =>
      have hnone := Greatest.last_eq_none_iff.mp hlast
      constructor
      · intro hread
        exact Or.inr ⟨(Except.ok.inj hread).symm, hnone⟩
      · rintro (⟨value, r, hvalue, -⟩ | ⟨rfl, -⟩)
        · rw [Greatest.last_of_isLast hvalue] at hlast
          cases hlast
        · rfl
  | some value =>
      obtain ⟨r, hvalue⟩ := Greatest.isLast_of_last hlast
      constructor
      · exact fun hread => Or.inl ⟨value, r, hvalue, hread⟩
      · rintro (⟨other, s, hother, hread⟩ | ⟨-, hnone⟩)
        · rw [Greatest.last_of_isLast hother] at hlast
          cases hlast
          exact hread
        · have hrank := hnone value hvalue.mem
          rw [hvalue.rank_eq] at hrank
          cases hrank

/-- The event of a terminal payload, field by field. -/
theorem usageEvent_eq_ok {usage : Members} {arrival : Arrival} {event : UsageEvent}
    (h : usageEvent prices context usage arrival = .ok event) :
    (∃ found, integer (field usage "duration_ms") = .ok found) ∧
      (∀ count : TokenCount, integer (field usage count.key) = .ok (count.ofEvent event)) ∧
      (∃ failed, payloadFailed arrival.payload = .ok failed) ∧
      ∃ cost, eventCost prices context usage event.inputTokens event.outputTokens = .ok cost ∧
        event.costAmount = cost.1.map Prod.fst ∧ event.costCurrency = cost.1.map Prod.snd ∧
          event.costSource = cost.2 := by
  -- the fields are read in the order of the source, and any of them may raise
  obtain ⟨duration, hduration, h⟩ := Guards.bind_eq_ok.mp h
  obtain ⟨input, hinput, h⟩ := Guards.bind_eq_ok.mp h
  obtain ⟨output, houtput, h⟩ := Guards.bind_eq_ok.mp h
  obtain ⟨total, htotal, h⟩ := Guards.bind_eq_ok.mp h
  obtain ⟨cost, hcost, h⟩ := Guards.bind_eq_ok.mp h
  obtain ⟨failed, hfailed, h⟩ := Guards.bind_eq_ok.mp h
  obtain ⟨used, hused, h⟩ := Guards.bind_eq_ok.mp h
  obtain ⟨size, hsize, h⟩ := Guards.bind_eq_ok.mp h
  obtain rfl := Guards.pure_eq_ok.mp h
  refine ⟨⟨duration, hduration⟩, fun count => ?_, ⟨failed, hfailed⟩, cost, hcost, rfl, rfl, rfl⟩
  cases count with
  | input => exact hinput
  | output => exact houtput
  | total => exact htotal
  | contextUsed => exact hused
  | contextSize => exact hsize

/-- ... and what suffices for it. -/
theorem exists_usageEvent {usage : Members} {arrival : Arrival}
    (hduration : ∃ found, integer (field usage "duration_ms") = .ok found)
    {counts : TokenCount → Option Int}
    (hcounts : ∀ count : TokenCount, integer (field usage count.key) = .ok (counts count))
    (hstatus : ∃ failed, payloadFailed arrival.payload = .ok failed)
    (hcost : ∃ cost, eventCost prices context usage (counts .input) (counts .output) = .ok cost) :
    ∃ event, usageEvent prices context usage arrival = .ok event := by
  obtain ⟨duration, hduration⟩ := hduration
  obtain ⟨failed, hfailed⟩ := hstatus
  obtain ⟨cost, hcost⟩ := hcost
  have hinput := hcounts .input
  have houtput := hcounts .output
  have htotal := hcounts .total
  have hused := hcounts .contextUsed
  have hsize := hcounts .contextSize
  simp only [TokenCount.key] at hinput houtput htotal hused hsize
  rw [usageEvent, hduration, hinput, houtput, htotal]
  show ∃ event, (eventCost prices context usage (counts .input) (counts .output) >>= _) =
    Except.ok event
  rw [hcost, hfailed, hused, hsize]
  exact ⟨_, rfl⟩

variable (prices context) in
/-- The cost of the event is the one that is left, or calculated if none is. -/
theorem eventCost_of_left {usage : Members} {values : List Json}
    (h : dictGet? usage "cost_amount" = Greatest.last rank values) (input output : Option Int) :
    (∃ value r amount, Greatest.IsLast rank values value r ∧ number value = .ok (some amount) ∧
        eventCost prices context usage input output =
          .ok (some (amount, printedCurrency (field usage "cost_currency")), some "provider")) ∨
      (∀ value ∈ values, rank value = none) ∧
        eventCost prices context usage input output =
          (calculatedCost prices (usageText usage "provider" context.provider)
            (usageText usage "model" context.model) input output).map fun calculated =>
              (calculated, calculated.map fun _ => "configured_price") := by
  cases hlast : Greatest.last rank values with
  | none =>
      -- No amount was reported, so the cost is calculated.
      have hfield : number (field usage "cost_amount") = .ok none := by
        rw [field, h, hlast]
        rfl
      refine Or.inr ⟨Greatest.last_eq_none_iff.mp hlast, ?_⟩
      rw [eventCost, hfield]
      cases calculatedCost prices (usageText usage "provider" context.provider)
        (usageText usage "model" context.model) input output <;> rfl
  | some value =>
      obtain ⟨r, hvalue⟩ := Greatest.isLast_of_last hlast
      obtain ⟨amount, hamount, -⟩ := number_of_rank hvalue.rank_eq
      have hfield : number (field usage "cost_amount") = .ok (some amount) := by
        rw [field, h, hlast]
        exact hamount
      refine Or.inl ⟨value, r, amount, hvalue, hamount, ?_⟩
      rw [eventCost, hfield]
      rfl

/-! ## The theorem -/

theorem TokenCount.isNumberKey (count : TokenCount) :
    Metrics.isNumberKey count.key = true ∧ count.key ≠ "cost_amount" := by
  cases count <;> decide

variable (prices context) in
/-- The terminal payload is settled with what all payloads that are not lost have reported. -/
theorem ledger_eq (hfine : overflows invocation.terminal = false) :
    ∃ usage, Standing usage (counted invocation.arrivals) ∧
      ∀ event, (invocation.arrivals.foldl (Sink.observe prices context) {}).ledger = [event] ↔
        usageEvent prices context usage invocation.terminal = .ok event := by
  have hwaiting : Waiting (invocation.pending.foldl (Sink.observe prices context) {}) invocation.pending :=
    waiting_run invocation.pending invocation.pending_not
  obtain ⟨usage, hstanding, hobserve⟩ := observe_of_fine hwaiting hfine
  refine ⟨usage, hstanding, fun event => ?_⟩
  rw [Invocation.arrivals, List.foldl_append]
  show (Sink.observe prices context _ invocation.terminal).ledger = [event] ↔ _
  rw [hobserve, Sink.settle, invocation.terminal_is, if_pos rfl]
  cases usageEvent prices context usage invocation.terminal with
  | error fault =>
      show (invocation.pending.foldl (Sink.observe prices context) {}).ledger = [event] ↔ _
      rw [hwaiting.ledger]
      exact iff_of_false (fun h => by cases h) (fun h => by cases h)
  | ok recorded =>
      show (invocation.pending.foldl (Sink.observe prices context) {}).ledger ++ [recorded] = [event] ↔ _
      rw [hwaiting.ledger, List.nil_append, List.singleton_inj, Except.ok.injEq]

/-- A lost terminal payload leaves no event. -/
theorem not_usageAccounted_of_overflows (hlost : overflows invocation.terminal = true) :
    ¬ UsageAccounted prices context invocation := by
  rintro ⟨event, hledger, -⟩
  have hwaiting : Waiting (invocation.pending.foldl (Sink.observe prices context) {}) invocation.pending :=
    waiting_run invocation.pending invocation.pending_not
  rw [Invocation.arrivals, List.foldl_append] at hledger
  replace hledger : (Sink.observe prices context _ invocation.terminal).ledger = [event] := hledger
  rw [observe_of_overflows hlost, hwaiting.ledger] at hledger
  cases hledger

/-- What is left in the usage, read for the event. -/
structure ReadUsage (usage : Members) (invocation : Invocation) : Prop where
  count : ∀ (count : TokenCount) found, integer (field usage count.key) = .ok found ↔
    Reads (invocation.values count.key) found
  duration : ∀ found, integer (field usage "duration_ms") = .ok found ↔
    Reads (invocation.values "duration_ms") found
  amount : dictGet? usage "cost_amount" = Greatest.last rank invocation.amounts
  currency : field usage "cost_currency" = invocation.currency
  text : ∀ key default, key = "provider" ∨ key = "model" →
    usageText usage key default = invocation.text key default

theorem Standing.read {usage : Members} (h : Standing usage (counted invocation.arrivals)) :
    ReadUsage usage invocation where
  count count := integer_field_iff (h.number count.key count.isNumberKey.1 count.isNumberKey.2)
  duration := integer_field_iff (h.number "duration_ms" (by decide) (by decide))
  amount := h.amount
  currency := by rw [field, h.currency, Invocation.currency]
  text key default hkey := by
    rw [usageText, field, h.text key hkey, Invocation.text, Invocation.values]

/-- An event that is right was recorded under the condition of the law. -/
theorem accountable_of_event {usage : Members} (h : ReadUsage usage invocation)
    (hlost : overflows invocation.terminal = false) {event : UsageEvent}
    (hevent : usageEvent prices context usage invocation.terminal = .ok event)
    (haccurate : Accurate invocation.arrivals event) : Accountable prices context invocation := by
  obtain ⟨hduration, hcounts, hstatus, cost, hcost, hamount, hunit, hsource⟩ := usageEvent_eq_ok hevent
  have hinput : event.inputTokens = maxReported "input_tokens" invocation.arrivals :=
    haccurate.counts .input
  have houtput : event.outputTokens = maxReported "output_tokens" invocation.arrivals :=
    haccurate.counts .output
  constructor
  case extracted => exact hlost
  case status => exact hstatus
  case duration =>
    obtain ⟨found, hfound⟩ := hduration
    exact ⟨found, (h.duration found).mp hfound⟩
  case counts =>
    intro count
    rw [← h.count, hcounts count, haccurate.counts count]
  case priced =>
    intro hnone
    -- Without an amount the cost is calculated, and the calculation raised nothing.
    rcases eventCost_of_left prices context h.amount event.inputTokens event.outputTokens with
      ⟨value, r, amount, hvalue, -, -⟩ | ⟨-, hcalculated⟩
    · have hrank := hnone value hvalue.mem
      rw [hvalue.rank_eq] at hrank
      cases hrank
    · rw [hcost, h.text _ _ (Or.inl rfl), h.text _ _ (Or.inr rfl), hinput, houtput] at hcalculated
      -- The calculation is the one of the law, so it has an answer too.
      cases hprice : calculatedCost prices (invocation.text "provider" context.provider)
          (invocation.text "model" context.model) (maxReported "input_tokens" invocation.arrivals)
          (maxReported "output_tokens" invocation.arrivals) with
      | ok calculated => exact ⟨calculated, rfl⟩
      | error fault =>
          rw [hprice] at hcalculated
          cases hcalculated
  case cost =>
    intro value r amount hvalue hnumber
    rcases eventCost_of_left prices context h.amount event.inputTokens event.outputTokens with
      ⟨other, s, amount', hother, hnumber', hreported⟩ | ⟨hnone, -⟩
    · -- the amount that is left is the amount of the event
      have hsame : other = value := by
        have hlast := Greatest.last_of_isLast hother
        rw [Greatest.last_of_isLast hvalue] at hlast
        exact (Option.some.inj hlast).symm
      rw [hsame, hnumber] at hnumber'
      have hamounts : amount = amount' := Option.some.inj (Except.ok.inj hnumber')
      rw [hcost] at hreported
      rw [Except.ok.inj hreported] at hamount hunit hsource
      obtain ⟨given, currency, hgiven, hcurrency, hreport⟩ := haccurate.cost hsource
      rw [hamount] at hgiven
      rw [hunit] at hcurrency
      have hgiven' : amount' = given := Option.some.inj hgiven
      have hcurrency' : printedCurrency (field usage "cost_currency") = currency :=
        Option.some.inj hcurrency
      rw [hamounts, hgiven', ← h.currency, hcurrency']
      exact hreport
    · have hrank := hnone value hvalue.mem
      rw [hvalue.rank_eq] at hrank
      cases hrank

/-- Under the condition of the law there is an event, and it is right. -/
theorem exists_event_of_accountable {usage : Members} (h : ReadUsage usage invocation)
    (haccountable : Accountable prices context invocation) :
    ∃ event, usageEvent prices context usage invocation.terminal = .ok event ∧
      Accurate invocation.arrivals event := by
  -- What is left of each count is the greatest one that was reported.
  have hcounts : ∀ count : TokenCount, integer (field usage count.key) =
      .ok (maxReported count.key invocation.arrivals) := fun count =>
    (h.count count _).mpr (haccountable.counts count)
  have hduration : ∃ found, integer (field usage "duration_ms") = .ok found := by
    obtain ⟨found, hfound⟩ := haccountable.duration
    exact ⟨found, (h.duration found).mpr hfound⟩
  have hcost := eventCost_of_left prices context h.amount
    (maxReported "input_tokens" invocation.arrivals) (maxReported "output_tokens" invocation.arrivals)
  -- The cost is an amount that was reported, or is calculated without raising.
  have hpriced : ∃ cost, eventCost prices context usage (maxReported "input_tokens" invocation.arrivals)
      (maxReported "output_tokens" invocation.arrivals) = .ok cost := by
    rcases hcost with ⟨_, _, _, -, -, hreported⟩ | ⟨hnone, hcalculated⟩
    · exact ⟨_, hreported⟩
    · obtain ⟨cost, hprice⟩ := haccountable.priced hnone
      rw [h.text _ _ (Or.inl rfl), h.text _ _ (Or.inr rfl), hprice] at hcalculated
      exact ⟨_, hcalculated⟩
  obtain ⟨event, hevent⟩ := exists_usageEvent hduration hcounts haccountable.status hpriced
  refine ⟨event, hevent, ?_⟩
  obtain ⟨-, hread, -, cost, hcost', hamount, hunit, hsource⟩ := usageEvent_eq_ok hevent
  -- The event holds the counts of the law.
  have hsame : ∀ count : TokenCount, count.ofEvent event = maxReported count.key invocation.arrivals := by
    intro count
    have hcount := hcounts count
    rw [hread count] at hcount
    exact Except.ok.inj hcount
  refine ⟨hsame, fun hprovider => ?_⟩
  have hinput : event.inputTokens = maxReported "input_tokens" invocation.arrivals := hsame .input
  have houtput : event.outputTokens = maxReported "output_tokens" invocation.arrivals := hsame .output
  rw [hinput, houtput] at hcost'
  rcases hcost with ⟨value, r, amount, hvalue, hnumber, hreported⟩ | ⟨-, hcalculated⟩
  · rw [hcost'] at hreported
    rw [Except.ok.inj hreported] at hamount hunit
    refine ⟨amount, printedCurrency invocation.currency, hamount, ?_, ?_⟩
    · rw [hunit, h.currency]
      rfl
    · exact haccountable.cost value r amount hvalue hnumber
  · -- a calculated cost has another source
    rw [hcost'] at hcalculated
    cases hprice : calculatedCost prices (usageText usage "provider" context.provider)
        (usageText usage "model" context.model) (maxReported "input_tokens" invocation.arrivals)
        (maxReported "output_tokens" invocation.arrivals) with
    | error fault =>
        rw [hprice] at hcalculated
        cases hcalculated
    | ok calculated =>
        rw [hprice] at hcalculated
        rw [hsource, Except.ok.inj hcalculated] at hprovider
        cases calculated with
        | none => cases hprovider
        | some calculated =>
            have hsources : "configured_price" = "provider" := Option.some.inj hprovider
            exact absurd hsources (by decide)

/-- **The sink keeps the law of usage accounting exactly when no exception ends the terminal
    payload and what is left of the reports is right.** -/
theorem usageAccounted_iff :
    UsageAccounted prices context invocation ↔ Accountable prices context invocation := by
  cases hlost : overflows invocation.terminal with
  | true =>
      refine iff_of_false (not_usageAccounted_of_overflows hlost) fun h => ?_
      rw [h.extracted] at hlost
      cases hlost
  | false =>
      obtain ⟨usage, hstanding, hledger⟩ := ledger_eq prices context hlost
      constructor
      · rintro ⟨event, hevent, haccurate⟩
        exact accountable_of_event hstanding.read hlost ((hledger event).mp hevent) haccurate
      · intro haccountable
        obtain ⟨event, hevent, haccurate⟩ := exists_event_of_accountable hstanding.read haccountable
        exact ⟨event, (hledger event).mpr hevent, haccurate⟩

/-! ## Plain integers -/

/-- An integer below 2^53 is compared exactly. -/
theorem number_small {n : Nat} (h : n < 2 ^ 53) :
    number (.int n) = .ok (some (.finite n)) ∧ rank (.int n) = some ((n : ℚ) : WithTop ℚ) := by
  have hround : roundDouble ((n : ℤ) : ℚ) = .finite ((n : ℤ) : ℚ) := by
    refine roundDouble_intCast ?_
    rw [abs_of_nonneg (Int.natCast_nonneg n)]
    exact_mod_cast h
  have hfloat : floatOfInt n = .ok (.finite n) := by
    rw [floatOfInt, hround]
    rfl
  have hnonneg : (FloatValue.finite (n : ℚ)).nonneg? = some ((n : ℚ) : WithTop ℚ) :=
    if_pos (Nat.cast_nonneg n)
  have hnumber : number (.int n) = .ok (some (.finite n)) := by
    simp only [number, floatOf, hfloat, hnonneg, Option.isSome_some, if_true]
  refine ⟨hnumber, ?_⟩
  rw [rank, hnumber]
  exact hnonneg

/-- Where only integers below 2^53 are reported, the greatest one is left. -/
theorem reads_of_small {values : List Json} (h : ∀ value ∈ values, ∃ n : Nat, n < 2 ^ 53 ∧ value = .int n) :
    Reads values ((values.filterMap fun
      | .int i => if 0 ≤ i then some i else none
      | _ => none).max?) := by
  cases hlast : Greatest.last rank values with
  | none =>
      refine Or.inr ⟨?_, Greatest.last_eq_none_iff.mp hlast⟩
      cases values with
      | nil => rfl
      | cons value values =>
          obtain ⟨n, hn, rfl⟩ := h value List.mem_cons_self
          have hnone := Greatest.last_eq_none_iff.mp hlast _ List.mem_cons_self
          rw [(number_small hn).2] at hnone
          cases hnone
  | some value =>
      obtain ⟨r, hvalue⟩ := Greatest.isLast_of_last hlast
      obtain ⟨n, hn, rfl⟩ := h value hvalue.mem
      refine Or.inl ⟨.int n, r, hvalue, ?_⟩
      have hread : integer (.int n) = .ok (some n) := by
        show Except.ok (if (0 : ℤ) ≤ n then some (n : ℤ) else none) = _
        rw [if_pos (Int.natCast_nonneg n)]
      rw [hread]
      refine congrArg Except.ok (Eq.symm ?_)
      rw [List.max?_eq_some_iff]
      constructor
      · exact List.mem_filterMap.mpr ⟨.int n, hvalue.mem, if_pos (Int.natCast_nonneg n)⟩
      · intro i hi
        obtain ⟨other, hother, hi⟩ := List.mem_filterMap.mp hi
        obtain ⟨m, hm, rfl⟩ := h other hother
        have hle := hvalue.le _ hother _ (number_small hm).2
        have hr : r = ((n : ℚ) : WithTop ℚ) := by
          have hrank := hvalue.rank_eq
          rw [(number_small hn).2] at hrank
          exact (Option.some.inj hrank).symm
        rw [hr, WithTop.coe_le_coe] at hle
        simp only [Int.natCast_nonneg, if_true, Option.some.injEq] at hi
        rw [← hi]
        exact_mod_cast hle

/-! ## Two invocations -/

theorem isFloatRepr_infinity : isFloatRepr "Infinity".toList = true := by decide

/-- A terminal payload whose token count is the float infinity. -/
def infiniteTokens : Invocation where
  pending := []
  terminal := { payload := [("status", .str "ok"),
    ("input_tokens", .float ⟨"Infinity".toList, isFloatRepr_infinity⟩)] }
  pending_not := by simp
  terminal_is := by decide

/-- An object with a cost. -/
def costPayload (amount : Nat) (currency : String) : Arrival where
  payload := [("status", .str "ok"),
    ("cost", .obj [("amount", .int amount), ("currency", .str currency)])]

/-- A greater cost in euros before a smaller one in dollars. -/
def mixedCosts : Invocation where
  pending := [{ payload := ("method", .str "usage") :: (costPayload 5 "EUR").payload }]
  terminal := costPayload 3 "USD"
  pending_not := by decide
  terminal_is := by decide

theorem reportsOf_mixedCosts :
    mixedCosts.arrivals.map reportsOf =
      [[.cost (.int (5 : Nat)) (.str "EUR")], [.cost (.int (3 : Nat)) (.str "USD")]] := rfl

theorem overflows_of_cost {arrival : Arrival} {amount : Nat} {currency : Json} (h : amount < 2 ^ 53)
    (hreports : reportsOf arrival = [.cost (.int amount) currency]) : overflows arrival = false := by
  rw [overflows, hreports]
  show ((number (.int amount)).toOption.isNone || false) = false
  rw [(number_small h).1]
  rfl

theorem counted_mixedCosts :
    counted mixedCosts.arrivals =
      [[.cost (.int (5 : Nat)) (.str "EUR")], [.cost (.int (3 : Nat)) (.str "USD")]] := by
  have hfine : ∀ arrival ∈ mixedCosts.arrivals, overflows arrival = false := by
    intro arrival harrival
    have hmem : reportsOf arrival ∈ mixedCosts.arrivals.map reportsOf := List.mem_map_of_mem harrival
    rw [reportsOf_mixedCosts, List.mem_pair] at hmem
    rcases hmem with hmem | hmem
    · exact overflows_of_cost (by norm_num) hmem
    · exact overflows_of_cost (by norm_num) hmem
  rw [counted, List.filter_eq_self.mpr fun arrival h => by rw [hfine arrival h]; rfl,
    reportsOf_mixedCosts]

theorem not_accountable_mixedCosts (prices : List ModelPriceConfig) (context : UsageContext) :
    ¬ Accountable prices context mixedCosts := by
  intro h
  have hfive := number_small (show 5 < 2 ^ 53 by norm_num)
  have hthree := number_small (show 3 < 2 ^ 53 by norm_num)
  have hamounts : mixedCosts.amounts = [.int (5 : Nat), .int (3 : Nat)] := by
    simp only [Invocation.amounts, counted_mixedCosts, amountsLeft, List.flatMap_cons,
      List.flatMap_nil, List.foldl_cons, List.foldl_nil, hfive.2, hthree.2, Option.isSome_some, if_true]
    rfl
  have hcurrency : mixedCosts.currency = .str "USD" := by
    simp only [Invocation.currency, counted_mixedCosts, payloadCurrency, currencyLeft,
      List.filterMap_cons, List.filterMap_nil, hfive.2, hthree.2, Option.isSome_some, if_true]
    rfl
  -- the payload with the greater amount comes first and has no currency of its own
  have hless : ((3 : ℕ) : ℚ) < ((5 : ℕ) : ℚ) := by norm_num
  have hlast : Greatest.IsLast rank mixedCosts.amounts (.int (5 : Nat)) (((5 : ℕ) : ℚ) : WithTop ℚ) := by
    refine ⟨hfive.2, [], [.int (3 : Nat)], hamounts, fun _ hmem => absurd hmem List.not_mem_nil, ?_⟩
    intro value hvalue s hs
    rw [List.mem_singleton.mp hvalue, hthree.2] at hs
    rw [← Option.some.inj hs]
    exact WithTop.coe_lt_coe.mpr hless
  obtain ⟨arrival, harrival, report, hreport, hgives⟩ := h.cost _ _ _ hlast hfive.1
  have hmem : reportsOf arrival ∈ mixedCosts.arrivals.map reportsOf := List.mem_map_of_mem harrival
  rw [hcurrency] at hgives
  rw [reportsOf_mixedCosts, List.mem_pair] at hmem
  rcases hmem with hmem | hmem <;> rw [hmem, List.mem_singleton] at hreport <;>
    rw [hreport] at hgives <;> obtain ⟨hnumber, hunit⟩ := hgives
  · exact absurd hunit (by decide)
  · rw [hthree.1] at hnumber
    have hsame : ((3 : ℕ) : ℚ) = ((5 : ℕ) : ℚ) :=
      FloatValue.finite.inj (Option.some.inj (Except.ok.inj hnumber))
    exact absurd hsame hless.ne

/-- An infinite count leaves no event, and the greatest amount is given the last currency. -/
theorem not_usageAccounted_reports :
    ¬ UsageAccounted [] ⟨"worker", "agent", "acme", "m", "acp", none, none⟩ infiniteTokens ∧
      ¬ UsageAccounted [] ⟨"worker", "agent", "acme", "m", "acp", none, none⟩ mixedCosts := by
  constructor
  · rintro ⟨event, hledger, -⟩
    have hempty : (infiniteTokens.arrivals.foldl
        (Sink.observe [] ⟨"worker", "agent", "acme", "m", "acp", none, none⟩) {}).ledger = [] := rfl
    rw [hempty] at hledger
    cases hledger
  · rintro ⟨event, hledger, haccurate⟩
    have hfine : overflows mixedCosts.terminal = false := overflows_of_cost (by norm_num) rfl
    obtain ⟨usage, hstanding, hevent⟩ :=
      ledger_eq [] ⟨"worker", "agent", "acme", "m", "acp", none, none⟩ hfine
    exact not_accountable_mixedCosts _ _
      (accountable_of_event hstanding.read hfine ((hevent event).mp hledger) haccurate)

end LlmHarness.Metrics
