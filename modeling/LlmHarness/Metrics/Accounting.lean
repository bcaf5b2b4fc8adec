/-
  LlmHarness.Metrics.Accounting

  What the sink has recorded after the first terminal payload.

  The reported numbers are compared as floats, by `_number`, and read as integers, by
  `_integer`; the amount of a cost is the greatest one while its currency is the last one;
  and an exception of either function loses the payload or the event.  The usage is
  accounted for exactly when none of this makes a difference.
-/

import LlmHarness.Lib.Guards
import LlmHarness.Metrics.Reports

namespace LlmHarness.Metrics

open Python Config

/-! ## Merging what payloads report -/

theorem dictGet?_cons (item : String × Json) (members : Members) (key : String) :
    dictGet? (item :: members) key = if item.1 = key then some item.2 else dictGet? members key := by
  by_cases hkey : item.1 = key <;> simp [dictGet?, hkey]

/-- One item of `_merge`. -/
theorem mergeItem_spec {usage : Members} {key : String} {value : Json}
    (hvalue : isNumberKey key = true → ∃ x, number value = .ok x)
    (husage : ∀ current, isNumberKey key = true → dictGet? usage key = some current →
      ∃ x, number current = .ok x) :
    ∃ usage', mergeItem usage (key, value) = .ok usage' ∧
      (∀ other, other ≠ key → dictGet? usage' other = dictGet? usage other) ∧
      (isNumberKey key = true → dictGet? usage' key = Greatest.keep rank (dictGet? usage key) value) ∧
      (isNumberKey key = false → key ≠ "invocation_id" →
        dictGet? usage' key = (notNone (some value)).or (dictGet? usage key)) := by
  by_cases hnull : isNull value = true
  · -- an absent value changes nothing
    have hnone : value = .null := by
      cases value <;> first | rfl | cases hnull
    refine ⟨usage, by rw [mergeItem, if_pos hnull], fun _ _ => rfl, fun _ => ?_, fun _ _ => ?_⟩
    · rw [Greatest.keep_of_rank_none]
      rw [hnone]
      rfl
    · rw [hnone]
      rfl
  -- a value that is there: a number, an invocation id or a text
  have hsome : notNone (some value) = some value := by
    cases value <;> first | rfl | exact absurd rfl hnull
  by_cases hnumber : isNumberKey key = true
  · obtain ⟨x, hx⟩ := hvalue hnumber
    obtain ⟨usage', hkeep, -, hget⟩ := keepGreater_spec hx fun current => husage current hnumber
    refine ⟨usage', ?_, fun other hne => ?_, fun _ => ?_, fun hno => ?_⟩
    · rw [mergeItem, if_neg hnull, if_pos hnumber]
      exact hkeep
    · rw [hget, if_neg hne]
    · rw [hget, if_pos rfl]
    · rw [hnumber] at hno
      cases hno
  -- the invocation id has a rule of its own, under its own key
  by_cases hinvocation : key = "invocation_id"
  · refine ⟨mergeInvocation usage value, ?_, fun other hne => ?_, fun hno => absurd hno hnumber,
      fun _ hne => absurd hinvocation hne⟩
    · rw [mergeItem, if_neg hnull, if_neg hnumber, if_pos hinvocation]
    · rw [hinvocation] at hne
      have hinsert : ∀ candidate, dictGet? (dictInsert usage ("invocation_id", candidate)) other =
          dictGet? usage other := fun candidate => by
        rw [dictGet?_dictInsert, if_neg hne]
      unfold mergeInvocation
      split
      · rfl
      · split
        · exact hinsert _
        · split
          · exact hinsert _
          · rfl
  -- any other text takes the place of the one before
  · refine ⟨dictInsert usage (key, value), ?_, fun other hne => ?_, fun hno => absurd hno hnumber,
      fun _ _ => ?_⟩
    · rw [mergeItem, if_neg hnull, if_neg hnumber, if_neg hinvocation]
    · rw [dictGet?_dictInsert, if_neg hne]
    · rw [dictGet?_dictInsert, if_pos rfl, hsome]
      rfl

/-- **Merging keeps the greater number and the later text under each key.** -/
theorem merge_spec {incoming : Members} (hkeys : (incoming.map Prod.fst).Nodup) (usage : Members)
    (hincoming : ∀ key value, isNumberKey key = true → dictGet? incoming key = some value →
      ∃ x, number value = .ok x)
    (husage : ∀ key value, isNumberKey key = true → dictGet? usage key = some value →
      ∃ x, number value = .ok x) :
    ∃ usage', merge usage incoming = .ok usage' ∧
      (∀ key, isNumberKey key = true → dictGet? usage' key =
        match dictGet? incoming key with
        | none => dictGet? usage key
        | some value => Greatest.keep rank (dictGet? usage key) value) ∧
      (∀ key, isNumberKey key = false → key ≠ "invocation_id" →
        dictGet? usage' key = (notNone (dictGet? incoming key)).or (dictGet? usage key)) := by
  -- the induction is on the payload, with the usage so far free
  induction incoming generalizing usage with
  | nil => exact ⟨usage, rfl, fun _ _ => rfl, fun _ _ _ => rfl⟩
  | cons item incoming ih =>
      obtain ⟨key, value⟩ := item
      rw [List.map_cons, List.nodup_cons] at hkeys
      -- no key stands twice, so the head decides its own and no other
      have hhead : dictGet? ((key, value) :: incoming) key = some value := by
        rw [dictGet?_cons, if_pos rfl]
      have hrest : ∀ other, other ≠ key →
          dictGet? ((key, value) :: incoming) other = dictGet? incoming other := fun other hne => by
        rw [dictGet?_cons, if_neg (Ne.symm hne)]
      have habsent : dictGet? incoming key = none := (dictGet?_eq_none_iff _ _).mpr hkeys.1
      obtain ⟨middle, hmiddle, hothers, hnumber, htext⟩ :=
        mergeItem_spec (fun hnum => hincoming key value hnum hhead) (husage key)
      have hincoming' : ∀ other found, isNumberKey other = true → dictGet? incoming other = some found →
          ∃ x, number found = .ok x := by
        intro other found hnum hfound
        refine hincoming other found hnum ?_
        rw [hrest other ?_, hfound]
        rintro rfl
        rw [habsent] at hfound
        cases hfound
      -- after the head every number of the usage still reads as one
      have husage' : ∀ other found, isNumberKey other = true → dictGet? middle other = some found →
          ∃ x, number found = .ok x := by
        intro other found hnum hfound
        by_cases hother : other = key
        · rw [hother] at hnum hfound
          rw [hnumber hnum] at hfound
          rcases Greatest.keep_eq_some hfound with hold | ⟨rfl, -⟩
          · exact husage key found hnum hold
          · exact hincoming key found hnum hhead
        · rw [hothers other hother] at hfound
          exact husage other found hnum hfound
      obtain ⟨usage', husage'', hnumbers, htexts⟩ := ih hkeys.2 middle hincoming' husage'
      -- the results for the head and for the rest fit together key by key
      refine ⟨usage', ?_, fun other hnum => ?_, fun other hnum hne => ?_⟩
      · rw [merge, List.foldlM_cons, hmiddle]
        exact husage''
      · rw [hnumbers other hnum]
        by_cases hother : other = key
        · rw [hother, habsent, hhead]
          exact hnumber (hother ▸ hnum)
        · rw [hrest other hother, hothers other hother]
      · rw [htexts other hnum hne]
        by_cases hother : other = key
        · rw [hother, habsent, hhead]
          exact htext (hother ▸ hnum) (hother ▸ hne)
        · rw [hrest other hother, hothers other hother]

/-- The currency that a payload reports, if it reports a cost. -/
def payloadCurrency (rs : List Report) : Option Json :=
  match currencyLeft rs with
  | some currency => some currency
  | none => if (Greatest.last rank (amountsLeft rs)).isSome then some (.str "USD") else none

/-- The usage is what is left of the reports of some payloads. -/
structure Standing (usage : Members) (payloads : List (List Report)) : Prop where
  number : ∀ key, isNumberKey key = true → key ≠ "cost_amount" →
    dictGet? usage key = Greatest.last rank (payloads.flatMap (valuesOf key))
  amount : dictGet? usage "cost_amount" = Greatest.last rank (payloads.flatMap amountsLeft)
  currency : dictGet? usage "cost_currency" = (payloads.filterMap payloadCurrency).getLast?
  text : ∀ key, key = "provider" ∨ key = "model" →
    dictGet? usage key = (payloads.flatMap (valuesOf key)).getLast?

theorem number_ok_of_last {xs : List Json} {value : Json} (h : Greatest.last rank xs = some value) :
    ∃ x, number value = .ok x := by
  obtain ⟨-, r, hr⟩ := Greatest.rank_of_last h
  obtain ⟨x, hx, -⟩ := number_of_rank hr
  exact ⟨_, hx⟩

theorem Standing.ranked {usage : Members} {payloads : List (List Report)} (h : Standing usage payloads)
    (key : String) (value : Json) (hkey : isNumberKey key = true)
    (hget : dictGet? usage key = some value) : ∃ x, Metrics.number value = .ok x := by
  by_cases hcost : key = "cost_amount"
  · exact number_ok_of_last (h.amount.symm.trans (hcost ▸ hget))
  · exact number_ok_of_last ((h.number key hkey hcost).symm.trans hget)

theorem dictGet?_defaultCurrency {found : Members} {rs : List Report} (h : Left found rs) :
    dictGet? (defaultCurrency found) "cost_currency" = payloadCurrency rs ∧
      (∀ key, key ≠ "cost_currency" → dictGet? (defaultCurrency found) key = dictGet? found key) ∧
      ((defaultCurrency found).map Prod.fst).Nodup := by
  unfold defaultCurrency payloadCurrency
  rw [h.amount, h.currency]
  cases hcurrency : currencyLeft rs with
  | some currency =>
      rw [Option.isNone_some, Bool.and_false]
      exact ⟨h.currency.trans hcurrency, fun _ _ => rfl, h.keys⟩
  | none =>
      cases hamount : Greatest.last rank (amountsLeft rs) with
      | none => exact ⟨h.currency.trans hcurrency, fun _ _ => rfl, h.keys⟩
      | some amount =>
          refine ⟨?_, fun key hne => ?_, nodup_keys_dictInsert h.keys _⟩
          · simp [dictGet?_dictInsert]
          · simp [dictGet?_dictInsert, hne]

/-- The values and currencies of proper reports are there. -/
theorem notNone_of_proper {rs : List Report} (hproper : ∀ report ∈ rs, report.Proper) :
    (∀ key, notNone ((valuesOf key rs).getLast?) = (valuesOf key rs).getLast?) ∧
      notNone (payloadCurrency rs) = payloadCurrency rs := by
  have hpresent : ∀ value : Option Json, value ≠ some .null → notNone value = value := by
    intro value hne
    unfold notNone
    split
    · exact absurd rfl hne
    · rfl
  -- a text that is left was reported, and no report is `null`
  constructor
  · intro key
    refine hpresent _ fun hnull => ?_
    obtain ⟨report, hmem, hreport⟩ := List.mem_filterMap.mp (List.mem_of_getLast? hnull)
    cases report with
    | named target value =>
        simp only at hreport
        split at hreport
        · exact (hproper _ hmem).2 (Option.some.inj hreport)
        · cases hreport
    | cost amount currency => cases hreport
  -- the currency of the last cost, or the default
  · refine hpresent _ fun hnull => ?_
    unfold payloadCurrency at hnull
    cases hcurrency : currencyLeft rs with
    | none =>
        rw [hcurrency] at hnull
        simp only at hnull
        split at hnull <;> cases hnull
    | some currency =>
        rw [hcurrency] at hnull
        cases hnull
        obtain ⟨report, hmem, hreport⟩ := List.mem_filterMap.mp (List.mem_of_getLast? hcurrency)
        cases report with
        | named target value => cases hreport
        | cost amount currency =>
            simp only at hreport
            split at hreport
            · exact hproper _ hmem (Option.some.inj hreport)
            · cases hreport

/-- One more payload is merged. -/
theorem Standing.merge {usage found : Members} {payloads : List (List Report)} {rs : List Report}
    (h : Standing usage payloads) (hleft : Left found rs) (hproper : ∀ report ∈ rs, report.Proper) :
    ∃ usage', Metrics.merge usage (defaultCurrency found) = .ok usage' ∧
      Standing usage' (payloads ++ [rs]) := by
  obtain ⟨hcurrency, hothers, hkeys⟩ := dictGet?_defaultCurrency hleft
  have hnumberKey : ∀ key, isNumberKey key = true → key ≠ "cost_currency" := by
    rintro key hkey rfl
    exact absurd hkey (by decide)
  obtain ⟨usage', hmerge, hnumbers, htexts⟩ := merge_spec hkeys usage
    (fun key value hkey hget => hleft.ranked hkey ((hothers key (hnumberKey key hkey)).symm.trans hget))
    h.ranked
  refine ⟨usage', hmerge, ?_⟩
  constructor
  -- the lists of two payloads are one list, and the greatest of it is kept
  case number =>
    intro key hkey hne
    rw [hnumbers key hkey, hothers key (hnumberKey key hkey), hleft.number key hkey hne,
      h.number key hkey hne, List.flatMap_append, List.flatMap_singleton, Greatest.last_append]
    cases Greatest.last rank (valuesOf key rs) <;> rfl
  case amount =>
    have hkey : isNumberKey "cost_amount" = true := by decide
    rw [hnumbers _ hkey, hothers _ (by decide), hleft.amount, h.amount, List.flatMap_append,
      List.flatMap_singleton, Greatest.last_append]
    cases Greatest.last rank (amountsLeft rs) <;> rfl
  -- a text of the payload takes the place of the one before
  case currency =>
    rw [htexts _ (by decide) (by decide), hcurrency, (notNone_of_proper hproper).2, h.currency,
      List.filterMap_append, List.getLast?_append]
    cases hrs : payloadCurrency rs <;> simp [hrs]
  case text =>
    intro key hkey
    have hplain : isNumberKey key = false ∧ key ≠ "invocation_id" ∧ key ≠ "cost_currency" ∧
        isTextTarget key = true := by
      rcases hkey with rfl | rfl <;> decide
    rw [htexts key hplain.1 hplain.2.1, hothers key hplain.2.2.1, hleft.text key hplain.2.2.2,
      (notNone_of_proper hproper).1, h.text key hkey, List.flatMap_append, List.flatMap_singleton,
      List.getLast?_append]

/-! ## The payloads that count -/

/-- What an arrival reports. -/
def reportsOf (arrival : Arrival) : List Report := reports (.obj arrival.payload)

/-- An arrival whose reports are lost: one of its numbers is too large for a float. -/
def overflows (arrival : Arrival) : Bool := (reportsOf arrival).any Report.overflows

/-- The reports of the arrivals that are not lost. -/
def counted (arrivals : List Arrival) : List (List Report) :=
  (arrivals.filter fun arrival => !overflows arrival).map reportsOf

theorem counted_concat (arrivals : List Arrival) (arrival : Arrival) :
    counted (arrivals ++ [arrival]) =
      counted arrivals ++ if overflows arrival then [] else [reportsOf arrival] := by
  rw [counted, List.filter_append, List.map_append]
  cases h : overflows arrival <;> simp [counted, h]

theorem extractUsage_of_fine {arrival : Arrival} (h : overflows arrival = false) :
    ∃ found, extractUsage arrival.payload = .ok (defaultCurrency found) ∧
      Left found (reportsOf arrival) := by
  have hfine : ∀ report ∈ reportsOf arrival, report.overflows = false := by
    intro report hreport
    have hall := List.any_eq_false.mp h report hreport
    exact Bool.eq_false_iff.mpr hall
  obtain ⟨found, hfound, hleft⟩ := left_of_fine (reportsOf arrival) (proper_reports _) hfine
  refine ⟨found, ?_, hleft⟩
  rw [extractUsage, visit_eq]
  show defaultCurrency <$> (reportsOf arrival).foldlM applyReport [] = _
  rw [hfound]
  rfl

theorem extractUsage_of_overflows {arrival : Arrival} (h : overflows arrival = true) :
    ∃ fault, extractUsage arrival.payload = .error fault := by
  obtain ⟨report, hreport, hbad⟩ := List.any_eq_true.mp h
  obtain ⟨fault, hfault⟩ := error_of_overflows hreport hbad []
  refine ⟨fault, ?_⟩
  rw [extractUsage, visit_eq]
  show defaultCurrency <$> (reportsOf arrival).foldlM applyReport [] = _
  rw [hfault]
  rfl

variable {prices : List ModelPriceConfig} {context : UsageContext}

/-- Before the terminal payload the sink holds what is left, and nothing is recorded. -/
structure Waiting (sink : Sink) (arrivals : List Arrival) : Prop where
  standing : Standing sink.usage (counted arrivals)
  recorded : sink.recorded = false
  ledger : sink.ledger = []

theorem waiting_start : Waiting {} [] :=
  ⟨⟨fun _ _ _ => rfl, rfl, rfl, fun _ _ => rfl⟩, rfl, rfl⟩

/-- What a payload leaves in the sink: nothing if it is lost. -/
theorem observe_of_overflows {sink : Sink} {arrival : Arrival} (h : overflows arrival = true) :
    sink.observe prices context arrival = sink := by
  obtain ⟨fault, hfault⟩ := extractUsage_of_overflows h
  rw [Sink.observe, hfault]
  exact ite_self _

/-- ... and the merged usage, with an event if the payload is terminal. -/
theorem observe_of_fine {sink : Sink} {arrivals : List Arrival} (hsink : Waiting sink arrivals)
    {arrival : Arrival} (h : overflows arrival = false) :
    ∃ usage, Standing usage (counted (arrivals ++ [arrival])) ∧
      sink.observe prices context arrival = sink.settle prices context usage arrival := by
  obtain ⟨found, hextract, hleft⟩ := extractUsage_of_fine h
  obtain ⟨usage, hmerge, hstanding⟩ := hsink.standing.merge hleft (proper_reports _)
  refine ⟨usage, ?_, ?_⟩
  · rw [counted_concat, h]
    exact hstanding
  · rw [Sink.observe, hsink.recorded, if_neg (by decide), hextract]
    simp only [hmerge]

theorem Waiting.observe {sink : Sink} {arrivals : List Arrival} (hsink : Waiting sink arrivals)
    {arrival : Arrival} (hpending : isTerminal arrival.payload = false) :
    Waiting (sink.observe prices context arrival) (arrivals ++ [arrival]) := by
  cases h : overflows arrival with
  | true =>
      rw [observe_of_overflows h]
      refine ⟨?_, hsink.recorded, hsink.ledger⟩
      rw [counted_concat, h, if_pos rfl, List.append_nil]
      exact hsink.standing
  | false =>
      obtain ⟨usage, hstanding, hobserve⟩ := observe_of_fine hsink h
      rw [hobserve, Sink.settle, hpending, if_neg (by decide)]
      exact ⟨hstanding, hsink.recorded, hsink.ledger⟩

/-- **A run of pending payloads.** -/
theorem waiting_run (arrivals : List Arrival)
    (hpending : ∀ arrival ∈ arrivals, isTerminal arrival.payload = false) :
    Waiting (arrivals.foldl (Sink.observe prices context) {}) arrivals := by
  induction arrivals using List.reverseRecOn with
  | nil => exact waiting_start
  | append_singleton arrivals arrival ih =>
      rw [List.forall_mem_append, List.forall_mem_singleton] at hpending
      rw [List.foldl_append]
      exact (ih hpending.1).observe hpending.2

end LlmHarness.Metrics
