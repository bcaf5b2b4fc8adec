/-
  LlmHarness.Metrics.Reports

  What a payload reports, as a list in the order in which `_extract_usage` comes across it,
  and what is left of several payloads' reports after `_merge`: of the numbers under a key
  the last of the greatest, of the texts the last one.
-/

import LlmHarness.Lib.Greatest
import LlmHarness.Metrics.Usage

namespace LlmHarness.Metrics

open Python

/-! ## The reports of a payload -/

/-- A value under one of the names of a kind, or the amount and the currency of a `cost`. -/
inductive Report where
  | named (target : String) (value : Json)
  | cost (amount currency : Json)

/-- A value that is not `None`. -/
def notNone : Option Json → Option Json
  | some .null => none
  | value => value

/-- What an object reports itself. -/
def objectReports (object : Members) : List Report :=
  (aliasPairs.filterMap fun pair => (notNone (dictGet? object pair.2)).map (.named pair.1)) ++
    match field object "cost" with
    | .obj cost => [.cost (field cost "amount") (costCurrency cost)]
    | _ => []

mutual
/-- What a value reports, with everything in it. -/
def reports : Json → List Report
  | .obj object => objectReports object ++ memberReports object
  | .arr items => itemReports items
  | _ => []
def itemReports : List Json → List Report
  | [] => []
  | item :: items => reports item ++ itemReports items
def memberReports : Members → List Report
  | [] => []
  | (_, value) :: members => reports value ++ memberReports members
end

/-- One report is taken into what was found. -/
def applyReport (found : Members) : Report → Except NumberFault Members
  | .named target value =>
    if isTextTarget target then .ok (dictInsert found (target, value))
    else keepGreater found target value
  | .cost amount currency => do
    match ← number amount with
    | none => return found
    | some _ =>
      return dictInsert (dictInsert found ("cost_amount", amount)) ("cost_currency", currency)

theorem foldlM_visitAlias (object : Members) (pairs : List (String × String)) (found : Members) :
    pairs.foldlM (visitAlias object) found =
      (pairs.filterMap fun pair => (notNone (dictGet? object pair.2)).map (Report.named pair.1)).foldlM
        applyReport found := by
  induction pairs generalizing found with
  | nil => rfl
  | cons pair pairs ih =>
      rw [List.foldlM_cons, List.filterMap_cons]
      cases hvalue : dictGet? object pair.2 with
      | none =>
          rw [visitAlias, hvalue]
          exact ih found
      | some value =>
          rw [visitAlias, hvalue]
          cases value with
          | null => exact ih found
          | _ =>
              rw [show (notNone (some _)).map (Report.named pair.1) = some (.named pair.1 _) from rfl]
              simp only [List.foldlM_cons, applyReport, ih]

theorem visitCost_eq (object found : Members) :
    visitCost object found =
      (match field object "cost" with
        | .obj cost => [Report.cost (field cost "amount") (costCurrency cost)]
        | _ => []).foldlM applyReport found := by
  rw [visitCost]
  cases field object "cost" with
  | obj cost =>
      show applyReport found (.cost (field cost "amount") (costCurrency cost)) = _
      simp only [List.foldlM_cons, List.foldlM_nil, bind_pure]
  | _ => rfl

mutual
/-- **The walk takes the reports one after the other.** -/
theorem visit_eq : (value : Json) → (found : Members) →
    visit found value = (reports value).foldlM applyReport found
  | .null, _ => rfl
  | .bool _, _ => rfl
  | .int _, _ => rfl
  | .float _, _ => rfl
  | .str _, _ => rfl
  | .arr items, found => visitItems_eq items found
  | .obj object, found => by
      rw [visit, reports, objectReports, List.foldlM_append, List.foldlM_append, foldlM_visitAlias,
        bind_assoc]
      simp only [visitCost_eq, visitMembers_eq object]
theorem visitItems_eq : (items : List Json) → (found : Members) →
    visitItems found items = (itemReports items).foldlM applyReport found
  | [], _ => rfl
  | item :: items, found => by
      rw [visitItems, itemReports, List.foldlM_append, visit_eq item]
      simp only [visitItems_eq items]
theorem visitMembers_eq : (members : Members) → (found : Members) →
    visitMembers found members = (memberReports members).foldlM applyReport found
  | [], _ => rfl
  | (_, value) :: members, found => by
      rw [visitMembers, memberReports, List.foldlM_append, visit_eq value]
      simp only [visitMembers_eq members]
end

/-! ## What is left of the reports -/

/-- The rank of a reported number. -/
def rank (value : Json) : Option (WithTop ℚ) :=
  match number value with
  | .ok (some x) => x.nonneg?
  | _ => none

/-- A report that ends the walk: a number that is too large for a float. -/
def Report.overflows : Report → Bool
  | .named target value => !isTextTarget target && (number value).toOption.isNone
  | .cost amount _ => (number amount).toOption.isNone

/-- The values reported under a key. -/
def valuesOf (key : String) (rs : List Report) : List Json :=
  rs.filterMap fun
    | .named target value => if target = key then some value else none
    | .cost _ _ => none

/-- The amounts that are compared: a `cost` replaces what was reported before it. -/
def amountsLeft (rs : List Report) : List Json :=
  rs.foldl (fun left report =>
    match report with
    | .named target value => if target = "cost_amount" then left ++ [value] else left
    | .cost amount _ => if (rank amount).isSome then [amount] else left) []

/-- The currency of the last `cost`. -/
def currencyLeft (rs : List Report) : Option Json :=
  (rs.filterMap fun
    | .named _ _ => none
    | .cost amount currency => if (rank amount).isSome then some currency else none).getLast?

theorem valuesOf_concat (key : String) (rs : List Report) (report : Report) :
    valuesOf key (rs ++ [report]) = valuesOf key rs ++ match report with
      | .named target value => if target = key then [value] else []
      | .cost _ _ => [] := by
  rw [valuesOf, List.filterMap_append]
  cases report with
  | named target value =>
      by_cases hkey : target = key <;> simp [valuesOf, hkey]
  | cost amount currency => rfl

theorem amountsLeft_concat (rs : List Report) (report : Report) :
    amountsLeft (rs ++ [report]) = match report with
      | .named target value =>
        if target = "cost_amount" then amountsLeft rs ++ [value] else amountsLeft rs
      | .cost amount _ => if (rank amount).isSome then [amount] else amountsLeft rs := by
  rw [amountsLeft, List.foldl_append]
  rfl

theorem currencyLeft_concat_cost (rs : List Report) {amount : Json} (currency : Json)
    (h : (rank amount).isSome) : currencyLeft (rs ++ [.cost amount currency]) = some currency := by
  rw [currencyLeft, List.filterMap_append]
  simp [h]

theorem currencyLeft_concat (rs : List Report) {report : Report}
    (h : ∀ amount currency, report = .cost amount currency → ¬ (rank amount).isSome) :
    currencyLeft (rs ++ [report]) = currencyLeft rs := by
  rw [currencyLeft, List.filterMap_append]
  cases report with
  | named target value => simp [currencyLeft]
  | cost amount currency => simp [currencyLeft, h amount currency rfl]

/-! ## Numbers -/

theorem nonneg_of_number {value : Json} {x : FloatValue} (h : number value = .ok (some x)) :
    ∃ r, x.nonneg? = some r ∧ rank value = some r := by
  have hx : x.nonneg?.isSome := by
    cases value with
    | null | bool => cases h
    | _ =>
        simp only [number] at h
        split at h
        · rename_i y hy
          by_cases hsome : y.nonneg?.isSome = true
          · rw [if_pos hsome] at h
            cases h
            exact hsome
          · rw [if_neg hsome] at h
            cases h
        · cases h
        · cases h
  obtain ⟨r, hr⟩ := Option.isSome_iff_exists.mp hx
  refine ⟨r, hr, ?_⟩
  rw [rank, h]
  exact hr

theorem number_of_rank {value : Json} {r : WithTop ℚ} (h : rank value = some r) :
    ∃ x, number value = .ok (some x) ∧ x.nonneg? = some r := by
  rw [rank] at h
  split at h
  · rename_i x hx
    exact ⟨x, hx, h⟩
  · cases h

theorem rank_eq_none_iff {value : Json} {found : Option FloatValue} (h : number value = .ok found) :
    rank value = none ↔ found = none := by
  cases found with
  | none =>
      refine iff_of_true ?_ rfl
      rw [rank, h]
  | some x =>
      obtain ⟨r, -, hr⟩ := nonneg_of_number h
      rw [hr]
      exact iff_of_false nofun nofun

/-- **One comparison**: the greater number is kept, and nothing else changes. -/
theorem keepGreater_spec {found : Members} {key : String} {candidate : Json} {x : Option FloatValue}
    (hcandidate : number candidate = .ok x)
    (hcurrent : ∀ value, dictGet? found key = some value → ∃ y, number value = .ok y) :
    ∃ found', keepGreater found key candidate = .ok found' ∧
      (found' = found ∨ found' = dictInsert found (key, candidate)) ∧
      ∀ other, dictGet? found' other =
        if other = key then Greatest.keep rank (dictGet? found key) candidate else dictGet? found other := by
  -- a candidate without a number changes nothing
  have hsame : rank candidate = none → ∀ other, dictGet? found other =
      if other = key then Greatest.keep rank (dictGet? found key) candidate else dictGet? found other := by
    intro hnone other
    by_cases hother : other = key
    · rw [if_pos hother, hother, Greatest.keep_of_rank_none hnone]
    · rw [if_neg hother]
  -- a candidate that is kept is inserted under the key
  have hinsert : Greatest.keep rank (dictGet? found key) candidate = some candidate →
      ∀ other, dictGet? (dictInsert found (key, candidate)) other =
        if other = key then Greatest.keep rank (dictGet? found key) candidate else dictGet? found other := by
    intro hkeep other
    rw [dictGet?_dictInsert, hkeep]
  -- what the candidate's number is compared with is the number found so far, if there is one
  cases x with
  | none =>
      refine ⟨found, ?_, Or.inl rfl, hsame ((rank_eq_none_iff hcandidate).mpr rfl)⟩
      rw [keepGreater, hcandidate]
      rfl
  | some x =>
      obtain ⟨r, hxr, hr⟩ := nonneg_of_number hcandidate
      cases hget : dictGet? found key with
      -- nothing found yet
      | none =>
          have hfield : number (field found key) = .ok none := by
            rw [field, hget]
            rfl
          refine ⟨dictInsert found (key, candidate), ?_, Or.inr rfl, ?_⟩
          · simp only [keepGreater, hcandidate, hfield]
            rfl
          · rw [← hget]
            exact hinsert (by rw [hget, Greatest.keep_none hr])
      | some value =>
          obtain ⟨y, hy⟩ := hcurrent value hget
          have hfield : number (field found key) = .ok y := by
            rw [field, hget]
            exact hy
          cases y with
          -- what was found carries no number, so the candidate takes its place
          | none =>
              have hnone : rank value = none := (rank_eq_none_iff hy).mpr rfl
              refine ⟨dictInsert found (key, candidate), ?_, Or.inr rfl, ?_⟩
              · simp only [keepGreater, hcandidate, hfield]
                rfl
              · rw [← hget]
                refine hinsert ?_
                have hbind : (some value).bind rank = none := hnone
                rw [hget, Greatest.keep, hr, hbind]
          | some y =>
              obtain ⟨c, hyc, hc⟩ := nonneg_of_number hy
              -- two numbers: the later of two equal ones is kept
              have hstep : keepGreater found key candidate =
                  .ok (if c ≤ r then dictInsert found (key, candidate) else found) := by
                have hle : atLeast x y = decide (c ≤ r) := by rw [atLeast, hxr, hyc]
                have htake : keepGreater found key candidate =
                    .ok (if atLeast x y then dictInsert found (key, candidate) else found) := by
                  simp only [keepGreater, hcandidate, hfield]
                  rfl
                rw [htake, hle]
                simp only [decide_eq_true_eq]
              rw [hstep, ← hget]
              by_cases hle : c ≤ r
              · rw [if_pos hle]
                refine ⟨_, rfl, Or.inr rfl, hinsert ?_⟩
                rw [hget, Greatest.keep_some hc hr, if_pos hle]
              · rw [if_neg hle]
                refine ⟨_, rfl, Or.inl rfl, fun other => ?_⟩
                by_cases hother : other = key
                · rw [if_pos hother, hother, hget, Greatest.keep_some hc hr, if_neg hle]
                · rw [if_neg hother]

/-! ## What the walk finds -/

/-- A report of a known kind, with a value. -/
def Report.Proper : Report → Prop
  | .named target value =>
    (isNumberKey target = true ∨ isTextTarget target = true) ∧ value ≠ .null
  | .cost _ currency => currency ≠ .null

theorem isTextTarget_of_isNumberKey {key : String} (h : isNumberKey key = true) :
    isTextTarget key = false := by
  simp only [isNumberKey, List.contains_iff_mem, List.mem_cons, List.not_mem_nil, or_false] at h
  rcases h with rfl | rfl | rfl | rfl | rfl | rfl | rfl <;> rfl

/-- What was found is what is left of the reports. -/
structure Left (found : Members) (rs : List Report) : Prop where
  number : ∀ key, isNumberKey key = true → key ≠ "cost_amount" →
    dictGet? found key = Greatest.last rank (valuesOf key rs)
  amount : dictGet? found "cost_amount" = Greatest.last rank (amountsLeft rs)
  currency : dictGet? found "cost_currency" = currencyLeft rs
  text : ∀ key, isTextTarget key = true → dictGet? found key = (valuesOf key rs).getLast?
  keys : (found.map Prod.fst).Nodup

theorem Left.ranked {found : Members} {rs : List Report} (h : Left found rs) {key : String}
    (hkey : isNumberKey key = true) {value : Json} (hget : dictGet? found key = some value) :
    ∃ x, Metrics.number value = .ok x := by
  have hlast : ∃ xs, Greatest.last rank xs = some value := by
    by_cases hcost : key = "cost_amount"
    · exact ⟨_, h.amount.symm.trans (hcost ▸ hget)⟩
    · exact ⟨_, (h.number key hkey hcost).symm.trans hget⟩
  obtain ⟨xs, hlast⟩ := hlast
  obtain ⟨-, r, hr⟩ := Greatest.rank_of_last hlast
  obtain ⟨x, hx, -⟩ := number_of_rank hr
  exact ⟨_, hx⟩

/-- A named report leaves the currency as it is. -/
theorem currencyLeft_named (rs : List Report) (target : String) (value : Json) :
    currencyLeft (rs ++ [.named target value]) = currencyLeft rs := currencyLeft_concat rs nofun

/-- A named text takes the place of the one that was found. -/
theorem Left.text_named {found : Members} {rs : List Report} (h : Left found rs) {target : String}
    (value : Json) (htext : isTextTarget target = true) :
    Left (dictInsert found (target, value)) (rs ++ [.named target value]) := by
  have hcost : target ≠ "cost_amount" := by
    rintro rfl
    cases htext
  have hcurr : target ≠ "cost_currency" := by
    rintro rfl
    cases htext
  constructor
  -- the number keys are not the target
  case number =>
    intro key hkey hne
    have hother : key ≠ target := by
      rintro rfl
      rw [isTextTarget_of_isNumberKey hkey] at htext
      cases htext
    rw [dictGet?_dictInsert, if_neg hother, valuesOf_concat, h.number key hkey hne]
    simp [hother.symm]
  case amount =>
    rw [dictGet?_dictInsert, if_neg hcost.symm, amountsLeft_concat, h.amount]
    simp [hcost]
  case currency =>
    rw [dictGet?_dictInsert, if_neg hcurr.symm, currencyLeft_named rs, h.currency]
  case text =>
    intro key hkey
    rw [dictGet?_dictInsert, valuesOf_concat]
    by_cases hother : key = target
    · simp [hother]
    · rw [if_neg hother, h.text key hkey]
      have hother' : ¬ target = key := fun hsame => hother hsame.symm
      simp [hother']
  case keys => exact nodup_keys_dictInsert h.keys _

/-- A named number is kept where it is the greatest so far. -/
theorem Left.number_named {found : Members} {rs : List Report} (h : Left found rs) {target : String}
    {value : Json} {x : Option FloatValue} (hnumber : isNumberKey target = true)
    (htext : ¬ isTextTarget target = true) (hx : Metrics.number value = .ok x) :
    ∃ found', keepGreater found target value = .ok found' ∧ Left found' (rs ++ [.named target value]) := by
  have hcurr : target ≠ "cost_currency" := by
    rintro rfl
    exact absurd hnumber (by decide)
  -- What is kept is the greater of the two, and nothing else changes.
  obtain ⟨found', hkeep, hshape, hget⟩ := keepGreater_spec hx fun current hcurrent =>
    h.ranked hnumber hcurrent
  refine ⟨found', hkeep, ?_⟩
  constructor
  case number =>
    intro key hkey hne
    rw [hget, valuesOf_concat]
    by_cases hother : key = target
    · rw [if_pos hother, ← hother, h.number key hkey hne]
      simp only [if_true]
      exact (Greatest.last_concat _ _).symm
    · have hother' : ¬ target = key := fun hsame => hother hsame.symm
      rw [if_neg hother, h.number key hkey hne]
      simp [hother']
  case amount =>
    rw [hget, amountsLeft_concat]
    -- The amount is one of the numbers, so it follows the same rule.
    by_cases hcost : target = "cost_amount"
    · simp only [hcost, if_true]
      rw [h.amount, Greatest.last_concat]
    · simp only [hcost, if_false]
      rw [if_neg (Ne.symm hcost), h.amount]
  case currency => rw [hget, if_neg hcurr.symm, currencyLeft_named rs, h.currency]
  case text =>
    intro key hkey
    have hother : key ≠ target := fun hsame => htext (hsame ▸ hkey)
    rw [hget, if_neg hother, valuesOf_concat, h.text key hkey]
    simp [hother.symm]
  case keys =>
    rcases hshape with rfl | rfl
    · exact h.keys
    · exact nodup_keys_dictInsert h.keys _

/-- A named report is taken in. -/
theorem Left.named {found : Members} {rs : List Report} (h : Left found rs) {target : String}
    {value : Json} (hproper : (Report.named target value).Proper)
    (hfine : (Report.named target value).overflows = false) :
    ∃ found', applyReport found (.named target value) = .ok found' ∧
      Left found' (rs ++ [.named target value]) := by
  by_cases htext : isTextTarget target = true
  · exact ⟨dictInsert found (target, value), if_pos htext, h.text_named value htext⟩
  · -- a target that is no text is a number key, and its value reads as a number
    have hnumber : isNumberKey target = true := hproper.1.resolve_right htext
    obtain ⟨x, hx⟩ : ∃ x, Metrics.number value = .ok x := by
      rw [Report.overflows, Bool.and_eq_false_iff] at hfine
      rcases hfine with hfine | hfine
      · simp [htext] at hfine
      · cases hvalue : Metrics.number value with
        | ok x => exact ⟨x, rfl⟩
        | error fault =>
            rw [hvalue] at hfine
            cases hfine
    obtain ⟨found', hkeep, hleft⟩ := h.number_named hnumber htext hx
    exact ⟨found', (if_neg htext).trans hkeep, hleft⟩

theorem Left.cost {found : Members} {rs : List Report} (h : Left found rs) {amount currency : Json}
    (hfine : (Report.cost amount currency).overflows = false) :
    ∃ found', applyReport found (.cost amount currency) = .ok found' ∧
      Left found' (rs ++ [.cost amount currency]) := by
  obtain ⟨x, hx⟩ : ∃ x, Metrics.number amount = .ok x := by
    cases hvalue : Metrics.number amount with
    | ok x => exact ⟨x, rfl⟩
    | error fault =>
        rw [Report.overflows, hvalue] at hfine
        cases hfine
  -- a cost reports nothing under the names of the texts and the numbers
  have hvalues : ∀ key, valuesOf key (rs ++ [.cost amount currency]) = valuesOf key rs := fun key => by
    rw [valuesOf_concat, List.append_nil]
  cases x with
  -- an amount without a number leaves what was found
  | none =>
      have hnone : ¬ (rank amount).isSome := by
        rw [(rank_eq_none_iff hx).mpr rfl]
        nofun
      refine ⟨found, ?_, ?_⟩
      · rw [applyReport, hx]
        rfl
      · constructor
        case number => exact fun key hkey hne => (hvalues key).symm ▸ h.number key hkey hne
        case amount =>
          rw [amountsLeft_concat, h.amount]
          simp [hnone]
        case currency =>
          rw [currencyLeft_concat, h.currency]
          rintro _ _ hsame
          cases hsame
          exact hnone
        case text => exact fun key hkey => (hvalues key).symm ▸ h.text key hkey
        case keys => exact h.keys
  | some x =>
      obtain ⟨r, -, hr⟩ := nonneg_of_number hx
      have hsome : (rank amount).isSome := by rw [hr]; rfl
      -- an amount with a number takes the place of the one found, with its currency
      refine ⟨dictInsert (dictInsert found ("cost_amount", amount)) ("cost_currency", currency), ?_, ?_⟩
      · rw [applyReport, hx]
        rfl
      · constructor
        case number =>
          intro key hkey hne
          have hcurr : key ≠ "cost_currency" := by
            rintro rfl
            exact absurd hkey (by decide)
          rw [dictGet?_dictInsert, if_neg hcurr, dictGet?_dictInsert, if_neg hne, hvalues]
          exact h.number key hkey hne
        case amount =>
          have hne : ¬ "cost_amount" = "cost_currency" := by decide
          rw [dictGet?_dictInsert, if_neg hne, dictGet?_dictInsert, if_pos rfl, amountsLeft_concat]
          simp only [hsome, if_true]
          exact (Greatest.keep_none hr).symm
        case currency =>
          rw [dictGet?_dictInsert, if_pos rfl, currencyLeft_concat_cost rs currency hsome]
        case text =>
          intro key hkey
          have hcurr : key ≠ "cost_currency" := by
            rintro rfl
            cases hkey
          have hcost : key ≠ "cost_amount" := by
            rintro rfl
            cases hkey
          rw [dictGet?_dictInsert, if_neg hcurr, dictGet?_dictInsert, if_neg hcost, hvalues]
          exact h.text key hkey
        case keys => exact nodup_keys_dictInsert (nodup_keys_dictInsert h.keys _) _

/-- **The walk finds what is left of the reports**, if none of them ends it. -/
theorem left_of_fine (rs : List Report) (hproper : ∀ report ∈ rs, report.Proper)
    (hfine : ∀ report ∈ rs, report.overflows = false) :
    ∃ found, rs.foldlM applyReport [] = .ok found ∧ Left found rs := by
  induction rs using List.reverseRecOn with
  | nil =>
      refine ⟨[], rfl, ?_⟩
      exact ⟨fun _ _ _ => rfl, rfl, rfl, fun _ _ => rfl, List.nodup_nil⟩
  | append_singleton rs report ih =>
      rw [List.forall_mem_append, List.forall_mem_singleton] at hproper hfine
      obtain ⟨found, hfound, hleft⟩ := ih hproper.1 hfine.1
      obtain ⟨found', hstep, hleft'⟩ : ∃ found', applyReport found report = .ok found' ∧
          Left found' (rs ++ [report]) := by
        cases report with
        | named target value => exact hleft.named hproper.2 hfine.2
        | cost amount currency => exact hleft.cost hfine.2
      refine ⟨found', ?_, hleft'⟩
      rw [List.foldlM_append, hfound]
      show [report].foldlM applyReport found = .ok found'
      rw [List.foldlM_cons, hstep]
      rfl

/-- A report that is too large ends the walk. -/
theorem error_of_overflows {rs : List Report} {report : Report} (hmem : report ∈ rs)
    (hbad : report.overflows = true) (found : Members) :
    ∃ fault, rs.foldlM applyReport found = .error fault := by
  -- the report that overflows raises on whatever was found
  have hstep : ∀ found, ∃ fault, applyReport found report = .error fault := by
    intro found
    cases report with
    | named target value =>
        rw [Report.overflows, Bool.and_eq_true, Bool.not_eq_true'] at hbad
        cases hvalue : Metrics.number value with
        | ok x =>
            rw [hvalue] at hbad
            cases hbad.2
        | error fault =>
            refine ⟨fault, ?_⟩
            rw [applyReport, hbad.1, if_neg (by decide), keepGreater, hvalue]
            rfl
    | cost amount currency =>
        cases hvalue : Metrics.number amount with
        | ok x =>
            rw [Report.overflows, hvalue] at hbad
            cases hbad
        | error fault =>
            refine ⟨fault, ?_⟩
            rw [applyReport, hvalue]
            rfl
  -- the fold reaches it, or raises before
  induction rs generalizing found with
  | nil => cases hmem
  | cons first rs ih =>
      rw [List.foldlM_cons]
      rcases List.mem_cons.mp hmem with rfl | hmem
      · obtain ⟨fault, hfault⟩ := hstep found
        exact ⟨fault, by rw [hfault]; rfl⟩
      · cases hfirst : applyReport found first with
        | error fault => exact ⟨fault, rfl⟩
        | ok found' => exact ih hmem found'

/-! ## The reports of a payload are proper -/

theorem proper_objectReports (object : Members) : ∀ report ∈ objectReports object, report.Proper := by
  -- every alias stands for a number key or for a text
  have hpairs : ∀ pair ∈ aliasPairs, isNumberKey pair.1 = true ∨ isTextTarget pair.1 = true := by
    decide
  rw [objectReports, List.forall_mem_append]
  constructor
  · intro report hreport
    obtain ⟨pair, hpair, hsome⟩ := List.mem_filterMap.mp hreport
    obtain ⟨value, hvalue, rfl⟩ := Option.map_eq_some_iff.mp hsome
    refine ⟨hpairs pair hpair, ?_⟩
    rintro rfl
    unfold notNone at hvalue
    split at hvalue
    · cases hvalue
    · rename_i hne
      exact hne hvalue
  -- a cost that is a dict is one report
  · intro report hreport
    cases hcost : field object "cost" with
    | obj cost =>
        rw [hcost] at hreport
        rw [List.mem_singleton.mp hreport]
        exact nofun
    | _ =>
        rw [hcost] at hreport
        cases hreport

mutual
theorem proper_reports : (value : Json) → ∀ report ∈ reports value, report.Proper
  | .null, _, h => nomatch h
  | .bool _, _, h => nomatch h
  | .int _, _, h => nomatch h
  | .float _, _, h => nomatch h
  | .str _, _, h => nomatch h
  | .arr items, report, h => proper_itemReports items report h
  | .obj object, report, h => by
      rcases List.mem_append.mp h with h | h
      · exact proper_objectReports object report h
      · exact proper_memberReports object report h
theorem proper_itemReports : (items : List Json) → ∀ report ∈ itemReports items, report.Proper
  | [], _, h => nomatch h
  | item :: items, report, h => by
      rcases List.mem_append.mp h with h | h
      · exact proper_reports item report h
      · exact proper_itemReports items report h
theorem proper_memberReports : (members : Members) → ∀ report ∈ memberReports members, report.Proper
  | [], _, h => nomatch h
  | (_, value) :: members, report, h => by
      rcases List.mem_append.mp h with h | h
      · exact proper_reports value report h
      · exact proper_memberReports members report h
end

end LlmHarness.Metrics
