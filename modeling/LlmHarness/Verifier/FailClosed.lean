/-
  LlmHarness.Verifier.FailClosed

  Which texts `scan_patch` reads without raising, and when a quoted name that it
  cannot read ends in a problem.  The scan is cut into its events: the headers
  it meets outside the hunks.  What an event does depends on the files, the
  problems and the pending header only, and which events there are depends on the
  text only, so the scan is a fold over the events of the text.
-/

import LlmHarness.Verifier.PatchScan

namespace LlmHarness

open Python

/-! ## The faults of a quoted name -/

/-- What can be wrong with a quoted name. -/
inductive QuoteFault where
  | badEscape
  | octalOutsideByte
  | unterminated
  | invalidUtf8
deriving DecidableEq, Repr

/-- The first fault of a quoted name, from the bytes read so far and the text that follows. -/
def quoteFaultFrom (raw : List UInt8) : Text → Option QuoteFault
  | [] => some .unterminated
  | c :: rest =>
    if c = '"' then if (decodeUtf8 raw).isNone then some .invalidUtf8 else none
    else if c ≠ '\\' then quoteFaultFrom (raw ++ String.utf8EncodeChar c) rest
    else
      match rest with
      | [] => some .unterminated
      | escape :: tail =>
        match cEscape? escape with
        | some byte => quoteFaultFrom (raw ++ [byte]) tail
        | none =>
          match octalEscape? (escape :: tail) with
          | none => some .badEscape
          | some value =>
            if 255 < value then some .octalOutsideByte
            else quoteFaultFrom (raw ++ [UInt8.ofNat value]) (tail.drop 2)
termination_by text => text.length
decreasing_by all_goals simp_wf; try omega

/-- The fault of a token that starts with a quote. -/
def quoteFault (token : Text) : Option QuoteFault := quoteFaultFrom [] (token.drop 1)

/-- What a reader answers to a name with the fault: it raises for an octal escape outside a
    byte, and gives up on the others. -/
def AnswersFault {α : Type} (answer : Except String (Option α)) : Option QuoteFault → Prop
  | none => ∃ name, answer = .ok (some name)
  | some .octalOutsideByte => ∃ e, answer = .error e
  | some _ => answer = .ok none

theorem AnswersFault.error_iff {α : Type} {answer : Except String (Option α)}
    {fault : Option QuoteFault} (h : AnswersFault answer fault) :
    (∃ e, answer = .error e) ↔ fault = some .octalOutsideByte := by
  rcases fault with _ | fault
  · obtain ⟨name, rfl⟩ := h
    simp
  · cases fault with
    | octalOutsideByte => exact iff_of_true h rfl
    | badEscape | unterminated | invalidUtf8 =>
        replace h : answer = .ok none := h
        subst h
        simp

/-- A fault is never read as a name. -/
theorem AnswersFault.of_isSome {α : Type} {answer : Except String (Option α)}
    {fault : Option QuoteFault} (h : AnswersFault answer fault) (hfault : fault.isSome) :
    (∃ e, answer = .error e) ∨ answer = .ok none := by
  rcases fault with _ | fault
  · cases hfault
  · cases fault with
    | octalOutsideByte => exact Or.inl h
    | badEscape | unterminated | invalidUtf8 => exact Or.inr h

theorem readQuotedBytes_fault (fuel : Nat) (raw : List UInt8) (text : Text)
    (hfuel : text.length < fuel) :
    AnswersFault (readQuotedBytes raw fuel text) (quoteFaultFrom raw text) := by
  induction fuel generalizing raw text with
  | zero => exact absurd hfuel (Nat.not_lt_zero _)
  -- the fuel is longer than the text, so only the text can end the loop
  | succ fuel ih =>
      cases text with
      | nil =>
          rw [readQuotedBytes, quoteFaultFrom]
          rfl
      | cons c rest =>
          rw [List.length_cons] at hfuel
          rw [readQuotedBytes.eq_def, quoteFaultFrom.eq_def]
          dsimp only
          by_cases hquote : c = '"'
          · rw [if_pos hquote, if_pos hquote]
            cases decodeUtf8 raw with
            | none => rfl
            | some name => exact ⟨(name, rest), rfl⟩
          rw [if_neg hquote, if_neg hquote]
          by_cases hplain : c ≠ '\\'
          · rw [if_pos hplain, if_pos hplain]
            exact ih _ _ (by omega)
          rw [if_neg hplain, if_neg hplain]
          -- behind the backslash: a letter, an octal value, or nothing that git writes
          cases rest with
          | nil => rfl
          | cons escape tail =>
              rw [List.length_cons] at hfuel
              dsimp only
              cases cEscape? escape with
              | some byte => exact ih _ _ (by omega)
              | none =>
                  cases octalEscape? (escape :: tail) with
                  | none => rfl
                  | some value =>
                      dsimp only
                      -- the byte is made from the value, which raises above 255
                      by_cases hvalue : 255 < value
                      · rw [if_pos hvalue, if_pos hvalue]
                        exact ⟨_, rfl⟩
                      · rw [if_neg hvalue, if_neg hvalue]
                        exact ih _ _ (by simp only [List.drop_succ_cons, List.length_drop]; omega)

/-- `_read_quoted_token` answers to the fault of its token. -/
theorem readQuotedToken_fault {token : Text} (htoken : token.head? = some '"') :
    AnswersFault (readQuotedToken token) (quoteFault token) := by
  cases token with
  | nil => cases htoken
  | cons c rest => exact readQuotedBytes_fault _ _ _ (Nat.lt_succ_self _)

/-! ## The events of a scan -/

/-- A header line outside the hunks; a file header comes with the line after it. -/
inductive ScanEvent where
  | hunk (line : Text)
  | git (line : Text)
  | combined (line token : Text)
  | unified (line next : Text)

/-- The events the scan meets, in a hunk with the given counts still to come. -/
def scanEvents (old new : Nat) : List Text → List ScanEvent
  | [] => []
  | line :: rest =>
    match if 0 < old ∨ 0 < new then hunkBodyStep line else none with
    | some (o, n) => scanEvents (old - o) (new - n) rest
    | none =>
      match lineKind line rest.head? with
      | .hunkHeader =>
        .hunk line :: scanEvents ((hunkCounts line).getD (0, 0)).1 ((hunkCounts line).getD (0, 0)).2 rest
      | .gitHeader => .git line :: scanEvents 0 0 rest
      | .combinedHeader token => .combined line token :: scanEvents 0 0 rest
      | .unifiedHeader next => .unified line next :: scanEvents 0 0 rest.tail
      | .other => scanEvents 0 0 rest
termination_by lines => lines.length
decreasing_by all_goals simp_wf; try omega

/-- The events of a patch. -/
def patchEvents (patch : Text) : List ScanEvent := scanEvents 0 0 (splitlines patch)

/-- The state outside a hunk. -/
def ScanState.clear (state : ScanState) : ScanState :=
  { state with remainingOld := 0, remainingNew := 0 }

/-- What the scan does at an event. -/
def ScanState.take (state : ScanState) : ScanEvent → Except String ScanState
  | .hunk line => .ok (state.hunkHeader line).clear
  | .git line => state.gitHeader line
  | .combined line token => state.combinedHeader line token
  | .unified line next => state.unifiedHeader line next

/-- The names an event declares; nothing when they cannot be read. -/
def ScanEvent.names? : ScanEvent → Except String (Option (List Text))
  | .hunk _ => .ok (some [])
  | .git line => gitHeaderPaths (line.drop "diff --git ".length)
  | .combined _ token => do return (← decodePathToken token).map fun name => [name]
  | .unified line next => do
    match (← decodePathToken (line.drop 4)).toList ++ (← decodePathToken (next.drop 4)).toList with
    | [] => return none
    | names => return some names

/-- The problem of an event whose names cannot be read. -/
def ScanEvent.problem : ScanEvent → ScanProblem
  | .hunk line => .hunkHeader (strip line)
  | .git line => .diffHeader (strip line)
  | .combined line _ => .diffHeader (strip line)
  | .unified line _ => .unifiedDiffHeader (strip line)

/-- What the names of an event change. -/
def ScanState.after (state : ScanState) (event : ScanEvent) (names : Option (List Text)) : ScanState :=
  match event with
  | .hunk line => (state.hunkHeader line).clear
  | .git line =>
    match names with
    | none => { state.reportPending with pendingHeader := some (strip line) }
    | some names => { state.reportPending with files := state.reportPending.files ++ names }
  | .combined line _ =>
    match names with
    | none => { state.reportPending with
        problems := state.reportPending.problems ++ [.diffHeader (strip line)] }
    | some names => { state.reportPending with files := state.reportPending.files ++ names }
  | .unified line _ =>
    match names with
    | none => { state with
        problems := state.problems ++ [.unifiedDiffHeader (strip line)]
        pendingHeader := none }
    | some names => { state with files := state.files ++ names, pendingHeader := none }

theorem take_of_error (state : ScanState) {event : ScanEvent} {e : String}
    (h : event.names? = .error e) : state.take event = .error e := by
  cases event with
  | hunk line => cases h
  | git line =>
      rw [ScanEvent.names?] at h
      rw [ScanState.take, ScanState.gitHeader, h]
      rfl
  | combined line token =>
      rw [ScanEvent.names?] at h
      rw [ScanState.take, ScanState.combinedHeader]
      cases htoken : decodePathToken token with
      | error e' =>
          rw [htoken] at h
          cases h
          rfl
      | ok name =>
          rw [htoken] at h
          cases h
  | unified line next =>
      rw [ScanEvent.names?] at h
      rw [ScanState.take, ScanState.unifiedHeader]
      cases hold : decodePathToken (line.drop 4) with
      | error e' =>
          rw [hold] at h
          cases h
          rfl
      -- the second name is read only when the first one was
      | ok oldName =>
          cases hnew : decodePathToken (next.drop 4) with
          | error e' =>
              rw [hold, hnew] at h
              cases h
              rfl
          | ok newName =>
              rw [hold, hnew] at h
              replace h : (match oldName.toList ++ newName.toList with
                | [] => (Except.ok none : Except String (Option (List Text)))
                | names => .ok (some names)) = .error e := h
              split at h <;> cases h

theorem take_of_ok (state : ScanState) {event : ScanEvent} {names : Option (List Text)}
    (h : event.names? = .ok names) : state.take event = .ok (state.after event names) := by
  cases event with
  | hunk line => rfl
  | git line =>
      rw [ScanEvent.names?] at h
      rw [ScanState.take, ScanState.gitHeader, h]
      cases names <;> rfl
  | combined line token =>
      rw [ScanEvent.names?] at h
      rw [ScanState.take, ScanState.combinedHeader]
      cases htoken : decodePathToken token with
      | error e =>
          rw [htoken] at h
          cases h
      | ok name =>
          rw [htoken] at h
          cases h
          cases name <;> rfl
  | unified line next =>
      rw [ScanEvent.names?] at h
      rw [ScanState.take, ScanState.unifiedHeader]
      -- The two names of a unified header are decoded one after the other.
      cases hold : decodePathToken (line.drop 4) with
      | error e =>
          rw [hold] at h
          cases h
      | ok oldName =>
          cases hnew : decodePathToken (next.drop 4) with
          | error e =>
              rw [hold, hnew] at h
              cases h
          | ok newName =>
              rw [hold, hnew] at h
              cases oldName <;> cases newName <;> cases h <;> rfl

/-- The state has no hunk open. -/
def ScanState.Outside (state : ScanState) : Prop := state.remainingOld = 0 ∧ state.remainingNew = 0

theorem ScanState.Outside.clear {state : ScanState} (h : state.Outside) : state.clear = state := by
  obtain ⟨files, problems, pending, old, new⟩ := state
  obtain ⟨rfl, rfl⟩ : old = 0 ∧ new = 0 := h
  rfl

theorem ScanState.outside_clear (state : ScanState) : state.clear.Outside := ⟨rfl, rfl⟩

theorem ScanState.Outside.reportPending {state : ScanState} (h : state.Outside) :
    state.reportPending.Outside := by
  rw [ScanState.reportPending]
  split
  · exact h
  · exact h

/-- No event but a hunk header opens a hunk, and the counts of that one are not kept here. -/
theorem ScanState.Outside.after {state : ScanState} (h : state.Outside) (event : ScanEvent)
    (names : Option (List Text)) : (state.after event names).Outside := by
  cases event with
  | hunk line => exact ScanState.outside_clear _
  | git line => cases names <;> exact h.reportPending
  | combined line token => cases names <;> exact h.reportPending
  | unified line next => cases names <;> exact h

theorem ScanState.Outside.take {state state' : ScanState} (h : state.Outside) {event : ScanEvent}
    (htake : state.take event = .ok state') : state'.Outside := by
  cases hnames : event.names? with
  | error e =>
      rw [take_of_error state hnames] at htake
      cases htake
  | ok names =>
      rw [take_of_ok state hnames] at htake
      cases htake
      exact h.after event names

/-- The events from a line that is not in a hunk body on. -/
theorem scanEvents_cons {old new : Nat} {line : Text} {rest : List Text}
    (hbody : (if 0 < old ∨ 0 < new then hunkBodyStep line else none) = none) :
    scanEvents old new (line :: rest) =
      match lineKind line rest.head? with
      | .hunkHeader =>
        .hunk line :: scanEvents ((hunkCounts line).getD (0, 0)).1 ((hunkCounts line).getD (0, 0)).2 rest
      | .gitHeader => .git line :: scanEvents 0 0 rest
      | .combinedHeader token => .combined line token :: scanEvents 0 0 rest
      | .unifiedHeader next => .unified line next :: scanEvents 0 0 rest.tail
      | .other => scanEvents 0 0 rest := by
  rw [scanEvents.eq_def]
  dsimp only
  rw [hbody]

/-- A line of a hunk body is no event. -/
theorem scanEvents_body {old new : Nat} {line : Text} {rest : List Text} {counts : Nat × Nat}
    (hbody : (if 0 < old ∨ 0 < new then hunkBodyStep line else none) = some counts) :
    scanEvents old new (line :: rest) = scanEvents (old - counts.1) (new - counts.2) rest := by
  rw [scanEvents.eq_def]
  dsimp only
  rw [hbody]

/-- The counts of a hunk header are the ones the following lines are read with. -/
theorem hunkHeader_counts (state : ScanState) (line : Text) :
    (state.clear.hunkHeader line).remainingOld = ((hunkCounts line).getD (0, 0)).1 ∧
      (state.clear.hunkHeader line).remainingNew = ((hunkCounts line).getD (0, 0)).2 := by
  rw [ScanState.hunkHeader]
  cases hunkCounts line <;> exact ⟨rfl, rfl⟩

/-- The scan of a text is a fold over its events: the counters are no part of what the
    events see. -/
theorem scanLines_eq_foldlM (state : ScanState) (lines : List Text) :
    (scanLines state lines).map ScanState.clear =
      (scanEvents state.remainingOld state.remainingNew lines).foldlM ScanState.take state.clear := by
  -- a step that raises, and one that goes on outside the hunks
  have hraises : ∀ {state : ScanState} {event : ScanEvent} {events : List ScanEvent} {e : String},
      state.take event = .error e → (Except.error e : Except String ScanState).map ScanState.clear =
        (event :: events).foldlM ScanState.take state := by
    intro state event events e h
    rw [List.foldlM_cons, h]
    rfl
  have hgoes : ∀ {state state' : ScanState} {event : ScanEvent} {lines : List Text},
      state.clear.take event = .ok state' →
      (scanLines state' lines).map ScanState.clear =
        (scanEvents state'.remainingOld state'.remainingNew lines).foldlM ScanState.take state'.clear →
      (scanLines state' lines).map ScanState.clear =
        (event :: scanEvents 0 0 lines).foldlM ScanState.take state.clear := by
    intro state state' event lines htake ih
    have houtside := (ScanState.outside_clear state).take htake
    rw [ih, houtside.clear, houtside.1, houtside.2, List.foldlM_cons, htake]
    rfl
  -- one case for each branch of the loop; the counts of the open hunk go along
  fun_induction scanLines state lines with
  | case1 state =>
      rw [scanEvents]
      rfl
  | case2 state line rest body old new hbody ih =>
      rw [ih, scanEvents_body hbody]
      rfl
  -- a hunk header opens a hunk, whose lines are no events
  | case3 state line rest body hbody cleared hkind ih =>
      rw [ih, scanEvents_cons hbody, hkind]
      dsimp only
      rw [List.foldlM_cons, ← (hunkHeader_counts state line).1, ← (hunkHeader_counts state line).2]
      rfl
  | case4 state line rest body hbody cleared hkind e htake =>
      rw [scanEvents_cons hbody, hkind]
      exact hraises htake
  | case5 state line rest body hbody cleared hkind state' htake ih =>
      rw [scanEvents_cons hbody, hkind]
      exact hgoes htake ih
  | case6 state line rest body hbody cleared token hkind e htake =>
      rw [scanEvents_cons hbody, hkind]
      exact hraises htake
  | case7 state line rest body hbody cleared token hkind state' htake ih =>
      rw [scanEvents_cons hbody, hkind]
      exact hgoes htake ih
  | case8 state line rest body hbody cleared next hkind e htake =>
      rw [scanEvents_cons hbody, hkind]
      exact hraises htake
  | case9 state line rest body hbody cleared next hkind state' htake ih =>
      rw [scanEvents_cons hbody, hkind]
      exact hgoes htake ih
  | case10 state line rest body hbody cleared hkind ih =>
      rw [ih, scanEvents_cons hbody, hkind]
      rfl

/-! ## The quoted names of an event -/

/-- The quoted name of a path token, if it starts with a quote. -/
def tokenQuotes (token : Text) : List Text :=
  let candidate := rstrip (token.takeWhile fun c => c ≠ '\t')
  if candidate.head? = some '"' then [candidate] else []

/-- The quoted names `_git_header_paths` reads: a second one only after a first one. -/
def headerQuotes (rest : Text) : List Text :=
  let rest := rstrip rest
  if rest.head? = some '"' then
    match readQuotedToken rest with
    | .ok (some (_, remainder)) =>
      if (strip remainder).head? = some '"' then [rest, strip remainder] else [rest]
    | _ => [rest]
  else []

/-- The quoted names the scan reads at an event. -/
def ScanEvent.quotedTokens : ScanEvent → List Text
  | .hunk _ => []
  | .git line => headerQuotes (line.drop "diff --git ".length)
  | .combined _ token => tokenQuotes token
  | .unified line next => tokenQuotes (line.drop 4) ++ tokenQuotes (next.drop 4)

/-- The event has a quoted name that cannot be read. -/
def ScanEvent.Malformed (event : ScanEvent) : Prop :=
  ∃ token ∈ event.quotedTokens, (quoteFault token).isSome

/-- The event has an octal escape above 255 in a quoted name. -/
def ScanEvent.Overflows (event : ScanEvent) : Prop :=
  ∃ token ∈ event.quotedTokens, quoteFault token = some .octalOutsideByte

theorem decodePathToken_error_iff (token : Text) :
    (∃ e, decodePathToken token = .error e) ↔
      ∃ quoted ∈ tokenQuotes token, quoteFault quoted = some .octalOutsideByte := by
  rw [decodePathToken, tokenQuotes]
  -- only a token that begins with a quote is decoded
  by_cases hquote : (rstrip (token.takeWhile fun c => c ≠ '\t')).head? = some '"'
  · have hfault := readQuotedToken_fault hquote
    rw [if_pos hquote, if_pos hquote]
    simp only [List.mem_singleton, exists_eq_left]
    rw [← hfault.error_iff]
    cases readQuotedToken (rstrip (token.takeWhile fun c => c ≠ '\t')) with
    | error e => exact iff_of_true ⟨e, rfl⟩ ⟨e, rfl⟩
    | ok answer =>
        refine iff_of_false ?_ (by simp)
        rintro ⟨e, he⟩
        -- what was read is then judged as a name, which does not raise
        rcases answer with _ | ⟨name, tail⟩
        · cases he
        · replace he : (if strip tail ≠ [] then (.ok none : Except String (Option Text))
            else .ok (stripDiffPrefix name)) = .error e := he
          split at he <;> cases he
  · rw [if_neg hquote, if_neg hquote]
    refine iff_of_false ?_ (by simp)
    rintro ⟨e, he⟩
    cases he

/-- A quoted name with a fault gives no name. -/
theorem decodePathToken_of_fault {token quoted : Text} (hquoted : quoted ∈ tokenQuotes token)
    (hfault : (quoteFault quoted).isSome) :
    (∃ e, decodePathToken token = .error e) ∨ decodePathToken token = .ok none := by
  rw [tokenQuotes] at hquoted
  split at hquoted
  · rename_i hquote
    obtain rfl := List.mem_singleton.mp hquoted
    rw [decodePathToken, if_pos hquote]
    rcases (readQuotedToken_fault hquote).of_isSome hfault with ⟨e, he⟩ | hnone
    · exact Or.inl ⟨e, by rw [he]; rfl⟩
    · exact Or.inr (by rw [hnone]; rfl)
  · cases hquoted

theorem ne_nil_of_head? {text : Text} {c : Char} (h : text.head? = some c) : text ≠ [] := by
  rintro rfl
  cases h

/-- The header after its first quoted name. -/
theorem quotedHeaderPaths_of_first {rest first remainder : Text}
    (h : readQuotedToken rest = .ok (some (first, remainder))) : quotedHeaderPaths rest =
      if strip remainder = [] then .ok none
      else if (strip remainder).head? = some '"' then
        (readQuotedToken (strip remainder)).map fun answer => do
          let (second, tail) ← answer
          if strip tail ≠ [] then none else distinctNames ([first, second].filterMap stripDiffPrefix)
      else .ok (distinctNames ([first, strip remainder].filterMap stripDiffPrefix)) := by
  rw [quotedHeaderPaths, h]
  show (if strip remainder = [] then _ else if _ then _ else _) = _
  split
  · rfl
  · split
    · cases readQuotedToken (strip remainder) with
      | error e => rfl
      | ok answer =>
          rcases answer with _ | ⟨second, tail⟩
          · rfl
          · show (if strip tail ≠ [] then _ else _) = Except.ok (if strip tail ≠ [] then _ else _)
            split <;> rfl
    · rfl

theorem gitHeaderPaths_error_iff (rest : Text) :
    (∃ e, gitHeaderPaths rest = .error e) ↔
      ∃ quoted ∈ headerQuotes rest, quoteFault quoted = some .octalOutsideByte := by
  rw [gitHeaderPaths, headerQuotes]
  -- only a header that begins with a quote is decoded
  by_cases hquote : (rstrip rest).head? = some '"'
  · have hne := ne_nil_of_head? hquote
    have hfirst := readQuotedToken_fault hquote
    rw [if_neg hne, if_pos hquote, if_pos hquote]
    cases hread : readQuotedToken (rstrip rest) with
    | error e =>
        rw [hread] at hfirst
        rw [quotedHeaderPaths, hread]
        exact iff_of_true ⟨e, rfl⟩ ⟨_, List.mem_singleton_self _, hfirst.error_iff.mp ⟨e, rfl⟩⟩
    | ok answer =>
        rw [hread] at hfirst
        have hfine : quoteFault (rstrip rest) ≠ some .octalOutsideByte := fun hbad => by
          obtain ⟨e, he⟩ := hfirst.error_iff.mpr hbad
          cases he
        -- the first name is unreadable without raising: the header has no names
        rcases answer with _ | ⟨first, remainder⟩
        · refine iff_of_false ?_ (by simpa using hfine)
          rintro ⟨e, he⟩
          rw [quotedHeaderPaths, hread] at he
          cases he
        · rw [quotedHeaderPaths_of_first hread]
          dsimp only
          -- the second name may be quoted as well
          by_cases hsecond : (strip remainder).head? = some '"'
          · have hnext := readQuotedToken_fault hsecond
            rw [if_neg (ne_nil_of_head? hsecond), if_pos hsecond, if_pos hsecond]
            simp only [List.mem_cons, List.not_mem_nil, or_false, exists_eq_or_imp, hfine, false_or,
              exists_eq_left]
            rw [← hnext.error_iff]
            cases readQuotedToken (strip remainder) with
            | error e => exact iff_of_true ⟨e, rfl⟩ ⟨e, rfl⟩
            | ok answer => exact iff_of_false (fun ⟨e, he⟩ => nomatch he) (fun ⟨e, he⟩ => nomatch he)
          · rw [if_neg hsecond, if_neg hsecond]
            refine iff_of_false ?_ (by simpa using hfine)
            rintro ⟨e, he⟩
            split at he <;> cases he
  · rw [if_neg hquote, if_neg hquote]
    refine iff_of_false ?_ (by simp)
    rintro ⟨e, he⟩
    split at he <;> cases he

/-- A header with a quoted name that has a fault gives no names. -/
theorem gitHeaderPaths_of_fault {rest quoted : Text} (hquoted : quoted ∈ headerQuotes rest)
    (hfault : (quoteFault quoted).isSome) :
    (∃ e, gitHeaderPaths rest = .error e) ∨ gitHeaderPaths rest = .ok none := by
  rw [headerQuotes] at hquoted
  by_cases hquote : (rstrip rest).head? = some '"'
  · have hne := ne_nil_of_head? hquote
    have hfirst := readQuotedToken_fault hquote
    rw [if_pos hquote] at hquoted
    rw [gitHeaderPaths, if_neg hne, if_pos hquote]
    cases hread : readQuotedToken (rstrip rest) with
    | error e => exact Or.inl ⟨e, by rw [quotedHeaderPaths, hread]; rfl⟩
    | ok answer =>
        rw [hread] at hfirst hquoted
        rcases answer with _ | ⟨first, remainder⟩
        · exact Or.inr (by rw [quotedHeaderPaths, hread]; rfl)
        -- the first token was read, so the fault is in the second
        · have hfine : (quoteFault (rstrip rest)).isSome = false := by
            by_contra hbad
            rcases hfirst.of_isSome (by rwa [Bool.not_eq_false] at hbad) with ⟨e, he⟩ | hnone
            · cases he
            · cases hnone
          dsimp only at hquoted
          by_cases hsecond : (strip remainder).head? = some '"'
          · rw [if_pos hsecond] at hquoted
            have hsame : quoted = strip remainder := by
              rcases List.mem_cons.mp hquoted with rfl | hquoted
              · rw [hfine] at hfault
                cases hfault
              · exact List.mem_singleton.mp hquoted
            subst hsame
            rw [quotedHeaderPaths_of_first hread, if_neg (ne_nil_of_head? hsecond), if_pos hsecond]
            rcases (readQuotedToken_fault hsecond).of_isSome hfault with ⟨e, he⟩ | hnone
            · exact Or.inl ⟨e, by rw [he]; rfl⟩
            · exact Or.inr (by rw [hnone]; rfl)
          · rw [if_neg hsecond] at hquoted
            obtain rfl := List.mem_singleton.mp hquoted
            rw [hfine] at hfault
            cases hfault
  · rw [if_neg hquote] at hquoted
    cases hquoted

theorem names?_unified_error_iff (line next : Text) :
    (∃ e, (ScanEvent.unified line next).names? = .error e) ↔
      (∃ e, decodePathToken (line.drop 4) = .error e) ∨ ∃ e, decodePathToken (next.drop 4) = .error e := by
  rw [ScanEvent.names?]
  cases decodePathToken (line.drop 4) with
  | error e => exact iff_of_true ⟨e, rfl⟩ (Or.inl ⟨e, rfl⟩)
  | ok oldName =>
      cases decodePathToken (next.drop 4) with
      | error e => exact iff_of_true ⟨e, rfl⟩ (Or.inr ⟨e, rfl⟩)
      | ok newName =>
          refine iff_of_false ?_ (by simp)
          rintro ⟨e, he⟩
          cases oldName <;> cases newName <;> cases he

/-- An event raises exactly when one of its quoted names has an octal escape above 255. -/
theorem names?_error_iff (event : ScanEvent) : (∃ e, event.names? = .error e) ↔ event.Overflows := by
  rw [ScanEvent.Overflows]
  cases event with
  | hunk line => exact iff_of_false (fun ⟨e, he⟩ => nomatch he) (fun ⟨token, htoken, _⟩ => nomatch htoken)
  | git line => exact gitHeaderPaths_error_iff _
  | combined line token =>
      rw [ScanEvent.quotedTokens, ← decodePathToken_error_iff, ScanEvent.names?]
      cases decodePathToken token with
      | error e => exact iff_of_true ⟨e, rfl⟩ ⟨e, rfl⟩
      | ok name => exact iff_of_false (fun ⟨e, he⟩ => nomatch he) (fun ⟨e, he⟩ => nomatch he)
  | unified line next =>
      rw [names?_unified_error_iff, decodePathToken_error_iff, decodePathToken_error_iff,
        ScanEvent.quotedTokens]
      constructor
      · rintro (⟨token, htoken, hfault⟩ | ⟨token, htoken, hfault⟩)
        · exact ⟨token, List.mem_append_left _ htoken, hfault⟩
        · exact ⟨token, List.mem_append_right _ htoken, hfault⟩
      · rintro ⟨token, htoken, hfault⟩
        exact (List.mem_append.mp htoken).imp (fun h => ⟨token, h, hfault⟩) fun h => ⟨token, h, hfault⟩

/-- A malformed name in a `diff` header leaves the header without names. -/
theorem names?_of_malformed {event : ScanEvent} (h : event.Malformed) (hfine : ¬ event.Overflows)
    (hdiff : ∀ line next, event ≠ .unified line next) : event.names? = .ok none := by
  obtain ⟨token, htoken, hfault⟩ := h
  have hraises : ¬ ∃ e, event.names? = .error e := fun he => hfine ((names?_error_iff event).mp he)
  cases event with
  | hunk line => cases htoken
  | git line => exact (gitHeaderPaths_of_fault htoken hfault).resolve_left hraises
  | combined line other =>
      rw [ScanEvent.names?] at hraises ⊢
      rcases decodePathToken_of_fault htoken hfault with ⟨e, he⟩ | hnone
      · exact absurd ⟨e, by rw [he]; rfl⟩ hraises
      · rw [hnone]
        rfl
  | unified line next => exact absurd rfl (hdiff line next)

/-! ## The scan of events that do not raise -/

/-- The names of an event that does not raise. -/
def ScanEvent.names (event : ScanEvent) : Option (List Text) :=
  match event.names? with
  | .ok names => names
  | .error _ => none

/-- The state after the events. -/
def ScanState.settle (state : ScanState) (events : List ScanEvent) : ScanState :=
  events.foldl (fun state event => state.after event event.names) state

theorem foldlM_take_of_fine (state : ScanState) {events : List ScanEvent}
    (hfine : ∀ event ∈ events, ¬ event.Overflows) :
    events.foldlM ScanState.take state = .ok (state.settle events) := by
  induction events generalizing state with
  | nil => rfl
  | cons event events ih =>
      have hnames : event.names? = .ok event.names := by
        rw [ScanEvent.names]
        cases hread : event.names? with
        | ok names => rfl
        | error e => exact absurd ((names?_error_iff event).mp ⟨e, hread⟩) (hfine event (by simp))
      rw [List.foldlM_cons, take_of_ok state hnames]
      exact ih _ fun event hevent => hfine event (List.mem_cons_of_mem _ hevent)

theorem foldlM_take_of_overflow (state : ScanState) {events : List ScanEvent}
    (hbad : ∃ event ∈ events, event.Overflows) :
    ∃ e, events.foldlM ScanState.take state = .error e := by
  induction events generalizing state with
  | nil => simp at hbad
  | cons event events ih =>
      rw [List.foldlM_cons]
      cases hread : event.names? with
      | error e => exact ⟨e, by rw [take_of_error state hread]; rfl⟩
      | ok names =>
          rw [take_of_ok state hread]
          apply ih
          obtain ⟨other, hother, hoverflows⟩ := hbad
          rcases List.mem_cons.mp hother with rfl | hother
          · obtain ⟨e, he⟩ := (names?_error_iff other).mpr hoverflows
            rw [hread] at he
            cases he
          · exact ⟨other, hother, hoverflows⟩

theorem mem_problems_reportPending {state : ScanState} {problem : ScanProblem}
    (h : problem ∈ state.problems) : problem ∈ state.reportPending.problems := by
  rw [ScanState.reportPending]
  split
  · exact h
  · exact List.mem_append_left _ h

/-- An event takes no problem back. -/
theorem mem_problems_after {state : ScanState} {problem : ScanProblem} (event : ScanEvent)
    (names : Option (List Text)) (h : problem ∈ state.problems) :
    problem ∈ (state.after event names).problems := by
  cases event with
  | hunk line =>
      rw [ScanState.after, ScanState.hunkHeader]
      split
      · exact List.mem_append_left _ h
      · exact h
  | git line => cases names <;> exact mem_problems_reportPending h
  | combined line token =>
      cases names
      · exact List.mem_append_left _ (mem_problems_reportPending h)
      · exact mem_problems_reportPending h
  | unified line next =>
      cases names
      · exact List.mem_append_left _ h
      · exact h

theorem mem_problems_settle {state : ScanState} {problem : ScanProblem} (events : List ScanEvent)
    (h : problem ∈ state.problems) : problem ∈ (state.settle events).problems := by
  induction events generalizing state with
  | nil => exact h
  | cons event events ih => exact ih (mem_problems_after event event.names h)

/-- A pair of file headers comes before the next `diff` header. -/
def pairFollows : List ScanEvent → Bool
  | [] => false
  | .hunk _ :: events => pairFollows events
  | .unified _ _ :: _ => true
  | _ :: _ => false

/-- A pending header is reported unless a pair of file headers follows. -/
theorem mem_problems_of_pending {state : ScanState} {header : Text} {events : List ScanEvent}
    (hpending : state.pendingHeader = some header) (hnone : pairFollows events = false) :
    .diffHeader header ∈ (state.settle events).reportPending.problems := by
  have hreported : .diffHeader header ∈ state.reportPending.problems := by
    rw [ScanState.reportPending, hpending]
    exact List.mem_append_right _ (List.mem_singleton_self _)
  induction events generalizing state with
  | nil => exact hreported
  | cons event events ih =>
      -- a problem that is reported stays
      have hlater : .diffHeader header ∈ (state.after event event.names).problems →
          .diffHeader header ∈ (state.settle (event :: events)).reportPending.problems := fun h =>
        mem_problems_reportPending (mem_problems_settle events h)
      -- a hunk header leaves the pending header; any other event reports or settles it
      cases event with
      | hunk line =>
          have hkept : (state.after (.hunk line) (ScanEvent.hunk line).names).pendingHeader =
              some header := by
            rw [ScanState.after, ScanState.hunkHeader]
            split <;> exact hpending
          refine ih hkept hnone ?_
          rw [ScanState.reportPending, hkept]
          exact List.mem_append_right _ (List.mem_singleton_self _)
      | git line =>
          apply hlater
          cases (ScanEvent.git line).names <;> exact hreported
      | combined line token =>
          apply hlater
          cases (ScanEvent.combined line token).names
          · exact List.mem_append_left _ hreported
          · exact hreported
      | unified line next => cases hnone

theorem unified_mem_reportPending_iff (state : ScanState) (text : Text) :
    .unifiedDiffHeader text ∈ state.reportPending.problems ↔
      .unifiedDiffHeader text ∈ state.problems := by
  rw [ScanState.reportPending]
  split <;> simp

/-- The problem of a pair of file headers comes from a pair without names. -/
theorem unified_mem_after_iff (state : ScanState) (event : ScanEvent) (text : Text) :
    .unifiedDiffHeader text ∈ (state.after event event.names).problems ↔
      .unifiedDiffHeader text ∈ state.problems ∨
        ∃ line next, event = .unified line next ∧ strip line = text ∧ event.names = none := by
  cases event with
  | hunk line =>
      rw [ScanState.after, ScanState.hunkHeader]
      split <;> simp [ScanState.clear]
  | git line =>
      cases (ScanEvent.git line).names <;> simp [ScanState.after, unified_mem_reportPending_iff]
  | combined line token =>
      cases (ScanEvent.combined line token).names <;> simp [ScanState.after, unified_mem_reportPending_iff]
  -- only the pair itself reports its text, and only when both sides are unreadable
  | unified line next =>
      cases hnames : (ScanEvent.unified line next).names with
      | some names =>
          refine (or_iff_left ?_).symm
          rintro ⟨line', next', -, -, hnone⟩
          cases hnone
      | none =>
          show _ ∈ state.problems ++ [.unifiedDiffHeader (strip line)] ↔ _
          rw [List.mem_append, List.mem_singleton, ScanProblem.unifiedDiffHeader.injEq]
          refine or_congr_right ⟨fun h => ⟨line, next, rfl, h.symm, rfl⟩, ?_⟩
          rintro ⟨line', next', heq, htext, -⟩
          cases heq
          exact htext.symm

theorem unified_mem_settle_iff (state : ScanState) (events : List ScanEvent) (text : Text) :
    .unifiedDiffHeader text ∈ (state.settle events).problems ↔
      .unifiedDiffHeader text ∈ state.problems ∨
        ∃ event ∈ events, ∃ line next, event = .unified line next ∧ strip line = text ∧
          event.names = none := by
  induction events generalizing state with
  | nil => simp [ScanState.settle]
  | cons event events ih =>
      have hstep : state.settle (event :: events) = (state.after event event.names).settle events := rfl
      rw [hstep, ih, unified_mem_after_iff, List.exists_mem_cons_iff, or_assoc]

/-! ## Failing closed -/

/-- The digits of the count of a range, and what follows the range. -/
def countDigits (cs : Text) : Text × Text :=
  match cs.dropWhile isDecimal with
  | ',' :: tail => (tail.takeWhile isDecimal, tail.dropWhile isDecimal)
  | rest => ([], rest)

/-- The digits `_hunk_counts` gives to `int`. -/
def hunkCountDigits (line : Text) : List Text :=
  if (hunkCounts line).isSome then
    let old := countDigits (((line.drop 2).dropWhile fun c => c = '@').drop 2)
    [old.1, (countDigits (old.2.drop 2)).1]
  else []

/-- A hunk header with a count of more digits than `sys.get_int_max_str_digits()` (a limit of
    zero is none), for which `int` raises `ValueError`. -/
def ScanEvent.overlong (limit : Nat) : ScanEvent → Bool
  | .hunk line => (hunkCountDigits line).any fun digits => 0 < limit && limit < digits.length
  | _ => false

/-- `scan_patch` under the limit that CPython sets on the digits of a number. -/
def scanPatchWithin (limit : Nat) (patch : Text) : Except String PatchScan :=
  if (patchEvents patch).any (ScanEvent.overlong limit) then
    .error "Exceeds the limit for integer string conversion"
  else scanPatch patch

/-- The header is pending, and a pair of file headers before the next header names the file. -/
def ScanEvent.MadeGood (event : ScanEvent) (later : List ScanEvent) : Prop :=
  ∃ line, event = .git line ∧ pairFollows later = true

/-- The scan returns, and every quoted name that cannot be read and is not made good by a pair of
    file headers after it is a problem. -/
def FailsClosed (limit : Nat) (patch : Text) : Prop :=
  ∃ scan, scanPatchWithin limit patch = .ok scan ∧
    ∀ earlier event later, patchEvents patch = earlier ++ event :: later → event.Malformed →
      ¬ event.MadeGood later → event.problem ∈ scan.problems

/-- What the text of a patch that fails closed is like. -/
structure ReadableHeaders (limit : Nat) (patch : Text) : Prop where
  /-- `int` converts every count. -/
  counts : ∀ event ∈ patchEvents patch, event.overlong limit = false
  /-- No quoted name has an octal escape above 255. -/
  octals : ∀ event ∈ patchEvents patch, ¬ event.Overflows
  /-- A pair of file headers with a malformed name has no other name, or a pair with the same
      first line has none. -/
  pairs : ∀ line next, .unified line next ∈ patchEvents patch → (ScanEvent.unified line next).Malformed →
    ∃ line' next', .unified line' next' ∈ patchEvents patch ∧ strip line' = strip line ∧
      (ScanEvent.unified line' next').names? = .ok none

theorem names_eq_none_iff {event : ScanEvent} (h : ¬ event.Overflows) :
    event.names = none ↔ event.names? = .ok none := by
  rw [ScanEvent.names]
  cases hnames : event.names? with
  | ok names => simp
  | error e => exact absurd ((names?_error_iff event).mp ⟨e, hnames⟩) h

/-- The scan of a patch is the fold over its events. -/
theorem scanLines_patchEvents (patch : Text) :
    (scanLines {} (splitlines patch)).map ScanState.clear =
      (patchEvents patch).foldlM ScanState.take ({} : ScanState) :=
  scanLines_eq_foldlM {} (splitlines patch)

/-- A text without overflows is scanned, and its problems are those of its events. -/
theorem scanPatch_of_fine {patch : Text} (hfine : ∀ event ∈ patchEvents patch, ¬ event.Overflows) :
    ∃ scan, scanPatch patch = .ok scan ∧ ∀ problem, problem ≠ .noFilePaths →
      (problem ∈ scan.problems ↔
        problem ∈ (ScanState.settle {} (patchEvents patch)).reportPending.problems) := by
  have hfold := scanLines_patchEvents patch
  rw [foldlM_take_of_fine _ hfine] at hfold
  cases hlines : scanLines {} (splitlines patch) with
  | error e =>
      rw [hlines] at hfold
      cases hfold
  | ok final =>
      rw [hlines] at hfold
      have hclear : final.clear = ScanState.settle {} (patchEvents patch) := Except.ok.inj hfold
      have hproblems : final.reportPending.problems =
          (ScanState.settle {} (patchEvents patch)).reportPending.problems := by
        rw [← hclear]
        -- clearing the counts keeps what is reported
        obtain ⟨files, problems, pending, old, new⟩ := final
        cases pending <;> rfl
      rw [scanPatch, hlines]
      refine ⟨_, rfl, fun problem hproblem => ?_⟩
      rw [← hproblems]
      dsimp only
      -- the check for no name at all adds only its own problem
      split
      · rfl
      · rename_i hnone
        have hempty : final.reportPending.problems = [] := by
          by_contra hsome
          exact hnone (Or.inr (Or.inr hsome))
        rw [hempty]
        simpa using hproblem

theorem scanPatch_of_overflow {patch : Text} (hbad : ∃ event ∈ patchEvents patch, event.Overflows) :
    ∃ e, scanPatch patch = .error e := by
  have hfold := scanLines_patchEvents patch
  obtain ⟨e, he⟩ := foldlM_take_of_overflow ({} : ScanState) hbad
  cases hlines : scanLines {} (splitlines patch) with
  | error e' => exact ⟨e', by rw [scanPatch, hlines]; rfl⟩
  | ok final =>
      rw [hlines] at hfold
      exact absurd (hfold.trans he) (by simp [Except.map])

/-- **Failing closed.**  The scan of a text returns and reports every malformed quoted name
    exactly when its headers are readable. -/
theorem failsClosed_iff (limit : Nat) (patch : Text) :
    FailsClosed limit patch ↔ ReadableHeaders limit patch := by
  constructor
  · rintro ⟨scan, hscan, hreports⟩
    rw [scanPatchWithin] at hscan
    split at hscan
    · cases hscan
    rename_i hcounts
    -- a scan that ends met no octal escape above 255
    have hfine : ∀ event ∈ patchEvents patch, ¬ event.Overflows := by
      intro event hevent hbad
      obtain ⟨e, he⟩ := scanPatch_of_overflow ⟨event, hevent, hbad⟩
      rw [hscan] at he
      cases he
    refine ⟨fun event hevent => ?_, hfine, fun line next hevent hmalformed => ?_⟩
    · rw [Bool.not_eq_true, List.any_eq_false] at hcounts
      simpa using hcounts event hevent
    · obtain ⟨earlier, later, hsplit⟩ := List.append_of_mem hevent
      have hnotGood : ¬ (ScanEvent.unified line next).MadeGood later := by
        rintro ⟨other, hother, -⟩
        cases hother
      have hreported := hreports earlier _ later hsplit hmalformed hnotGood
      obtain ⟨scan', hscan', hproblems⟩ := scanPatch_of_fine hfine
      rw [hscan] at hscan'
      cases hscan'
      rw [hproblems _ (by simp [ScanEvent.problem]), ScanEvent.problem, unified_mem_reportPending_iff,
        unified_mem_settle_iff] at hreported
      -- the text was reported, so some pair of that text has no name
      rcases hreported with hnil | ⟨event, hevent', line', next', rfl, hsame, hnone⟩
      · cases hnil
      · exact ⟨line', next', hevent', hsame, (names_eq_none_iff (hfine _ hevent')).mp hnone⟩
  · rintro ⟨hcounts, hfine, hpairs⟩
    obtain ⟨scan, hscan, hproblems⟩ := scanPatch_of_fine hfine
    refine ⟨scan, ?_, fun earlier event later hsplit hmalformed hnotGood => ?_⟩
    · rw [scanPatchWithin, if_neg, hscan]
      rw [Bool.not_eq_true, List.any_eq_false]
      exact fun event hevent => by simp [hcounts event hevent]
    · have hevent : event ∈ patchEvents patch := by
        rw [hsplit]
        exact List.mem_append_right _ (List.mem_cons_self ..)
      have hrun : ScanState.settle {} (patchEvents patch) =
          ((ScanState.settle {} earlier).after event event.names).settle later := by
        rw [hsplit, ScanState.settle, List.foldl_append]
        rfl
      rw [hproblems event.problem (by cases event <;> simp [ScanEvent.problem])]
      -- what is malformed and not made good is reported by the event itself
      cases event with
      | hunk line =>
          obtain ⟨token, htoken, -⟩ := hmalformed
          cases htoken
      | git line =>
          have hnames := (names_eq_none_iff (hfine _ hevent)).mpr
            (names?_of_malformed hmalformed (hfine _ hevent) (by simp))
          -- no pair follows, so the header is still pending at the end
          have hopen : pairFollows later = false := by
            by_contra hfollows
            exact hnotGood ⟨line, rfl, by simpa using hfollows⟩
          rw [hrun, hnames]
          exact mem_problems_of_pending rfl hopen
      | combined line token =>
          have hnames := (names_eq_none_iff (hfine _ hevent)).mpr
            (names?_of_malformed hmalformed (hfine _ hevent) (by simp))
          rw [hrun, hnames]
          apply mem_problems_reportPending
          apply mem_problems_settle
          exact List.mem_append_right _ (List.mem_singleton_self _)
      | unified line next =>
          obtain ⟨line', next', hevent', hsame, hnone⟩ := hpairs line next hevent hmalformed
          rw [ScanEvent.problem, unified_mem_reportPending_iff, unified_mem_settle_iff]
          exact Or.inr ⟨_, hevent', line', next', rfl, hsame,
            (names_eq_none_iff (hfine _ hevent')).mpr hnone⟩

/-- `\777` in a quoted name: `bytearray.append` raises. -/
theorem not_failsClosed_octal : ¬ ∀ (limit : Nat) (patch : Text), FailsClosed limit patch := by
  intro hall
  obtain ⟨scan, hscan, -⟩ := hall 4300 "diff --git \"a/\\777\" b/x\n".toList
  have hraises : (scanPatchWithin 4300 "diff --git \"a/\\777\" b/x\n".toList).toOption = none := by
    decide +kernel
  rw [hscan] at hraises
  cases hraises

end LlmHarness
