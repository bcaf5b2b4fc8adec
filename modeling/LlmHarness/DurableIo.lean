/-
  LlmHarness.DurableIo

  The JSONL stores of `durable_io.py`: `read_jsonl` and `atomic_append_jsonl`.

  A store file is absent or a text.  The writer frames its records with `\n`;
  the reader reads the file in text mode and splits it with `str.splitlines`.
  The two framings agree on a record exactly when no string of it holds
  U+0085, U+2028 or U+2029, the boundaries that `ensure_ascii=False` leaves in
  the clear.
-/

import LlmHarness.Python.JsonQuotes

namespace LlmHarness

open Python

/-- `DurableIOError` of a corrupted JSONL file, with the line it names. -/
inductive DurableIOError where
  | corruptedLine (lineNumber : Nat)
deriving DecidableEq

/-- The loop of `read_jsonl` over the enumerated lines. -/
def readLines : Nat → List Text → Except DurableIOError (List Json)
  | _, [] => .ok []
  | lineNumber, line :: lines =>
    if isBlank line then readLines (lineNumber + 1) lines
    else match loads line with
      | none => .error (.corruptedLine lineNumber)
      | some record =>
        match readLines (lineNumber + 1) lines with
        | .error e => .error e
        | .ok records => .ok (record :: records)

/-- `read_jsonl`; an absent file holds no records. -/
def readJsonl : Option Text → Except DurableIOError (List Json)
  | none => .ok []
  | some text => readLines 1 (splitlines (universalNewlines text))

/-- The file text of a list of records. -/
def renderJsonl (records : List Json) : Text :=
  records.flatMap fun record => record.sortKeys.dumps ++ ['\n']

/-- `atomic_append_jsonl`: the new content of the file. -/
def atomicAppendJsonl (file : Option Text) (payload : Json) :
    Except DurableIOError (Option Text) :=
  match readJsonl file with
  | .error e => .error e
  | .ok records => .ok (some (renderJsonl (records ++ [payload])))

/-- A sequence of `atomic_append_jsonl` calls on one file. -/
def appendAll (file : Option Text) (payloads : List Json) : Except DurableIOError (Option Text) :=
  payloads.foldlM atomicAppendJsonl file

/-- The appended payloads, in order, are what a later `read_jsonl` returns. -/
def JsonlRoundTrips (payloads : List Payload) : Prop :=
  ∃ file records, appendAll none (payloads.map Subtype.val) = .ok file ∧
    readJsonl file = .ok records ∧ List.Forall₂ PyEq records (payloads.map Subtype.val)

/-! ## One record -/

theorem first_not {α : Type} {p : α → Prop} {l : List α} (h : ¬ ∀ a ∈ l, p a) :
    ∃ good bad rest, l = good ++ bad :: rest ∧ (∀ a ∈ good, p a) ∧ ¬ p bad := by
  induction l with
  | nil => simp at h
  | cons a l ih =>
      by_cases ha : p a
      · obtain ⟨good, bad, rest, rfl, hgood, hbad⟩ := ih fun hall =>
          h (List.forall_mem_cons.mpr ⟨ha, hall⟩)
        exact ⟨a :: good, bad, rest, rfl, List.forall_mem_cons.mpr ⟨ha, hgood⟩, hbad⟩
      · exact ⟨[], a, l, rfl, by simp, ha⟩

theorem isBlank_dumps (j : Json) : isBlank j.dumps = false := by
  obtain ⟨c, cs, hcs, hc, -⟩ := dumps_cons j
  exact not_isBlank_of_mem (hcs ▸ List.mem_cons_self) hc

theorem renderJsonl_cons (record : Json) (records : List Json) :
    renderJsonl (record :: records) = record.sortKeys.dumps ++ '\n' :: renderJsonl records := by
  simp [renderJsonl]

/-- The writer never emits a carriage return, so text-mode reading changes
    nothing. -/
theorem universalNewlines_renderJsonl (records : List Json) :
    universalNewlines (renderJsonl records) = renderJsonl records := by
  apply universalNewlines_of_no_return
  rintro c hc rfl
  obtain ⟨record, -, hc⟩ := List.mem_flatMap.mp hc
  rcases List.mem_append.mp hc with hc | hc
  · exact absurd (dumps_ge_space _ _ hc) (by decide)
  · exact absurd (List.mem_singleton.mp hc) (by decide)

/-- A line-safe record is one line, and reading goes on after it. -/
theorem readLines_renderJsonl_cons {record : Json} (hd : record.DistinctKeys)
    (hs : record.LineSafe) (records : List Json) (lineNumber : Nat) :
    readLines lineNumber (splitlines (renderJsonl (record :: records))) =
      match readLines (lineNumber + 1) (splitlines (renderJsonl records)) with
      | .error e => .error e
      | .ok rest => .ok (record.sortKeys :: rest) := by
  have hline := (dumps_noBoundary_iff record.sortKeys).mpr ((lineSafe_sortKeys record).mpr hs)
  rw [renderJsonl_cons, splitlines_append_boundary _ _ hline (by decide) (by decide), readLines,
    if_neg (by simp [isBlank_dumps]), loads_dumps _ (distinctKeys_sortKeys record hd)]

/-- A record that is not line-safe is refused at its first line. -/
theorem readLines_renderJsonl_refused {record : Json} (hs : ¬ record.LineSafe)
    (records : List Json) (lineNumber : Nat) :
    readLines lineNumber (splitlines (renderJsonl (record :: records))) =
      .error (.corruptedLine lineNumber) := by
  rw [← lineSafe_sortKeys, ← dumps_noBoundary_iff] at hs
  -- split the encoded record at its first boundary
  have hdrop : record.sortKeys.dumps.dropWhile (fun c => !isLineBoundary c) ≠ [] := by
    rw [Ne, List.dropWhile_eq_nil_iff]
    simpa using hs
  obtain ⟨c, r, hcr⟩ := List.exists_cons_of_ne_nil hdrop
  have hsplit := List.takeWhile_append_dropWhile (p := fun c => !isLineBoundary c)
    (l := record.sortKeys.dumps)
  rw [hcr] at hsplit
  have hc : isLineBoundary c := by
    have := List.head_dropWhile_not (fun c => !isLineBoundary c) hdrop
    simpa [hcr] using this
  have hp : ∀ d ∈ record.sortKeys.dumps.takeWhile (fun c => !isLineBoundary c),
      isLineBoundary d = false := by
    intro d hd
    simpa using List.mem_takeWhile_imp hd
  have hret : c ≠ '\r' := by
    rintro rfl
    exact absurd (dumps_ge_space record.sortKeys '\r' (hsplit ▸ by simp)) (by decide)
  obtain ⟨hblank, hnone⟩ := loads_prefix_eq_none hsplit.symm hc
  rw [renderJsonl_cons, ← hsplit, List.append_assoc, List.cons_append,
    splitlines_append_boundary _ _ hp hc hret, readLines, if_neg (by simp [hblank]), hnone]

/-! ## A file of records -/

theorem readJsonl_renderJsonl {records : List Json} (hd : ∀ r ∈ records, r.DistinctKeys)
    (hs : ∀ r ∈ records, r.LineSafe) :
    readJsonl (some (renderJsonl records)) = .ok (records.map Json.sortKeys) := by
  rw [readJsonl, universalNewlines_renderJsonl]
  suffices h : ∀ lineNumber, readLines lineNumber (splitlines (renderJsonl records)) =
      .ok (records.map Json.sortKeys) from h 1
  induction records with
  | nil => intro lineNumber; rfl
  | cons record records ih =>
      intro lineNumber
      rw [readLines_renderJsonl_cons (hd _ (by simp)) (hs _ (by simp)),
        ih (fun r hr => hd r (by simp [hr])) (fun r hr => hs r (by simp [hr]))]
      rfl

/-- Reading stops at the first record that is not line-safe, on its line. -/
theorem readJsonl_renderJsonl_refused {good : List Json} {bad : Json} (rest : List Json)
    (hd : ∀ r ∈ good, r.DistinctKeys) (hs : ∀ r ∈ good, r.LineSafe) (hbad : ¬ bad.LineSafe) :
    readJsonl (some (renderJsonl (good ++ bad :: rest))) =
      .error (.corruptedLine (good.length + 1)) := by
  rw [readJsonl, universalNewlines_renderJsonl, Nat.add_comm]
  suffices h : ∀ lineNumber, readLines lineNumber (splitlines (renderJsonl (good ++ bad :: rest))) =
      .error (.corruptedLine (lineNumber + good.length)) from h 1
  induction good with
  | nil => exact fun lineNumber => readLines_renderJsonl_refused hbad rest lineNumber
  | cons record good ih =>
      intro lineNumber
      rw [List.cons_append, readLines_renderJsonl_cons (hd _ (by simp)) (hs _ (by simp)),
        ih (fun r hr => hd r (by simp [hr])) (fun r hr => hs r (by simp [hr]))]
      simp only [List.length_cons]
      congr 2
      omega

/-! ## Sequences of appends -/

/-- The file after a list of records, from an absent file. -/
def jsonlFile : List Json → Option Text
  | [] => none
  | records => some (renderJsonl records)

theorem jsonlFile_concat (records : List Json) (record : Json) :
    jsonlFile (records ++ [record]) = some (renderJsonl (records ++ [record])) := by
  cases records <;> rfl

theorem readJsonl_jsonlFile {records : List Json} (hd : ∀ r ∈ records, r.DistinctKeys)
    (hs : ∀ r ∈ records, r.LineSafe) :
    readJsonl (jsonlFile records) = .ok (records.map Json.sortKeys) := by
  cases records with
  | nil => rfl
  | cons record records => exact readJsonl_renderJsonl hd hs

/-- Printing records that were read back prints the same text. -/
theorem renderJsonl_sortKeys (records : List Json) (payload : Json) :
    renderJsonl (records.map Json.sortKeys ++ [payload]) = renderJsonl (records ++ [payload]) := by
  simp [renderJsonl, List.flatMap_map, sortKeys_idem]

theorem atomicAppendJsonl_jsonlFile {records : List Json} (hd : ∀ r ∈ records, r.DistinctKeys)
    (hs : ∀ r ∈ records, r.LineSafe) (payload : Json) :
    atomicAppendJsonl (jsonlFile records) payload = .ok (jsonlFile (records ++ [payload])) := by
  rw [atomicAppendJsonl, readJsonl_jsonlFile hd hs, jsonlFile_concat]
  simp only [renderJsonl_sortKeys]

/-- Line-safe payloads are appended one after the other. -/
theorem appendAll_safe (payloads : List Json) (hd : ∀ r ∈ payloads, r.DistinctKeys)
    (hs : ∀ r ∈ payloads, r.LineSafe) : appendAll none payloads = .ok (jsonlFile payloads) := by
  induction payloads using List.reverseRecOn with
  | nil => rfl
  | append_singleton payloads payload ih =>
      rw [appendAll, List.foldlM_append, ← appendAll,
        ih (fun r hr => hd r (by simp [hr])) (fun r hr => hs r (by simp [hr]))]
      simp only [bind, Except.bind, List.foldlM_cons, List.foldlM_nil]
      rw [atomicAppendJsonl_jsonlFile (fun r hr => hd r (by simp [hr]))
        (fun r hr => hs r (by simp [hr]))]
      rfl

/-- Once a payload that is not line-safe is in the file, neither an append nor a
    read gets past it. -/
theorem appendAll_refused {good : List Json} {bad : Json} (rest : List Json)
    (hd : ∀ r ∈ good, r.DistinctKeys) (hs : ∀ r ∈ good, r.LineSafe) (hbad : ¬ bad.LineSafe) :
    ∀ file, appendAll none (good ++ bad :: rest) = .ok file →
      readJsonl file = .error (.corruptedLine (good.length + 1)) := by
  have hread : readJsonl (jsonlFile (good ++ [bad])) = .error (.corruptedLine (good.length + 1)) := by
    rw [jsonlFile_concat]
    exact readJsonl_renderJsonl_refused [] hd hs hbad
  intro file h
  rw [appendAll, List.foldlM_append, ← appendAll, appendAll_safe good hd hs] at h
  simp only [bind, Except.bind, List.foldlM_cons, atomicAppendJsonl_jsonlFile hd hs] at h
  cases rest with
  | nil =>
      simp only [List.foldlM_nil, pure, Except.pure, Except.ok.injEq] at h
      rw [← h, hread]
  | cons next rest => simp [List.foldlM_cons, bind, Except.bind, atomicAppendJsonl, hread] at h

/-- **JSONL framing.**  A sequence of appends from an absent file reads back as
    the appended payloads exactly when no string or object key of any payload
    holds U+0085, U+2028 or U+2029. -/
theorem jsonlRoundTrips_iff (payloads : List Payload) :
    JsonlRoundTrips payloads ↔ ∀ p ∈ payloads, p.val.LineSafe := by
  have hd : ∀ r ∈ payloads.map Subtype.val, r.DistinctKeys := by
    intro r hr
    obtain ⟨p, -, rfl⟩ := List.mem_map.mp hr
    exact p.property
  constructor
  · rintro ⟨file, records, happ, hread, -⟩
    by_contra hunsafe
    -- the first payload that is not line-safe
    obtain ⟨good, bad, rest, hsplit, hs, hbad⟩ := first_not (p := Json.LineSafe)
      (l := payloads.map Subtype.val) (by simpa using hunsafe)
    rw [hsplit] at happ hd
    have := appendAll_refused rest (fun r hr => hd r (by simp [hr])) hs hbad file happ
    rw [this] at hread
    cases hread
  · intro hs
    have hs' : ∀ r ∈ payloads.map Subtype.val, r.LineSafe := by simpa using hs
    refine ⟨_, _, appendAll_safe _ hd hs', readJsonl_jsonlFile hd hs', ?_⟩
    rw [List.forall₂_map_left_iff]
    exact List.forall₂_same.mpr fun r _ => sortKeys_idem r

/-- The one-string document that holds U+2028, such as a worker may return. -/
def lineSeparatorPayload : Payload := ⟨.str "\u2028", trivial⟩

/-- Appending `lineSeparatorPayload` leaves a file that `read_jsonl` refuses. -/
theorem not_jsonlRoundTrips_lineSeparator : ¬ JsonlRoundTrips [lineSeparatorPayload] := by
  rintro ⟨file, records, happ, hread, -⟩
  have hbad : ¬ lineSeparatorPayload.val.LineSafe := by
    intro h
    have := h "\u2028" (by simp [lineSeparatorPayload, Json.strings]) (Char.ofNat 0x2028) (by decide)
    revert this
    decide
  have hcorrupted := @appendAll_refused [] _ [] (by simp) (by simp) hbad file happ
  rw [hcorrupted] at hread
  cases hread

end LlmHarness
