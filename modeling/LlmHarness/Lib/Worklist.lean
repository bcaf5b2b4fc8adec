/-
  LlmHarness.Lib.Worklist

  Everything that reaches a start, by a worklist: take the next pending key,
  pass over all entries, and file every entry that points at the key and was not
  seen before.  `exists_mem_closure` says that all entries that reach the start
  are filed, when the number of rounds is bounded by the number of entries;
  `closure_filed` that nothing else is filed, and nothing twice; `ends_closure`
  that the rounds end because no key is pending any more.
-/

import Mathlib.Data.List.Basic
import Mathlib.Logic.Relation

namespace LlmHarness.Worklist

variable {κ α : Type} [DecidableEq κ]

/-- The keys seen, the values found, and the keys still to be processed. -/
structure State (κ α : Type) where
  seen : List κ
  found : List α
  pending : List κ

/-- Files an entry. -/
def State.add (st : State κ α) (entry : κ × α) : State κ α where
  seen := st.seen ++ [entry.1]
  found := st.found ++ [entry.2]
  pending := st.pending ++ [entry.1]

/-- One pass over the entries for a key. -/
def pass (points : κ → α → Bool) (key : κ) (entries : List (κ × α)) (st : State κ α) :
    State κ α :=
  entries.foldl
    (fun st entry => if entry.1 ∈ st.seen ∨ !points key entry.2 then st else st.add entry) st

/-- The rounds of the worklist, at most `fuel` of them. -/
def loop (points : κ → α → Bool) (entries : List (κ × α)) : Nat → State κ α → List α
  | 0, st => st.found
  | fuel + 1, st =>
    match st.pending with
    | [] => st.found
    | key :: pending => loop points entries fuel (pass points key entries { st with pending })

/-- The values of the entries that reach `start`. -/
def closure (points : κ → α → Bool) (entries : List (κ × α)) (start : κ) : List α :=
  loop points entries (entries.length + 1) ⟨[start], [], [start]⟩

variable {points : κ → α → Bool} {entries : List (κ × α)} {start : κ}

/-- The edges the worklist follows backwards. -/
def Points (points : κ → α → Bool) (entries : List (κ × α)) (a b : κ) : Prop :=
  ∃ entry ∈ entries, entry.1 = a ∧ points b entry.2

/-- Every key seen, the start apart, has an entry that was found. -/
def Found (entries : List (κ × α)) (start : κ) (st : State κ α) : Prop :=
  ∀ key ∈ st.seen, key = start ∨ ∃ entry ∈ entries, entry.1 = key ∧ entry.2 ∈ st.found

/-- How much is left to do: the keys pending and the entries not seen. -/
def work (entries : List (κ × α)) (st : State κ α) : Nat :=
  st.pending.length + (entries.filter fun entry => entry.1 ∉ st.seen).length

omit [DecidableEq κ] in
theorem found_add {st : State κ α} {entry : κ × α} (h : Found entries start st)
    (hentry : entry ∈ entries) : Found entries start (st.add entry) := by
  intro key hkey
  rcases List.mem_append.mp hkey with hkey | hkey
  · rcases h key hkey with rfl | ⟨other, hother, hkey, hfound⟩
    · exact Or.inl rfl
    · exact Or.inr ⟨other, hother, hkey, List.mem_append_left _ hfound⟩
  · obtain rfl := List.mem_singleton.mp hkey
    exact Or.inr ⟨entry, hentry, rfl, List.mem_append_right _ (List.mem_singleton.mpr rfl)⟩

/-- Filing an unseen entry moves it from the unseen to the pending. -/
theorem work_add {st : State κ α} {entry : κ × α} (hentry : entry ∈ entries)
    (hnew : entry.1 ∉ st.seen) : work entries (st.add entry) ≤ work entries st := by
  have hsplit : entries.filter (fun e => e.1 ∉ (st.add entry).seen) =
      (entries.filter fun e => e.1 ∉ st.seen).filter fun e => e.1 ≠ entry.1 := by
    rw [List.filter_filter]
    apply List.filter_congr
    intro e _
    simp [State.add, and_comm]
  have hmem : entry ∈ entries.filter fun e => e.1 ∉ st.seen := by
    simp [List.mem_filter, hentry, hnew]
  have hshorter : ((entries.filter fun e => e.1 ∉ st.seen).filter
      fun e => e.1 ≠ entry.1).length < (entries.filter fun e => e.1 ∉ st.seen).length := by
    apply List.length_filter_lt_length_iff_exists.mpr
    exact ⟨entry, hmem, by simp⟩
  have hpending : (st.add entry).pending.length = st.pending.length + 1 := by
    simp [State.add]
  rw [work, work, hsplit, hpending]
  omega

/-- What one pass over some of the entries does. -/
structure Passed (points : κ → α → Bool) (entries : List (κ × α)) (start key : κ)
    (passed : List (κ × α)) (st st' : State κ α) : Prop where
  seen : ∀ k ∈ st.seen, k ∈ st'.seen
  fresh : ∀ k ∈ st'.seen, k ∈ st.seen ∨ k ∈ st'.pending
  pending : ∀ k ∈ st.pending, k ∈ st'.pending
  pendingSeen : (∀ k ∈ st.pending, k ∈ st.seen) → ∀ k ∈ st'.pending, k ∈ st'.seen
  filed : ∀ entry ∈ passed, points key entry.2 → entry.1 ∈ st'.seen
  found : Found entries start st → Found entries start st'
  work : work entries st' ≤ work entries st

theorem pass_passed (key : κ) (passed : List (κ × α)) (hpassed : ∀ entry ∈ passed, entry ∈ entries)
    (st : State κ α) : Passed points entries start key passed st (pass points key passed st) := by
  -- the induction is on the entries left in the pass, with the state free
  induction passed generalizing st with
  | nil =>
      exact ⟨fun _ h => h, fun _ h => Or.inl h, fun _ h => h, fun h => h,
        fun _ h => absurd h List.not_mem_nil, fun h => h, Nat.le_refl _⟩
  | cons entry rest ih =>
      obtain ⟨hentry, hrest⟩ := List.forall_mem_cons.mp hpassed
      have hpass : pass points key (entry :: rest) st = pass points key rest
          (if entry.1 ∈ st.seen ∨ !points key entry.2 then st else st.add entry) := rfl
      rw [hpass]
      -- an entry that was seen, or does not point at the key, is passed over
      by_cases hskip : entry.1 ∈ st.seen ∨ !points key entry.2
      · rw [if_pos hskip]
        have h := ih hrest st
        refine ⟨h.seen, h.fresh, h.pending, h.pendingSeen, ?_, h.found, h.work⟩
        intro e he hpoints
        rcases List.mem_cons.mp he with rfl | he
        · rcases hskip with hseen | hnot
          · exact h.seen _ hseen
          · simp [hpoints] at hnot
        · exact h.filed e he hpoints
      -- a new entry is added, which what was seen before survives
      · rw [if_neg hskip]
        have hnew : entry.1 ∉ st.seen := fun hseen => hskip (Or.inl hseen)
        have h := ih hrest (st.add entry)
        have hadded : entry.1 ∈ (st.add entry).seen := by simp [State.add]
        refine ⟨fun k hk => h.seen k (List.mem_append_left _ hk), ?_,
          fun k hk => h.pending k (List.mem_append_left _ hk), ?_, ?_,
          fun hfound => h.found (found_add hfound hentry),
          Nat.le_trans h.work (work_add hentry hnew)⟩
        -- what is fresh after the rest was seen by then, or was just added
        · intro k hk
          rcases h.fresh k hk with hseen | hpending
          · rcases List.mem_append.mp hseen with hseen | hk
            · exact Or.inl hseen
            · exact Or.inr (h.pending k (List.mem_append_right _ hk))
          · exact Or.inr hpending
        · intro hst
          apply h.pendingSeen
          intro k hk
          rcases List.mem_append.mp hk with hk | hk
          · exact List.mem_append_left _ (hst k hk)
          · exact List.mem_append_right _ hk
        · intro e he hpoints
          rcases List.mem_cons.mp he with rfl | he
          · exact h.seen _ hadded
          · exact h.filed e he hpoints

/-- The invariant of the rounds: what points at a key that is done was seen. -/
structure Explored (points : κ → α → Bool) (entries : List (κ × α)) (start : κ)
    (st : State κ α) : Prop where
  started : start ∈ st.seen
  pending : ∀ k ∈ st.pending, k ∈ st.seen
  closed : ∀ k ∈ st.seen, k ∉ st.pending → ∀ a, Points points entries a k → a ∈ st.seen
  found : Found entries start st

/-- One round keeps the invariant and does some of the work. -/
theorem explored_round {st : State κ α} {key : κ} {pending : List κ}
    (h : Explored points entries start st) (hpending : st.pending = key :: pending) :
    Explored points entries start (pass points key entries { st with pending }) ∧
      work entries (pass points key entries { st with pending }) < work entries st := by
  have hpassed : Passed points entries start key entries { st with pending := pending }
      (pass points key entries { st with pending }) :=
    pass_passed key entries (fun _ he => he) { st with pending }
  -- the five parts of the invariant, and the measure
  refine ⟨⟨hpassed.seen _ h.started, hpassed.pendingSeen ?_, ?_, hpassed.found h.found⟩, ?_⟩
  · intro k hk
    exact h.pending k (hpending ▸ List.mem_cons_of_mem _ hk)
  · intro k hk hnot a ha
    -- `k` was seen before this round, and is the key of it or was done already
    rcases hpassed.fresh k hk with hseen | hlater
    · by_cases hkey : k = key
      · obtain ⟨entry, hentry, rfl, hpoints⟩ := ha
        exact hpassed.filed entry hentry (hkey ▸ hpoints)
      · apply hpassed.seen
        apply h.closed k hseen _ a ha
        rw [hpending]
        intro hmem
        rcases List.mem_cons.mp hmem with hmem | hmem
        · exact hkey hmem
        · exact hnot (hpassed.pending k hmem)
    · exact absurd hlater hnot
  -- the key is taken off the list, and no entry is added twice
  · have hlength : work entries { st with pending } < work entries st := by
      simp only [work, hpending, List.length_cons]
      omega
    exact Nat.lt_of_le_of_lt hpassed.work hlength

/-- With enough rounds everything that reaches the start is found. -/
theorem exists_mem_loop (fuel : Nat) (st : State κ α) (h : Explored points entries start st)
    (hfuel : work entries st ≤ fuel) {a : κ}
    (ha : Relation.TransGen (Points points entries) a start) (hne : a ≠ start) :
    ∃ entry ∈ entries, entry.1 = a ∧ entry.2 ∈ loop points entries fuel st := by
  induction fuel generalizing st with
  | zero =>
      have hdone : st.pending = [] := by
        rw [← List.length_eq_zero_iff]
        simp only [work] at hfuel
        omega
      exact finished st h hdone
  | succ fuel ih =>
      rw [loop]
      cases hpending : st.pending with
      | nil => exact finished st h hpending
      | cons key pending =>
          obtain ⟨hnext, hwork⟩ := explored_round h hpending
          exact ih _ hnext (by omega)
where
  finished (st : State κ α) (h : Explored points entries start st) (hdone : st.pending = []) :
      ∃ entry ∈ entries, entry.1 = a ∧ entry.2 ∈ st.found := by
    have hseen : a ∈ st.seen := by
      induction ha using Relation.TransGen.head_induction_on with
      | single hstep => exact h.closed start h.started (by simp [hdone]) _ hstep
      | @head a b hstep htail ih =>
          by_cases hb : b = start
          · subst hb
            exact h.closed b h.started (by simp [hdone]) _ hstep
          · exact h.closed b (ih hb) (by simp [hdone]) _ hstep
    rcases h.found a hseen with rfl | hentry
    · exact absurd rfl hne
    · exact hentry

omit [DecidableEq κ] in
theorem explored_start : Explored points entries start ⟨[start], [], [start]⟩ where
  started := List.mem_singleton.mpr rfl
  pending := fun _ h => h
  closed := fun _ hk hnot => absurd hk hnot
  found := fun _ hk => Or.inl (List.mem_singleton.mp hk)

/-- At the start one key is pending, and at most all entries are unseen. -/
theorem work_start : work entries ⟨[start], [], [start]⟩ ≤ entries.length + 1 := by
  have hle := List.length_filter_le (fun entry : κ × α => entry.1 ∉ [start]) entries
  simp only [work, List.length_singleton]
  omega

/-- **Completeness.**  Every key that reaches the start has its value found. -/
theorem exists_mem_closure {a : κ} (ha : Relation.TransGen (Points points entries) a start)
    (hne : a ≠ start) :
    ∃ entry ∈ entries, entry.1 = a ∧ entry.2 ∈ closure points entries start := by
  exact exists_mem_loop _ _ explored_start work_start ha hne

/-! ## Termination -/

/-- The rounds from a state end, with no key pending, in the values. -/
inductive Ends (points : κ → α → Bool) (entries : List (κ × α)) : State κ α → List α → Prop where
  | done {st : State κ α} (hpending : st.pending = []) : Ends points entries st st.found
  | round {st : State κ α} {key : κ} {pending : List κ} {values : List α}
      (hpending : st.pending = key :: pending)
      (hrest : Ends points entries (pass points key entries { st with pending }) values) :
      Ends points entries st values

theorem ends_loop (fuel : Nat) (st : State κ α) (h : Explored points entries start st)
    (hfuel : work entries st ≤ fuel) : Ends points entries st (loop points entries fuel st) := by
  induction fuel generalizing st with
  | zero =>
      have hdone : st.pending = [] := by
        rw [← List.length_eq_zero_iff]
        simp only [work] at hfuel
        omega
      exact .done hdone
  | succ fuel ih =>
      cases hpending : st.pending with
      | nil =>
          rw [loop, hpending]
          exact .done hpending
      | cons key pending =>
          obtain ⟨hnext, hwork⟩ := explored_round h hpending
          rw [loop, hpending]
          exact .round hpending (ih _ hnext (by omega))

/-- **Termination.** -/
theorem ends_closure :
    Ends points entries ⟨[start], [], [start]⟩ (closure points entries start) :=
  ends_loop _ _ (explored_start) work_start

/-! ## Soundness -/

/-- The entries filed so far: the keys seen are theirs after the start, all
    distinct, and each of them reaches the start. -/
structure Filed (points : κ → α → Bool) (entries : List (κ × α)) (start : κ)
    (filed : List (κ × α)) (st : State κ α) : Prop where
  seen : st.seen = start :: filed.map Prod.fst
  found : st.found = filed.map Prod.snd
  distinct : st.seen.Nodup
  pending : ∀ k ∈ st.pending, k ∈ st.seen
  reaches : ∀ entry ∈ filed,
    entry ∈ entries ∧ Relation.TransGen (Points points entries) entry.1 start

omit [DecidableEq κ] in
/-- A key that was seen is the start or reaches it. -/
theorem Filed.reaches_of_seen {filed : List (κ × α)} {st : State κ α}
    (h : Filed points entries start filed st) {key : κ} (hkey : key ∈ st.seen) :
    Relation.ReflTransGen (Points points entries) key start := by
  rw [h.seen] at hkey
  rcases List.mem_cons.mp hkey with rfl | hkey
  · exact .refl
  · obtain ⟨entry, hentry, rfl⟩ := List.mem_map.mp hkey
    exact (h.reaches entry hentry).2.to_reflTransGen

omit [DecidableEq κ] in
theorem Filed.add {filed : List (κ × α)} {st : State κ α}
    (h : Filed points entries start filed st) {entry : κ × α} (hentry : entry ∈ entries)
    (hnew : entry.1 ∉ st.seen)
    (hreaches : Relation.TransGen (Points points entries) entry.1 start) :
    Filed points entries start (filed ++ [entry]) (st.add entry) where
  seen := by simp [State.add, h.seen]
  found := by simp [State.add, h.found]
  distinct := by
    rw [State.add]
    refine List.nodup_append.mpr ⟨h.distinct, List.pairwise_singleton _ _, ?_⟩
    intro a ha b hb
    obtain rfl := List.mem_singleton.mp hb
    rintro rfl
    exact hnew ha
  pending := by
    intro k hk
    rcases List.mem_append.mp hk with hk | hk
    · exact List.mem_append_left _ (h.pending k hk)
    · exact List.mem_append_right _ hk
  reaches := by
    intro e he
    rcases List.mem_append.mp he with he | he
    · exact h.reaches e he
    · obtain rfl := List.mem_singleton.mp he
      exact ⟨hentry, hreaches⟩

/-- A pass for a key that reaches the start files entries that reach it too. -/
theorem filed_pass {key : κ} (hkey : Relation.ReflTransGen (Points points entries) key start)
    {passed : List (κ × α)} (hpassed : ∀ entry ∈ passed, entry ∈ entries) {st : State κ α}
    (h : ∃ filed, Filed points entries start filed st) :
    ∃ filed, Filed points entries start filed (pass points key passed st) := by
  induction passed generalizing st with
  | nil => exact h
  | cons entry rest ih =>
      obtain ⟨hentry, hrest⟩ := List.forall_mem_cons.mp hpassed
      have hpass : pass points key (entry :: rest) st = pass points key rest
          (if entry.1 ∈ st.seen ∨ !points key entry.2 then st else st.add entry) := rfl
      rw [hpass]
      apply ih hrest
      by_cases hskip : entry.1 ∈ st.seen ∨ !points key entry.2
      · rw [if_pos hskip]
        exact h
      · rw [if_neg hskip]
        have hnew : entry.1 ∉ st.seen := fun hseen => hskip (Or.inl hseen)
        have hpoints : points key entry.2 = true := by simpa using fun hnot => hskip (Or.inr hnot)
        have hstep : Points points entries entry.1 key := ⟨entry, hentry, rfl, hpoints⟩
        obtain ⟨filed, hfiled⟩ := h
        exact ⟨filed ++ [entry], hfiled.add hentry hnew (.head' hstep hkey)⟩

/-- Whatever the number of rounds, what is found was filed. -/
theorem filed_loop (fuel : Nat) {st : State κ α}
    (h : ∃ filed, Filed points entries start filed st) :
    ∃ filed : List (κ × α), loop points entries fuel st = filed.map Prod.snd ∧
      (start :: filed.map Prod.fst).Nodup ∧ ∀ entry ∈ filed,
        entry ∈ entries ∧ Relation.TransGen (Points points entries) entry.1 start := by
  induction fuel generalizing st with
  | zero =>
      obtain ⟨filed, hfiled⟩ := h
      exact ⟨filed, hfiled.found, hfiled.seen ▸ hfiled.distinct, hfiled.reaches⟩
  | succ fuel ih =>
      obtain ⟨filed, hfiled⟩ := h
      rw [loop]
      cases hpending : st.pending with
      | nil => exact ⟨filed, hfiled.found, hfiled.seen ▸ hfiled.distinct, hfiled.reaches⟩
      | cons key pending =>
          have hkey : key ∈ st.seen := hfiled.pending key (by rw [hpending]; exact List.mem_cons_self)
          have hpopped : Filed points entries start filed { st with pending } :=
            { hfiled with
              pending := fun k hk =>
                hfiled.pending k (by rw [hpending]; exact List.mem_cons_of_mem _ hk) }
          exact ih (filed_pass (hfiled.reaches_of_seen hkey) (fun _ he => he) ⟨filed, hpopped⟩)

/-- **Soundness.**  The values found are those of distinct entries, none of them
    the start, that reach the start. -/
theorem closure_filed (points : κ → α → Bool) (entries : List (κ × α)) (start : κ) :
    ∃ filed : List (κ × α), closure points entries start = filed.map Prod.snd ∧
      (start :: filed.map Prod.fst).Nodup ∧ ∀ entry ∈ filed,
        entry ∈ entries ∧ Relation.TransGen (Points points entries) entry.1 start := by
  apply filed_loop
  refine ⟨[], rfl, rfl, List.pairwise_singleton _ _, fun _ h => h, ?_⟩
  intro entry hentry
  cases hentry

end LlmHarness.Worklist
