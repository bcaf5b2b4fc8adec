/-
  LlmHarness.Lib.Greatest

  The last of the greatest elements of a list, where some elements have no rank and are
  passed over.  `keep` is one step of the search; searching two lists one after the
  other is searching the second one and keeping the greater result.
-/

import Mathlib.Data.List.Induction
import Mathlib.Order.Lattice

namespace LlmHarness.Greatest

variable {α κ : Type} [LinearOrder κ] (rank : α → Option κ)

/-- The current element, or a candidate that is no smaller. -/
def keep (current : Option α) (candidate : α) : Option α :=
  match rank candidate with
  | none => current
  | some r =>
    match current.bind rank with
    | none => some candidate
    | some c => if c ≤ r then some candidate else current

/-- The last of the greatest elements. -/
def last (xs : List α) : Option α := xs.foldl (keep rank) none

variable {rank}

theorem keep_of_rank_none {current : Option α} {candidate : α} (h : rank candidate = none) :
    keep rank current candidate = current := by
  rw [keep, h]

theorem keep_none {candidate : α} {r : κ} (h : rank candidate = some r) :
    keep rank none candidate = some candidate := by
  rw [keep, h]
  rfl

theorem keep_some {x candidate : α} {c r : κ} (hx : rank x = some c) (h : rank candidate = some r) :
    keep rank (some x) candidate = if c ≤ r then some candidate else some x := by
  have hcurrent : (some x).bind rank = some c := hx
  rw [keep, h, hcurrent]

theorem last_concat (xs : List α) (x : α) : last rank (xs ++ [x]) = keep rank (last rank xs) x := by
  rw [last, List.foldl_append, List.foldl_cons, List.foldl_nil, last]

theorem keep_eq_none_iff {current : Option α} {candidate : α} :
    keep rank current candidate = none ↔ current = none ∧ rank candidate = none := by
  cases h : rank candidate with
  | none => rw [keep_of_rank_none h, and_iff_left rfl]
  | some r =>
      refine iff_of_false ?_ fun hnone => Option.some_ne_none r hnone.2
      cases current with
      | none =>
          rw [keep_none h]
          exact Option.some_ne_none _
      | some x =>
          cases hx : rank x with
          | none =>
              have hcurrent : (some x).bind rank = none := hx
              rw [keep, h, hcurrent]
              exact Option.some_ne_none _
          | some c =>
              rw [keep_some hx h]
              split <;> exact Option.some_ne_none _

/-- What is kept is the current element, or the candidate with its rank. -/
theorem keep_eq_some {current : Option α} {candidate x : α}
    (h : keep rank current candidate = some x) :
    current = some x ∨ x = candidate ∧ ∃ r, rank candidate = some r := by
  cases hr : rank candidate with
  | none =>
      rw [keep_of_rank_none hr] at h
      exact Or.inl h
  | some r =>
      rw [keep, hr] at h
      simp only at h
      split at h
      · exact Or.inr ⟨(Option.some.inj h).symm, r, rfl⟩
      · split at h
        · exact Or.inr ⟨(Option.some.inj h).symm, r, rfl⟩
        · exact Or.inl h

theorem last_eq_none_iff {xs : List α} : last rank xs = none ↔ ∀ x ∈ xs, rank x = none := by
  induction xs using List.reverseRecOn with
  | nil => exact iff_of_true rfl fun _ h => nomatch h
  | append_singleton xs z ih =>
      rw [last_concat, keep_eq_none_iff, ih, List.forall_mem_append, List.forall_mem_singleton]

theorem rank_of_last {xs : List α} {x : α} (h : last rank xs = some x) :
    x ∈ xs ∧ ∃ r, rank x = some r := by
  induction xs using List.reverseRecOn with
  | nil => cases h
  | append_singleton xs z ih =>
      rw [last_concat] at h
      rcases keep_eq_some h with h | ⟨rfl, hr⟩
      · obtain ⟨hmem, hr⟩ := ih h
        exact ⟨List.mem_append_left _ hmem, hr⟩
      · exact ⟨List.mem_append_right _ List.mem_cons_self, hr⟩

/-! ## What the search finds -/

/-- An element no smaller than those before it and greater than those after it. -/
structure IsLast (rank : α → Option κ) (xs : List α) (x : α) (r : κ) : Prop where
  rank_eq : rank x = some r
  split : ∃ before after, xs = before ++ x :: after ∧
    (∀ y ∈ before, ∀ s, rank y = some s → s ≤ r) ∧ ∀ y ∈ after, ∀ s, rank y = some s → s < r

theorem IsLast.concat_same {xs : List α} {z : α} {k : κ} (hz : rank z = some k)
    (hle : ∀ y ∈ xs, ∀ s, rank y = some s → s ≤ k) : IsLast rank (xs ++ [z]) z k :=
  ⟨hz, xs, [], rfl, hle, fun _ h => nomatch h⟩

theorem IsLast.concat_below {xs : List α} {x z : α} {r : κ} (h : IsLast rank xs x r)
    (hz : ∀ s, rank z = some s → s < r) : IsLast rank (xs ++ [z]) x r := by
  obtain ⟨before, after, rfl, hbefore, hafter⟩ := h.split
  refine ⟨h.rank_eq, before, after ++ [z], by simp, hbefore, ?_⟩
  rw [List.forall_mem_append, List.forall_mem_singleton]
  exact ⟨hafter, hz⟩

theorem IsLast.mem {xs : List α} {x : α} {r : κ} (h : IsLast rank xs x r) : x ∈ xs := by
  obtain ⟨before, after, rfl, -, -⟩ := h.split
  exact List.mem_append_right _ List.mem_cons_self

theorem IsLast.le {xs : List α} {x : α} {r : κ} (h : IsLast rank xs x r) :
    ∀ y ∈ xs, ∀ s, rank y = some s → s ≤ r := by
  obtain ⟨before, after, rfl, hbefore, hafter⟩ := h.split
  intro y hy s hs
  rcases List.mem_append.mp hy with hy | hy
  · exact hbefore y hy s hs
  · rcases List.mem_cons.mp hy with rfl | hy
    · rw [h.rank_eq] at hs
      exact le_of_eq (Option.some.inj hs).symm
    · exact le_of_lt (hafter y hy s hs)

/-- **The search finds the last of the greatest.** -/
theorem isLast_of_last {xs : List α} {x : α} (h : last rank xs = some x) : ∃ r, IsLast rank xs x r := by
  induction xs using List.reverseRecOn generalizing x with
  | nil => cases h
  | append_singleton xs z ih =>
      rw [last_concat] at h
      cases hz : rank z with
      | none =>
          rw [keep_of_rank_none hz] at h
          obtain ⟨r, hlast⟩ := ih h
          -- An element without a rank changes nothing.
          refine ⟨r, hlast.concat_below fun s hs => ?_⟩
          rw [hz] at hs
          cases hs
      | some k =>
          cases hw : last rank xs with
          | none =>
              rw [hw, keep_none hz] at h
              cases h
              -- The first element with a rank is the greatest so far.
              refine ⟨k, IsLast.concat_same hz fun y hy s hs => ?_⟩
              rw [last_eq_none_iff.mp hw y hy] at hs
              cases hs
          | some w =>
              obtain ⟨r, hlast⟩ := ih hw
              rw [hw, keep_some hlast.rank_eq hz] at h
              by_cases hle : r ≤ k
              · rw [if_pos hle] at h
                cases h
                exact ⟨k, IsLast.concat_same hz fun y hy s hs => le_trans (hlast.le y hy s hs) hle⟩
              -- A smaller one is passed by.
              · rw [if_neg hle] at h
                cases h
                refine ⟨r, hlast.concat_below fun s hs => ?_⟩
                rw [hz] at hs
                exact Option.some.inj hs ▸ lt_of_not_ge hle

/-- Two last greatest elements of one list are one. -/
theorem last_of_isLast {xs : List α} {x : α} {r : κ} (h : IsLast rank xs x r) :
    last rank xs = some x := by
  obtain ⟨before, after, rfl, hbefore, hafter⟩ := h.split
  induction after using List.reverseRecOn with
  | nil =>
      rw [last_concat]
      cases hw : last rank before with
      | none => exact keep_none h.rank_eq
      | some w =>
          obtain ⟨hmem, c, hc⟩ := rank_of_last hw
          rw [keep_some hc h.rank_eq, if_pos (hbefore w hmem c hc)]
  | append_singleton after z ih =>
      rw [List.forall_mem_append, List.forall_mem_singleton] at hafter
      have hx : last rank (before ++ x :: after) = some x :=
        ih ⟨h.rank_eq, before, after, rfl, hbefore, hafter.1⟩ hafter.1
      rw [← List.cons_append, ← List.append_assoc, last_concat, hx]
      cases hz : rank z with
      | none => exact keep_of_rank_none hz
      | some k => rw [keep_some h.rank_eq hz, if_neg (not_le_of_gt (hafter.2 k hz))]

/-! ## One list after another -/

/-- Going on from an element is searching what follows and keeping the greater one. -/
theorem foldl_keep (xs ys : List α) :
    ys.foldl (keep rank) (last rank xs) =
      match last rank ys with
      | none => last rank xs
      | some y => keep rank (last rank xs) y := by
  rw [show ys.foldl (keep rank) (last rank xs) = last rank (xs ++ ys) by rw [last, last, List.foldl_append]]
  cases hy : last rank ys with
  | none =>
      -- Nothing that follows has a rank, so the greatest one stays.
      have hnone := last_eq_none_iff.mp hy
      cases hx : last rank xs with
      | none =>
          rw [last_eq_none_iff, List.forall_mem_append]
          exact ⟨last_eq_none_iff.mp hx, hnone⟩
      | some x =>
          obtain ⟨r, hlast⟩ := isLast_of_last hx
          obtain ⟨before, after, hxs, hbefore, hafter⟩ := hlast.split
          refine last_of_isLast ⟨hlast.rank_eq, before, after ++ ys, by simp [hxs], hbefore, ?_⟩
          refine List.forall_mem_append.mpr ⟨hafter, fun y hmem s hs => ?_⟩
          rw [hnone y hmem] at hs
          cases hs
  | some y =>
      -- Of two greatest ones the later wins a tie.
      obtain ⟨k, hlast⟩ := isLast_of_last hy
      obtain ⟨before, after, hys, hbefore, hafter⟩ := hlast.split
      simp only
      cases hx : last rank xs with
      | none =>
          rw [keep_none hlast.rank_eq]
          refine last_of_isLast ⟨hlast.rank_eq, xs ++ before, after, by simp [hys], ?_, hafter⟩
          refine List.forall_mem_append.mpr ⟨fun z hmem s hs => ?_, hbefore⟩
          rw [last_eq_none_iff.mp hx z hmem] at hs
          cases hs
      | some x =>
          obtain ⟨r, hlast'⟩ := isLast_of_last hx
          rw [keep_some hlast'.rank_eq hlast.rank_eq]
          by_cases hle : r ≤ k
          · rw [if_pos hle]
            refine last_of_isLast ⟨hlast.rank_eq, xs ++ before, after, by simp [hys], ?_, hafter⟩
            exact List.forall_mem_append.mpr
              ⟨fun z hmem s hs => le_trans (hlast'.le z hmem s hs) hle, hbefore⟩
          · rw [if_neg hle]
            obtain ⟨before', after', hxs, hbefore', hafter'⟩ := hlast'.split
            refine last_of_isLast ⟨hlast'.rank_eq, before', after' ++ ys, by simp [hxs], hbefore', ?_⟩
            exact List.forall_mem_append.mpr ⟨hafter', fun z hmem s hs =>
              lt_of_le_of_lt (hlast.le z hmem s hs) (lt_of_not_ge hle)⟩

theorem last_append (xs ys : List α) :
    last rank (xs ++ ys) =
      match last rank ys with
      | none => last rank xs
      | some y => keep rank (last rank xs) y := by
  rw [last, List.foldl_append]
  exact foldl_keep xs ys

end LlmHarness.Greatest
