/-
  LlmHarness.Python.Dict

  Python dicts as association lists in insertion order: assigning to a key that
  is present keeps its place and replaces its value, a new key goes to the end.
-/

import Mathlib.Data.List.Basic
import Mathlib.Data.List.Nodup

namespace LlmHarness.Python

variable {κ ν : Type} [DecidableEq κ]

/-- `d[key] = value`. -/
def dictInsert (members : List (κ × ν)) (m : κ × ν) : List (κ × ν) :=
  if (members.map Prod.fst).contains m.1 then
    members.map fun p => if p.1 = m.1 then m else p
  else members ++ [m]

/-- `d.get(key)`. -/
def dictGet? (members : List (κ × ν)) (key : κ) : Option ν :=
  (members.find? fun m => decide (m.1 = key)).map Prod.snd

/-- The dict of a list of pairs, the last pair of a key winning. -/
def dictOfPairs (pairs : List (κ × ν)) : List (κ × ν) :=
  pairs.foldl dictInsert []

/-! ## Reading after writing -/

theorem dictGet?_eq_none_iff (d : List (κ × ν)) (k : κ) :
    dictGet? d k = none ↔ k ∉ d.map Prod.fst := by
  rw [dictGet?, Option.map_eq_none_iff, List.find?_eq_none]
  constructor
  · intro h hk
    obtain ⟨m, hm, rfl⟩ := List.mem_map.mp hk
    exact h m hm (decide_eq_true rfl)
  · intro h m hm hk
    exact h (List.mem_map.mpr ⟨m, hm, of_decide_eq_true hk⟩)

theorem dictGet?_append (d e : List (κ × ν)) (k : κ) :
    dictGet? (d ++ e) k = (dictGet? d k).or (dictGet? e k) := by
  simp only [dictGet?, List.find?_append]
  cases d.find? _ <;> rfl

/-- Replacing the value of a key that is present. -/
theorem dictGet?_replace (d : List (κ × ν)) (m : κ × ν) (k : κ) (hm : m.1 ∈ d.map Prod.fst) :
    dictGet? (d.map fun p => if p.1 = m.1 then m else p) k =
      if k = m.1 then some m.2 else dictGet? d k := by
  have hkey : ∀ p : κ × ν, (if p.1 = m.1 then m else p).1 = p.1 := by
    intro p
    by_cases hp : p.1 = m.1
    · rw [if_pos hp, hp]
    · rw [if_neg hp]
  -- The first entry of a key stays where it is, since no key changes.
  have hfind : (d.map fun p => if p.1 = m.1 then m else p).find? (fun p => decide (p.1 = k)) =
      (d.find? fun p => decide (p.1 = k)).map fun p => if p.1 = m.1 then m else p := by
    rw [List.find?_map]
    congr 2
    funext p
    show decide ((if p.1 = m.1 then m else p).1 = k) = decide (p.1 = k)
    rw [hkey]
  rw [dictGet?, hfind, dictGet?]
  by_cases hk : k = m.1
  · subst hk
    cases hd : d.find? fun p => decide (p.1 = m.1) with
    | none =>
        obtain ⟨q, hq, hqm⟩ := List.mem_map.mp hm
        exact absurd (decide_eq_true hqm) (List.find?_eq_none.mp hd q hq)
    | some q =>
        have hq : q.1 = m.1 := by simpa using List.find?_some hd
        simp [hq]
  · cases hd : d.find? fun p => decide (p.1 = k) with
    | none => simp [hk]
    | some q =>
        have hq : q.1 = k := by simpa using List.find?_some hd
        simp [hq, hk]

/-- Reading a key after writing one. -/
theorem dictGet?_dictInsert (d : List (κ × ν)) (m : κ × ν) (k : κ) :
    dictGet? (dictInsert d m) k = if k = m.1 then some m.2 else dictGet? d k := by
  by_cases hm : m.1 ∈ d.map Prod.fst
  · rw [dictInsert, if_pos (by simpa using hm), dictGet?_replace d m k hm]
  · rw [dictInsert, if_neg (by simpa using hm), dictGet?_append]
    by_cases hk : k = m.1
    · subst hk
      rw [(dictGet?_eq_none_iff d m.1).mpr hm]
      simp [dictGet?]
    · have hne : ¬ m.1 = k := fun h => hk h.symm
      simp [dictGet?, hk, hne]

theorem keys_dictInsert (d : List (κ × ν)) (m : κ × ν) :
    (dictInsert d m).map Prod.fst =
      if m.1 ∈ d.map Prod.fst then d.map Prod.fst else d.map Prod.fst ++ [m.1] := by
  by_cases hm : m.1 ∈ d.map Prod.fst
  · rw [dictInsert, if_pos (by simpa using hm), if_pos hm, List.map_map]
    apply List.map_congr_left
    intro p _
    by_cases hp : p.1 = m.1
    · simp [hp]
    · simp [hp]
  · rw [dictInsert, if_neg (by simpa using hm), if_neg hm]
    simp

theorem nodup_keys_dictInsert {d : List (κ × ν)} (hd : (d.map Prod.fst).Nodup) (m : κ × ν) :
    ((dictInsert d m).map Prod.fst).Nodup := by
  rw [keys_dictInsert]
  split
  · exact hd
  · rename_i hm
    rw [List.nodup_append]
    refine ⟨hd, List.nodup_singleton _, ?_⟩
    rintro a ha b hb rfl
    exact hm (List.mem_singleton.mp hb ▸ ha)

/-- A dict holds a pair exactly when it maps the key to the value. -/
theorem mem_iff_dictGet? {d : List (κ × ν)} (hd : (d.map Prod.fst).Nodup) (k : κ) (v : ν) :
    (k, v) ∈ d ↔ dictGet? d k = some v := by
  induction d with
  | nil => simp [dictGet?]
  | cons p d ih =>
      obtain ⟨hp, hd⟩ := List.nodup_cons.mp hd
      by_cases hk : p.1 = k
      · have hkd : (k, v) ∉ d := fun h => hp (hk ▸ List.mem_map.mpr ⟨_, h, rfl⟩)
        obtain ⟨a, b⟩ := p
        subst hk
        simp [dictGet?, hkd, eq_comm]
      · have hne : (k, v) ≠ p := by
          rintro rfl
          exact hk rfl
        have hget : dictGet? (p :: d) k = dictGet? d k := by simp [dictGet?, hk]
        rw [hget, ← ih hd, List.mem_cons]
        exact or_iff_right hne

/-! ## Building a dict from pairs -/

theorem dictGet?_foldl_dictInsert (pairs d : List (κ × ν)) (k : κ) :
    dictGet? (pairs.foldl dictInsert d) k = (dictGet? pairs.reverse k).or (dictGet? d k) := by
  induction pairs generalizing d with
  | nil => simp [dictGet?]
  | cons m pairs ih =>
      rw [List.foldl_cons, ih, dictGet?_dictInsert, List.reverse_cons, dictGet?_append]
      by_cases hk : k = m.1
      · subst hk
        cases dictGet? pairs.reverse m.1 <;> simp [dictGet?]
      · have hne : ¬ m.1 = k := fun h => hk h.symm
        cases dictGet? pairs.reverse k <;> simp [dictGet?, hk, hne]

/-- The last pair of a key wins. -/
theorem dictGet?_dictOfPairs (pairs : List (κ × ν)) (k : κ) :
    dictGet? (dictOfPairs pairs) k = dictGet? pairs.reverse k := by
  rw [dictOfPairs, dictGet?_foldl_dictInsert]
  simp [dictGet?]

/-- A dict built from pairs holds no others. -/
theorem mem_of_dictGet?_dictOfPairs {pairs : List (κ × ν)} {k : κ} {v : ν}
    (h : dictGet? (dictOfPairs pairs) k = some v) : (k, v) ∈ pairs := by
  rw [dictGet?_dictOfPairs, dictGet?] at h
  obtain ⟨p, hp, rfl⟩ := Option.map_eq_some_iff.mp h
  have hkey : p.1 = k := by simpa using List.find?_some hp
  have hmem := List.mem_reverse.mp (List.mem_of_find?_eq_some hp)
  rwa [← hkey]

theorem nodup_keys_foldl_dictInsert (pairs : List (κ × ν)) {d : List (κ × ν)}
    (hd : (d.map Prod.fst).Nodup) : ((pairs.foldl dictInsert d).map Prod.fst).Nodup := by
  induction pairs generalizing d with
  | nil => exact hd
  | cons m pairs ih => exact ih (nodup_keys_dictInsert hd m)

theorem nodup_keys_dictOfPairs (pairs : List (κ × ν)) :
    ((dictOfPairs pairs).map Prod.fst).Nodup :=
  nodup_keys_foldl_dictInsert pairs List.nodup_nil

theorem foldl_dictInsert_of_nodup (ms acc : List (κ × ν))
    (h : ((acc ++ ms).map Prod.fst).Nodup) : ms.foldl dictInsert acc = acc ++ ms := by
  induction ms generalizing acc with
  | nil => simp
  | cons m ms ih =>
      have hm : m.1 ∉ acc.map Prod.fst := by
        rw [List.map_append, List.nodup_append] at h
        intro hmem
        exact h.2.2 m.1 hmem m.1 (by simp) rfl
      have hins : dictInsert acc m = acc ++ [m] := by
        rw [dictInsert, if_neg (by simpa using hm)]
      rw [List.foldl_cons, hins, ih _ (by simpa using h), List.append_assoc, List.singleton_append]

/-- Pairs with distinct keys are a dict as they stand. -/
theorem dictOfPairs_of_nodup (ms : List (κ × ν)) (h : (ms.map Prod.fst).Nodup) :
    dictOfPairs ms = ms := by
  simpa [dictOfPairs] using foldl_dictInsert_of_nodup ms [] (by simpa using h)

end LlmHarness.Python
