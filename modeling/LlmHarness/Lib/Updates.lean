/-
  LlmHarness.Lib.Updates

  A list of writes to distinct places: what each place holds afterwards, and when
  the writes change nothing.
-/

import Mathlib.Data.List.Nodup
import Mathlib.Logic.Function.Basic

namespace LlmHarness.Updates

variable {α β : Type} [DecidableEq α]

/-- The map after the writes, in order. -/
def writeAll (f : α → Option β) (writes : List (α × β)) : α → Option β :=
  writes.foldl (fun f entry => Function.update f entry.1 (some entry.2)) f

theorem writeAll_append (f : α → Option β) (writes more : List (α × β)) :
    writeAll f (writes ++ more) = writeAll (writeAll f writes) more := List.foldl_append

/-- A place that is not written holds what it held. -/
theorem writeAll_of_notMem (f : α → Option β) {writes : List (α × β)} {a : α}
    (h : a ∉ writes.map Prod.fst) : writeAll f writes a = f a := by
  induction writes generalizing f with
  | nil => rfl
  | cons entry writes ih =>
      rw [List.map_cons, List.mem_cons, not_or] at h
      have hrest := ih (Function.update f entry.1 (some entry.2)) h.2
      rw [writeAll, List.foldl_cons, ← writeAll, hrest, Function.update_of_ne h.1]

/-- A place that is written once holds what is written. -/
theorem writeAll_of_mem (f : α → Option β) {writes : List (α × β)}
    (hnodup : (writes.map Prod.fst).Nodup) {a : α} {b : β} (h : (a, b) ∈ writes) :
    writeAll f writes a = some b := by
  induction writes generalizing f with
  | nil => cases h
  | cons entry writes ih =>
      obtain ⟨hfresh, hnodup⟩ := List.nodup_cons.mp hnodup
      rw [writeAll, List.foldl_cons, ← writeAll]
      rcases List.mem_cons.mp h with rfl | h
      · rw [writeAll_of_notMem _ hfresh, Function.update_self]
      · exact ih _ hnodup h

/-- The writes change nothing exactly when every place held what is written to it. -/
theorem writeAll_eq_self_iff (f : α → Option β) {writes : List (α × β)}
    (hnodup : (writes.map Prod.fst).Nodup) :
    writeAll f writes = f ↔ ∀ entry ∈ writes, f entry.1 = some entry.2 := by
  constructor
  · intro h entry hentry
    rw [← h]
    exact writeAll_of_mem f hnodup hentry
  · intro h
    funext a
    by_cases ha : a ∈ writes.map Prod.fst
    · obtain ⟨entry, hentry, rfl⟩ := List.mem_map.mp ha
      rw [h entry hentry]
      exact writeAll_of_mem f hnodup hentry
    · exact writeAll_of_notMem f ha

end LlmHarness.Updates
