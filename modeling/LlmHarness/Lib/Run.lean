/-
  LlmHarness.Lib.Run

  Runs of a step function.  `Each` says that every step of a run satisfies a
  condition in the state it is taken in; `Each.invariant` is the induction: what
  holds at the start and is kept by every such step holds at the end.
-/

import Mathlib.Data.List.Basic

namespace LlmHarness.Run

variable {σ ε : Type} {step : σ → ε → σ} {C : σ → ε → Prop}

/-- Every step of the run satisfies the condition in the state it is taken in. -/
def Each (step : σ → ε → σ) (C : σ → ε → Prop) : σ → List ε → Prop
  | _, [] => True
  | s, e :: events => C s e ∧ Each step C (step s e) events

theorem each_append (s : σ) (events events' : List ε) :
    Each step C s (events ++ events') ↔
      Each step C s events ∧ Each step C (events.foldl step s) events' := by
  induction events generalizing s with
  | nil => simp [Each]
  | cons e events ih => rw [List.cons_append, Each, Each, ih, and_assoc, List.foldl_cons]

theorem each_concat (s : σ) (events : List ε) (e : ε) :
    Each step C s (events ++ [e]) ↔ Each step C s events ∧ C (events.foldl step s) e := by
  rw [each_append, Each, Each, and_true]

/-- An earlier part of the run satisfies the condition too. -/
theorem Each.of_earlier {s : σ} {before events : List ε} (h : Each step C s events)
    (hearlier : before <+: events) : Each step C s before := by
  obtain ⟨after, rfl⟩ := hearlier
  exact ((each_append s before after).mp h).1

/-- **Induction along a run.** -/
theorem invariant {I : σ → Prop} {s : σ} (hstart : I s)
    (hstep : ∀ s e, I s → I (step s e)) (events : List ε) : I (events.foldl step s) := by
  induction events generalizing s with
  | nil => exact hstart
  | cons e events ih => exact ih (hstep s e hstart)

/-- ... whose steps satisfy a condition. -/
theorem Each.invariant {I : σ → Prop} {s : σ} {events : List ε} (h : Each step C s events)
    (hstart : I s) (hstep : ∀ s e, I s → C s e → I (step s e)) :
    I (events.foldl step s) := by
  induction events generalizing s with
  | nil => exact hstart
  | cons e events ih => exact ih h.2 (hstep s e hstart h.1)

/-- What holds after every earlier part of a run, when a step keeps it exactly under a
    condition: every step of the run satisfies the condition. -/
theorem earlier_iff_each {I P : σ → Prop} {s : σ} (hinv : I s) (hstart : P s)
    (hkeep : ∀ s e, I s → I (step s e)) (hiff : ∀ s e, I s → P s → (P (step s e) ↔ C s e))
    (events : List ε) :
    (∀ before, before <+: events → P (before.foldl step s)) ↔ Each step C s events := by
  induction events generalizing s with
  | nil =>
      refine iff_of_true (fun before hbefore => ?_) trivial
      rw [List.prefix_nil.mp hbefore]
      exact hstart
  | cons e events ih =>
      constructor
      · intro hall
        have hnext : P (step s e) := hall [e] (List.prefix_append [e] events)
        refine ⟨(hiff s e hinv hstart).mp hnext, (ih (hkeep s e hinv) hnext).mp fun before hbefore => ?_⟩
        exact hall (e :: before) (List.cons_prefix_cons.mpr ⟨rfl, hbefore⟩)
      · rintro ⟨hstep, hrest⟩ before hbefore
        rcases List.prefix_cons_iff.mp hbefore with rfl | ⟨rest, rfl, hrest'⟩
        · exact hstart
        · exact (ih (hkeep s e hinv) ((hiff s e hinv hstart).mpr hstep)).mpr hrest rest hrest'

/-- Two conditions on the steps of a run agree when an invariant makes them agree on each
    step, and steps that satisfy the second keep the invariant. -/
theorem Each.congr {A D : σ → ε → Prop} {I : σ → Prop} {s : σ} {events : List ε}
    (h : Each step A s events) (hstart : I s) (hiff : ∀ s e, I s → A s e → (C s e ↔ D s e))
    (hkeep : ∀ s e, I s → A s e → D s e → I (step s e)) :
    Each step C s events ↔ Each step D s events := by
  induction events generalizing s with
  | nil => exact Iff.rfl
  | cons e events ih =>
      obtain ⟨hA, hrest⟩ := h
      rw [Each, Each, hiff s e hstart hA]
      exact and_congr_right fun hD => ih hrest (hkeep s e hstart hA hD)

/-- ... and the second follows from the first where the first keeps the invariant. -/
theorem Each.imp {D : σ → ε → Prop} {I : σ → Prop} {s : σ} {events : List ε}
    (h : Each step C s events) (hstart : I s) (hkeep : ∀ s e, I s → C s e → I (step s e))
    (himp : ∀ s e, I s → C s e → D s e) : Each step D s events := by
  induction events generalizing s with
  | nil => trivial
  | cons e events ih =>
      exact ⟨himp s e hstart h.1, ih h.2 (hkeep s e hstart h.1)⟩

end LlmHarness.Run
