/-
  LlmHarness.Lib.Raising

  Programs over a state that may raise.  What a program did before it raised
  stays done.
-/

import Mathlib.Data.List.Basic

namespace LlmHarness

/-- A program: its result and the state it leaves. -/
def Raising (σ ε α : Type) : Type := σ → Except ε α × σ

namespace Raising

variable {σ ε α β : Type}

/-- Runs `next` unless `m` raised. -/
def bind (m : Raising σ ε α) (next : α → Raising σ ε β) : Raising σ ε β := fun s =>
  match m s with
  | (.ok a, s) => next a s
  | (.error e, s) => (.error e, s)

instance : Monad (Raising σ ε) where
  pure a := fun s => (.ok a, s)
  bind := bind

/-- Raises. -/
def raise (e : ε) : Raising σ ε α := fun s => (.error e, s)

/-- Reads the state. -/
def read (f : σ → α) : Raising σ ε α := fun s => (.ok (f s), s)

/-- Changes the state. -/
def change (f : σ → σ) : Raising σ ε Unit := fun s => (.ok (), f s)

/-- The value of an answer, or its error under the given class. -/
def answer {δ : Type} (kind : δ → ε) (result : Except δ α) : Raising σ ε α := fun s =>
  match result with
  | .ok a => (.ok a, s)
  | .error e => (.error (kind e), s)

variable {s s' : σ}

theorem bind_of_ok {m : Raising σ ε α} {next : α → Raising σ ε β} {a : α}
    (h : m s = (.ok a, s')) : (m >>= next) s = next a s' := by
  show bind m next s = _
  rw [bind, h]

theorem bind_of_error {m : Raising σ ε α} {next : α → Raising σ ε β} {e : ε}
    (h : m s = (.error e, s')) : (m >>= next) s = (.error e, s') := by
  show bind m next s = _
  rw [bind, h]

@[simp]
theorem read_bind (f : σ → α) (next : α → Raising σ ε β) (s : σ) :
    (read f >>= next) s = next (f s) s := rfl

@[simp]
theorem change_bind (f : σ → σ) (next : Unit → Raising σ ε β) (s : σ) :
    (change f >>= next) s = next () (f s) := rfl

@[simp]
theorem answer_ok_bind {δ : Type} (kind : δ → ε) (a : α) (next : α → Raising σ ε β) (s : σ) :
    (answer kind (.ok a) >>= next) s = next a s := rfl

@[simp]
theorem answer_error_bind {δ : Type} (kind : δ → ε) (e : δ) (next : α → Raising σ ε β) (s : σ) :
    (answer kind (.error e) >>= next) s = (.error (kind e), s) := rfl

@[simp]
theorem raise_run (e : ε) (s : σ) : (raise e : Raising σ ε α) s = (.error e, s) := rfl

@[simp]
theorem pure_run (a : α) (s : σ) : (pure a : Raising σ ε α) s = (.ok a, s) := rfl

end Raising

end LlmHarness
