/-
  LlmHarness.Lib.Durable

  Programs over a durable world.  What a program does is the list of its durable
  writes, in order, and what it returns or raises; a crash leaves the world of a
  prefix of the writes.
-/

import Mathlib.Data.List.Basic

namespace LlmHarness.Durable

/-- A durable world, and what one write makes of it. -/
class World (σ : Type) (ω : outParam Type) where
  apply : σ → ω → σ

/-- What a program did: its durable writes and its result. -/
structure Outcome (ω ε α : Type) where
  writes : List ω
  value : Except ε α

/-- A program. -/
def Program (σ ω ε α : Type) : Type := σ → Outcome ω ε α

variable {σ ω ε α β : Type} [World σ ω]

/-- The world after a list of writes. -/
def applyAll (s : σ) (writes : List ω) : σ := writes.foldl World.apply s

namespace Program

/-- Runs `next` on the world the writes of `m` left, unless `m` raised. -/
def bind (m : Program σ ω ε α) (next : α → Program σ ω ε β) : Program σ ω ε β := fun s =>
  match (m s).value with
  | .error e => ⟨(m s).writes, .error e⟩
  | .ok a =>
    let outcome := next a (applyAll s (m s).writes)
    ⟨(m s).writes ++ outcome.writes, outcome.value⟩

instance : Monad (Program σ ω ε) where
  pure a := fun _ => ⟨[], .ok a⟩
  bind := bind

/-- Raises. -/
def raise (e : ε) : Program σ ω ε α := fun _ => ⟨[], .error e⟩

/-- One durable write. -/
def write (w : ω) : Program σ ω ε Unit := fun _ => ⟨[w], .ok ()⟩

/-- Reads the world. -/
def read (f : σ → α) : Program σ ω ε α := fun s => ⟨[], .ok (f s)⟩

/-- Returns the value of a result or raises its error. -/
def lift (result : Except ε α) : Program σ ω ε α := fun _ => ⟨[], result⟩

/-- `try: m except: handler`: the handler sees the writes `m` made before it raised. -/
def tryExcept (m : Program σ ω ε α) (handler : ε → Program σ ω ε α) : Program σ ω ε α := fun s =>
  match (m s).value with
  | .ok a => ⟨(m s).writes, .ok a⟩
  | .error e =>
    let outcome := handler e (applyAll s (m s).writes)
    ⟨(m s).writes ++ outcome.writes, outcome.value⟩

/-- The world a program leaves. -/
def final (m : Program σ ω ε α) (s : σ) : σ := applyAll s (m s).writes

/-- The world a crash after the first `written` writes leaves. -/
def crashed (m : Program σ ω ε α) (s : σ) (written : Nat) : σ :=
  applyAll s ((m s).writes.take written)

end Program

open Program

/-! ## Running a program -/

variable {s : σ}

theorem applyAll_append (s : σ) (ws ws' : List ω) :
    applyAll s (ws ++ ws') = applyAll (applyAll s ws) ws' :=
  List.foldl_append

@[simp]
theorem applyAll_nil (s : σ) : applyAll s ([] : List ω) = s := rfl

@[simp]
theorem applyAll_cons (s : σ) (w : ω) (ws : List ω) :
    applyAll s (w :: ws) = applyAll (World.apply s w) ws := rfl

theorem bind_run (m : Program σ ω ε α) (next : α → Program σ ω ε β) (s : σ) :
    (m >>= next) s = match (m s).value with
      | .error e => ⟨(m s).writes, .error e⟩
      | .ok a => ⟨(m s).writes ++ (next a (applyAll s (m s).writes)).writes,
          (next a (applyAll s (m s).writes)).value⟩ := rfl

theorem bind_of_ok {m : Program σ ω ε α} {next : α → Program σ ω ε β} {ws : List ω} {a : α}
    (h : m s = ⟨ws, .ok a⟩) :
    (m >>= next) s = ⟨ws ++ (next a (applyAll s ws)).writes, (next a (applyAll s ws)).value⟩ := by
  rw [bind_run, h]

theorem bind_of_error {m : Program σ ω ε α} {next : α → Program σ ω ε β} {ws : List ω} {e : ε}
    (h : m s = ⟨ws, .error e⟩) : (m >>= next) s = ⟨ws, .error e⟩ := by
  rw [bind_run, h]

@[simp]
theorem pure_run (a : α) (s : σ) : (pure a : Program σ ω ε α) s = ⟨[], .ok a⟩ := rfl

omit [World σ ω] in
@[simp]
theorem raise_run (e : ε) (s : σ) : (raise e : Program σ ω ε α) s = ⟨[], .error e⟩ := rfl

omit [World σ ω] in
theorem read_run (f : σ → α) (s : σ) : (read f : Program σ ω ε α) s = ⟨[], .ok (f s)⟩ := rfl

@[simp]
theorem read_bind (f : σ → α) (next : α → Program σ ω ε β) (s : σ) :
    (read f >>= next) s = next (f s) s := rfl

omit [World σ ω] in
@[simp]
theorem write_run (w : ω) (s : σ) : (write w : Program σ ω ε Unit) s = ⟨[w], .ok ()⟩ := rfl

@[simp]
theorem write_bind (w : ω) (next : Unit → Program σ ω ε β) (s : σ) :
    (write w >>= next) s =
      ⟨w :: (next () (World.apply s w)).writes, (next () (World.apply s w)).value⟩ := rfl

/-! ### Programs that write nothing -/

/-- A program that only reads. -/
def Silent (m : Program σ ω ε α) : Prop := ∀ s, (m s).writes = []

theorem silent_pure (a : α) : Silent (pure a : Program σ ω ε α) := fun _ => rfl

omit [World σ ω] in
theorem silent_raise (e : ε) : Silent (raise e : Program σ ω ε α) := fun _ => rfl

omit [World σ ω] in
theorem silent_read (f : σ → α) : Silent (read f : Program σ ω ε α) := fun _ => rfl

omit [World σ ω] in
theorem silent_lift (result : Except ε α) : Silent (lift result : Program σ ω ε α) := fun _ => rfl

theorem Silent.bind_run {m : Program σ ω ε α} (h : Silent m) (next : α → Program σ ω ε β) (s : σ) :
    (m >>= next) s = match (m s).value with
      | .error e => ⟨[], .error e⟩
      | .ok a => next a s := by
  rw [Durable.bind_run, h]
  cases (m s).value <;> rfl

theorem Silent.bind {m : Program σ ω ε α} {next : α → Program σ ω ε β} (h : Silent m)
    (hnext : ∀ a, Silent (next a)) : Silent (m >>= next) := by
  intro s
  rw [h.bind_run]
  cases (m s).value with
  | error e => rfl
  | ok a => exact hnext a s

/-- Reading after a program adds no write. -/
theorem bind_silent_writes {m : Program σ ω ε α} {next : α → Program σ ω ε β}
    (h : ∀ a, Silent (next a)) (s : σ) : ((m >>= next) s).writes = (m s).writes := by
  rw [Durable.bind_run]
  cases (m s).value with
  | error e => rfl
  | ok a =>
      show (m s).writes ++ (next a (applyAll s (m s).writes)).writes = _
      rw [h a, List.append_nil]

/-! ### Programs that keep an invariant -/

/-- From a world that satisfies `inv`, every write of the program satisfies `p`. -/
def EmitsFrom (inv : σ → Prop) (p : ω → Prop) (m : Program σ ω ε α) : Prop :=
  ∀ s, inv s → ∀ w ∈ (m s).writes, p w

/-- Such writes keep the invariant. -/
def Keeps (inv : σ → Prop) (p : ω → Prop) : Prop :=
  ∀ s w, inv s → p w → inv (World.apply s w)

section

variable {inv : σ → Prop} {p : ω → Prop} {m : Program σ ω ε α} {next : α → Program σ ω ε β}

theorem Keeps.applyAll (hkeeps : Keeps inv p) {ws : List ω} (hws : ∀ w ∈ ws, p w) {s : σ}
    (hs : inv s) : inv (applyAll s ws) := by
  induction ws generalizing s with
  | nil => exact hs
  | cons w ws ih =>
      obtain ⟨hw, hrest⟩ := List.forall_mem_cons.mp hws
      exact ih hrest (hkeeps s w hs hw)

omit [World σ ω] in
theorem Silent.emitsFrom (h : Silent m) : EmitsFrom inv p m := by
  intro s _ w hw
  rw [h s] at hw
  exact absurd hw List.not_mem_nil

omit [World σ ω] in
theorem emitsFrom_write {w : ω} (h : p w) : EmitsFrom inv p (write w : Program σ ω ε Unit) :=
  fun _ _ _ hv => List.mem_singleton.mp hv ▸ h

/-- A sequence of two programs; what the first returns satisfies `q`. -/
theorem EmitsFrom.bind (hkeeps : Keeps inv p) (h : EmitsFrom inv p m) {q : α → Prop}
    (hvalue : ∀ s a, inv s → (m s).value = .ok a → q a)
    (hnext : ∀ a, q a → EmitsFrom inv p (next a)) : EmitsFrom inv p (m >>= next) := by
  intro s hs w hw
  rw [Durable.bind_run] at hw
  cases hm : (m s).value with
  | error e =>
      rw [hm] at hw
      exact h s hs w hw
  | ok a =>
      rw [hm] at hw
      rcases List.mem_append.mp hw with hw | hw
      · exact h s hs w hw
      · exact hnext a (hvalue s a hs hm) _ (hkeeps.applyAll (h s hs) hs) w hw

end

/-! ### Results -/

theorem lift_bind_ok {result : Except ε α} {a : α} (next : α → Program σ ω ε β)
    (h : result = .ok a) : (lift result >>= next) s = next a s := by
  rw [h]
  rfl

theorem lift_bind_error {result : Except ε α} {e : ε} (next : α → Program σ ω ε β)
    (h : result = .error e) : (lift result >>= next) s = ⟨[], .error e⟩ := by
  rw [h]
  rfl

theorem tryExcept_of_ok {m : Program σ ω ε α} {handler : ε → Program σ ω ε α} {ws : List ω} {a : α}
    (h : m s = ⟨ws, .ok a⟩) : tryExcept m handler s = ⟨ws, .ok a⟩ := by
  rw [tryExcept, h]

theorem tryExcept_of_error {m : Program σ ω ε α} {handler : ε → Program σ ω ε α} {ws : List ω}
    {e : ε} (h : m s = ⟨ws, .error e⟩) : tryExcept m handler s =
      ⟨ws ++ (handler e (applyAll s ws)).writes, (handler e (applyAll s ws)).value⟩ := by
  rw [tryExcept, h]

/-- A guarded program that returned leaves its world. -/
theorem final_tryExcept_of_ok {m : Program σ ω ε α} {handler : ε → Program σ ω ε α} {a : α}
    (h : (m s).value = .ok a) : (tryExcept m handler).final s = m.final s := by
  rw [final, tryExcept, h]
  rfl

/-- One that raised leaves the world of the handler, which starts where the exception was raised. -/
theorem final_tryExcept_of_error {m : Program σ ω ε α} {handler : ε → Program σ ω ε α} {e : ε}
    (h : (m s).value = .error e) :
    (tryExcept m handler).final s = (handler e).final (m.final s) := by
  rw [final, tryExcept, h]
  exact applyAll_append s _ _

/-! ### Worlds after a sequence -/

/-- A sequence that returned: what the first program returned, and the rest. -/
theorem exists_of_bind_ok {m : Program σ ω ε α} {next : α → Program σ ω ε β} {b : β}
    (h : ((m >>= next) s).value = .ok b) :
    ∃ a, (m s).value = .ok a ∧ (next a (m.final s)).value = .ok b ∧
      (m >>= next).final s = (next a).final (m.final s) := by
  rw [bind_run] at h
  cases hm : (m s).value with
  | error e =>
      rw [hm] at h
      cases h
  | ok a =>
      rw [hm] at h
      refine ⟨a, rfl, h, ?_⟩
      rw [Program.final, bind_run, hm]
      exact applyAll_append s _ _

/-- A sequence, by what both programs did. -/
theorem bind_eq_of_ok {m : Program σ ω ε α} {next : α → Program σ ω ε β} {ws ws' : List ω} {a : α}
    {value : Except ε β} (h : m s = ⟨ws, .ok a⟩) (hnext : next a (applyAll s ws) = ⟨ws', value⟩) :
    (m >>= next) s = ⟨ws ++ ws', value⟩ := by
  rw [bind_of_ok h, hnext]

/-- A program that ran to its end keeps the invariant. -/
theorem EmitsFrom.final {inv : σ → Prop} {p : ω → Prop} {m : Program σ ω ε α}
    (hkeeps : Keeps inv p) (h : EmitsFrom inv p m) (hs : inv s) : inv (m.final s) :=
  hkeeps.applyAll (h s hs) hs

end LlmHarness.Durable
