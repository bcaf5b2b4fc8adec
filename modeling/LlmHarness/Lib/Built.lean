/-
  LlmHarness.Lib.Built

  Records behind a constructor that checks and normalises its fields.  A record of the type
  `Built make` is one that `make` returned, so it cannot be invalid; where a second pass
  changes nothing, building a record from its own fields gives it back.
-/

namespace LlmHarness

section

variable {ε ρ : Type}

/-- A record that a constructor returned. -/
structure Built (make : ρ → Except ε ρ) where
  val : ρ
  returned : ∃ fields, make fields = .ok val

theorem Built.ext {make : ρ → Except ε ρ} {a b : Built make} (h : a.val = b.val) : a = b := by
  cases a
  cases b
  cases h
  rfl

instance (make : ρ → Except ε ρ) [BEq ρ] : BEq (Built make) := ⟨fun a b => a.val == b.val⟩

instance (make : ρ → Except ε ρ) [BEq ρ] [LawfulBEq ρ] : LawfulBEq (Built make) where
  eq_of_beq h := Built.ext (eq_of_beq h)
  rfl {a} := beq_self_eq_true a.val

instance (make : ρ → Except ε ρ) [DecidableEq ρ] : DecidableEq (Built make) := fun a b =>
  decidable_of_iff (a.val = b.val) ⟨Built.ext, fun h => by rw [h]⟩

/-- What the constructor returns for fields it is known to accept. -/
def Built.of (make : ρ → Except ε ρ) (fields : ρ) (h : (make fields).isOk = true) : Built make :=
  match hmake : make fields with
  | .ok record => ⟨record, fields, hmake⟩
  | .error e => by rw [hmake] at h; cases h

/-- The constructor on some fields. -/
def build (make : ρ → Except ε ρ) (fields : ρ) : Except ε (Built make) :=
  match h : make fields with
  | .ok record => .ok ⟨record, fields, h⟩
  | .error e => .error e

/-- A record that the constructor returned passes through it unchanged. -/
def Settles (make : ρ → Except ε ρ) : Prop := ∀ fields record, make fields = .ok record →
  make record = .ok record

theorem build_eq_ok {make : ρ → Except ε ρ} {fields record : ρ} (h : make fields = .ok record) :
    build make fields = .ok ⟨record, fields, h⟩ := by
  rw [build]
  split
  · next other hother =>
    have hsame : other = record := Except.ok.inj (hother.symm.trans h)
    subst hsame
    rfl
  · next e he =>
    rw [h] at he
    cases he

/-- A record is built again from its own fields. -/
theorem Settles.build_val {make : ρ → Except ε ρ} (h : Settles make) (record : Built make) :
    build make record.val = .ok record := by
  obtain ⟨value, fields, hvalue⟩ := record
  exact build_eq_ok (h fields value hvalue)

end

end LlmHarness
