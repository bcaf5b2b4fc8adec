/-
  LlmHarness.Lib.Regex

  Regular expressions as backtracking matchers.  `run` lists the matches at the head of a
  text in the order in which they are tried, `Lang` is the set of the texts that are
  matched, and `mem_run` connects the two.
-/

import Mathlib.Data.List.Basic

namespace LlmHarness

/-- A regular expression; only a class is repeated without a bound. -/
inductive Regex (α : Type) where
  | empty
  | one (p : α → Bool)
  | seq (a b : Regex α)
  | alt (a b : Regex α)
  | many (p : α → Bool)
  | few (p : α → Bool)

namespace Regex

variable {α : Type}

/-- `p*`: the longest run first. -/
def runMany (p : α → Bool) : List α → List (List α × List α)
  | [] => [([], [])]
  | c :: cs =>
    if p c then (runMany p cs).map (fun m => (c :: m.1, m.2)) ++ [([], c :: cs)]
    else [([], c :: cs)]

/-- `p*?`: the shortest run first. -/
def runFew (p : α → Bool) : List α → List (List α × List α)
  | [] => [([], [])]
  | c :: cs =>
    ([], c :: cs) :: if p c then (runFew p cs).map (fun m => (c :: m.1, m.2)) else []

/-- The matches at the head of the text, each with the rest of the text. -/
def run : Regex α → List α → List (List α × List α)
  | .empty, s => [([], s)]
  | .one _, [] => []
  | .one p, c :: cs => if p c then [([c], cs)] else []
  | .seq a b, s => (run a s).flatMap fun m => (run b m.2).map fun m' => (m.1 ++ m'.1, m'.2)
  | .alt a b, s => run a s ++ run b s
  | .many p, s => runMany p s
  | .few p, s => runFew p s

/-- The texts that are matched. -/
def Lang : Regex α → List α → Prop
  | .empty, w => w = []
  | .one p, w => ∃ c, w = [c] ∧ p c
  | .seq a b, w => ∃ x y, w = x ++ y ∧ Lang a x ∧ Lang b y
  | .alt a b, w => Lang a w ∨ Lang b w
  | .many p, w => ∀ c ∈ w, p c
  | .few p, w => ∀ c ∈ w, p c

/-! ### Their equations -/

section

variable {p : α → Bool} {a b : Regex α} {s w : List α} {c : α}

@[simp] theorem run_empty : run .empty s = [([], s)] := rfl
@[simp] theorem run_one_nil : run (.one p) [] = [] := rfl
@[simp] theorem run_one_cons : run (.one p) (c :: s) = if p c then [([c], s)] else [] := rfl
@[simp] theorem run_seq : run (.seq a b) s =
    (run a s).flatMap fun m => (run b m.2).map fun m' => (m.1 ++ m'.1, m'.2) := rfl
@[simp] theorem run_alt : run (.alt a b) s = run a s ++ run b s := rfl
@[simp] theorem run_many : run (.many p) s = runMany p s := rfl
@[simp] theorem run_few : run (.few p) s = runFew p s := rfl

@[simp] theorem lang_empty : Lang (.empty : Regex α) w ↔ w = [] := Iff.rfl
@[simp] theorem lang_one : Lang (.one p) w ↔ ∃ c, w = [c] ∧ p c := Iff.rfl
@[simp] theorem lang_seq : Lang (.seq a b) w ↔ ∃ x y, w = x ++ y ∧ Lang a x ∧ Lang b y := Iff.rfl
@[simp] theorem lang_alt : Lang (.alt a b) w ↔ Lang a w ∨ Lang b w := Iff.rfl
@[simp] theorem lang_many : Lang (.many p) w ↔ ∀ c ∈ w, p c := Iff.rfl
@[simp] theorem lang_few : Lang (.few p) w ↔ ∀ c ∈ w, p c := Iff.rfl

theorem runMany_cons : runMany p (c :: s) =
    if p c then (runMany p s).map (fun m => (c :: m.1, m.2)) ++ [([], c :: s)]
    else [([], c :: s)] := rfl

theorem runFew_cons : runFew p (c :: s) =
    ([], c :: s) :: if p c then (runFew p s).map (fun m => (c :: m.1, m.2)) else [] := rfl

end

/-- One character of each of the classes. -/
def classes (ps : List (α → Bool)) : Regex α := ps.foldr (fun p e => .seq (.one p) e) .empty

/-- A text itself. -/
def text [DecidableEq α] (cs : List α) : Regex α := classes (cs.map fun c d => decide (d = c))

/-- `e?`. -/
def opt (e : Regex α) : Regex α := .alt e .empty

/-- `p{n,}`. -/
def atLeast (n : Nat) (p : α → Bool) : Regex α := .seq (classes (List.replicate n p)) (.many p)

/-- `p{0,n}`. -/
def upTo (p : α → Bool) : Nat → Regex α
  | 0 => .empty
  | n + 1 => .alt (.seq (.one p) (upTo p n)) .empty

/-- `p{n,n + more}`. -/
def between (n more : Nat) (p : α → Bool) : Regex α :=
  .seq (classes (List.replicate n p)) (upTo p more)

/-! ## What a run finds -/

theorem mem_runMany_cons {p : α → Bool} {c : α} {cs x r : List α} :
    (x, r) ∈ runMany p (c :: cs) ↔
      x = [] ∧ r = c :: cs ∨ p c ∧ ∃ y, x = c :: y ∧ (y, r) ∈ runMany p cs := by
  rw [runMany_cons]
  split
  · rename_i hc
    simp only [List.mem_append, List.mem_map, List.mem_singleton, Prod.mk.injEq, Prod.exists]
    grind
  · rename_i hc
    simp only [List.mem_singleton, Prod.mk.injEq, hc]
    grind

theorem mem_runFew_cons {p : α → Bool} {c : α} {cs x r : List α} :
    (x, r) ∈ runFew p (c :: cs) ↔
      x = [] ∧ r = c :: cs ∨ p c ∧ ∃ y, x = c :: y ∧ (y, r) ∈ runFew p cs := by
  rw [runFew_cons, List.mem_cons]
  split
  · simp only [List.mem_map, Prod.mk.injEq, Prod.exists]
    grind
  · simp only [Prod.mk.injEq]
    grind

/-- A run over one class splits the text after some characters of the class. -/
theorem splits_of_cons {p : α → Bool} {run : List α → List (List α × List α)}
    (hnil : run [] = [([], [])])
    (hcons : ∀ c cs x r, (x, r) ∈ run (c :: cs) ↔
      x = [] ∧ r = c :: cs ∨ p c ∧ ∃ y, x = c :: y ∧ (y, r) ∈ run cs) {s x r : List α} :
    (x, r) ∈ run s ↔ s = x ++ r ∧ ∀ c ∈ x, p c := by
  -- the induction is on the text; the first piece is empty or begins with its first character
  induction s generalizing x with
  | nil =>
      rw [hnil, List.mem_singleton, Prod.mk.injEq]
      cases x with
      | nil => exact ⟨fun h => ⟨h.2.symm, List.forall_mem_nil _⟩, fun h => ⟨rfl, h.1.symm⟩⟩
      | cons d x => simp
  | cons c cs ih =>
      rw [hcons]
      cases x with
      | nil =>
          refine ⟨fun h => ?_, fun h => .inl ⟨rfl, h.1.symm⟩⟩
          obtain ⟨-, rfl⟩ | ⟨-, y, hy, -⟩ := h
          · exact ⟨rfl, nofun⟩
          · cases hy
      | cons d x =>
          simp only [List.cons.injEq, List.cons_append, List.forall_mem_cons, ih]
          grind

theorem mem_run {e : Regex α} {s x r : List α} : (x, r) ∈ run e s ↔ s = x ++ r ∧ Lang e x := by
  -- one case for each constructor of the expression
  induction e generalizing s x r with
  | empty =>
      simp only [run_empty, lang_empty, List.mem_singleton, Prod.mk.injEq]
      grind
  | one p =>
      cases s with
      | nil => simp; grind
      | cons c cs =>
          simp only [run_one_cons, lang_one]
          split <;> grind
  | seq a b iha ihb =>
      -- the first part leaves what the second one reads
      simp only [run_seq, lang_seq, List.mem_flatMap, List.mem_map, Prod.mk.injEq, Prod.exists]
      constructor
      · rintro ⟨y, q, hy, z, q', hz, rfl, rfl⟩
        obtain ⟨rfl, hly⟩ := iha.mp hy
        obtain ⟨rfl, hlz⟩ := ihb.mp hz
        exact ⟨(List.append_assoc ..).symm, y, z, rfl, hly, hlz⟩
      · rintro ⟨rfl, y, z, rfl, hly, hlz⟩
        exact ⟨y, z ++ r, iha.mpr ⟨List.append_assoc .., hly⟩, z, r, ihb.mpr ⟨rfl, hlz⟩, rfl, rfl⟩
  -- both alternatives are tried, in their order
  | alt a b iha ihb =>
      rw [run_alt, List.mem_append, iha, ihb, lang_alt]
      exact and_or_left.symm
  | many p => exact splits_of_cons rfl fun _ _ _ _ => mem_runMany_cons
  | few p => exact splits_of_cons rfl fun _ _ _ _ => mem_runFew_cons

/-! ## The languages of the repetitions -/

theorem lang_classes_replicate {p : α → Bool} {n : Nat} {w : List α} :
    Lang (classes (List.replicate n p)) w ↔ w.length = n ∧ ∀ c ∈ w, p c := by
  induction n generalizing w with
  | zero => simp [classes]; grind
  | succ n ih =>
      show Lang (.seq (.one p) (classes (List.replicate n p))) w ↔ _
      simp only [lang_seq, lang_one, ih]
      constructor
      · rintro ⟨x, y, rfl, ⟨c, rfl, hc⟩, hlength, hall⟩
        exact ⟨by simp [hlength], by simpa [hc] using hall⟩
      · rintro ⟨hlength, hall⟩
        cases w with
        | nil => cases hlength
        | cons c w =>
            exact ⟨[c], w, rfl, ⟨c, rfl, hall c List.mem_cons_self⟩, Nat.succ.inj hlength,
              fun d hd => hall d (List.mem_cons_of_mem c hd)⟩

theorem lang_atLeast {p : α → Bool} {n : Nat} {w : List α} :
    Lang (atLeast n p) w ↔ n ≤ w.length ∧ ∀ c ∈ w, p c := by
  simp only [atLeast, lang_seq, lang_many, lang_classes_replicate]
  constructor
  · rintro ⟨x, y, rfl, ⟨hlength, hx⟩, hy⟩
    exact ⟨by simp [← hlength], fun c hc => (List.mem_append.mp hc).elim (hx c) (hy c)⟩
  · rintro ⟨hlength, hall⟩
    exact ⟨w.take n, w.drop n, (List.take_append_drop n w).symm,
      ⟨List.length_take_of_le hlength, fun c hc => hall c (List.mem_of_mem_take hc)⟩,
      fun c hc => hall c (List.mem_of_mem_drop hc)⟩

theorem lang_upTo {p : α → Bool} {n : Nat} {w : List α} :
    Lang (upTo p n) w ↔ w.length ≤ n ∧ ∀ c ∈ w, p c := by
  induction n generalizing w with
  | zero =>
      rw [upTo, lang_empty, Nat.le_zero, List.length_eq_zero_iff]
      exact ⟨fun h => ⟨h, by simp [h]⟩, And.left⟩
  | succ n ih =>
      simp only [upTo, lang_alt, lang_seq, lang_one, lang_empty, ih]
      cases w with
      | nil => simp
      | cons c w =>
          constructor
          · rintro (⟨x, y, hsplit, ⟨d, rfl, hd⟩, hlength, hall⟩ | h)
            · obtain ⟨rfl, rfl⟩ := List.cons.inj hsplit
              exact ⟨Nat.succ_le_succ hlength, List.forall_mem_cons.mpr ⟨hd, hall⟩⟩
            · cases h
          · rintro ⟨hlength, hall⟩
            obtain ⟨hc, hall⟩ := List.forall_mem_cons.mp hall
            exact .inl ⟨[c], w, rfl, ⟨c, rfl, hc⟩, Nat.le_of_succ_le_succ hlength, hall⟩

theorem lang_between {p : α → Bool} {n more : Nat} {w : List α} :
    Lang (between n more p) w ↔ n ≤ w.length ∧ w.length ≤ n + more ∧ ∀ c ∈ w, p c := by
  simp only [between, lang_seq, lang_classes_replicate, lang_upTo]
  constructor
  · rintro ⟨x, y, rfl, ⟨rfl, hx⟩, hlength, hy⟩
    rw [List.length_append]
    exact ⟨Nat.le_add_right .., Nat.add_le_add_left hlength _,
      fun c hc => (List.mem_append.mp hc).elim (hx c) (hy c)⟩
  · rintro ⟨hlow, hhigh, hall⟩
    refine ⟨w.take n, w.drop n, (List.take_append_drop n w).symm,
      ⟨List.length_take_of_le hlow, fun c hc => hall c (List.mem_of_mem_take hc)⟩, ?_,
      fun c hc => hall c (List.mem_of_mem_drop hc)⟩
    rw [List.length_drop]
    omega

theorem lang_text [DecidableEq α] {cs w : List α} : Lang (text cs) w ↔ w = cs := by
  induction cs generalizing w with
  | nil => rfl
  | cons c cs ih =>
      show Lang (.seq (.one fun d => decide (d = c)) (text cs)) w ↔ _
      simp only [lang_seq, lang_one, ih, decide_eq_true_eq]
      grind

/-- What follows the longest run of a class is not in the class. -/
def Greedy (p : α → Bool) (e : Regex α) : Prop :=
  ∀ s x r, (run e s).head? = some (x, r) → ∀ c, r.head? = some c → p c = false

theorem runMany_head {p : α → Bool} (s : List α) :
    (runMany p s).head? = some (s.takeWhile p, s.dropWhile p) := by
  induction s with
  | nil => rfl
  | cons c cs ih =>
      rw [runMany_cons]
      split
      · rename_i hc
        rw [List.head?_append, List.head?_map, ih, List.takeWhile_cons_of_pos hc,
          List.dropWhile_cons_of_pos hc]
        rfl
      · rename_i hc
        rw [List.takeWhile_cons_of_neg hc, List.dropWhile_cons_of_neg hc]
        rfl

theorem greedy_many (p : α → Bool) : Greedy p (.many p) := by
  intro s x r h c hc
  rw [run_many, runMany_head] at h
  cases h
  have hnot := List.head?_dropWhile_not p s
  rw [hc] at hnot
  exact hnot

theorem head?_flatMap_map {β γ δ : Type} {next : β → List γ} {pair : β → γ → δ} {ms : List β} {d : δ}
    (h : (ms.flatMap fun m => (next m).map (pair m)).head? = some d) :
    ∃ m ∈ ms, ∃ m', (next m).head? = some m' ∧ d = pair m m' := by
  induction ms with
  | nil => cases h
  | cons m ms ih =>
      rw [List.flatMap_cons, List.head?_append, List.head?_map] at h
      cases hfirst : (next m).head? with
      | none =>
          rw [hfirst, Option.map_none, Option.none_or] at h
          obtain ⟨m₁, hmem, hrest⟩ := ih h
          exact ⟨m₁, List.mem_cons_of_mem m hmem, hrest⟩
      | some m' =>
          rw [hfirst, Option.map_some, Option.some_or] at h
          exact ⟨m, List.mem_cons_self, m', hfirst, (Option.some.inj h).symm⟩

/-- The first match of a sequence ends with a first match of its second part. -/
theorem run_seq_head {a b : Regex α} {s x r : List α} (h : (run (.seq a b) s).head? = some (x, r)) :
    ∃ y q z, (y, q) ∈ run a s ∧ (run b q).head? = some (z, r) ∧ x = y ++ z := by
  rw [run_seq] at h
  obtain ⟨m, hm, m', hfirst, hsame⟩ := head?_flatMap_map h
  obtain ⟨rfl, rfl⟩ := Prod.mk.inj hsame
  exact ⟨m.1, m.2, m'.1, hm, hfirst, rfl⟩

/-- A run over one class always matches, so the first match before it is kept. -/
theorem run_seq_many_head {a : Regex α} {p : α → Bool} {s x r : List α}
    (h : (run (.seq a (.many p)) s).head? = some (x, r)) :
    ∃ y q, (run a s).head? = some (y, q) ∧ x = y ++ q.takeWhile p ∧ r = q.dropWhile p := by
  rw [run_seq] at h
  cases hrun : run a s with
  | nil =>
      rw [hrun] at h
      cases h
  | cons m ms =>
      rw [hrun, List.flatMap_cons, List.head?_append, List.head?_map, run_many, runMany_head] at h
      cases h
      exact ⟨m.1, m.2, rfl, rfl, rfl⟩

theorem Greedy.seq {p : α → Bool} {b : Regex α} (h : Greedy p b) (a : Regex α) :
    Greedy p (.seq a b) := by
  intro s x r hfirst
  obtain ⟨y, q, z, -, hz, -⟩ := run_seq_head hfirst
  exact h q z r hz

/-! ## The characters of a match -/

/-- The classes of an expression. -/
def classesOf : Regex α → List (α → Bool)
  | .empty => []
  | .one p | .many p | .few p => [p]
  | .seq a b | .alt a b => classesOf a ++ classesOf b

/-- The length of its shortest match. -/
def minLength : Regex α → Nat
  | .empty | .many _ | .few _ => 0
  | .one _ => 1
  | .seq a b => minLength a + minLength b
  | .alt a b => min (minLength a) (minLength b)

/-- The classes of the first character of a match. -/
def firsts : Regex α → List (α → Bool)
  | .empty => []
  | .one p | .many p | .few p => [p]
  | .seq a b => if minLength a = 0 then firsts a ++ firsts b else firsts a
  | .alt a b => firsts a ++ firsts b

theorem Lang.mem_classesOf {e : Regex α} {w : List α} (h : Lang e w) {c : α} (hc : c ∈ w) :
    ∃ p ∈ classesOf e, p c := by
  induction e generalizing w with
  | empty =>
      rw [show w = [] from h] at hc
      cases hc
  | one p =>
      obtain ⟨d, rfl, hd⟩ := h
      rw [List.mem_singleton.mp hc]
      exact ⟨p, List.mem_singleton_self p, hd⟩
  -- the character is in the first part or in the second
  | seq a b iha ihb =>
      obtain ⟨x, y, rfl, hx, hy⟩ := h
      simp only [classesOf, List.mem_append]
      cases List.mem_append.mp hc with
      | inl hcx => obtain ⟨p, hp, hpc⟩ := iha hx hcx; exact ⟨p, .inl hp, hpc⟩
      | inr hcy => obtain ⟨p, hp, hpc⟩ := ihb hy hcy; exact ⟨p, .inr hp, hpc⟩
  | alt a b iha ihb =>
      simp only [classesOf, List.mem_append]
      cases h with
      | inl ha => obtain ⟨p, hp, hpc⟩ := iha ha hc; exact ⟨p, .inl hp, hpc⟩
      | inr hb => obtain ⟨p, hp, hpc⟩ := ihb hb hc; exact ⟨p, .inr hp, hpc⟩
  -- a repetition holds characters of its class only
  | many p => exact ⟨p, List.mem_singleton_self p, h c hc⟩
  | few p => exact ⟨p, List.mem_singleton_self p, h c hc⟩

theorem Lang.minLength_le {e : Regex α} {w : List α} (h : Lang e w) : minLength e ≤ w.length := by
  induction e generalizing w with
  | empty => exact Nat.zero_le _
  | one p =>
      obtain ⟨d, rfl, -⟩ := h
      exact Nat.le_refl 1
  | seq a b iha ihb =>
      obtain ⟨x, y, rfl, hx, hy⟩ := h
      rw [minLength, List.length_append]
      exact Nat.add_le_add (iha hx) (ihb hy)
  | alt a b iha ihb =>
      cases h with
      | inl ha => exact Nat.le_trans (Nat.min_le_left ..) (iha ha)
      | inr hb => exact Nat.le_trans (Nat.min_le_right ..) (ihb hb)
  | many p => exact Nat.zero_le _
  | few p => exact Nat.zero_le _

theorem Lang.mem_firsts {e : Regex α} {c : α} {w : List α} (h : Lang e (c :: w)) :
    ∃ p ∈ firsts e, p c := by
  induction e generalizing w with
  | empty => cases h
  | one p =>
      obtain ⟨d, hd, hp⟩ := h
      obtain ⟨rfl, -⟩ := List.cons.inj hd
      exact ⟨p, List.mem_singleton_self p, hp⟩
  | seq a b iha ihb =>
      obtain ⟨x, y, hsplit, hx, hy⟩ := h
      rw [firsts]
      -- an empty first part: the character is one of the second
      cases x with
      | nil =>
          have hnil : minLength a = 0 := Nat.le_zero.mp hx.minLength_le
          rw [List.nil_append] at hsplit
          subst hsplit
          obtain ⟨p, hp, hpc⟩ := ihb hy
          exact ⟨p, by simp [hnil, hp], hpc⟩
      -- else it is the first of the first part
      | cons d x =>
          obtain ⟨rfl, -⟩ := List.cons.inj hsplit
          obtain ⟨p, hp, hpc⟩ := iha hx
          refine ⟨p, ?_, hpc⟩
          split
          · exact List.mem_append_left _ hp
          · exact hp
  | alt a b iha ihb =>
      simp only [firsts, List.mem_append]
      cases h with
      | inl ha => obtain ⟨p, hp, hpc⟩ := iha ha; exact ⟨p, .inl hp, hpc⟩
      | inr hb => obtain ⟨p, hp, hpc⟩ := ihb hb; exact ⟨p, .inr hp, hpc⟩
  | many p | few p => exact ⟨p, List.mem_singleton_self p, h c List.mem_cons_self⟩

/-- A match that ends with a run of one class ends in the class. -/
theorem Lang.last_mem {a : Regex α} {p : α → Bool} {n : Nat} {w : List α} {c : α}
    (h : Lang (.seq a (atLeast (n + 1) p)) (w ++ [c])) : p c := by
  obtain ⟨x, y, hsplit, -, hy⟩ := h
  obtain ⟨hlong, hy⟩ := lang_atLeast.mp hy
  obtain rfl | ⟨y, d, rfl⟩ := y.eq_nil_or_concat
  · cases hlong
  · rw [List.concat_eq_append] at hsplit hy
    rw [← List.append_assoc] at hsplit
    have hd := (List.append_inj' hsplit rfl).2
    cases hd
    exact hy c (by simp)

/-- Where no class tells a character from its image, the image of a text may stand for it. -/
theorem lang_map {f : α → α} {e : Regex α} (hf : ∀ p ∈ classesOf e, ∀ c, p (f c) = p c)
    {w : List α} : Lang e (w.map f) ↔ Lang e w := by
  induction e generalizing w with
  | empty => exact List.map_eq_nil_iff
  | one p =>
      have hp := hf p (List.mem_singleton_self p)
      cases w with
      | nil => simp
      | cons c w =>
          simp only [lang_one, List.map_cons, List.cons.injEq, List.map_eq_nil_iff]
          grind
  | seq a b iha ihb =>
      replace iha := @iha fun p hp => hf p (List.mem_append_left _ hp)
      replace ihb := @ihb fun p hp => hf p (List.mem_append_right _ hp)
      constructor
      -- a split of the mapped text is the image of a split
      · rintro ⟨x, y, hw, hx, hy⟩
        obtain ⟨x', y', rfl, rfl, rfl⟩ := List.map_eq_append_iff.mp hw
        exact ⟨x', y', rfl, iha.mp hx, ihb.mp hy⟩
      · rintro ⟨x, y, rfl, hx, hy⟩
        exact ⟨x.map f, y.map f, List.map_append, iha.mpr hx, ihb.mpr hy⟩
  | alt a b iha ihb =>
      exact or_congr (iha fun p hp => hf p (List.mem_append_left _ hp))
        (ihb fun p hp => hf p (List.mem_append_right _ hp))
  | many p | few p =>
      have hp := hf p (List.mem_singleton_self p)
      simp only [lang_many, lang_few, List.forall_mem_map, hp]

/-- In a run of one class the last characters may be exchanged for others of the class. -/
theorem Lang.exchange {a : Regex α} {p : α → Bool} {n : Nat} {u w w' : List α}
    (h : Lang (.seq a (atLeast n p)) (u ++ w)) (hn : w.length ≤ n) (hlength : w'.length = w.length)
    (hall : (∀ c ∈ w, p c) → ∀ c ∈ w', p c) : Lang (.seq a (atLeast n p)) (u ++ w') := by
  obtain ⟨x, y, hsplit, hx, hy⟩ := h
  obtain ⟨hlong, hy⟩ := lang_atLeast.mp hy
  obtain ⟨z, rfl, rfl⟩ : ∃ z, u = x ++ z ∧ y = z ++ w := by
    obtain ⟨z, rfl, rfl⟩ | ⟨z, rfl, rfl⟩ := List.append_eq_append_iff.mp hsplit
    · rw [List.length_append] at hn
      obtain rfl : z = [] := List.eq_nil_of_length_eq_zero (by omega)
      exact ⟨[], by simp⟩
    · exact ⟨z, rfl, rfl⟩
  refine ⟨x, z ++ w', List.append_assoc .., hx, lang_atLeast.mpr ⟨?_, ?_⟩⟩
  · simpa [hlength] using hlong
  · intro c hc
    cases List.mem_append.mp hc with
    | inl hz => exact hy c (List.mem_append_left w hz)
    | inr hw' => exact hall (fun d hd => hy d (List.mem_append_right z hd)) c hw'

end Regex

end LlmHarness
