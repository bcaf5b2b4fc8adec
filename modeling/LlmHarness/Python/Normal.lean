/-
  LlmHarness.Python.Normal

  `str.strip`, `str.casefold` and `str.upper` on strings.  Folding a text a second time
  changes nothing: the foldings of the table, taken block by block, are no sources of it.
-/

import LlmHarness.Python.CaseFold
import LlmHarness.Python.Strip
import LlmHarness.Python.UpperCase

namespace LlmHarness.Python

/-! ## The table of foldings -/

/-- Code points from `low` to `high`, by steps. -/
structure Block where
  low : Nat
  high : Nat
  step : Nat

/-- The code points of a block. -/
def Block.Has (block : Block) (n : Nat) : Prop :=
  block.low ≤ n ∧ n ≤ block.high ∧ (n - block.low) % block.step = 0

/-- The code points of a block are all even or all odd. -/
def Block.isAlternate (block : Block) : Bool := Nat.beq (block.step % 2) 0 || Nat.beq block.low block.high

/-- No code point of a block is one of another: they are apart, or even and odd. -/
def Block.isApart (a b : Block) : Bool :=
  Nat.blt a.high b.low || Nat.blt b.high a.low ||
    (a.isAlternate && b.isAlternate && Nat.beq ((a.low + b.low) % 2) 1)

/-- The sources of a range, and what they fold to. -/
def sourceBlock (range : Nat × Nat × Nat × Int) : Block := ⟨range.1, range.2.1, range.2.2.1⟩

def targetBlock (range : Nat × Nat × Nat × Int) : Block :=
  ⟨((range.1 : Int) + range.2.2.2).toNat, ((range.2.1 : Int) + range.2.2.2).toNat, range.2.2.1⟩

/-- A block of scalar values without white space. -/
def Block.isPlain (block : Block) : Bool :=
  (Nat.blt block.high 0xD800 || (Nat.blt 0xDFFF block.low && Nat.blt block.high 0x110000)) &&
    (Nat.blt block.high 9 || Nat.blt 32 block.low) &&
    (Nat.blt block.high 0x85 || Nat.blt 0x85 block.low) &&
    (Nat.blt block.high 0xA0 || Nat.blt 0xA0 block.low) &&
    (Nat.blt block.high 0x1680 || Nat.blt 0x1680 block.low) &&
    (Nat.blt block.high 0x2000 || Nat.blt 0x205F block.low) &&
    (Nat.blt block.high 0x3000 || Nat.blt 0x3000 block.low)

/-- A block that the table folds nothing of. -/
def Block.isFolded (block : Block) : Bool :=
  block.isPlain && (caseFoldSpecials.all fun entry => block.isApart ⟨entry.1, entry.1, 1⟩) &&
    caseFoldRanges.all fun range => block.isApart (sourceBlock range)

theorem ranges_folded :
    (caseFoldRanges.all fun range =>
      decide (0 ≤ (range.1 : Int) + range.2.2.2) && (targetBlock range).isFolded) = true := by
  decide +kernel

theorem specials_folded :
    (caseFoldSpecials.all fun entry =>
      !entry.2.isEmpty && entry.2.all fun n => Block.isFolded ⟨n, n, 1⟩) = true := by
  decide +kernel

/-- The code points of an alternate block have the parity of its first one. -/
theorem Block.Has.parity {block : Block} {n : Nat} (h : block.Has n) (halt : block.isAlternate) :
    n % 2 = block.low % 2 := by
  obtain ⟨hlow, hhigh, hstep⟩ := h
  rw [isAlternate, Bool.or_eq_true, Nat.beq_eq, Nat.beq_eq] at halt
  rcases halt with heven | hone
  · have hdvd : 2 ∣ n - block.low :=
      Nat.dvd_trans (Nat.dvd_of_mod_eq_zero heven) (Nat.dvd_of_mod_eq_zero hstep)
    omega
  · have hn : n = block.low := by omega
    rw [hn]

/-- Blocks that are apart share no code point. -/
theorem Block.not_has_of_isApart {a b : Block} {n : Nat} (hapart : a.isApart b) (ha : a.Has n) :
    ¬ b.Has n := by
  intro hb
  have hparity : a.isAlternate → b.isAlternate → (a.low + b.low) % 2 ≠ 1 := by
    intro halt hblt
    have han := ha.parity halt
    have hbn := hb.parity hblt
    omega
  have halow := ha.1
  have hahigh := ha.2.1
  have hblow := hb.1
  have hbhigh := hb.2.1
  simp only [isApart, Bool.or_eq_true, Bool.and_eq_true, Nat.blt_eq, Nat.beq_eq] at hapart
  rcases hapart with (hlt | hlt) | ⟨⟨halt, hblt⟩, hodd⟩
  · omega
  · omega
  · exact hparity halt hblt hodd

theorem toNat_ofNat {n : Nat} (h : n.isValidChar) : (Char.ofNat n).toNat = n := by
  rw [Char.ofNat, dif_pos h]
  rfl

/-- What a block without white space says about its code points. -/
theorem Block.isPlain_has {block : Block} {n : Nat} (hplain : block.isPlain) (h : block.Has n) :
    n.isValidChar ∧ isSpace (Char.ofNat n) = false := by
  have hlow := h.1
  have hhigh := h.2.1
  simp only [isPlain, Bool.or_eq_true, Bool.and_eq_true, Nat.blt_eq] at hplain
  obtain ⟨⟨⟨⟨⟨⟨hscalar, h9⟩, h85⟩, hA0⟩, h1680⟩, h2000⟩, h3000⟩ := hplain
  have hvalid : n.isValidChar := by
    rw [Nat.isValidChar]
    omega
  refine ⟨hvalid, ?_⟩
  have hn := toNat_ofNat hvalid
  rw [isSpace, hn]
  simp only [Bool.or_eq_false_iff, Bool.and_eq_false_iff, decide_eq_false_iff_not, beq_eq_false_iff_ne]
  omega

/-- A character that folds to itself and is no white space. -/
def IsFoldedChar (c : Char) : Prop := casefoldChar c = [c] ∧ isSpace c = false

theorem isFoldedChar_of_has {block : Block} {n : Nat} (hfolded : block.isFolded) (h : block.Has n) :
    IsFoldedChar (Char.ofNat n) := by
  rw [Block.isFolded, Bool.and_eq_true, Bool.and_eq_true] at hfolded
  obtain ⟨⟨hplain, hspecials⟩, hranges⟩ := hfolded
  obtain ⟨hvalid, hspace⟩ := Block.isPlain_has hplain h
  have hn := toNat_ofNat hvalid
  -- the character is none of the special ones
  have hnospecial : (caseFoldSpecials.find? fun entry => entry.1 == n) = none := by
    refine List.find?_eq_none.mpr fun entry hentry hsame => ?_
    have hhas : Block.Has ⟨entry.1, entry.1, 1⟩ n := by
      rw [beq_iff_eq] at hsame
      exact ⟨hsame.le, hsame.ge, Nat.mod_one _⟩
    exact Block.not_has_of_isApart (List.all_eq_true.mp hspecials entry hentry) h hhas
  -- ... and in no range
  have hnorange : ∀ read : Nat × Nat × Nat × Int → Bool, (∀ range, read range =
      (range.1 ≤ n && n ≤ range.2.1 && (n - range.1) % range.2.2.1 == 0)) →
      caseFoldRanges.find? read = none := by
    intro read hread
    refine List.find?_eq_none.mpr fun range hrange hin => ?_
    have hhas : (sourceBlock range).Has n := by
      rw [hread, Bool.and_eq_true, Bool.and_eq_true, decide_eq_true_eq, decide_eq_true_eq,
        beq_iff_eq] at hin
      exact ⟨hin.1.1, hin.1.2, hin.2⟩
    exact Block.not_has_of_isApart (List.all_eq_true.mp hranges range hrange) h hhas
  refine ⟨?_, hspace⟩
  rw [casefoldChar, hn, hnospecial]
  dsimp only
  rw [hnorange _ fun _ => rfl]

/-- A character folds to itself, or to characters that are folded. -/
theorem casefoldChar_cases (c : Char) :
    casefoldChar c = [c] ∨ casefoldChar c ≠ [] ∧ ∀ d ∈ casefoldChar c, IsFoldedChar d := by
  -- a special character, a character of a range, or one that stays
  rw [casefoldChar]
  split
  · next entry hentry =>
    right
    have hall := List.all_eq_true.mp specials_folded entry (List.mem_of_find?_eq_some hentry)
    rw [Bool.and_eq_true, Bool.not_eq_true', List.isEmpty_eq_false_iff] at hall
    refine ⟨fun hnil => hall.1 (List.map_eq_nil_iff.mp hnil), fun d hd => ?_⟩
    obtain ⟨n, hn, rfl⟩ := List.mem_map.mp hd
    exact isFoldedChar_of_has (List.all_eq_true.mp hall.2 n hn) ⟨le_rfl, le_rfl, Nat.mod_one _⟩
  · split
    · next first last step offset hrange =>
      right
      have hall := List.all_eq_true.mp ranges_folded _ (List.mem_of_find?_eq_some hrange)
      have hin := List.find?_some hrange
      rw [Bool.and_eq_true, decide_eq_true_eq] at hall
      rw [Bool.and_eq_true, Bool.and_eq_true, decide_eq_true_eq, decide_eq_true_eq,
        beq_iff_eq] at hin
      obtain ⟨⟨hfirst, hlast⟩, hstep⟩ := hin
      have hpositive : 0 ≤ (first : Int) + offset := hall.1
      refine ⟨List.cons_ne_nil _ _, fun d hd => ?_⟩
      rw [List.mem_singleton.mp hd]
      refine isFoldedChar_of_has hall.2 ⟨?_, ?_, ?_⟩
      · show ((first : Int) + offset).toNat ≤ ((c.toNat : Int) + offset).toNat
        omega
      · show ((c.toNat : Int) + offset).toNat ≤ ((last : Int) + offset).toNat
        omega
      · -- the offset moves the whole block
        show (((c.toNat : Int) + offset).toNat - ((first : Int) + offset).toNat) % step = 0
        have hmoved : ((c.toNat : Int) + offset).toNat - ((first : Int) + offset).toNat =
            c.toNat - first := by omega
        rw [hmoved, hstep]
    · exact .inl rfl

/-- A text of characters that are mapped to themselves is left as it is. -/
theorem flatMap_eq_self {f : Char → Text} {cs : Text} (h : ∀ c ∈ cs, f c = [c]) :
    cs.flatMap f = cs := by
  induction cs with
  | nil => rfl
  | cons c cs ih =>
      have htail := ih fun d hd => h d (List.mem_cons_of_mem c hd)
      rw [List.flatMap_cons, h c List.mem_cons_self, htail]
      rfl

theorem casefold_casefoldChar (c : Char) : casefold (casefoldChar c) = casefoldChar c := by
  rcases casefoldChar_cases c with hself | ⟨-, hfolded⟩
  · rw [hself, casefold, List.flatMap_singleton, hself]
  · exact flatMap_eq_self fun d hd => (hfolded d hd).1

/-- `s.casefold().casefold() == s.casefold()`. -/
theorem casefold_casefold (s : Text) : casefold (casefold s) = casefold s := by
  induction s with
  | nil => rfl
  | cons c s ih =>
      show casefold (casefoldChar c ++ casefold s) = casefoldChar c ++ casefold s
      rw [casefold_append, casefold_casefoldChar, ih]

/-! ## White space at the ends -/

/-- Folding keeps what is no white space at a front. -/
theorem casefoldChar_cons {c : Char} (h : isSpace c = false) :
    ∃ d ds, casefoldChar c = d :: ds ∧ isSpace d = false := by
  rcases casefoldChar_cases c with hself | ⟨hne, hfolded⟩
  · exact ⟨c, [], hself, h⟩
  · obtain ⟨d, ds, hds⟩ := List.exists_cons_of_ne_nil hne
    exact ⟨d, ds, hds, (hfolded d (hds ▸ List.mem_cons_self)).2⟩

/-- Folding keeps what is no white space at an end. -/
theorem casefoldChar_concat {c : Char} (h : isSpace c = false) :
    ∃ ds d, casefoldChar c = ds ++ [d] ∧ isSpace d = false := by
  rcases casefoldChar_cases c with hself | ⟨hne, hfolded⟩
  · exact ⟨[], c, hself, h⟩
  · refine ⟨_, _, (List.dropLast_append_getLast hne).symm, ?_⟩
    exact (hfolded _ (List.getLast_mem hne)).2

/-- Folding a stripped text leaves no white space at its ends. -/
theorem strip_casefold_strip (cs : Text) : strip (casefold (strip cs)) = casefold (strip cs) := by
  -- nothing but white space
  cases hcs : lstrip cs with
  | nil =>
      have hnil : strip cs = [] := by rw [strip, hcs]; rfl
      rw [hnil]
      rfl
  -- the first and the last character that are no white space begin and end their foldings so
  | cons c rest =>
      obtain ⟨hc, hstrip⟩ := strip_of_lstrip_cons hcs
      obtain ⟨d, ds, hd, hdspace⟩ := casefoldChar_cons hc
      have hfront : casefold (strip cs) = d :: (ds ++ casefold (rstrip rest)) := by
        rw [hstrip]
        show casefoldChar c ++ casefold (rstrip rest) = _
        rw [hd]
        rfl
      have hne : strip cs ≠ [] := by rw [hstrip]; exact List.cons_ne_nil _ _
      obtain ⟨body, last, hlast⟩ : ∃ body last, strip cs = body ++ [last] :=
        ⟨_, _, (List.dropLast_append_getLast hne).symm⟩
      obtain ⟨es, e, he, hespace⟩ := casefoldChar_concat (not_isSpace_of_rstrip _ body hlast)
      have hend : casefold (strip cs) = (casefold body ++ es) ++ [e] := by
        rw [hlast, casefold_append]
        show casefold body ++ (casefoldChar last ++ []) = _
        rw [he, List.append_nil, List.append_assoc]
      have hlstrip : lstrip (casefold (strip cs)) = casefold (strip cs) := by
        rw [hfront, lstrip_of_head hdspace]
      rw [strip, hlstrip, hend]
      exact rstrip_append_singleton hespace

/-! ## Strings -/

/-- `s.strip()`. -/
def stripped (s : String) : String := String.ofList (strip s.toList)

/-- `s.casefold()`. -/
def folded (s : String) : String := String.ofList (casefold s.toList)

/-- `s.strip().casefold()`. -/
def normalized (s : String) : String := folded (stripped s)

/-- `s.strip().upper()`. -/
def capitals (s : String) : String := String.ofList (upper (strip s.toList))

@[simp] theorem stripped_stripped (s : String) : stripped (stripped s) = stripped s := by
  rw [stripped, stripped, String.toList_ofList, strip_strip]

@[simp] theorem normalized_normalized (s : String) : normalized (normalized s) = normalized s := by
  simp only [normalized, stripped, folded, String.toList_ofList, strip_casefold_strip,
    casefold_casefold]

/-- A small letter, a digit or an underscore. -/
def isWordChar (c : Char) : Bool :=
  ('a' ≤ c && c ≤ 'z') || ('0' ≤ c && c ≤ '9') || c = '_'

/-- A word of small letters, digits and underscores. -/
def isLowerWord (s : String) : Bool := s.toList.all isWordChar

theorem casefoldChar_of_isWordChar {c : Char} (h : isWordChar c) :
    casefoldChar c = [c] ∧ isSpace c = false := by
  have htable : ∀ n : Fin 75, isWordChar (Char.ofNat (48 + n)) →
      casefoldChar (Char.ofNat (48 + n)) = [Char.ofNat (48 + n)] ∧
        isSpace (Char.ofNat (48 + n)) = false := by decide +kernel
  have hrange : 48 ≤ c.toNat ∧ c.toNat ≤ 122 := by
    have h' := h
    rw [isWordChar, Bool.or_eq_true, Bool.or_eq_true, Bool.and_eq_true, Bool.and_eq_true,
      decide_eq_true_eq, decide_eq_true_eq, decide_eq_true_eq, decide_eq_true_eq,
      decide_eq_true_eq] at h'
    rcases h' with (⟨hlow, hhigh⟩ | ⟨hlow, hhigh⟩) | hunderscore
    · have hlow' : 97 ≤ c.toNat := hlow
      exact ⟨by omega, hhigh⟩
    · have hhigh' : c.toNat ≤ 57 := hhigh
      exact ⟨hlow, by omega⟩
    · rw [hunderscore]
      decide
  have hc : Char.ofNat (48 + (c.toNat - 48)) = c := by
    rw [Nat.add_sub_cancel' hrange.1, Char.ofNat_toNat]
  have hat := htable ⟨c.toNat - 48, by omega⟩
  rw [hc] at hat
  exact hat h

/-- A word passes through `strip` and `casefold`. -/
theorem normalized_of_isLowerWord {s : String} (h : isLowerWord s) : normalized s = s := by
  have hall : ∀ c ∈ s.toList, casefoldChar c = [c] ∧ isSpace c = false := fun c hc =>
    casefoldChar_of_isWordChar (List.all_eq_true.mp h c hc)
  have hfold : casefold s.toList = s.toList := flatMap_eq_self fun c hc => (hall c hc).1
  rw [normalized, stripped, strip_of_no_space fun c hc => (hall c hc).2, String.ofList_toList,
    folded, hfold, String.ofList_toList]

/-- `[A-Z]{3}`. -/
def isCurrencyCode (s : String) : Bool :=
  s.toList.length = 3 && s.toList.all fun c => 'A' ≤ c && c ≤ 'Z'

theorem upperChar_of_capital {c : Char} (h : 'A' ≤ c ∧ c ≤ 'Z') :
    upperChar c = [c] ∧ isSpace c = false := by
  have htable : ∀ n : Fin 26, upperChar (Char.ofNat (65 + n)) = [Char.ofNat (65 + n)] ∧
      isSpace (Char.ofNat (65 + n)) = false := by decide +kernel
  have hlow : 65 ≤ c.toNat := h.1
  have hhigh : c.toNat ≤ 90 := h.2
  have hc : Char.ofNat (65 + (c.toNat - 65)) = c := by
    rw [Nat.add_sub_cancel' hlow, Char.ofNat_toNat]
  have hat := htable ⟨c.toNat - 65, by omega⟩
  rwa [hc] at hat

/-- A three-letter code passes through `strip` and `upper`. -/
theorem capitals_of_isCurrencyCode {s : String} (h : isCurrencyCode s) : capitals s = s := by
  rw [isCurrencyCode, Bool.and_eq_true, List.all_eq_true] at h
  have hall : ∀ c ∈ s.toList, upperChar c = [c] ∧ isSpace c = false := fun c hc => by
    have hcap := h.2 c hc
    rw [Bool.and_eq_true, decide_eq_true_eq, decide_eq_true_eq] at hcap
    exact upperChar_of_capital hcap
  have hupper : upper s.toList = s.toList := flatMap_eq_self fun c hc => (hall c hc).1
  rw [capitals, strip_of_no_space fun c hc => (hall c hc).2, hupper, String.ofList_toList]

/-! ## Distinct items -/

theorem nodup_eraseDups {α : Type} [DecidableEq α] (items : List α) : items.eraseDups.Nodup := by
  match items with
  | [] => exact List.nodup_nil
  | a :: rest =>
      rw [List.eraseDups_cons, List.nodup_cons]
      refine ⟨fun hmem => ?_, nodup_eraseDups _⟩
      have hfilter := (List.mem_filter.mp (List.mem_eraseDups.mp hmem)).2
      simp at hfilter
termination_by items.length
decreasing_by
  exact Nat.lt_succ_of_le (List.length_filter_le _ rest)

theorem eraseDups_of_nodup {α : Type} [DecidableEq α] {items : List α} (h : items.Nodup) :
    items.eraseDups = items := by
  induction items with
  | nil => rfl
  | cons a rest ih =>
      obtain ⟨hnot, hrest⟩ := List.nodup_cons.mp h
      have hkept : (rest.filter fun b => !b == a) = rest := by
        refine List.filter_eq_self.mpr fun b hb => ?_
        have hne : b ≠ a := fun heq => hnot (heq ▸ hb)
        simpa using hne
      rw [List.eraseDups_cons, hkept, ih hrest]

/-- Items that were normalised and told apart are so already. -/
theorem eraseDups_map_eraseDups {α : Type} [DecidableEq α] {f : α → α} (hf : ∀ a, f (f a) = f a)
    (items : List α) : (((items.map f).eraseDups).map f).eraseDups = (items.map f).eraseDups := by
  have hfixed : ((items.map f).eraseDups).map f = (items.map f).eraseDups := by
    refine (List.map_congr_left fun a ha => ?_).trans (List.map_id _)
    obtain ⟨b, -, rfl⟩ := List.mem_map.mp (List.mem_eraseDups.mp ha)
    exact hf b
  rw [hfixed, eraseDups_of_nodup (nodup_eraseDups _)]

end LlmHarness.Python
