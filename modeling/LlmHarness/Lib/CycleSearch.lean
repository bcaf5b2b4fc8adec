/-
  LlmHarness.Lib.CycleSearch

  Depth-first search for a cycle in a finite successor graph.  The search keeps
  the path it is on (`visiting`) and the nodes it is done with (`visited`); it
  ends with the visited nodes or with the first cycle it runs into.

  `search_ok_iff`: the search over a closed list of nodes succeeds exactly when
  no node reaches itself.  `visits_search`: the bound on the path is never met,
  the search ends of itself.  `isCycle_of_search`: the cycle it reports is one.
  `searchWithin` is the search on a call stack of limited depth: where the stack
  holds it, it is the search (`searchWithin_eq`).
-/

import Mathlib.Data.List.Chain
import Mathlib.Data.List.Nodup
import Mathlib.Data.List.Perm.Subperm
import Mathlib.Logic.Relation

namespace LlmHarness.CycleSearch

open Relation

variable {α : Type} [DecidableEq α] (succ : α → List α)

/-- Visits one node.  `fuel` bounds the length of the path. -/
def visit : Nat → List α → List α → α → Except (List α) (List α)
  | fuel, visiting, visited, a =>
    if a ∈ visited then .ok visited
    else if a ∈ visiting then .error (visiting.dropWhile (fun b => !(b == a)) ++ [a])
    else match fuel with
      | 0 => .error (visiting ++ [a])
      | fuel + 1 =>
        match (succ a).foldlM (fun visited b => visit fuel (visiting ++ [a]) visited b) visited with
        | .error cycle => .error cycle
        | .ok visited => .ok (a :: visited)

/-- Visits every node of a list, each from an empty path. -/
def search (nodes : List α) : Except (List α) (List α) :=
  nodes.foldlM (fun visited a => visit succ nodes.length [] visited a) []

/-- The edges of the graph. -/
def Edge (a b : α) : Prop := b ∈ succ a

/-- A node that reaches itself. -/
def OnCycle (a : α) : Prop := TransGen (Edge succ) a a

/-! ## What the visited nodes satisfy -/

/-- Nodes that are done with: closed under successors, on no cycle, off the path. -/
structure Settled (visiting visited : List α) : Prop where
  closed : ∀ a ∈ visited, ∀ b ∈ succ a, b ∈ visited
  acyclic : ∀ a ∈ visited, ¬ OnCycle succ a
  off : ∀ a ∈ visiting, a ∉ visited

variable {succ}

omit [DecidableEq α] in
theorem Settled.mem_of_reaches {visiting visited : List α} (h : Settled succ visiting visited)
    {a b : α} (ha : a ∈ visited) (hab : ReflTransGen (Edge succ) a b) : b ∈ visited := by
  induction hab with
  | refl => exact ha
  | tail _ hbc ih => exact h.closed _ ih _ hbc

omit [DecidableEq α] in
/-- A node whose successors are all done with is done with. -/
theorem Settled.cons {visiting visited : List α} {a : α}
    (h : Settled succ (visiting ++ [a]) visited) (hsucc : ∀ b ∈ succ a, b ∈ visited)
    (ha : a ∉ visiting) : Settled succ visiting (a :: visited) := by
  have hav : a ∉ visited := h.off a (by simp)
  refine ⟨?_, ?_, ?_⟩
  · intro b hb c hc
    rcases List.mem_cons.mp hb with rfl | hb
    · exact List.mem_cons_of_mem _ (hsucc c hc)
    · exact List.mem_cons_of_mem _ (h.closed b hb c hc)
  · intro b hb hcycle
    rcases List.mem_cons.mp hb with rfl | hb
    · -- a cycle through the node would put it among the visited ones
      obtain ⟨c, hbc, hcb⟩ := TransGen.head'_iff.mp hcycle
      exact hav (h.mem_of_reaches (hsucc c hbc) hcb)
    · exact h.acyclic b hb hcycle
  · intro b hb hmem
    rcases List.mem_cons.mp hmem with rfl | hmem
    · exact ha hb
    · exact h.off b (by simp [hb]) hmem

omit [DecidableEq α] in
/-- What holds along a path and at its next node holds along the longer path. -/
theorem forall_mem_push {P : α → Prop} {visiting : List α} {a : α} (h : ∀ b ∈ visiting, P b)
    (ha : P a) : ∀ b ∈ visiting ++ [a], P b := by
  intro b hb
  rcases List.mem_append.mp hb with hb | hb
  · exact h b hb
  · exact List.mem_singleton.mp hb ▸ ha

omit [DecidableEq α] in
/-- A path without repetition grows by a node that is off it. -/
theorem nodup_push {visiting : List α} {a : α} (h : visiting.Nodup) (ha : a ∉ visiting) :
    (visiting ++ [a]).Nodup := by
  rw [← List.concat_eq_append]
  exact h.concat ha

omit [DecidableEq α] in
/-- A path goes on along an edge of its last node. -/
theorem isChain_push {visiting : List α} {a b : α}
    (h : List.IsChain (Edge succ) (visiting ++ [a])) (hb : b ∈ succ a) :
    List.IsChain (Edge succ) ((visiting ++ [a]) ++ [b]) := by
  refine List.isChain_append.mpr ⟨h, by simp, ?_⟩
  intro x hx y hy
  obtain rfl : a = x := by simpa using hx
  obtain rfl : b = y := by simpa using hy
  exact hb

/-- What a successful visit of some nodes establishes. -/
structure Visited (succ : α → List α) (visiting visited nodes visited' : List α) : Prop where
  subset : ∀ a ∈ visited, a ∈ visited'
  nodes : ∀ a ∈ nodes, a ∈ visited'
  settled : Settled succ visiting visited'

omit [DecidableEq α] in
/-- Folding a visit that is correct for one node is correct for a list of nodes. -/
theorem visited_foldlM {step : List α → α → Except (List α) (List α)} {visiting : List α}
    (hstep : ∀ visited a visited', Settled succ visiting visited → step visited a = .ok visited' →
      Visited succ visiting visited [a] visited')
    (nodes : List α) {visited visited' : List α} (h : Settled succ visiting visited)
    (hfold : nodes.foldlM step visited = .ok visited') :
    Visited succ visiting visited nodes visited' := by
  induction nodes generalizing visited with
  | nil =>
      obtain rfl : visited = visited' := by simpa [pure, Except.pure] using hfold
      exact ⟨fun a ha => ha, by simp, h⟩
  | cons a nodes ih =>
      rw [List.foldlM_cons] at hfold
      cases ha : step visited a with
      | error cycle => simp [ha, bind, Except.bind] at hfold
      | ok middle =>
          have hone := hstep visited a middle h ha
          have hrest := ih hone.settled (by simpa [ha, bind, Except.bind] using hfold)
          refine ⟨fun b hb => hrest.subset b (hone.subset b hb), ?_, hrest.settled⟩
          intro b hb
          rcases List.mem_cons.mp hb with rfl | hb
          · exact hrest.subset b (hone.nodes b (by simp))
          · exact hrest.nodes b hb

/-- A successful visit settles its node. -/
theorem visit_ok (fuel : Nat) (visiting visited : List α) (a : α) (visited' : List α)
    (h : Settled succ visiting visited) (hv : visit succ fuel visiting visited a = .ok visited') :
    Visited succ visiting visited [a] visited' := by
  induction fuel generalizing visiting visited a visited' with
  | zero =>
      rw [visit] at hv
      by_cases ha : a ∈ visited
      · obtain rfl : visited = visited' := by simpa [ha] using hv
        exact ⟨fun b hb => hb, by simpa using ha, h⟩
      · by_cases hp : a ∈ visiting <;> simp [ha, hp] at hv
  | succ fuel ih =>
      rw [visit] at hv
      by_cases ha : a ∈ visited
      · obtain rfl : visited = visited' := by simpa [ha] using hv
        exact ⟨fun b hb => hb, by simpa using ha, h⟩
      -- a node on the path ends the search, so the node is off it
      · by_cases hp : a ∈ visiting
        · simp [ha, hp] at hv
        · rw [if_neg ha, if_neg hp] at hv
          -- what is done with stays so on the longer path
          have hext : Settled succ (visiting ++ [a]) visited :=
            ⟨h.closed, h.acyclic, forall_mem_push h.off ha⟩
          split at hv
          · cases hv
          · rename_i inner hfold
            obtain rfl : a :: inner = visited' := by simpa using hv
            have hin := visited_foldlM (fun v b v' => ih (visiting ++ [a]) v b v') (succ a) hext hfold
            refine ⟨fun b hb => List.mem_cons_of_mem _ (hin.subset b hb), by simp, ?_⟩
            exact hin.settled.cons hin.nodes hp

/-! ## What an error means -/

omit [DecidableEq α] in
/-- The ends of a chain reach one another. -/
theorem transGen_of_isChain {R : α → α → Prop} (l : List α) {a b : α}
    (h : List.IsChain R (a :: (l ++ [b]))) : TransGen R a b := by
  induction l generalizing a with
  | nil => exact TransGen.single (by simpa using h)
  | cons c l ih =>
      obtain ⟨hac, hrest⟩ := List.isChain_cons_cons.mp (by simpa using h)
      exact TransGen.head hac (ih hrest)

omit [DecidableEq α] in
/-- A path that comes back to a node it holds. -/
theorem onCycle_of_mem_path {visiting : List α} {a : α}
    (hchain : List.IsChain (Edge succ) (visiting ++ [a])) (ha : a ∈ visiting) : OnCycle succ a := by
  obtain ⟨l₁, l₂, rfl⟩ := List.append_of_mem ha
  have htail : List.IsChain (Edge succ) (a :: (l₂ ++ [a])) := by
    rw [List.append_assoc] at hchain
    exact (List.isChain_append.mp hchain).2.1
  exact transGen_of_isChain l₂ htail

omit [DecidableEq α] in
/-- Some element of a failing fold fails. -/
theorem exists_error_of_foldlM {β : Type} {step : List α → β → Except (List α) (List α)}
    (nodes : List β) {visited cycle : List α} (h : nodes.foldlM step visited = .error cycle) :
    ∃ b ∈ nodes, ∃ v, step v b = .error cycle := by
  induction nodes generalizing visited with
  | nil => simp [pure, Except.pure] at h
  | cons b nodes ih =>
      rw [List.foldlM_cons] at h
      cases hb : step visited b with
      | error c =>
          obtain rfl : c = cycle := by simpa [hb, bind, Except.bind] using h
          exact ⟨b, by simp, visited, hb⟩
      | ok middle =>
          obtain ⟨d, hd, v, hv⟩ := ih (by simpa [hb, bind, Except.bind] using h)
          exact ⟨d, List.mem_cons_of_mem _ hd, v, hv⟩

omit [DecidableEq α] in
/-- A path without repetition that holds as many nodes as there are holds them all. -/
theorem mem_of_full {nodes visiting : List α} (hnodup : visiting.Nodup)
    (hsub : ∀ b ∈ visiting, b ∈ nodes) (hfull : nodes.length ≤ visiting.length) {a : α}
    (ha : a ∈ nodes) : a ∈ visiting :=
  ((List.subperm_of_subset hnodup hsub).perm_of_length_le hfull).mem_iff.mpr ha

/-- A failing visit has found a node that reaches itself, as long as the fuel
    covers the nodes that are not on the path. -/
theorem visit_error {nodes : List α} (hclosed : ∀ a ∈ nodes, ∀ b ∈ succ a, b ∈ nodes)
    (fuel : Nat) (visiting visited : List α) (a : α) (cycle : List α)
    (hchain : List.IsChain (Edge succ) (visiting ++ [a])) (hnodup : visiting.Nodup)
    (hsub : ∀ b ∈ visiting ++ [a], b ∈ nodes) (hfuel : nodes.length ≤ fuel + visiting.length)
    (h : visit succ fuel visiting visited a = .error cycle) : ∃ b ∈ nodes, OnCycle succ b := by
  induction fuel generalizing visiting visited a with
  | zero =>
      -- without fuel the path holds every node, and so this one
      have ha : a ∈ nodes := hsub a (by simp)
      have hmem : a ∈ visiting :=
        mem_of_full hnodup (fun b hb => hsub b (List.mem_append_left _ hb)) (by omega) ha
      exact ⟨a, ha, onCycle_of_mem_path hchain hmem⟩
  | succ fuel ih =>
      have ha : a ∈ nodes := hsub a (by simp)
      by_cases hmem : a ∈ visiting
      · exact ⟨a, ha, onCycle_of_mem_path hchain hmem⟩
      · rw [visit] at h
        by_cases hv : a ∈ visited
        · simp [hv] at h
        · rw [if_neg hv, if_neg hmem] at h
          split at h
          · rename_i hfold
            obtain rfl := Except.error.inj h
            obtain ⟨b, hb, v, hvisit⟩ := exists_error_of_foldlM (succ a) hfold
            -- the path with the node is still a path without repetition
            refine ih (visiting ++ [a]) v b (isChain_push hchain hb) (nodup_push hnodup hmem) ?_ ?_
              hvisit
            · exact forall_mem_push hsub (hclosed a ha b hb)
            · simp only [List.length_append, List.length_singleton]
              omega
          · cases h

/-! ## Changing one node -/

omit [DecidableEq α] in
/-- When the edges of two graphs differ at one node only, a path of the new
    graph is a path of the old one or goes through that node. -/
theorem transGen_patch {E E' : α → α → Prop} {c : α}
    (hpatch : ∀ a b, E' a b → E a b ∨ a = c ∨ b = c) {a b : α} (h : TransGen E' a b) :
    TransGen E a b ∨ (ReflTransGen E' a c ∧ ReflTransGen E' c b) := by
  have hedge : ∀ {x y}, E' x y → E x y ∨ (ReflTransGen E' x c ∧ ReflTransGen E' c y) := by
    intro x y hxy
    rcases hpatch x y hxy with hE | rfl | rfl
    · exact Or.inl hE
    · exact Or.inr ⟨.refl, .single hxy⟩
    · exact Or.inr ⟨.single hxy, .refl⟩
  induction h with
  | single hab => exact (hedge hab).imp_left .single
  | @tail x y hax hxy ih =>
      rcases ih with hE | ⟨hac, hcx⟩
      · rcases hedge hxy with hE' | ⟨hxc, hcy⟩
        · exact Or.inl (hE.tail hE')
        · exact Or.inr ⟨hax.to_reflTransGen.trans hxc, hcy⟩
      · exact Or.inr ⟨hac, hcx.tail hxy⟩

omit [DecidableEq α] in
/-- A graph stays acyclic when its edges change at one node that does not reach
    itself afterwards. -/
theorem acyclic_patch {E E' : α → α → Prop} {c : α}
    (hpatch : ∀ a b, E' a b → E a b ∨ a = c ∨ b = c) (hE : ∀ a, ¬ TransGen E a a)
    (hc : ¬ TransGen E' c c) : ∀ a, ¬ TransGen E' a a := by
  intro a h
  rcases transGen_patch hpatch h with hold | ⟨hac, hca⟩
  · exact hE a hold
  · exact hc ((TransGen.trans_right hca h).trans_left hac)

/-! ## The search -/

/-- **Correctness of the search.**  Over a closed list of nodes it succeeds
    exactly when none of them reaches itself. -/
theorem search_ok_iff {nodes : List α} (hclosed : ∀ a ∈ nodes, ∀ b ∈ succ a, b ∈ nodes) :
    (∃ visited, search succ nodes = .ok visited) ↔ ∀ a ∈ nodes, ¬ OnCycle succ a := by
  constructor
  · rintro ⟨visited, h⟩
    have hstart : Settled succ [] [] := ⟨by simp, by simp, by simp⟩
    have hall := visited_foldlM (fun v a v' => visit_ok nodes.length [] v a v') nodes hstart h
    exact fun a ha => hall.settled.acyclic a (hall.nodes a ha)
  · intro hacyclic
    cases h : search succ nodes with
    | ok visited => exact ⟨visited, rfl⟩
    | error cycle =>
        obtain ⟨a, ha, v, hv⟩ := exists_error_of_foldlM nodes h
        obtain ⟨b, hb, hcycle⟩ := visit_error hclosed nodes.length [] v a cycle (by simp)
          List.nodup_nil (by simpa using ha) (by simp) hv
        exact absurd hcycle (hacyclic b hb)

/-! ## Termination -/

/-- The search without a bound on the path: visiting the nodes of a list, one
    after the other, ends in the result. -/
inductive Visits (succ : α → List α) :
    List α → List α → List α → Except (List α) (List α) → Prop where
  | nil {visiting visited : List α} : Visits succ visiting visited [] (.ok visited)
  | again {visiting visited rest : List α} {a : α} {result : Except (List α) (List α)}
      (ha : a ∈ visited) (hrest : Visits succ visiting visited rest result) :
      Visits succ visiting visited (a :: rest) result
  | cycle {visiting visited rest : List α} {a : α} (ha : a ∉ visited) (hpath : a ∈ visiting) :
      Visits succ visiting visited (a :: rest)
        (.error (visiting.dropWhile (fun b => !(b == a)) ++ [a]))
  | failed {visiting visited rest cycle : List α} {a : α} (ha : a ∉ visited) (hpath : a ∉ visiting)
      (hsucc : Visits succ (visiting ++ [a]) visited (succ a) (.error cycle)) :
      Visits succ visiting visited (a :: rest) (.error cycle)
  | done {visiting visited visited' rest : List α} {a : α} {result : Except (List α) (List α)}
      (ha : a ∉ visited) (hpath : a ∉ visiting)
      (hsucc : Visits succ (visiting ++ [a]) visited (succ a) (.ok visited'))
      (hrest : Visits succ visiting (a :: visited') rest result) :
      Visits succ visiting visited (a :: rest) result

/-- While the fuel covers the nodes that are not on the path, the bounded visits
    are the unbounded ones. -/
theorem visits_foldlM {nodes : List α} (hclosed : ∀ a ∈ nodes, ∀ b ∈ succ a, b ∈ nodes)
    (fuel : Nat) (visiting visited list : List α) (hnodup : visiting.Nodup)
    (hsub : ∀ b ∈ visiting, b ∈ nodes) (hlist : ∀ b ∈ list, b ∈ nodes)
    (hfuel : nodes.length ≤ fuel + visiting.length) :
    Visits succ visiting visited list
      (list.foldlM (fun visited a => visit succ fuel visiting visited a) visited) := by
  induction fuel generalizing visiting visited list with
  | zero =>
      induction list generalizing visited with
      | nil => exact .nil
      | cons a rest ih =>
          obtain ⟨ha, hrest⟩ := List.forall_mem_cons.mp hlist
          -- without fuel the path holds every node, and so this one
          have hpath : a ∈ visiting := mem_of_full hnodup hsub (by omega) ha
          rw [List.foldlM_cons, visit]
          by_cases hv : a ∈ visited
          · rw [if_pos hv]
            exact .again hv (ih visited hrest)
          · rw [if_neg hv, if_pos hpath]
            exact .cycle hv hpath
  | succ fuel ih =>
      induction list generalizing visited with
      | nil => exact .nil
      | cons a rest ihlist =>
          obtain ⟨ha, hrest⟩ := List.forall_mem_cons.mp hlist
          rw [List.foldlM_cons, visit]
          by_cases hv : a ∈ visited
          · rw [if_pos hv]
            exact .again hv (ihlist visited hrest)
          · rw [if_neg hv]
            by_cases hpath : a ∈ visiting
            · rw [if_pos hpath]
              exact .cycle hv hpath
            -- the path grows by the node, and the fuel shrinks by one
            · rw [if_neg hpath]
              have hinner := ih (visiting ++ [a]) visited (succ a) (nodup_push hnodup hpath)
                (forall_mem_push hsub ha) (hclosed a ha) (by
                  rw [List.length_append, List.length_singleton]
                  omega)
              cases hfold : (succ a).foldlM
                  (fun visited b => visit succ fuel (visiting ++ [a]) visited b) visited with
              | error cycle =>
                  rw [hfold] at hinner
                  exact .failed hv hpath hinner
              | ok visited' =>
                  rw [hfold] at hinner
                  exact .done hv hpath hinner (ihlist (a :: visited') hrest)

/-- **Termination.**  The search over a closed list of nodes is the unbounded one. -/
theorem visits_search {nodes : List α} (hclosed : ∀ a ∈ nodes, ∀ b ∈ succ a, b ∈ nodes) :
    Visits succ [] [] nodes (search succ nodes) := by
  apply visits_foldlM hclosed nodes.length [] [] nodes List.nodup_nil
  · intro b hb
    cases hb
  · exact fun b hb => hb
  · exact Nat.le_refl _

/-! ## A limited call stack -/

/-- Visits the nodes of a list, one after the other, where every visit fits on the stack. -/
def visitAll (visit : List α → α → Option (Except (List α) (List α))) :
    List α → List α → Option (Except (List α) (List α))
  | visited, [] => some (.ok visited)
  | visited, a :: rest =>
    match visit visited a with
    | none => none
    | some (.error cycle) => some (.error cycle)
    | some (.ok visited) => visitAll visit visited rest

/-- A visit on a stack with room for `frames` calls, `none` where it needs one more. -/
def visitWithin (succ : α → List α) :
    Nat → List α → List α → α → Option (Except (List α) (List α))
  | 0, _, _, _ => none
  | frames + 1, visiting, visited, a =>
    if a ∈ visited then some (.ok visited)
    else if a ∈ visiting then
      some (.error (visiting.dropWhile (fun b => !(b == a)) ++ [a]))
    else
      match visitAll (visitWithin succ frames (visiting ++ [a])) visited (succ a) with
      | none => none
      | some (.error cycle) => some (.error cycle)
      | some (.ok visited) => some (.ok (a :: visited))

/-- The search on a stack with room for `frames` calls. -/
def searchWithin (succ : α → List α) (frames : Nat) (nodes : List α) :
    Option (Except (List α) (List α)) :=
  visitAll (visitWithin succ frames []) [] nodes

/-- Visits that fit on the stack are the unbounded ones. -/
theorem visits_visitAll (frames : Nat) (visiting visited list : List α)
    {result : Except (List α) (List α)}
    (h : visitAll (visitWithin succ frames visiting) visited list = some result) :
    Visits succ visiting visited list result := by
  induction frames generalizing visiting visited list result with
  | zero =>
      cases list with
      | nil =>
          obtain rfl := Option.some.inj h
          exact .nil
      | cons a rest => cases h
  | succ frames ih =>
      induction list generalizing visited with
      | nil =>
          obtain rfl := Option.some.inj h
          exact .nil
      | cons a rest ihlist =>
          rw [visitAll, visitWithin] at h
          by_cases hv : a ∈ visited
          · rw [if_pos hv] at h
            exact .again hv (ihlist visited h)
          · rw [if_neg hv] at h
            by_cases hpath : a ∈ visiting
            · rw [if_pos hpath] at h
              obtain rfl := Option.some.inj h
              exact .cycle hv hpath
            · rw [if_neg hpath] at h
              -- the search stopped for want of frames, or it is the unbounded one below the node
              cases hinner : visitAll (visitWithin succ frames (visiting ++ [a])) visited (succ a) with
              | none =>
                  rw [hinner] at h
                  cases h
              | some inner =>
                  rw [hinner] at h
                  have hvisits := ih _ _ _ hinner
                  cases inner with
                  | error cycle =>
                      obtain rfl := Option.some.inj h
                      exact .failed hv hpath hvisits
                  | ok visited' => exact .done hv hpath hvisits (ihlist (a :: visited') h)

/-- The unbounded search has one result. -/
theorem Visits.unique {visiting visited list : List α} {result result' : Except (List α) (List α)}
    (h : Visits succ visiting visited list result) (h' : Visits succ visiting visited list result') :
    result = result' := by
  -- one case for each rule: what the search met fixes which rule applies
  induction h generalizing result' with
  | nil =>
      cases h'
      rfl
  | again ha _ ih =>
      cases h' with
      | again _ hrest => exact ih hrest
      | cycle hno _ => exact absurd ha hno
      | failed hno _ _ => exact absurd ha hno
      | done hno _ _ _ => exact absurd ha hno
  | cycle ha hpath =>
      cases h' with
      | again hmem _ => exact absurd hmem ha
      | cycle _ _ => rfl
      | failed _ hno _ => exact absurd hpath hno
      | done _ hno _ _ => exact absurd hpath hno
  | failed ha hpath _ ih =>
      cases h' with
      | again hmem _ => exact absurd hmem ha
      | cycle _ hmem => exact absurd hmem hpath
      | failed _ _ hsucc => exact ih hsucc
      | done _ _ hsucc _ => cases ih hsucc
  | done ha hpath _ _ ihsucc ih =>
      cases h' with
      | again hmem _ => exact absurd hmem ha
      | cycle _ hmem => exact absurd hmem hpath
      | failed _ _ hsucc => cases ihsucc hsucc
      | done _ _ hsucc hrest =>
          obtain rfl := Except.ok.inj (ihsucc hsucc)
          exact ih hrest

/-- **A search that fits on the stack** is the search. -/
theorem searchWithin_eq {nodes : List α} (hclosed : ∀ a ∈ nodes, ∀ b ∈ succ a, b ∈ nodes)
    {frames : Nat} {result : Except (List α) (List α)}
    (h : searchWithin succ frames nodes = some result) : result = search succ nodes :=
  (visits_visitAll frames [] [] nodes h).unique (visits_search hclosed)

theorem visitAll_of_room {nodes : List α} (hclosed : ∀ a ∈ nodes, ∀ b ∈ succ a, b ∈ nodes)
    (frames : Nat) (visiting visited list : List α) (hnodup : visiting.Nodup)
    (hsub : ∀ b ∈ visiting, b ∈ nodes) (hlist : ∀ b ∈ list, b ∈ nodes)
    (hroom : nodes.length < frames + visiting.length) :
    ∃ result, visitAll (visitWithin succ frames visiting) visited list = some result := by
  induction frames generalizing visiting visited list with
  | zero =>
      have hlength := (List.subperm_of_subset hnodup hsub).length_le
      omega
  | succ frames ih =>
      induction list generalizing visited with
      | nil => exact ⟨_, rfl⟩
      | cons a rest ihlist =>
          obtain ⟨ha, hrest⟩ := List.forall_mem_cons.mp hlist
          rw [visitAll, visitWithin]
          by_cases hv : a ∈ visited
          · rw [if_pos hv]
            exact ihlist visited hrest
          · rw [if_neg hv]
            by_cases hpath : a ∈ visiting
            · rw [if_pos hpath]
              exact ⟨_, rfl⟩
            · rw [if_neg hpath]
              -- the path grows by a node, so the room for the rest stays the same
              obtain ⟨inner, hinner⟩ := ih (visiting ++ [a]) visited (succ a)
                (nodup_push hnodup hpath) (forall_mem_push hsub ha) (hclosed a ha) (by
                  rw [List.length_append, List.length_singleton]
                  omega)
              rw [hinner]
              cases inner with
              | error cycle => exact ⟨_, rfl⟩
              | ok visited' => exact ihlist (a :: visited') hrest

/-- A stack with more room than there are nodes holds every search. -/
theorem searchWithin_of_room {nodes : List α} (hclosed : ∀ a ∈ nodes, ∀ b ∈ succ a, b ∈ nodes)
    {frames : Nat} (hroom : nodes.length < frames) :
    ∃ result, searchWithin succ frames nodes = some result := by
  refine visitAll_of_room hclosed frames [] [] nodes List.nodup_nil ?_ (fun b hb => hb) ?_
  · intro b hb
    cases hb
  · simpa using hroom

/-! ## The reported cycle -/

/-- A path of the graph from a node back to it. -/
def IsCycle (succ : α → List α) (cycle : List α) : Prop :=
  ∃ a inner, cycle = a :: (inner ++ [a]) ∧ List.IsChain (Edge succ) cycle

/-- The path from the first stop at a node on. -/
theorem dropWhile_append_cons (l₁ l₂ : List α) {a : α} (h : a ∉ l₁) :
    (l₁ ++ a :: l₂).dropWhile (fun b => !(b == a)) = a :: l₂ := by
  induction l₁ with
  | nil => simp
  | cons b l₁ ih =>
      have hb : b ≠ a := fun hb => h (hb ▸ List.mem_cons_self)
      have hrest : a ∉ l₁ := fun hmem => h (List.mem_cons_of_mem _ hmem)
      rw [List.cons_append, List.dropWhile_cons_of_pos (by simpa using hb)]
      exact ih hrest

theorem isCycle_of_visits {visiting visited list cycle : List α}
    {result : Except (List α) (List α)}
    (h : Visits succ visiting visited list result)
    (hpath : ∀ b ∈ list, List.IsChain (Edge succ) (visiting ++ [b]))
    (hresult : result = .error cycle) : IsCycle succ cycle := by
  induction h with
  | nil => cases hresult
  | again _ _ ih => exact ih (List.forall_mem_cons.mp hpath).2 hresult
  -- the reported cycle is the path from where the node was met first
  | @cycle visiting visited rest a _ hmem =>
      obtain rfl := Except.error.inj hresult
      obtain ⟨l₁, l₂, rfl, hfirst⟩ := List.eq_append_cons_of_mem hmem
      have hchain := (List.forall_mem_cons.mp hpath).1
      rw [dropWhile_append_cons l₁ l₂ hfirst, List.cons_append]
      rw [List.append_assoc, List.cons_append] at hchain
      exact ⟨a, l₂, rfl, (List.isChain_append.mp hchain).2.1⟩
  | @failed visiting visited rest inner a _ _ _ ih =>
      obtain rfl := Except.error.inj hresult
      refine ih ?_ rfl
      exact fun b hb => isChain_push (List.forall_mem_cons.mp hpath).1 hb
  | done _ _ _ _ _ ih => exact ih (List.forall_mem_cons.mp hpath).2 hresult

/-- **The reported cycle** is one. -/
theorem isCycle_of_search {nodes cycle : List α}
    (hclosed : ∀ a ∈ nodes, ∀ b ∈ succ a, b ∈ nodes)
    (h : search succ nodes = .error cycle) : IsCycle succ cycle := by
  apply isCycle_of_visits (visits_search hclosed) ?_ h
  intro b _
  exact List.isChain_singleton b

end LlmHarness.CycleSearch
