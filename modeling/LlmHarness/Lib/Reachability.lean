/-
  LlmHarness.Lib.Reachability

  What some roots reach, by a stack of pending nodes: take a node, and unless it was
  visited, visit it and push its successors.  Only the nodes of a list have successors, so
  every edge is pushed once and the rounds are bounded by the roots and the edges.
-/

import Mathlib.Algebra.Order.BigOperators.Group.List
import Mathlib.Algebra.Order.Ring.Nat
import Mathlib.Data.List.Basic
import Mathlib.Logic.Relation

namespace LlmHarness.Reachability

variable {κ : Type} [DecidableEq κ] (next : κ → List κ)

/-- The rounds, at most `fuel` of them; the top of the stack is the head of the list. -/
def visit : Nat → List κ → List κ → List κ
  | 0, visited, _ => visited
  | _ + 1, visited, [] => visited
  | fuel + 1, visited, current :: pending =>
    if current ∈ visited then visit fuel visited pending
    else visit fuel (current :: visited) (next current ++ pending)

/-- The edges out of the nodes that were not visited. -/
def edgesLeft (nodes visited : List κ) : Nat :=
  ((nodes.filter (· ∉ visited)).map fun node => (next node).length).sum

/-- Everything that the roots reach. -/
def reach (nodes roots : List κ) : List κ :=
  visit next (roots.length + edgesLeft next nodes []) [] roots

/-- `b` is a successor of `a`. -/
def Edge (a b : κ) : Prop := b ∈ next a

/-- A node is reached from one of the roots. -/
def Reached (roots : List κ) (node : κ) : Prop :=
  ∃ root ∈ roots, Relation.ReflTransGen (Edge next) root node

variable {next}

omit [DecidableEq κ] in
theorem Reached.root {roots : List κ} {node : κ} (h : node ∈ roots) : Reached next roots node :=
  ⟨node, h, .refl⟩

omit [DecidableEq κ] in
theorem Reached.step {roots : List κ} {a b : κ} (h : Reached next roots a) (hedge : b ∈ next a) :
    Reached next roots b := by
  obtain ⟨root, hroot, hpath⟩ := h
  exact ⟨root, hroot, hpath.tail hedge⟩

/-! ## The rounds end -/

/-- Visiting a node takes its edges off those that are left. -/
theorem edgesLeft_visit {nodes visited : List κ} {node : κ} (hnode : node ∉ visited)
    (hnodes : next node ≠ [] → node ∈ nodes) :
    edgesLeft next nodes (node :: visited) + (next node).length ≤ edgesLeft next nodes visited := by
  have hsplit : nodes.filter (· ∉ node :: visited) = (nodes.filter (· ∉ visited)).filter (· ≠ node) := by
    rw [List.filter_filter]
    apply List.filter_congr
    intro other _
    simp
  -- Taking a node out of a list takes at least its own edges off the sum.
  have hremove : ∀ others : List κ, node ∈ others →
      ((others.filter (· ≠ node)).map fun other => (next other).length).sum + (next node).length ≤
        (others.map fun other => (next other).length).sum := by
    intro others
    induction others with
    | nil => exact fun h => absurd h List.not_mem_nil
    | cons other rest ih =>
      intro hmem
      by_cases hsame : other = node
      · rw [hsame, List.filter_cons_of_neg (by simp), List.map_cons, List.sum_cons]
        have hle : ((rest.filter (· ≠ node)).map fun other => (next other).length).sum ≤
            (rest.map fun other => (next other).length).sum :=
          List.Sublist.sum_le_sum (List.filter_sublist.map _) fun _ _ => Nat.zero_le _
        omega
      · have hrest : node ∈ rest := by
          rcases List.mem_cons.mp hmem with h | h
          · exact absurd h.symm hsame
          · exact h
        rw [List.filter_cons_of_pos (by simpa using hsame), List.map_cons, List.map_cons, List.sum_cons,
          List.sum_cons]
        have hstep := ih hrest
        omega
  rw [edgesLeft, edgesLeft, hsplit]
  -- A node without edges need not be listed.
  by_cases hempty : next node = []
  · rw [hempty, List.length_nil, Nat.add_zero]
    exact List.Sublist.sum_le_sum (List.filter_sublist.map _) fun _ _ => Nat.zero_le _
  · apply hremove
    rw [List.mem_filter]
    exact ⟨hnodes hempty, by simpa using hnode⟩

/-- What the rounds return holds what was visited, is pending, and is a successor of either. -/
theorem visit_closed {nodes : List κ} (hnodes : ∀ node, next node ≠ [] → node ∈ nodes) (fuel : Nat)
    (visited pending : List κ) (hfuel : pending.length + edgesLeft next nodes visited ≤ fuel)
    (hclosed : ∀ a ∈ visited, ∀ b ∈ next a, b ∈ visited ∨ b ∈ pending) :
    (∀ a ∈ visited, a ∈ visit next fuel visited pending) ∧
      (∀ a ∈ pending, a ∈ visit next fuel visited pending) ∧
      ∀ a ∈ visit next fuel visited pending, ∀ b ∈ next a, b ∈ visit next fuel visited pending := by
  induction fuel generalizing visited pending with
  | zero =>
    -- Without fuel nothing is pending, so what was visited is closed.
    have hempty : pending = [] := List.eq_nil_of_length_eq_zero (by omega)
    subst hempty
    refine ⟨fun a ha => ha, fun a ha => absurd ha List.not_mem_nil, fun a ha b hb => ?_⟩
    rcases hclosed a ha b hb with h | h
    · exact h
    · exact absurd h List.not_mem_nil
  | succ fuel ih =>
    cases pending with
    | nil =>
      refine ⟨fun a ha => ha, fun a ha => absurd ha List.not_mem_nil, fun a ha b hb => ?_⟩
      rcases hclosed a ha b hb with h | h
      · exact h
      · exact absurd h List.not_mem_nil
    | cons current pending =>
      rw [List.length_cons] at hfuel
      by_cases hseen : current ∈ visited
      · -- a node that was visited is dropped
        rw [visit, if_pos hseen]
        obtain ⟨hvisited, hpending, hall⟩ := ih visited pending (by omega) fun a ha b hb => by
          rcases hclosed a ha b hb with h | h
          · exact Or.inl h
          · rcases List.mem_cons.mp h with rfl | h
            · exact Or.inl hseen
            · exact Or.inr h
        refine ⟨hvisited, fun a ha => ?_, hall⟩
        rcases List.mem_cons.mp ha with rfl | ha
        · exact hvisited a hseen
        · exact hpending a ha
      · -- a new one moves its successors to the stack
        rw [visit, if_neg hseen]
        have hleft := edgesLeft_visit hseen (hnodes current)
        obtain ⟨hvisited, hpending, hall⟩ := ih (current :: visited) (next current ++ pending)
          (by rw [List.length_append]; omega) fun a ha b hb => by
            rw [List.mem_cons, List.mem_append]
            rcases List.mem_cons.mp ha with rfl | ha
            · exact Or.inr (Or.inl hb)
            · rcases hclosed a ha b hb with h | h
              · exact Or.inl (Or.inr h)
              · rcases List.mem_cons.mp h with rfl | h
                · exact Or.inl (Or.inl rfl)
                · exact Or.inr (Or.inr h)
        refine ⟨fun a ha => hvisited a (List.mem_cons_of_mem _ ha), fun a ha => ?_, hall⟩
        rcases List.mem_cons.mp ha with rfl | ha
        · exact hvisited _ List.mem_cons_self
        · exact hpending a (List.mem_append_right _ ha)

/-- ... and nothing else than what a closed property holds of. -/
theorem visit_sound {p : κ → Prop} (hp : ∀ a, p a → ∀ b ∈ next a, p b) (fuel : Nat)
    (visited pending : List κ) (hvisited : ∀ a ∈ visited, p a) (hpending : ∀ a ∈ pending, p a) :
    ∀ a ∈ visit next fuel visited pending, p a := by
  induction fuel generalizing visited pending with
  | zero => exact hvisited
  | succ fuel ih =>
    cases pending with
    | nil => exact hvisited
    | cons current pending =>
      rw [List.forall_mem_cons] at hpending
      by_cases hseen : current ∈ visited
      · rw [visit, if_pos hseen]
        exact ih visited pending hvisited hpending.2
      · rw [visit, if_neg hseen]
        refine ih (current :: visited) (next current ++ pending) ?_ ?_
        · rw [List.forall_mem_cons]
          exact ⟨hpending.1, hvisited⟩
        · rw [List.forall_mem_append]
          exact ⟨hp current hpending.1, hpending.2⟩

/-- **Reachability.** -/
theorem mem_reach_iff {nodes : List κ} (hnodes : ∀ node, next node ≠ [] → node ∈ nodes) {roots : List κ}
    {node : κ} : node ∈ reach next nodes roots ↔ Reached next roots node := by
  constructor
  · exact visit_sound (p := Reached next roots) (fun a ha b hb => ha.step hb) _ [] roots
      (fun a ha => absurd ha List.not_mem_nil) (fun a ha => .root ha) node
  · rintro ⟨root, hroot, hpath⟩
    obtain ⟨-, hroots, hall⟩ := visit_closed hnodes _ [] roots (Nat.le_refl _)
      fun a ha => absurd ha List.not_mem_nil
    induction hpath with
    | refl => exact hroots root hroot
    | tail _ hedge ih => exact hall _ ih _ hedge

end LlmHarness.Reachability
