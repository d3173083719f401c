import FrameFlow.Proofs.Graph.Cycles

/-! Descendants and ancestors. A walk never comes back to a node, so what it sees after the node
that it starts from are the other nodes that paths lead to, each once. -/
namespace FrameFlow

namespace Walk

variable {w u v : Walk} {i : Nat}

/-- A walk goes on: what it had seen stays, and it comes across no node twice. -/
structure GoesOn (w u : Walk) : Prop where
  earlier : w.seen.toList <:+ u.seen.toList
  nodup : w.seen.toList.Nodup → u.seen.toList.Nodup

namespace GoesOn

theorem refl (w : Walk) : GoesOn w w := ⟨List.suffix_rfl, id⟩

theorem trans (first : GoesOn w u) (second : GoesOn u v) : GoesOn w v :=
  ⟨first.earlier.trans second.earlier, fun nodup => second.nodup (first.nodup nodup)⟩

theorem push (fresh : i ∉ w.seen) : GoesOn w { w with seen := w.seen.push i } :=
  ⟨List.suffix_cons i _, fun nodup => List.nodup_cons.2 ⟨fresh, nodup⟩⟩

theorem foldl {step : Walk → Nat → Walk} (one : ∀ u k, GoesOn u (step u k)) (roots : List Nat) :
    GoesOn w (roots.foldl step w) := by
  induction roots generalizing w with
  | nil => exact .refl w
  | cons k rest ih => exact (one w k).trans ih

end GoesOn

theorem goesOn_visit (next : Nat → List Nat) (depth : Nat) (w : Walk) (i : Nat) :
    GoesOn w (visit next depth w i) := by
  induction depth generalizing w i with
  | zero => exact .refl w
  | succ depth ih =>
    unfold visit
    split
    · exact .refl w
    · next fresh =>
      have below := GoesOn.foldl (w := { w with seen := w.seen.push i }) ih (next i)
      exact (GoesOn.push fresh).trans ⟨below.earlier, below.nodup⟩

end Walk

section Reached

variable {next : Nat → List Nat} {nodes : List Nat} {depth i j : Nat}

/-- A walk from a node sees that node first and every other once. -/
theorem exists_reachedFrom_eq_cons (next : Nat → List Nat) (deep : 0 < depth) (i : Nat) :
    ∃ rest, reachedFrom next depth i = i :: rest ∧ (i :: rest).Nodup := by
  obtain ⟨depth, rfl⟩ := Nat.exists_eq_succ_of_ne_zero (Nat.ne_of_gt deep)
  let arrived : Walk := { Walk.start with seen := Walk.start.seen.push i }
  have walk : (Walk.visitAll next (depth + 1) [i]).seen =
      ((next i).foldl (Walk.visit next depth) arrived).seen := by
    have fresh : i ∉ Walk.start.seen := Trail.not_mem_empty i
    simp only [Walk.visitAll, List.foldl_cons, List.foldl_nil, Walk.visit, if_neg fresh, arrived]
  have below := Walk.GoesOn.foldl (w := arrived) (Walk.goesOn_visit next depth) (next i)
  obtain ⟨new, seen⟩ := below.earlier
  have whole : reachedFrom next (depth + 1) i = i :: new.reverse := by
    rw [reachedFrom, walk, ← seen]
    simp [arrived, Walk.start]
  refine ⟨new.reverse, whole, ?_⟩
  rw [← whole, reachedFrom, walk, List.nodup_reverse]
  exact below.nodup (by simp [arrived, Walk.start])

variable (closed : Closed next nodes) (member : i ∈ nodes) (deep : nodes.length ≤ depth)

include member deep

theorem nodup_tail_reachedFrom : (reachedFrom next depth i).tail.Nodup := by
  obtain ⟨rest, whole, nodup⟩ := exists_reachedFrom_eq_cons next
    (Nat.lt_of_lt_of_le (List.length_pos_of_mem member) deep) i
  rw [whole]
  exact (List.nodup_cons.1 nodup).2

include closed

theorem mem_tail_reachedFrom_iff :
    j ∈ (reachedFrom next depth i).tail ↔ j ≠ i ∧ Leads next i j := by
  obtain ⟨rest, whole, nodup⟩ := exists_reachedFrom_eq_cons next
    (Nat.lt_of_lt_of_le (List.length_pos_of_mem member) deep) i
  rw [← mem_reachedFrom_iff closed member deep, whole, List.tail_cons, List.mem_cons]
  constructor
  · intro there
    exact ⟨fun same => (List.nodup_cons.1 nodup).1 (same ▸ there), .inr there⟩
  · rintro ⟨other, there⟩
    exact there.resolve_left other

end Reached

namespace Shape

variable {s : Shape} {next : Nat → List Nat} {i j : Nat}

/-- The other nodes that a walk sees from a node of a shape, along the edges or against them. -/
theorem nodup_tail (s : Shape) (next : Nat → List Nat) (i : Nat) :
    (if s.nodes.contains i then (reachedFrom next s.depth i).tail else []).Nodup := by
  split
  · next member => exact nodup_tail_reachedFrom (List.contains_iff_mem.1 member) s.deep
  · exact .nil

theorem mem_tail_iff (closed : Closed next s.nodes) :
    j ∈ (if s.nodes.contains i then (reachedFrom next s.depth i).tail else []) ↔
      i ∈ s.nodes ∧ j ≠ i ∧ Leads next i j := by
  split
  · next member =>
    have member := List.contains_iff_mem.1 member
    rw [mem_tail_reachedFrom_iff closed member s.deep, and_iff_right member]
  · next outside =>
    rw [List.contains_iff_mem] at outside
    simp [outside]

theorem nodup_descendants (s : Shape) (i : Nat) : (s.descendants i).Nodup := s.nodup_tail _ i

theorem nodup_ancestors (s : Shape) (i : Nat) : (s.ancestors i).Nodup := s.nodup_tail _ i

theorem mem_descendants_iff (h : s.WellFormed) :
    j ∈ s.descendants i ↔ i ∈ s.nodes ∧ j ≠ i ∧ Leads s.successors i j :=
  mem_tail_iff h.closed

theorem mem_ancestors_iff (h : s.WellFormed) :
    j ∈ s.ancestors i ↔ i ∈ s.nodes ∧ j ≠ i ∧ Leads s.successors j i := by
  rw [← leads_predecessors_iff]
  exact mem_tail_iff h.closed_predecessors

end Shape
end FrameFlow
