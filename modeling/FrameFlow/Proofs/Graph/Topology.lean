import FrameFlow.Proofs.Diagnosis.Configuration
import FrameFlow.Proofs.Graph.Lineage

/-! What can be asked about the shape of a graph: whether and where it has cycles, which nodes a node
leads to or comes after, and which nodes no root leads to. The answers are those that paths over
links give, in every graph that callers can get. -/
namespace FrameFlow.Graph

variable {σ : Type} {g : Graph σ} {i j : Nat}

section Wired

variable (h : g.Wired)

include h

theorem Wired.together_iff : g.shape.Together i j ↔
    Relation.TransGen g.Feeds i j ∧ Relation.TransGen g.Feeds j i := by
  rw [Shape.Together, h.leadsOn_successors_iff, h.leadsOn_successors_iff]

/-- A path that ends elsewhere starts and ends at live nodes. -/
theorem Wired.isLiveAt_ends (path : g.LeadsTo i j) (other : j ≠ i) :
    g.isLiveAt i ∧ g.isLiveAt j := by
  obtain same | ⟨k, first, _⟩ := path.cases_head
  · exact absurd same.symm other
  · obtain same | ⟨l, _, last⟩ := path.cases_tail
    · exact absurd same other
    · exact ⟨(h.isLiveAt_of_feeds first).1, (h.isLiveAt_of_feeds last).2⟩

theorem Wired.mem_descendants_iff :
    j ∈ g.descendants i ↔ g.isLiveAt i ∧ g.isLiveAt j ∧ j ≠ i ∧ g.LeadsTo i j := by
  rw [descendants, Shape.mem_descendants_iff h.shape_wellFormed, h.leads_successors_iff]
  constructor
  · rintro ⟨_, other, path⟩
    obtain ⟨start, finish⟩ := h.isLiveAt_ends path other
    exact ⟨start, finish, other, path⟩
  · rintro ⟨start, _, other, path⟩
    exact ⟨mem_liveIndices_iff.2 start, other, path⟩

theorem Wired.mem_ancestors_iff :
    j ∈ g.ancestors i ↔ g.isLiveAt i ∧ g.isLiveAt j ∧ j ≠ i ∧ g.LeadsTo j i := by
  rw [ancestors, Shape.mem_ancestors_iff h.shape_wellFormed, h.leads_successors_iff]
  constructor
  · rintro ⟨_, other, path⟩
    obtain ⟨start, finish⟩ := h.isLiveAt_ends path other.symm
    exact ⟨finish, start, other, path⟩
  · rintro ⟨start, _, other, path⟩
    exact ⟨mem_liveIndices_iff.2 start, other, path⟩

/-- The nodes that are set up, are no root and descend from none. -/
theorem Wired.mem_unreachable_iff_descendants : i ∈ g.unreachable ↔
    (∃ n, g.nodes[i]? = some n ∧ n.life = .initialized) ∧
      ¬g.IsRoot i ∧ ∀ root, g.IsRoot root → i ∉ g.descendants root := by
  rw [h.mem_unreachable_iff]
  refine and_congr_right fun ready => ⟨fun apart => ⟨fun root => apart i root .refl, ?_⟩, ?_⟩
  · intro root isRoot below
    exact apart root isRoot (h.mem_descendants_iff.1 below).2.2.2
  · rintro ⟨notRoot, apart⟩ root isRoot path
    by_cases same : i = root
    · exact notRoot (same ▸ isRoot)
    · obtain ⟨start, finish⟩ := h.isLiveAt_ends path same
      exact apart root isRoot (h.mem_descendants_iff.2 ⟨start, finish, same, path⟩)

theorem Wired.topologicalOrder_fails_iff :
    (∃ nodes, g.topologicalOrder = .error nodes) ↔ ∃ i, Relation.TransGen g.Feeds i i := by
  have outcome : (∃ nodes, g.topologicalOrder = .error nodes) ↔
      ¬∃ order, g.topologicalOrder = .ok order := by
    cases g.topologicalOrder <;> simp
  rw [outcome, h.exists_order_iff]
  push Not
  rfl

theorem Wired.hasCycle_iff : g.hasCycle ↔ ∃ i, Relation.TransGen g.Feeds i i := by
  rw [hasCycle, Shape.hasCycle_iff h.shape_wellFormed]
  simp only [h.leadsOn_successors_iff]

theorem Wired.cycles_eq_nil_iff : g.cycles = [] ↔ ∀ i, ¬Relation.TransGen g.Feeds i i := by
  rw [cycles, Shape.cycles_eq_nil_iff h.shape_wellFormed, h.acyclic_iff]

theorem Wired.exists_mem_cycles_iff : (∃ nodes ∈ g.cycles, i ∈ nodes ∧ j ∈ nodes) ↔
    Relation.TransGen g.Feeds i j ∧ Relation.TransGen g.Feeds j i := by
  rw [cycles, Shape.exists_mem_cycles_iff h.shape_wellFormed, h.together_iff]

/-- A cycle holds all nodes that share cycles with one of them. -/
theorem Wired.exists_of_mem_cycles {nodes : List Nat} (there : nodes ∈ g.cycles) :
    ∃ i, Relation.TransGen g.Feeds i i ∧
      ∀ j, j ∈ nodes ↔ Relation.TransGen g.Feeds i j ∧ Relation.TransGen g.Feeds j i := by
  obtain ⟨i, cycle, rfl⟩ := (Shape.mem_cycles_iff h.shape_wellFormed).1 there
  refine ⟨i, h.leadsOn_successors_iff.1 cycle, fun j => ?_⟩
  rw [Shape.mem_component_iff_of_cycle h.shape_wellFormed cycle, h.together_iff]

/-- The nodes on a cycle are live and listed in the order of the arena. -/
theorem Wired.of_mem_cycles {nodes : List Nat} (there : nodes ∈ g.cycles) :
    nodes ≠ [] ∧ nodes.Pairwise (· < ·) ∧ ∀ i ∈ nodes, g.isLiveAt i := by
  have part := Shape.sublist_of_mem_cycles h.shape_wellFormed there
  obtain ⟨i, cycle, rfl⟩ := (Shape.mem_cycles_iff h.shape_wellFormed).1 there
  have member := Shape.mem_of_leadsOn h.shape_wellFormed cycle
  exact ⟨List.ne_nil_of_mem (Shape.self_mem_component h.shape_wellFormed member),
    g.pairwise_liveIndices.sublist part, fun j there => mem_liveIndices_iff.1 (part.subset there)⟩

end Wired

/-- The three ways to ask for cycles agree. They come upon the nodes that paths of at least one link
lead back to, and two nodes are on one list just where each leads to the other. -/
theorem Reachable.cycles_agree [Filter σ] (h : g.Reachable) :
    ((∃ nodes, g.topologicalOrder = .error nodes) ↔ g.hasCycle) ∧
    (g.hasCycle ↔ g.cycles ≠ []) ∧
    (∀ i, (∃ nodes ∈ g.cycles, i ∈ nodes) ↔ Relation.TransGen g.Feeds i i) ∧
    (∀ i j, (∃ nodes ∈ g.cycles, i ∈ nodes ∧ j ∈ nodes) ↔
      Relation.TransGen g.Feeds i j ∧ Relation.TransGen g.Feeds j i) ∧
    (∀ nodes ∈ g.cycles, nodes ≠ [] ∧ nodes.Pairwise (· < ·) ∧ ∀ i ∈ nodes, g.isLiveAt i) ∧
    g.cycles.Pairwise List.Disjoint ∧
    ∀ nodes, g.topologicalOrder = .error nodes →
      nodes.Nodup ∧ ∀ i, i ∈ nodes ↔ ∃ cycle ∈ g.cycles, i ∈ cycle := by
  have wired := h.wired
  have disjoint : g.cycles.Pairwise List.Disjoint := Shape.disjoint_cycles wired.shape_wellFormed
  refine ⟨wired.topologicalOrder_fails_iff.trans wired.hasCycle_iff.symm, ?_, fun i => ?_,
    fun i j => wired.exists_mem_cycles_iff, fun nodes => wired.of_mem_cycles, disjoint,
    fun nodes failed => ?_⟩
  · rw [wired.hasCycle_iff, Ne, wired.cycles_eq_nil_iff]
    push Not
    rfl
  · simpa only [and_self] using wired.exists_mem_cycles_iff (i := i) (j := i)
  · obtain rfl : nodes = g.cycles.flatten := Shape.eq_of_topologicalOrder_eq_error failed
    refine ⟨List.nodup_flatten.2 ⟨fun nodes there => ?_, disjoint⟩, fun i => List.mem_flatten⟩
    exact (wired.of_mem_cycles there).2.1.imp Nat.ne_of_lt

/-- The calls that lead to a graph with a discarded node, a node that feeds itself, two nodes with
two links one way and one back, and a part without cycles. -/
def tangledCalls : List Call :=
  [.allocate "anull", .allocate "buffer", .allocate "amix", .allocate "asplit", .allocate "amix",
    .allocate "buffer", .allocate "buffersink", .discard ⟨⟨0⟩, 0⟩] ++
  ([1, 2, 3, 4, 5, 6].map fun i => .setUp ⟨⟨0⟩, i⟩) ++
  [.link ⟨⟨0⟩, 1⟩ 0 ⟨⟨0⟩, 2⟩ 0, .link ⟨⟨0⟩, 2⟩ 0 ⟨⟨0⟩, 2⟩ 1,
    .link ⟨⟨0⟩, 3⟩ 0 ⟨⟨0⟩, 4⟩ 0, .link ⟨⟨0⟩, 3⟩ 1 ⟨⟨0⟩, 4⟩ 1, .link ⟨⟨0⟩, 4⟩ 0 ⟨⟨0⟩, 3⟩ 0,
    .link ⟨⟨0⟩, 5⟩ 0 ⟨⟨0⟩, 6⟩ 0]

def tangled : Graph BuiltIn := tangledCalls.foldl Graph.after blank

theorem reachable_tangled : tangled.Reachable := reachable_blank.calls tangledCalls

theorem cycles_tangled :
    tangled.cycles = [[2], [3, 4]] ∧ tangled.hasCycle ∧
    (∃ nodes, tangled.topologicalOrder = .error nodes) ∧
    Relation.TransGen tangled.Feeds 2 2 ∧ Relation.TransGen tangled.Feeds 3 4 ∧
    ¬Relation.TransGen tangled.Feeds 5 5 := by
  have lists : tangled.cycles = [[2], [3, 4]] := by decide +kernel
  obtain ⟨fails, any, on_cycle, together, _⟩ := Reachable.cycles_agree reachable_tangled
  have cyclic : tangled.hasCycle := any.2 (by simp [lists])
  refine ⟨lists, cyclic, fails.2 cyclic, (on_cycle 2).1 (by simp [lists]),
    ((together 3 4).1 (by simp [lists])).1, fun round => ?_⟩
  simpa [lists] using (on_cycle 5).2 round

/-- Descendants and ancestors are exactly the other live nodes that a node leads to or comes after,
each listed once, so the one relation is the other turned round. Unreachable are the nodes that are
set up, are no root and descend from none. A discarded node has no part in any of this. -/
theorem Reachable.lineage_exact [Filter σ] (h : g.Reachable) :
    (∀ i, (g.descendants i).Nodup ∧ (g.ancestors i).Nodup) ∧
    (∀ i j, j ∈ g.descendants i ↔ g.isLiveAt i ∧ g.isLiveAt j ∧ j ≠ i ∧ g.LeadsTo i j) ∧
    (∀ i j, j ∈ g.ancestors i ↔ g.isLiveAt i ∧ g.isLiveAt j ∧ j ≠ i ∧ g.LeadsTo j i) ∧
    (∀ i j, j ∈ g.descendants i ↔ i ∈ g.ancestors j) ∧
    g.unreachable.Pairwise (· < ·) ∧
    (∀ i, i ∈ g.unreachable ↔ (∃ n, g.nodes[i]? = some n ∧ n.life = .initialized) ∧
      ¬g.IsRoot i ∧ ∀ root, g.IsRoot root → i ∉ g.descendants root) ∧
    ∀ i, g.isLiveAt i = false → g.descendants i = [] ∧ g.ancestors i = [] ∧
      i ∉ g.unreachable ∧ ∀ j, i ∉ g.descendants j ∧ i ∉ g.ancestors j := by
  have wired := h.wired
  have dual : ∀ i j, j ∈ g.descendants i ↔ i ∈ g.ancestors j := by
    intro i j
    rw [wired.mem_descendants_iff, wired.mem_ancestors_iff, ne_comm, and_left_comm]
  refine ⟨fun i => ⟨g.shape.nodup_descendants i, g.shape.nodup_ancestors i⟩,
    fun i j => wired.mem_descendants_iff, fun i j => wired.mem_ancestors_iff, dual,
    g.pairwise_unreachable, fun i => wired.mem_unreachable_iff_descendants, fun i gone => ?_⟩
  have dead : ¬g.isLiveAt i := by simp [gone]
  have none_below : ∀ j, j ∉ g.descendants i := fun j below =>
    dead (wired.mem_descendants_iff.1 below).1
  have none_above : ∀ j, j ∉ g.ancestors i := fun j above =>
    dead (wired.mem_ancestors_iff.1 above).1
  refine ⟨List.eq_nil_iff_forall_not_mem.2 none_below, List.eq_nil_iff_forall_not_mem.2 none_above,
    fun there => ?_, fun j => ⟨fun below => none_above j ((dual j i).1 below),
      fun above => none_below j ((dual i j).2 above)⟩⟩
  obtain ⟨⟨n, here, ready⟩, _⟩ := wired.mem_unreachable_iff.1 there
  exact dead (isLiveAt_iff.2 ⟨n, here, Node.isLive_of_initialized ready⟩)

theorem lineage_tangled :
    tangled.descendants 1 = [2] ∧ tangled.LeadsTo 1 2 ∧ 1 ∈ tangled.ancestors 2 ∧
    tangled.unreachable = [3, 4] ∧ ¬tangled.LeadsTo 5 3 ∧
    tangled.isLiveAt 0 = false ∧ tangled.descendants 0 = [] ∧ tangled.ancestors 0 = [] := by
  have below : tangled.descendants 1 = [2] := by decide +kernel
  have outside : tangled.unreachable = [3, 4] := by decide +kernel
  have gone : tangled.isLiveAt 0 = false := by decide +kernel
  obtain ⟨_, down, _, dual, _, apart, discarded⟩ := Reachable.lineage_exact reachable_tangled
  have two : 2 ∈ tangled.descendants 1 := by simp [below]
  refine ⟨below, ((down 1 2).1 two).2.2.2, (dual 1 2).1 two, outside, fun path => ?_, gone,
    (discarded 0 gone).1, (discarded 0 gone).2.1⟩
  have root : tangled.IsRoot 5 := mem_roots_iff_isRoot.1 (by decide +kernel)
  have lives : tangled.isLiveAt 5 ∧ tangled.isLiveAt 3 := by decide +kernel
  exact ((apart 3).1 (by simp [outside])).2.2 5 root
    ((down 5 3).2 ⟨lives.1, lives.2, by decide, path⟩)

end FrameFlow.Graph
