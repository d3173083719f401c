import FrameFlow.Proofs.Graph.Shape

/-! Cycles of a graph. Two nodes belong together where each leads to the other, and the cycles are
the classes of nodes that belong together, each listed once. A graph has an order just where it has
no cycle, so the three ways to ask for cycles agree. -/
namespace FrameFlow

namespace Shape

variable {s : Shape} {order later : List Nat} {i j k : Nat}

/-- Paths of at least one edge lead from each of two nodes to the other. -/
def Together (s : Shape) (i j : Nat) : Prop := LeadsOn s.successors i j ∧ LeadsOn s.successors j i

namespace Together

theorem symm (h : s.Together i j) : s.Together j i := ⟨h.2, h.1⟩

theorem trans (first : s.Together i j) (second : s.Together j k) : s.Together i k :=
  ⟨first.1.trans second.1, second.2.trans first.2⟩

theorem self_iff : s.Together i i ↔ LeadsOn s.successors i i := and_self_iff

end Together

theorem WellFormed.closed_predecessors (h : s.WellFormed) : Closed s.predecessors s.nodes :=
  fun i _ j step => (h.within (j, i) (mem_predecessors.1 step)).1

theorem mem_of_leadsOn (h : s.WellFormed) (path : LeadsOn s.successors i j) : i ∈ s.nodes := by
  obtain ⟨k, step, _⟩ := Relation.TransGen.head'_iff.1 path
  exact (h.within (i, k) (mem_successors.1 step)).1

theorem all_not_contains_iff :
    ((s.component i).all fun j => !later.contains j) ↔ ∀ j ∈ s.component i, j ∉ later := by
  simp

theorem mem_componentsOf_cons {nodes : List Nat} : nodes ∈ s.componentsOf (i :: later) ↔
    ((∀ j ∈ s.component i, j ∉ later) ∧ nodes = s.component i) ∨ nodes ∈ s.componentsOf later := by
  simp only [componentsOf, all_not_contains_iff]
  split
  · next apart => rw [List.mem_cons, and_iff_right apart]
  · next shared => rw [or_iff_right (fun here => shared here.1)]

theorem exists_of_mem_componentsOf {nodes : List Nat} (there : nodes ∈ s.componentsOf order) :
    ∃ i ∈ order, nodes = s.component i := by
  induction order with
  | nil => simp [componentsOf] at there
  | cons i later ih =>
    obtain ⟨_, here⟩ | there := mem_componentsOf_cons.1 there
    · exact ⟨i, List.mem_cons_self, here⟩
    · obtain ⟨j, member, same⟩ := ih there
      exact ⟨j, List.mem_cons_of_mem _ member, same⟩

section Classes

variable (h : s.WellFormed)

include h

theorem contains_beyond_iff (member : i ∈ s.nodes) :
    (s.beyond i).contains j ↔ LeadsOn s.successors i j := by
  rw [Trail.contains_iff, beyond, Walk.mem_seen_visitAll_iff h.closed (h.closed i member) s.deep,
    LeadsOn, Relation.TransGen.head'_iff]
  rfl

theorem contains_before_iff (member : i ∈ s.nodes) :
    (s.before i).contains j ↔ LeadsOn s.successors j i := by
  have closed := h.closed_predecessors
  rw [Trail.contains_iff, before, Walk.mem_seen_visitAll_iff closed (closed i member) s.deep]
  simp only [mem_predecessors, leads_predecessors_iff]
  constructor
  · rintro ⟨k, edge, path⟩
    exact .tail' path (mem_successors.2 edge)
  · intro path
    obtain ⟨k, rest, step⟩ := Relation.TransGen.tail'_iff.1 path
    exact ⟨k, mem_successors.1 step, rest⟩

theorem belongs_iff (member : i ∈ s.nodes) :
    (j == i || (s.beyond i).contains j && (s.before i).contains j) ↔ j = i ∨ s.Together i j := by
  rw [Bool.or_eq_true, Bool.and_eq_true, beq_iff_eq, contains_beyond_iff h member,
    contains_before_iff h member, Together]

theorem mem_component_iff (member : i ∈ s.nodes) :
    j ∈ s.component i ↔ j ∈ s.nodes ∧ (j = i ∨ s.Together i j) := by
  rw [component, List.mem_filter, belongs_iff h member]

theorem self_mem_component (member : i ∈ s.nodes) : i ∈ s.component i :=
  (mem_component_iff h member).2 ⟨member, .inl rfl⟩

/-- Nodes that belong together have the same component. -/
theorem component_eq_of_mem (member : i ∈ s.nodes) (there : j ∈ s.component i) :
    s.component j = s.component i := by
  obtain ⟨member', same | together⟩ := (mem_component_iff h member).1 there
  · rw [same]
  · have classes : ∀ k, k = j ∨ s.Together j k ↔ k = i ∨ s.Together i k := by
      intro k
      constructor
      · rintro (rfl | onward)
        · exact .inr together
        · exact .inr (together.trans onward)
      · rintro (rfl | onward)
        · exact .inr together.symm
        · exact .inr (together.symm.trans onward)
    refine List.filter_congr fun k _ => Bool.eq_iff_iff.2 ?_
    rw [belongs_iff h member', belongs_iff h member]
    exact classes k

/-- A component of more than one node has a second node in it. -/
theorem exists_ne_of_component_ne (member : i ∈ s.nodes) (several : s.component i ≠ [i]) :
    ∃ j, j ≠ i ∧ s.Together i j := by
  by_contra alone
  refine several ?_
  have single : s.component i = s.nodes.filter fun j => j == i := by
    refine List.filter_congr fun j _ => Bool.eq_iff_iff.2 ?_
    rw [belongs_iff h member, beq_iff_eq]
    refine or_iff_left_of_imp fun together => ?_
    by_contra other
    exact alone ⟨j, other, together⟩
  rw [single, List.filter_beq, List.count_eq_one_of_mem h.nodup member]
  rfl

/-- A component has a cycle in it just where its node leads back to itself. -/
theorem isCyclic_component_iff (member : i ∈ s.nodes) :
    s.isCyclic (s.component i) ↔ LeadsOn s.successors i i := by
  have own := self_mem_component h member
  unfold isCyclic
  split
  · next k only =>
    obtain rfl : i = k := List.mem_singleton.1 (only ▸ own)
    rw [List.contains_iff_mem]
    refine ⟨fun step => .single step, fun cycle => ?_⟩
    obtain ⟨k, step, rest⟩ := Relation.TransGen.head'_iff.1 cycle
    have there : k ∈ s.component i := (mem_component_iff h member).2
      ⟨h.closed i member k step, (Relation.reflTransGen_iff_eq_or_transGen.1 rest).imp
        Eq.symm fun back => ⟨.single step, back⟩⟩
    obtain rfl : k = i := List.mem_singleton.1 (only ▸ there)
    exact step
  · next several =>
    obtain ⟨j, _, together⟩ := exists_ne_of_component_ne h member (several i)
    exact iff_of_true rfl (together.1.trans together.2)

/-- The component of every node of a list comes up, at the last node of the list that is in it. -/
theorem component_mem_componentsOf (inside : ∀ i ∈ order, i ∈ s.nodes) (member : i ∈ order) :
    s.component i ∈ s.componentsOf order := by
  induction order generalizing i with
  | nil => simp at member
  | cons first later ih =>
    have inner := inside i member
    have later_inside := fun j there => inside j (List.mem_cons_of_mem first there)
    rw [mem_componentsOf_cons]
    by_cases again : ∃ j ∈ s.component i, j ∈ later
    · obtain ⟨j, there, after⟩ := again
      exact .inr (component_eq_of_mem h inner there ▸ ih later_inside after)
    · push Not at again
      have here := (List.mem_cons.1 member).resolve_right (again i (self_mem_component h inner))
      exact .inl ⟨here ▸ again, here ▸ rfl⟩

theorem disjoint_componentsOf (inside : ∀ i ∈ order, i ∈ s.nodes) :
    (s.componentsOf order).Pairwise List.Disjoint := by
  induction order with
  | nil => exact .nil
  | cons first later ih =>
    have later_inside := fun j there => inside j (List.mem_cons_of_mem first there)
    simp only [componentsOf, all_not_contains_iff]
    split
    · next apart =>
      refine .cons (fun nodes there => ?_) (ih later_inside)
      obtain ⟨j, after, rfl⟩ := exists_of_mem_componentsOf there
      intro k here there
      have same : s.component j = s.component first :=
        (component_eq_of_mem h (later_inside j after) there).symm.trans
          (component_eq_of_mem h (inside first List.mem_cons_self) here)
      exact apart j (same ▸ self_mem_component h (later_inside j after)) after
    · exact ih later_inside

/-- The cycles are the components with a cycle in them, from a list that holds every node. -/
theorem exists_cycles_eq : ∃ order, (∀ i, i ∈ order ↔ i ∈ s.nodes) ∧
    s.cycles = (s.componentsOf order).filter s.isCyclic := by
  refine ⟨_, fun i => ?_, rfl⟩
  have closed : Closed (fun i => (s.successors i).reverse) s.nodes :=
    fun i member j step => h.closed i member j (List.mem_reverse.1 step)
  rw [List.mem_reverse, Walk.mem_left_visitAll_iff closed (fun _ => id) s.deep]
  constructor
  · rintro ⟨j, root, path⟩
    exact mem_of_leads h root (Relation.ReflTransGen.mono (fun _ _ => List.mem_reverse.1) _ _ path)
  · exact fun member => ⟨i, member, .refl⟩

theorem mem_cycles_iff {nodes : List Nat} :
    nodes ∈ s.cycles ↔ ∃ i, LeadsOn s.successors i i ∧ nodes = s.component i := by
  obtain ⟨order, all, cycles⟩ := exists_cycles_eq h
  rw [cycles, List.mem_filter]
  constructor
  · rintro ⟨there, cyclic⟩
    obtain ⟨i, member, rfl⟩ := exists_of_mem_componentsOf there
    exact ⟨i, (isCyclic_component_iff h ((all i).1 member)).1 cyclic, rfl⟩
  · rintro ⟨i, cycle, rfl⟩
    have member := mem_of_leadsOn h cycle
    exact ⟨component_mem_componentsOf h (fun i => (all i).1) ((all i).2 member),
      (isCyclic_component_iff h member).2 cycle⟩

/-- Around a node that leads back to itself the component is the class of the node. -/
theorem mem_component_iff_of_cycle (cycle : LeadsOn s.successors i i) :
    j ∈ s.component i ↔ s.Together i j := by
  rw [mem_component_iff h (mem_of_leadsOn h cycle)]
  constructor
  · rintro ⟨_, rfl | together⟩
    · exact Together.self_iff.2 cycle
    · exact together
  · exact fun together => ⟨mem_of_leadsOn h together.2, .inr together⟩

/-- Two nodes are on one list just where they belong together. -/
theorem exists_mem_cycles_iff :
    (∃ nodes ∈ s.cycles, i ∈ nodes ∧ j ∈ nodes) ↔ s.Together i j := by
  constructor
  · rintro ⟨_, there, first, second⟩
    obtain ⟨k, cycle, rfl⟩ := (mem_cycles_iff h).1 there
    rw [mem_component_iff_of_cycle h cycle] at first second
    exact first.symm.trans second
  · intro together
    have cycle : s.Together i i := together.trans together.symm
    exact ⟨_, (mem_cycles_iff h).2 ⟨i, cycle.1, rfl⟩,
      (mem_component_iff_of_cycle h cycle.1).2 cycle,
      (mem_component_iff_of_cycle h cycle.1).2 together⟩

theorem disjoint_cycles : s.cycles.Pairwise List.Disjoint := by
  obtain ⟨order, all, cycles⟩ := exists_cycles_eq h
  exact cycles ▸ (disjoint_componentsOf h fun i => (all i).1).filter _

theorem cycles_eq_nil_iff : s.cycles = [] ↔ s.Acyclic := by
  rw [List.eq_nil_iff_forall_not_mem]
  constructor
  · exact fun none i cycle => none _ ((mem_cycles_iff h).2 ⟨i, cycle, rfl⟩)
  · intro acyclic nodes there
    obtain ⟨i, cycle, _⟩ := (mem_cycles_iff h).1 there
    exact acyclic i cycle

theorem hasCycle_iff : s.hasCycle ↔ ∃ i, LeadsOn s.successors i i := by
  rw [hasCycle, List.any_eq_true]
  constructor
  · rintro ⟨i, member, cycle⟩
    exact ⟨i, (contains_beyond_iff h member).1 cycle⟩
  · rintro ⟨i, cycle⟩
    have member := mem_of_leadsOn h cycle
    exact ⟨i, member, (contains_beyond_iff h member).2 cycle⟩

end Classes

/-- A cycle is a part of the list of nodes. -/
theorem sublist_of_mem_cycles (h : s.WellFormed) {nodes : List Nat} (there : nodes ∈ s.cycles) :
    nodes.Sublist s.nodes := by
  obtain ⟨i, _, rfl⟩ := (mem_cycles_iff h).1 there
  exact List.filter_sublist

/-- Where there is no order, the nodes on cycles are given instead. -/
theorem eq_of_topologicalOrder_eq_error {nodes : List Nat}
    (failed : s.topologicalOrder = .error nodes) : nodes = s.cycles.flatten := by
  unfold topologicalOrder at failed
  dsimp only at failed
  split at failed
  · simp at failed
  · exact (Except.error.inj failed).symm

end Shape
end FrameFlow
