import FrameFlow.Graph.Shape
import FrameFlow.Proofs.Graph.Walk
import Mathlib.Data.List.Nodup

/-! Orders and cycles of directed graphs. An order in which every node comes after those that
lead to it is found exactly where there is no cycle, and it holds every node once. -/
namespace FrameFlow

/-- An earlier place in a list. -/
def Earlier (order : List Nat) (i j : Nat) : Prop := order.idxOf i < order.idxOf j

namespace Earlier

variable {order : List Nat} {i j k : Nat}

theorem irrefl : ¬Earlier order i i := Nat.lt_irrefl _

theorem trans (first : Earlier order i j) (second : Earlier order j k) : Earlier order i k :=
  Nat.lt_trans first second

end Earlier

namespace Shape

variable {s : Shape} {order later : List Nat} {i j : Nat}

/-- Edges lead from node to node, and every node is listed once. -/
structure WellFormed (s : Shape) : Prop where
  nodup : s.nodes.Nodup
  within : ∀ e ∈ s.edges, e.1 ∈ s.nodes ∧ e.2 ∈ s.nodes

def Acyclic (s : Shape) : Prop := ∀ i, ¬LeadsOn s.successors i i

@[simp] theorem mem_successors : j ∈ s.successors i ↔ (i, j) ∈ s.edges := by
  simp [successors_eq]

@[simp] theorem mem_predecessors : j ∈ s.predecessors i ↔ (j, i) ∈ s.edges := by
  simp [predecessors_eq]

theorem WellFormed.closed (h : s.WellFormed) : Closed s.successors s.nodes :=
  fun i _ j step => (h.within (i, j) (mem_successors.1 step)).2

theorem leads_predecessors_iff : Leads s.predecessors i j ↔ Leads s.successors j i := by
  have turned : (fun i j => j ∈ s.predecessors i) =
      Function.swap fun i j => j ∈ s.successors i := by
    funext i j
    simp [Function.swap]
  rw [Leads, turned, Relation.reflTransGen_swap]
  rfl

theorem mem_of_leads (h : s.WellFormed) (member : i ∈ s.nodes) (path : Leads s.successors i j) :
    j ∈ s.nodes := by
  induction path with
  | refl => exact member
  | tail _ step ih => exact h.closed _ ih _ step

theorem idxOf_lt_of_respects {e : Nat × Nat} (h : respects s.edges order) (edge : e ∈ s.edges)
    (source : e.1 ∈ order) (target : e.2 ∈ order) : Earlier order e.1 e.2 := by
  induction order with
  | nil => simp at source
  | cons i later ih =>
    simp only [respects, Bool.and_eq_true, List.all_eq_true, Bool.or_eq_true, bne_iff_ne,
      Bool.not_eq_true', List.contains_eq_mem, decide_eq_false_iff_not] at h
    have other : i ≠ e.2 := ((h.1 e edge).resolve_right (not_not_intro source)).symm
    have target := (List.mem_cons.1 target).resolve_left other.symm
    by_cases same : i = e.1
    · simp [Earlier, List.idxOf_cons, same, show (e.1 == e.2) = false by simpa [same] using other]
    · have source := (List.mem_cons.1 source).resolve_left fun h => same h.symm
      have := ih h.2 source target
      simpa [Earlier, List.idxOf_cons_ne _ same, List.idxOf_cons_ne _ other] using this

theorem mem_of_settled (h : Settled s.successors (i :: later)) (edge : (j, k) ∈ s.edges)
    (member : j ∈ i :: later) : k ∈ later := by
  induction later generalizing i with
  | nil =>
    obtain rfl := List.mem_singleton.1 member
    exact h.1 k (mem_successors.2 edge)
  | cons a rest ih =>
    rcases List.mem_cons.1 member with rfl | member
    · exact h.1 k (mem_successors.2 edge)
    · exact List.mem_cons_of_mem _ (ih h.2 member)

theorem respects_of_settled (nodup : order.Nodup) (h : Settled s.successors order) :
    respects s.edges order := by
  induction order with
  | nil => rfl
  | cons i later ih =>
    rw [List.nodup_cons] at nodup
    simp only [respects, Bool.and_eq_true, List.all_eq_true, Bool.or_eq_true, bne_iff_ne,
      Bool.not_eq_true', List.contains_eq_mem, decide_eq_false_iff_not]
    refine ⟨fun e edge => ?_, ih nodup.2 h.2⟩
    by_cases target : e.2 = i
    · exact .inr fun source => nodup.1 (target ▸ mem_of_settled h edge source)
    · exact .inl target

/-- Along an order no path leads back. -/
theorem acyclic_of_respects (h : s.WellFormed) (inside : ∀ i ∈ s.nodes, i ∈ order)
    (ordered : respects s.edges order) : s.Acyclic := by
  have earlier : ∀ {i j}, LeadsOn s.successors i j → Earlier order i j := by
    intro i j path
    have step : ∀ {i j}, j ∈ s.successors i → Earlier order i j := by
      intro i j step
      have edge := mem_successors.1 step
      obtain ⟨source, target⟩ := h.within _ edge
      exact idxOf_lt_of_respects ordered edge (inside i source) (inside j target)
    induction path with
    | single first => exact step first
    | tail _ last ih => exact ih.trans (step last)
  exact fun i cycle => Earlier.irrefl (earlier cycle)

theorem deep (s : Shape) : s.nodes.length ≤ s.depth := Nat.le_refl _

theorem nodup_walk (h : s.WellFormed) :
    (Walk.visitAll s.successors s.depth s.nodes).left.Nodup :=
  Walk.nodup_left_visitAll h.closed (fun _ => id) s.deep

theorem mem_walk_iff (h : s.WellFormed) :
    i ∈ (Walk.visitAll s.successors s.depth s.nodes).left ↔ i ∈ s.nodes := by
  rw [Walk.mem_left_visitAll_iff h.closed (fun _ => id) s.deep]
  constructor
  · rintro ⟨j, member, path⟩
    exact mem_of_leads h member path
  · exact fun member => ⟨i, member, .refl⟩

/-- An order holds every node once and each after those that lead to it. -/
theorem topologicalOrder_spec (h : s.WellFormed) (found : s.topologicalOrder = .ok order) :
    order.Nodup ∧ (∀ i, i ∈ order ↔ i ∈ s.nodes) ∧ ∀ e ∈ s.edges, Earlier order e.1 e.2 := by
  unfold topologicalOrder at found
  dsimp only at found
  split at found
  · next ordered =>
    obtain rfl := Except.ok.inj found
    refine ⟨nodup_walk h, fun i => mem_walk_iff h, fun e edge => ?_⟩
    obtain ⟨source, target⟩ := h.within e edge
    exact idxOf_lt_of_respects ordered edge ((mem_walk_iff h).2 source) ((mem_walk_iff h).2 target)
  · simp at found

theorem topologicalOrder_isOk_iff (h : s.WellFormed) :
    (∃ order, s.topologicalOrder = .ok order) ↔ s.Acyclic := by
  constructor
  · rintro ⟨order, found⟩
    unfold topologicalOrder at found
    dsimp only at found
    split at found
    · next ordered => exact acyclic_of_respects h (fun i => (mem_walk_iff h).2) ordered
    · simp at found
  · intro acyclic
    have ordered := respects_of_settled (nodup_walk h)
      (Walk.settled_visitAll h.closed (fun _ => id) s.deep acyclic)
    exact ⟨_, by simp only [topologicalOrder, ordered, if_true]; rfl⟩

/-- The nodes that paths from the roots lead to. -/
theorem mem_reached_iff {roots : List Nat} (h : s.WellFormed) (inside : ∀ i ∈ roots, i ∈ s.nodes) :
    j ∈ s.reached roots ↔ ∃ i ∈ roots, Leads s.successors i j :=
  Walk.mem_seen_visitAll_iff h.closed inside s.deep

end Shape
end FrameFlow
