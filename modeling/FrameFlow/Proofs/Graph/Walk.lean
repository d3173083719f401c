import FrameFlow.Graph.Walk
import Mathlib.Logic.Relation

/-! What a depth-first walk has seen and left behind. A walk that may go as deep as there are
nodes sees exactly the nodes to which paths lead, and where there is no cycle it leaves every node
after all nodes that follow it. -/
namespace FrameFlow

/-- A path leads from one node to another. -/
def Leads (next : Nat → List Nat) : Nat → Nat → Prop :=
  Relation.ReflTransGen fun i j => j ∈ next i

/-- A path of at least one step. -/
def LeadsOn (next : Nat → List Nat) : Nat → Nat → Prop :=
  Relation.TransGen fun i j => j ∈ next i

/-- No step leads out of some nodes. -/
def Closed (next : Nat → List Nat) (nodes : List Nat) : Prop :=
  ∀ i ∈ nodes, ∀ j ∈ next i, j ∈ nodes

/-- Every node of a list is followed by all its next nodes. -/
def Settled (next : Nat → List Nat) : List Nat → Prop
  | [] => True
  | i :: rest => (∀ j ∈ next i, j ∈ rest) ∧ Settled next rest

namespace Walk

variable {next : Nat → List Nat} {nodes : List Nat} {depth : Nat} {w u v : Walk} {i j : Nat}

/-- Nodes that a walk has not come across. -/
def unseen (nodes : List Nat) (w : Walk) : Nat := nodes.countP (· ∉ w.seen)

/-- A walk goes on and comes back: it has left every new node behind, after seeing all that
follows it. -/
structure Explores (next : Nat → List Nat) (w u : Walk) : Prop where
  left : ∃ new, u.left = new ++ w.left ∧ new.Nodup ∧
    (∀ j, j ∈ u.seen ↔ j ∈ new ∨ j ∈ w.seen) ∧ (∀ j ∈ new, j ∉ w.seen) ∧
    ∀ j ∈ new, ∀ k ∈ next j, k ∈ u.seen

namespace Explores

theorem refl (w : Walk) : Explores next w w := ⟨[], by simp⟩

theorem seen (h : Explores next w u) (there : j ∈ w.seen) : j ∈ u.seen := by
  obtain ⟨new, _, _, seen, _⟩ := h.left
  exact (seen j).2 (.inr there)

theorem trans (first : Explores next w u) (second : Explores next u v) : Explores next w v := by
  have later : ∀ j, j ∈ u.seen → j ∈ v.seen := fun _ => second.seen
  obtain ⟨new, left, nodup, seen, fresh, follow⟩ := first.left
  obtain ⟨new', left', nodup', seen', fresh', follow'⟩ := second.left
  refine ⟨new' ++ new, by simp [left, left'], ?_, ?_, ?_, ?_⟩
  · refine List.nodup_append.2 ⟨nodup', nodup, ?_⟩
    rintro j late _ early rfl
    exact fresh' j late ((seen j).2 (.inl early))
  · intro j
    rw [seen', seen, List.mem_append, or_assoc]
  · intro j member
    rcases List.mem_append.1 member with late | early
    · exact fun there => fresh' j late ((seen j).2 (.inr there))
    · exact fresh j early
  · intro j member k step
    rcases List.mem_append.1 member with late | early
    · exact follow' j late k step
    · exact later k (follow j early k step)

/-- Every node between arrival and departure was there before. -/
theorem seen_cases (h : Explores next w u) (there : j ∈ u.seen) : j ∈ u.left ∨ j ∈ w.seen := by
  obtain ⟨new, left, _, seen, _⟩ := h.left
  rcases (seen j).1 there with member | before
  · exact .inl (left ▸ List.mem_append_left _ member)
  · exact .inr before

theorem left_mono (h : Explores next w u) (there : j ∈ w.left) : j ∈ u.left := by
  obtain ⟨new, left, _⟩ := h.left
  exact left ▸ List.mem_append_right _ there

/-- A walk that arrives at a new node, explores from there and leaves the node. -/
theorem enclose (fresh : i ∉ w.seen) (h : Explores next { w with seen := w.seen.push i } u)
    (follow : ∀ k ∈ next i, k ∈ u.seen) : Explores next w { u with left := i :: u.left } := by
  obtain ⟨new, left, nodup, seen, new_fresh, new_follow⟩ := h.left
  have outside : ∀ j ∈ new, j ≠ i ∧ j ∉ w.seen := fun j member => by
    simpa [not_or] using new_fresh j member
  refine ⟨i :: new, by simp [left], ?_, ?_, ?_, ?_⟩
  · exact List.nodup_cons.2 ⟨fun member => (outside i member).1 rfl, nodup⟩
  · intro j
    rw [List.mem_cons, or_assoc, or_left_comm, ← Trail.mem_push]
    exact seen j
  · intro j member
    rcases List.mem_cons.1 member with rfl | member
    · exact fresh
    · exact (outside j member).2
  · intro j member
    rcases List.mem_cons.1 member with rfl | member
    · exact follow
    · exact new_follow j member

end Explores

theorem unseen_le (h : ∀ j, j ∈ w.seen → j ∈ u.seen) : unseen nodes u ≤ unseen nodes w := by
  refine List.countP_mono_left fun j _ missing => ?_
  rw [decide_eq_true_eq] at missing ⊢
  exact fun there => missing (h j there)

theorem unseen_push_lt (member : i ∈ nodes) (fresh : i ∉ w.seen) :
    unseen nodes { w with seen := w.seen.push i } < unseen nodes w := by
  induction nodes with
  | nil => simp at member
  | cons a rest ih =>
    have fewer : unseen rest { w with seen := w.seen.push i } ≤ unseen rest w :=
      unseen_le fun j there => Trail.mem_push.2 (.inr there)
    simp only [unseen, List.countP_cons, Trail.mem_push, decide_eq_true_eq] at ih fewer ⊢
    by_cases same : a = i
    · simp only [same, fresh, true_or, not_true, not_false_eq_true, if_true, if_false]
      omega
    · have := ih ((List.mem_cons.1 member).resolve_left fun h => same h.symm)
      simp only [same, false_or]
      omega

theorem seen_of_unseen_eq_zero (member : i ∈ nodes) (none : unseen nodes w = 0) : i ∈ w.seen := by
  have := List.countP_eq_zero.1 none i member
  simpa using this

theorem foldl_explores {step : Walk → Nat → Walk} {roots : List Nat}
    (one : ∀ {u k}, k ∈ nodes → unseen nodes u ≤ depth →
      Explores next u (step u k) ∧ k ∈ (step u k).seen)
    (inside : ∀ k ∈ roots, k ∈ nodes) (deep : unseen nodes w ≤ depth) :
    Explores next w (roots.foldl step w) ∧ ∀ k ∈ roots, k ∈ (roots.foldl step w).seen := by
  induction roots generalizing w with
  | nil => exact ⟨.refl w, by simp⟩
  | cons k rest ih =>
    obtain ⟨first, arrived⟩ := one (inside k List.mem_cons_self) deep
    obtain ⟨others, all⟩ := ih (fun l there => inside l (List.mem_cons_of_mem _ there))
      (Nat.le_trans (unseen_le fun _ => first.seen) deep)
    refine ⟨first.trans others, fun l there => ?_⟩
    rcases List.mem_cons.1 there with rfl | there
    · exact others.seen arrived
    · exact all l there

/-- A walk that may go deep enough sees a node and explores from there. -/
theorem visit_explores (closed : Closed next nodes) (member : i ∈ nodes)
    (deep : unseen nodes w ≤ depth) :
    Explores next w (visit next depth w i) ∧ i ∈ (visit next depth w i).seen := by
  induction depth generalizing w i with
  | zero => exact ⟨.refl w, seen_of_unseen_eq_zero member (Nat.le_zero.1 deep)⟩
  | succ depth ih =>
    unfold visit
    split
    · next there => exact ⟨.refl w, there⟩
    · next fresh =>
      have lower := unseen_push_lt member fresh
      obtain ⟨below, all⟩ := foldl_explores (w := { w with seen := w.seen.push i }) ih
        (closed i member) (by omega)
      exact ⟨.enclose fresh below all, below.seen (Trail.mem_push.2 (.inl rfl))⟩

theorem mem_seen_foldl {step : Walk → Nat → Walk} {roots : List Nat}
    (one : ∀ {u k}, j ∈ (step u k).seen → j ∈ u.seen ∨ Leads next k j)
    (there : j ∈ (roots.foldl step w).seen) : j ∈ w.seen ∨ ∃ k ∈ roots, Leads next k j := by
  induction roots generalizing w with
  | nil => exact .inl there
  | cons k rest ih =>
    rcases ih there with there | ⟨l, member, path⟩
    · exact (one there).imp_right fun path => ⟨k, List.mem_cons_self, path⟩
    · exact .inr ⟨l, List.mem_cons_of_mem _ member, path⟩

/-- A walk only sees nodes to which paths lead from where it starts. -/
theorem leads_of_mem_visit (there : j ∈ (visit next depth w i).seen) :
    j ∈ w.seen ∨ Leads next i j := by
  induction depth generalizing w i with
  | zero => exact .inl there
  | succ depth ih =>
    unfold visit at there
    split at there
    · exact .inl there
    · rcases mem_seen_foldl ih there with there | ⟨k, step, path⟩
      · rcases Trail.mem_push.1 there with rfl | there
        · exact .inr .refl
        · exact .inl there
      · exact .inr (.head step path)

theorem foldl_settled {step : Walk → Nat → Walk} {roots : List Nat}
    (one : ∀ {u k}, k ∈ nodes → unseen nodes u ≤ depth →
      Explores next u (step u k) ∧ k ∈ (step u k).seen)
    (settles : ∀ {u k}, k ∈ nodes → unseen nodes u ≤ depth → Settled next u.left →
      (∀ a ∈ u.seen, a ∈ u.left ∨ LeadsOn next a k) → Settled next (step u k).left)
    (inside : ∀ k ∈ roots, k ∈ nodes) (deep : unseen nodes w ≤ depth)
    (settled : Settled next w.left)
    (above : ∀ k ∈ roots, ∀ a ∈ w.seen, a ∈ w.left ∨ LeadsOn next a k) :
    Settled next (roots.foldl step w).left := by
  induction roots generalizing w with
  | nil => exact settled
  | cons k rest ih =>
    have first := (one (inside k List.mem_cons_self) deep).1
    refine ih (fun l there => inside l (List.mem_cons_of_mem _ there))
      (Nat.le_trans (unseen_le fun _ => first.seen) deep)
      (settles (inside k List.mem_cons_self) deep settled (above k List.mem_cons_self)) ?_
    intro l there a seen
    rcases first.seen_cases seen with left | before
    · exact .inl left
    · exact (above l (List.mem_cons_of_mem _ there) a before).imp_left first.left_mono

/-- Without cycles a walk leaves a node after everything that follows it. The nodes it has seen
but not left are those above, and a step to one of them would close a cycle. -/
theorem visit_settled (acyclic : ∀ k, ¬LeadsOn next k k) (closed : Closed next nodes)
    (member : i ∈ nodes) (deep : unseen nodes w ≤ depth) (settled : Settled next w.left)
    (above : ∀ a ∈ w.seen, a ∈ w.left ∨ LeadsOn next a i) :
    Settled next (visit next depth w i).left := by
  induction depth generalizing w i with
  | zero => exact settled
  | succ depth ih =>
    unfold visit
    split
    · exact settled
    · next fresh =>
      have lower := unseen_push_lt member fresh
      have one : ∀ {u k}, k ∈ nodes → unseen nodes u ≤ depth →
          Explores next u (visit next depth u k) ∧ k ∈ (visit next depth u k).seen :=
        fun inside deep => visit_explores closed inside deep
      obtain ⟨below, all⟩ := foldl_explores (w := { w with seen := w.seen.push i }) one
        (closed i member) (by omega)
      have path : ∀ k ∈ next i, ∀ a ∈ w.seen.push i, a ∈ w.left ∨ LeadsOn next a k := by
        intro k step a seen
        rcases Trail.mem_push.1 seen with rfl | seen
        · exact .inr (.single step)
        · exact (above a seen).imp_right fun path => path.tail step
      refine ⟨fun k step => ?_, foldl_settled one ih (closed i member) (by omega) settled path⟩
      rcases below.seen_cases (all k step) with left | before
      · exact left
      · rcases path k step k before with left | cycle
        · exact below.left_mono left
        · exact (acyclic k cycle).elim

variable {roots : List Nat}

theorem leads_of_mem_visitAll (there : j ∈ (visitAll next depth roots).seen) :
    ∃ i ∈ roots, Leads next i j :=
  (mem_seen_foldl leads_of_mem_visit there).resolve_left (Trail.not_mem_empty j)

section

variable (closed : Closed next nodes) (inside : ∀ i ∈ roots, i ∈ nodes)
  (deep : nodes.length ≤ depth)

include closed inside deep

theorem visitAll_explores : Explores next start (visitAll next depth roots) ∧
    ∀ i ∈ roots, i ∈ (visitAll next depth roots).seen :=
  foldl_explores (fun member deep => visit_explores closed member deep) inside
    (Nat.le_trans List.countP_le_length deep)

/-- A walk from several nodes sees exactly the nodes to which paths lead. -/
theorem mem_seen_visitAll_iff :
    j ∈ (visitAll next depth roots).seen ↔ ∃ i ∈ roots, Leads next i j := by
  refine ⟨leads_of_mem_visitAll, ?_⟩
  rintro ⟨i, root, path⟩
  obtain ⟨explored, all⟩ := visitAll_explores closed inside deep
  obtain ⟨new, _, _, seen, _, follow⟩ := explored.left
  induction path with
  | refl => exact all i root
  | tail _ step ih =>
    exact follow _ (((seen _).1 ih).resolve_right (Trail.not_mem_empty _)) _ step

theorem mem_left_visitAll_iff :
    j ∈ (visitAll next depth roots).left ↔ ∃ i ∈ roots, Leads next i j := by
  obtain ⟨new, left, _, seen, _⟩ := (visitAll_explores closed inside deep).1.left
  rw [← mem_seen_visitAll_iff closed inside deep, seen, left]
  simp [start]

theorem nodup_left_visitAll : (visitAll next depth roots).left.Nodup := by
  obtain ⟨new, left, nodup, _⟩ := (visitAll_explores closed inside deep).1.left
  simpa [left, start] using nodup

theorem settled_visitAll (acyclic : ∀ k, ¬LeadsOn next k k) :
    Settled next (visitAll next depth roots).left :=
  foldl_settled (fun member deep => visit_explores closed member deep)
    (fun member deep => visit_settled acyclic closed member deep) inside
    (Nat.le_trans List.countP_le_length deep) trivial
    fun _ _ _ seen => (Trail.not_mem_empty _ seen).elim

end

end Walk

theorem mem_reachedFrom_iff {next : Nat → List Nat} {nodes : List Nat} {depth i j : Nat}
    (closed : Closed next nodes) (member : i ∈ nodes) (deep : nodes.length ≤ depth) :
    j ∈ reachedFrom next depth i ↔ Leads next i j := by
  rw [reachedFrom, List.mem_reverse, Trail.mem_toList,
    Walk.mem_seen_visitAll_iff closed (by simpa using member) deep]
  simp

end FrameFlow
