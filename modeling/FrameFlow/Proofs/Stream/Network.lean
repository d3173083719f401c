import FrameFlow.Proofs.Diagnosis.Plan
import FrameFlow.Proofs.Flow.Routing
import FrameFlow.Proofs.Stream.Answer

/-! The streams of a whole graph. Every link carries the answer of the node upstream to the streams
on its inputs. Links do not lead back, so what is fed into the sources decides all streams. -/
namespace FrameFlow

/-- The streams that a node answers: what is fed into it if it is a source, else those on the links
at its inputs. -/
def Node.inflow (n : Node BuiltIn) (fed : Stream) (on : Nat → Stream) : List Stream :=
  if n.role = .source then [fed] else (n.inputs.filterMap Inlet.link).map on

theorem Node.inflow_congr {n : Node BuiltIn} {fed : Stream} {on on' : Nat → Stream}
    (same : ∀ q ∈ n.inputs, ∀ k, q.link = some k → on' k = on k) :
    n.inflow fed on' = n.inflow fed on := by
  unfold inflow
  split
  · rfl
  · apply List.map_congr_left
    intro k member
    obtain ⟨q, inlet, noted⟩ := List.mem_filterMap.1 member
    exact same q inlet k noted

namespace Graph

/-- Streams on all links, given what is fed into the sources. -/
def Flows (g : Graph BuiltIn) (fed on : Nat → Stream) : Prop :=
  ∀ ⦃k : Nat⦄ ⦃l : Link⦄ ⦃n : Node BuiltIn⦄, g.links[k]? = some l →
    g.nodes[l.source.node]? = some n → on k = n.filter.answer (n.inflow (fed l.source.node) on)

/-- The streams so far if every node answers some times, all at once. -/
def streamsAfter (g : Graph BuiltIn) (fed : Nat → Stream) : Nat → Nat → Stream
  | 0, _ => .empty
  | rounds + 1, k =>
    match g.links[k]? with
    | none => .empty
    | some l =>
      match g.nodes[l.source.node]? with
      | none => .empty
      | some n => n.filter.answer (n.inflow (fed l.source.node) (g.streamsAfter fed rounds))

section Links

variable {σ : Type} {g : Graph σ} {order : List Nat}

theorem Wired.node_at_source (wired : g.Wired) {k : Nat} {l : Link} (link : g.links[k]? = some l) :
    ∃ n, g.nodes[l.source.node]? = some n := by
  obtain ⟨n, there, _⟩ := wired.node_at_end link .output
  exact ⟨n, there⟩

/-- The link at an inlet comes from an earlier node. -/
theorem Schedules.earlier_of_inlet (schedules : g.Schedules order) (wired : g.Wired) {i k : Nat}
    {n : Node σ} (there : g.nodes[i]? = some n) {q : Inlet} (member : q ∈ n.inputs)
    (noted : q.link = some k) :
    ∃ l, g.links[k]? = some l ∧ l.target.node = i ∧ Earlier order l.source.node i := by
  obtain ⟨pad, inlet⟩ := List.mem_iff_getElem?.1 member
  obtain ⟨l, link, target⟩ := (wired.inlet_link_iff there inlet).1 noted
  have here : l.target.node = i := congrArg Endpoint.node target
  have ordered := schedules.ordered l (Array.mem_of_getElem? link)
  exact ⟨l, link, here, here ▸ ordered⟩

/-- What holds of a link if it holds of the links into its source holds of all links. -/
theorem Schedules.link_induction (schedules : g.Schedules order) (wired : g.Wired)
    {P : Nat → Prop} (step : ∀ {k : Nat} {l : Link} {n : Node σ}, g.links[k]? = some l →
      g.nodes[l.source.node]? = some n →
      (∀ q ∈ n.inputs, ∀ j, q.link = some j → P j) → P k)
    {k : Nat} {l : Link} (link : g.links[k]? = some l) : P k := by
  generalize place : order.idxOf l.source.node = depth
  induction depth using Nat.strongRecOn generalizing k l with
  | ind depth ih =>
    obtain ⟨n, there⟩ := wired.node_at_source link
    apply step link there
    intro q member j noted
    obtain ⟨l', link', _, earlier⟩ := schedules.earlier_of_inlet wired there member noted
    have before : order.idxOf l'.source.node < depth := place ▸ earlier
    exact ih _ before link' rfl

end Links

variable {g : Graph BuiltIn} {order : List Nat} {fed on on' : Nat → Stream}

/-- There is only one way in which streams flow. -/
theorem Flows.unique (flows : g.Flows fed on) (wired : g.Wired) (schedules : g.Schedules order)
    (flows' : g.Flows fed on') {k : Nat} {l : Link} (link : g.links[k]? = some l) : on' k = on k := by
  apply schedules.link_induction (P := fun k => on' k = on k) wired _ link
  intro k l n link there same
  rw [flows link there, flows' link there, Node.inflow_congr same]

theorem streamsAfter_succ (fed : Nat → Stream) (rounds : Nat) {k : Nat} {l : Link}
    {n : Node BuiltIn} (link : g.links[k]? = some l) (there : g.nodes[l.source.node]? = some n) :
    g.streamsAfter fed (rounds + 1) k =
      n.filter.answer (n.inflow (fed l.source.node) (g.streamsAfter fed rounds)) := by
  simp only [streamsAfter, link, there]

/-- After as many rounds as nodes come before its source, a link carries what it carries later. -/
theorem Schedules.streamsAfter_eq (schedules : g.Schedules order) (wired : g.Wired)
    (fed : Nat → Stream) {rounds later : Nat} (enough : rounds ≤ later) {k : Nat} {l : Link}
    (link : g.links[k]? = some l) (near : order.idxOf l.source.node < rounds) :
    g.streamsAfter fed later k = g.streamsAfter fed rounds k := by
  induction rounds generalizing later k l with
  | zero => exact absurd near (Nat.not_lt_zero _)
  | succ rounds ih =>
    obtain ⟨later, rfl⟩ : ∃ n, later = n + 1 := ⟨later - 1, by omega⟩
    obtain ⟨n, there⟩ := wired.node_at_source link
    rw [streamsAfter_succ fed later link there, streamsAfter_succ fed rounds link there]
    congr 1
    apply Node.inflow_congr
    intro q member j noted
    obtain ⟨l', link', _, earlier⟩ := schedules.earlier_of_inlet wired there member noted
    have nearer := Nat.lt_of_lt_of_le earlier (Nat.le_of_lt_succ near)
    exact ih (by omega) link' nearer

/-- After as many rounds as there are nodes, all links carry their streams. -/
theorem Schedules.flows (schedules : g.Schedules order) (wired : g.Wired) (fed : Nat → Stream) :
    g.Flows fed (g.streamsAfter fed order.length) := by
  intro k l n link there
  have live : l.source.node ∈ order :=
    (schedules.mem_iff _).2 (wired.isLiveAt_end link .output)
  have stable := schedules.streamsAfter_eq wired fed (Nat.le_succ order.length) link
    (List.idxOf_lt_length_of_mem live)
  rw [← stable]
  exact streamsAfter_succ fed order.length link there

end Graph
end FrameFlow
