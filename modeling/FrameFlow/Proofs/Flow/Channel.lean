import FrameFlow.Proofs.Flow.Routing
import FrameFlow.Proofs.Flow.Work

/-! Links as channels: what an event does to the two ends of a link. Frames sent over it wait in
the queue of the inlet until they are handed on, in order, and the inlet has ended just when the
outlet is closed. -/
namespace FrameFlow

variable {σ : Type}

/-- The frame that a unit of work hands on, if it is for some pad. -/
def Work.handedOn (pad : Nat) : Work → List Frame
  | .frame p f => if p = pad then [f] else []
  | _ => []

namespace Event

/-- The frames that an event sends over a link. -/
def sentOn (k : Nat) : Event σ → List Frame
  | .invoked c => sentOver (some k) c.sent
  | _ => []

/-- Whether an event ends a link. -/
def endsLink (k : Nat) : Event σ → Bool
  | .invoked c => c.ends.contains k
  | _ => false

/-- The frame, if any, that an event takes from an inlet. Sources are given frames of their feed
only. -/
def handedAt (a : Endpoint) : Event σ → List Frame
  | .invoked c => if c.index = a.node ∧ c.node.role ≠ .source then c.work.handedOn a.pad else []
  | _ => []

/-- Whether an event tells a filter of the end of an input. -/
def tells (a : Endpoint) : Event σ → Bool
  | .invoked c => c.index == a.node && c.work == .endOfInput a.pad
  | _ => false

end Event

/-- How an event moves frames from an outlet to an inlet. -/
structure Transfers (e : Event σ) (k : Nat) (target : Endpoint) (p p' : Outlet) (q q' : Inlet) :
    Prop where
  closed : p'.closed = (p.closed || e.endsLink k)
  silent : p.closed → e.sentOn k = []
  queue : e.handedAt target ++ q'.queue.toList = q.queue.toList ++ e.sentOn k
  ended : q'.ended = (q.ended || e.endsLink k)
  told : q'.told = (q.told || e.tells target)

namespace Graph

def outletAt (g : Graph σ) (a : Endpoint) : Option Outlet :=
  g.nodes[a.node]?.bind fun n => n.outputs[a.pad]?

def inletAt (g : Graph σ) (a : Endpoint) : Option Inlet :=
  g.nodes[a.node]?.bind fun n => n.inputs[a.pad]?

variable {g h : Graph σ} {k : Nat} {l : Link}

theorem Wired.outlet_at_source (wired : g.Wired) (link : g.links[k]? = some l) :
    ∃ p, g.outletAt l.source = some p ∧ p.link = some k := by
  obtain ⟨n, there, noted⟩ := wired.node_at_end link .output
  obtain ⟨p, outlet, noted⟩ := Option.bind_eq_some_iff.1 noted
  exact ⟨p, Option.bind_eq_some_iff.2 ⟨n, there, outlet⟩, noted⟩

theorem Wired.inlet_at_target (wired : g.Wired) (link : g.links[k]? = some l) :
    ∃ q, g.inletAt l.target = some q ∧ q.link = some k := by
  obtain ⟨n, there, noted⟩ := wired.node_at_end link .input
  obtain ⟨q, inlet, noted⟩ := Option.bind_eq_some_iff.1 noted
  exact ⟨q, Option.bind_eq_some_iff.2 ⟨n, there, inlet⟩, noted⟩

end Graph

/-- Taking work from a node takes at most one frame from an inlet, the oldest, or tells of its
end. -/
theorem Node.Takes.inlet {n m : Node σ} {work : Work} (takes : n.Takes work m) {pad : Nat}
    {q : Inlet} (inlet : n.inputs[pad]? = some q) :
    ∃ q', m.inputs[pad]? = some q' ∧ q'.link = q.link ∧ q'.ended = q.ended ∧
      (if n.role ≠ .source then work.handedOn pad else []) ++ q'.queue.toList = q.queue.toList ∧
      q'.told = (q.told || (work == .endOfInput pad)) := by
  cases takes with
  | fed source _ => exact ⟨q, inlet, rfl, rfl, by simp [source], by simp⟩
  | feedOver source _ _ _ => exact ⟨q, inlet, rfl, rfl, by simp [source], by simp⟩
  | @frame at_pad p frame queue inner at_inlet first =>
    by_cases here : at_pad = pad
    · subst here
      obtain rfl := Option.some.inj (at_inlet.symm.trans inlet)
      have inside := (List.getElem?_eq_some_iff.1 inlet).1
      exact ⟨{ p with queue }, by simp [inside], rfl, rfl, by simp [Work.handedOn, inner, first],
        by simp⟩
    · exact ⟨q, by simpa [List.getElem?_set_ne here] using inlet, rfl, rfl,
        by simp [Work.handedOn, here], by simp⟩
  | @endOfInput at_pad p inner quiet at_inlet ended untold =>
    by_cases here : at_pad = pad
    · subst here
      obtain rfl := Option.some.inj (at_inlet.symm.trans inlet)
      have inside := (List.getElem?_eq_some_iff.1 inlet).1
      exact ⟨{ p with told := true }, by simp [inside], rfl, rfl, by simp [Work.handedOn], by simp⟩
    · exact ⟨q, by simpa [List.getElem?_set_ne here] using inlet, rfl, rfl,
        by simp [Work.handedOn], by simp [here]⟩
  | flush inner _ _ _ _ => exact ⟨q, inlet, rfl, rfl, by simp [Work.handedOn], by simp⟩

theorem Node.Takes.evolves {n m : Node σ} {work : Work} (takes : n.Takes work m) : n.Evolves m := by
  have ends : ∀ {pad : Nat} {p q : Inlet}, n.inputs[pad]? = some p → q.end? = p.end? →
      (n.inputs.set pad q).map Inlet.end? = n.inputs.map Inlet.end? := by
    intro pad p q at_pad same
    obtain ⟨inside, rfl⟩ := List.getElem?_eq_some_iff.1 at_pad
    rw [List.map_set, same, ← List.map_set, List.set_getElem_self]
  cases takes with
  | fed _ _ => exact ⟨rfl, rfl, rfl, rfl, rfl, .inl rfl⟩
  | feedOver _ _ _ _ => exact ⟨rfl, rfl, rfl, rfl, rfl, .inl rfl⟩
  | frame _ at_pad _ => exact ⟨rfl, rfl, rfl, ends at_pad rfl, rfl, .inl rfl⟩
  | endOfInput _ _ at_pad _ _ => exact ⟨rfl, rfl, rfl, ends at_pad rfl, rfl, .inl rfl⟩
  | flush _ _ _ _ _ => exact ⟨rfl, rfl, rfl, rfl, rfl, .inl rfl⟩

namespace Graph

variable [Filter σ] {g h : Graph σ} {e : Event σ} {k : Nat} {l : Link}

omit [Filter σ] in
/-- Events other than calls of filters leave both ends of a link alone. -/
theorem transfers_of_quiet (quiet : ∀ c, e ≠ .invoked c) (target : Endpoint) (p : Outlet)
    (q : Inlet) : Transfers e k target p p q q := by
  cases e with
  | invoked c => exact absurd rfl (quiet c)
  | _ => exact ⟨by simp [Event.endsLink], fun _ => rfl, by simp [Event.handedAt, Event.sentOn],
      by simp [Event.endsLink], by simp [Event.tells]⟩

/-- A call comes with work that was taken from the node it names. -/
theorem Happens.takes {c : Invocation σ} (event : g.Happens (.invoked c) h) :
    g.nodes[c.index]? = some c.node ∧ c.node.Takes c.work c.rest := by
  cases event with
  | invoked _ first _ taken =>
    exact ⟨(nextToWork_eq_some_iff.1 first).2, Node.takes_of_takeWork taken⟩

theorem Happens.turn {c : Invocation σ} (event : g.Happens (.invoked c) h) :
    c.turn = c.rest.invoke c.work (.start c.rest.closedOutputs) := by
  cases event with
  | invoked _ _ _ _ => rfl

/-- Calls go to the first node of the schedule that has work. -/
theorem Happens.first {c : Invocation σ} (event : g.Happens (.invoked c) h) :
    g.schedule.find? g.hasWorkAt = some c.index := by
  cases event with
  | invoked _ first _ _ => exact (nextToWork_eq_some_iff.1 first).1

/-- No call goes to a filter that has failed. -/
theorem Happens.usable {c : Invocation σ} (event : g.Happens (.invoked c) h) :
    c.node.life ≠ .failed := by
  cases event with
  | invoked _ _ usable _ => exact usable

/-- Only the node called and those that it feeds change. -/
theorem Happens.nodes_of_unfed {c : Invocation σ} {j : Nat} (wired : g.Wired)
    (event : g.Happens (.invoked c) h) (other : j ≠ c.index) (unfed : ¬g.Feeds c.index j) :
    h.nodes[j]? = g.nodes[j]? := by
  obtain ⟨at_node, takes⟩ := event.takes
  rw [event.nodes wired]
  cases there : g.nodes[j]? with
  | none => rfl
  | some n =>
    have same := Invocation.receive_of_unfed wired at_node takes.outputs there (.refl n) unfed
    simp [Event.effect, other, same]

section Call

variable {c : Invocation σ} (wired : g.Wired) (event : g.Happens (.invoked c) h)
  (link : g.links[k]? = some l)

include wired event link

/-- A call closes an outlet just when it ends the link there, and a closed outlet sends nothing. -/
theorem outlet_of_invoked {p : Outlet} (outlet : g.outletAt l.source = some p) :
    ∃ p', h.outletAt l.source = some p' ∧ p'.closed = (p.closed || c.ends.contains k) ∧
      (p.closed → sentOver (some k) c.sent = []) := by
  obtain ⟨n, source, outlet⟩ := Option.bind_eq_some_iff.1 outlet
  obtain ⟨there, takes⟩ := event.takes
  have after := event.nodes wired l.source.node
  rw [source, Option.map_some] at after
  by_cases here : l.source.node = c.index
  · obtain rfl := Option.some.inj ((here ▸ source).symm.trans there)
    have source : l.source = ⟨c.index, l.source.pad⟩ := by rw [← here]
    rw [← takes.outputs] at outlet
    obtain ⟨p', outlet', closed⟩ := Invocation.closed_left wired there takes.outputs link source outlet
    refine ⟨p', ?_, by simpa using closed, fun shut => ?_⟩
    · rw [outletAt, after, Option.bind_some]
      simpa [Event.effect, here, Node.receive] using outlet'
    · rw [Invocation.sentOver_eq wired there takes.outputs link source outlet, shut]
      simp
  · have unended := Invocation.not_mem_ends wired there takes.outputs link here
    refine ⟨p, ?_, by simp [unended], fun _ => ?_⟩
    · rw [outletAt, after, Option.bind_some]
      simpa [Event.effect, here, Node.receive] using outlet
    · exact Invocation.sentOver_of_other wired there takes.outputs link here

/-- Work is taken from an inlet before frames and ends come in. -/
theorem inlet_of_invoked {q : Inlet} (inlet : g.inletAt l.target = some q) :
    ∃ q', h.inletAt l.target = some q' ∧
      (Event.invoked c).handedAt l.target ++ q'.queue.toList =
        q.queue.toList ++ sentOver (some k) c.sent ∧
      q'.ended = (q.ended || c.ends.contains k) ∧
      q'.told = (q.told || (Event.invoked c).tells l.target) := by
  obtain ⟨m, target, inlet⟩ := Option.bind_eq_some_iff.1 inlet
  have noted : q.link = some k := (wired.inlet_link_iff target inlet).2 ⟨l, link, rfl⟩
  obtain ⟨there, takes⟩ := event.takes
  have after := event.nodes wired l.target.node
  rw [target, Option.map_some] at after
  by_cases here : l.target.node = c.index
  · obtain rfl := Option.some.inj ((here ▸ target).symm.trans there)
    obtain ⟨q', inlet', same, ended, queue, told⟩ := takes.inlet inlet
    have inputs : c.left.inputs = c.rest.inputs := by
      unfold Invocation.left
      split <;> rfl
    refine ⟨q'.receive c.sent c.ends, ?_, ?_, ?_, ?_⟩
    · rw [inletAt, after, Option.bind_some]
      simp [Event.effect, here, Node.receive, inputs, inlet']
    · rw [Inlet.toList_queue_receive, same, noted, ← List.append_assoc, ← queue]
      simp [Event.handedAt, here]
    · simp [Inlet.receive, ended, same, noted]
    · simp [told, Event.tells, here]
  · refine ⟨q.receive c.sent c.ends, ?_, ?_, ?_, ?_⟩
    · rw [inletAt, after, Option.bind_some]
      simp [Event.effect, here, Node.receive, inlet]
    · rw [Inlet.toList_queue_receive, noted]
      simp [Event.handedAt, Ne.symm here]
    · simp [Inlet.receive, noted]
    · simp [Event.tells, Ne.symm here]

end Call

theorem Happens.transfers (wired : g.Wired) (event : g.Happens e h)
    (link : g.links[k]? = some l) :
    ∃ p p' q q', g.outletAt l.source = some p ∧ h.outletAt l.source = some p' ∧
      g.inletAt l.target = some q ∧ h.inletAt l.target = some q' ∧
      Transfers e k l.target p p' q q' := by
  obtain ⟨p, outlet, _⟩ := wired.outlet_at_source link
  obtain ⟨q, inlet, _⟩ := wired.inlet_at_target link
  by_cases quiet : ∀ c, e ≠ .invoked c
  · have same : ∀ i (n : Node σ), (e.effect i n).inputs = n.inputs ∧
        (e.effect i n).outputs = n.outputs := by
      intro i n
      cases e with
      | invoked c => exact absurd rfl (quiet c)
      | _ =>
        unfold Event.effect
        dsimp only
        split <;> exact ⟨rfl, rfl⟩
    refine ⟨p, p, q, q, outlet, ?_, inlet, ?_, transfers_of_quiet quiet l.target p q⟩
    · rw [← outlet]
      unfold outletAt
      rw [event.nodes wired, Option.bind_map]
      exact Option.bind_congr fun n _ => congrArg (·[l.source.pad]?) (same _ n).2
    · rw [← inlet]
      unfold inletAt
      rw [event.nodes wired, Option.bind_map]
      exact Option.bind_congr fun n _ => congrArg (·[l.target.pad]?) (same _ n).1
  · simp only [ne_eq, not_forall, not_not] at quiet
    obtain ⟨c, rfl⟩ := quiet
    obtain ⟨p', outlet', closed, silent⟩ := outlet_of_invoked wired event link outlet
    obtain ⟨q', inlet', queue, ended, told⟩ := inlet_of_invoked wired event link inlet
    exact ⟨p, p', q, q', outlet, outlet', inlet, inlet', closed, silent, queue, ended, told⟩

end Graph
end FrameFlow
