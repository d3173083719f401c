import FrameFlow.Proofs.Flow.Bounds
import FrameFlow.Proofs.Flow.Draining
import FrameFlow.Proofs.Flow.Isolation
import FrameFlow.Proofs.Graph.References

/-! The arenas of a graph are consistent, whatever was called and whether it was granted. Handles,
links and pads refer to what they should, and nothing is looked up that is not there. Only a filter that
leaves a tray of its own can make a step look for pads that its node has not. -/
namespace FrameFlow.Graph

variable {σ : Type} [Filter σ]

structure Consistent (g : Graph σ) : Prop where
  /-- A handle stands for the node at its place, unless that was discarded. -/
  found : ∀ {id : NodeId} {n : Node σ}, g.find id = .ok n ↔
    id = g.handle id.index ∧ g.nodes[id.index]? = some n ∧ n.isLive
  allocated : ∀ {kind : String} {id : NodeId} {h : Graph σ}, g.allocate kind = .ok (id, h) →
    id = g.handle g.nodes.size ∧ ∃ k, h = { g with nodes := g.nodes.push (.ofKind k) }
  linked : ∀ {source target : NodeId} {output input k : Nat} {h : Graph σ},
    g.link source output target input = .ok (k, h) → k = g.links.size ∧
      h.links = g.links.push ⟨⟨source.index, output⟩, ⟨target.index, input⟩, none⟩
  lasting : ∀ calls : List Call, g.Extends (calls.foldl Graph.after g)
  /-- Both ends of a link are pads that note it. -/
  ends : ∀ {k : Nat} {l : Link}, g.links[k]? = some l → ∀ d, ∃ n,
    g.nodes[(l.endAt d).node]? = some n ∧ n.isLive ∧ (l.endAt d).pad < n.padCount d ∧
      n.link? d (l.endAt d).pad = some k
  /-- What a pad notes is a link that ends there. -/
  noted : ∀ {i : Nat} {n : Node σ} {d : Direction} {pad k : Nat}, g.nodes[i]? = some n →
    n.link? d pad = some k → k < g.links.size ∧ ∃ l, g.links[k]? = some l ∧ l.endAt d = ⟨i, pad⟩
  apart : ∀ {j k : Nat} {l m : Link} {d : Direction}, g.links[j]? = some l →
    g.links[k]? = some m → l.endAt d = m.endAt d → j = k
  listed : ∀ {i : Nat} {n : Node σ}, g.nodes[i]? = some n → ∀ {d : Direction} {k : Nat} {l : Link},
    (k, l) ∈ g.linksOn d (g.handle i) ↔ g.links[k]? = some l ∧ ∃ pad, n.link? d pad = some k
  ascending : ∀ (d : Direction) (id : NodeId), (g.linksOn d id).Pairwise fun a b => a.1 < b.1
  discarded : ∀ {i : Nat} {n : Node σ}, g.nodes[i]? = some n → n.life = .discarded →
    (∀ d, n.padCount d = 0) ∧ ∀ l ∈ g.links, ∀ d, (l.endAt d).node ≠ i
  scheduled : ∀ i ∈ g.schedule, i < g.nodes.size
  ordered : ∀ {order : List Nat}, g.topologicalOrder = .ok order → ∀ i ∈ order, i < g.nodes.size
  negotiates : ∀ {order : List Nat}, (∀ i ∈ order, i < g.nodes.size) →
    g.negotiateChecked order = some (g.negotiate order)
  feeds : ∀ {i : Nat} {n : Node σ}, g.nodes[i]? = some n →
    g.feedFormatChecked n = some (g.feedFormat n)
  searches : ∀ i < g.nodes.size, g.failedFeederChecked i = some (g.failedFeeder i)
  /-- Every step, also one in the middle of a pull, finds all that it looks up just where a call that goes
  well leaves frames and marks only for pads of its node. -/
  steps : ∀ {es : List (Event σ)} {h : Graph σ}, g.Runs es h → (h.stepChecked = some h.step ↔
    ∀ c, h.stepEvents = [.invoked c] → c.turn.fault = none →
      c.turn.tray.Within c.node.outputs.length)
  /-- Whatever filters emit and close on the trays that they are given, a step finds all. -/
  lawful : ∀ [LawfulFilter σ] {es : List (Event σ)} {h : Graph σ}, g.Runs es h →
    h.stepChecked = some h.step

variable {g : Graph σ}

/-- Every graph that callers can get is consistent. -/
theorem Reachable.consistent (reachable : g.Reachable) : g.Consistent := by
  have wired := reachable.wired
  have scheduled := fun i => reachable.lt_size_of_mem_schedule (i := i)
  have later : ∀ {es : List (Event σ)} {h : Graph σ}, g.Runs es h → ∀ i ∈ h.schedule, i < h.nodes.size := by
    intro es h run i member
    rw [run.evolves.size]
    exact scheduled i (run.evolves.schedule ▸ member)
  refine {
    found := fun {id n} => ?_
    allocated := allocate_eq_ok
    linked := fun ok => ?_
    lasting := reachable.extends_calls
    ends := fun link d => ?_
    noted := fun there noted => ⟨wired.lt_size_of_link? there noted, wired.end_of_link? there noted⟩
    apart := wired.eq_of_end_eq
    listed := fun there => wired.mem_linksOn_handle_iff there
    ascending := g.pairwise_linksOn
    discarded := fun there gone => ⟨fun d => ?_, fun l member d here => ?_⟩
    scheduled
    ordered := fun ordered i member => ?_
    negotiates := negotiateChecked_eq wired
    feeds := feedFormatChecked_eq wired
    searches := fun i => failedFeederChecked_eq wired
    steps := fun run => stepChecked_eq_iff (run.evolves.wired wired) (later run)
    lawful := fun run => stepChecked_eq (run.evolves.wired wired) (later run) }
  · rw [find_eq_ok_iff]
    cases id
    simp [handle]
  · obtain ⟨number, rfl⟩ := link_eq_ok ok
    exact ⟨number, links_joined _ _⟩
  · obtain ⟨n, there, noted⟩ := wired.node_at_end link d
    exact ⟨n, there, wired.live there noted, lt_padCount_of_link? noted, noted⟩
  · obtain ⟨inputs, outputs⟩ := reachable.padless there gone
    cases d <;> simp [Node.padCount, inputs, outputs]
  · obtain ⟨k, link⟩ := Array.mem_iff_getElem?.1 member
    obtain ⟨m, there', live⟩ := isLiveAt_iff.1 (wired.isLiveAt_end link d)
    obtain rfl := Option.some.inj (there.symm.trans (here ▸ there'))
    simp [Node.isLive, gone] at live
  · obtain ⟨n, there, _⟩ := isLiveAt_iff.1 (((wired.schedules ordered).mem_iff i).1 member)
    exact (Array.getElem?_eq_some_iff.1 there).1

/-- So it is also after a call that failed, with a frame left at the node that failed. -/
theorem consistent_failedBroken :
    failedBroken.Consistent ∧ failedBroken.links.size = 2 ∧
      failedBroken.stepChecked = some failedBroken.step :=
  ⟨reachable_failedBroken.consistent, by decide +kernel, reachable_failedBroken.consistent.lawful (.refl _)⟩

/-- A source with one output that flushes onto a tray with ten, once its stream was ended. -/
def endedReplacing : Graph (BuiltIn ⊕ Replacing) :=
  (replacing 10).after (.request (.push ⟨⟨0⟩, 0⟩ none))

/-- The next step looks for the nine outputs that the source has not. -/
theorem step_lost_by_replacing :
    endedReplacing.Reachable ∧ endedReplacing.stepChecked = none ∧ endedReplacing.step ≠ none := by
  have lost : endedReplacing.stepChecked.isNone := by decide +kernel
  have taken : endedReplacing.step.isSome := by decide +kernel
  exact ⟨.called _ (.called .configure (reachable_replacingToSink 10)), Option.isNone_iff_eq_none.1 lost,
    Option.isSome_iff_ne_none.1 taken⟩

end FrameFlow.Graph
