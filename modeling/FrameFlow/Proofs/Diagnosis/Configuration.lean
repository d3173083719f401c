import FrameFlow.Proofs.Reach
import FrameFlow.Registry

/-! Which graphs can be configured. Four conditions on nodes and links decide it: every node is set
up, every pad is linked, no links lead round in a circle, and some formats suit every node. -/
namespace FrameFlow.Graph

variable {σ : Type} [Filter σ] {g : Graph σ}

/-- The formats that suit every node are the same on every link. -/
theorem Agrees.unique (wired : g.Wired) {order : List Nat} (schedules : g.Schedules order)
    (linked : g.FullyLinked) {formats formats' : Nat → Format} (agrees : g.Agrees formats)
    (agrees' : g.Agrees formats') {k : Nat} (link : k < g.links.size) : formats k = formats' k := by
  have first := (negotiate_eq_ok_iff wired schedules linked).2 ⟨formats, agrees, rfl⟩
  have second := (negotiate_eq_ok_iff wired schedules linked).2 ⟨formats', agrees', rfl⟩
  have same := Except.ok.inj (first.symm.trans second)
  have at_k := congrArg (·[k]?) same
  simpa [link] using at_k

/-- No graph is refused for having no source, for a node that no source reaches or for links that
share a pad alone. -/
theorem Configurable.no_further_defects (wired : g.Wired) (ready : g.Configurable) :
    g.duplicateDefects = [] ∧ (g.isEmpty = false → g.reachDefects = []) := by
  obtain ⟨order, ordered⟩ := wired.exists_order_iff.2 ready.acyclic
  have schedules := wired.schedules ordered
  refine ⟨wired.duplicateDefects, fun some_live => ?_⟩
  have roots := roots_ne_nil wired schedules ready.initialized ready.linked some_live
  have reachable := unreachable_eq_nil wired schedules ready.initialized ready.linked
  simp [reachDefects, roots, reachable]

/-- Configuration succeeds just where the four conditions hold, and no other check of the stages
then fails. It finds an order of all live nodes along the links, and for every link the format that
the node upstream answers for its pad. -/
theorem Reachable.configure_succeeds_iff (h : g.Reachable) (unconfigured : g.configured = false) :
    ((∃ after, g.configure = .ok after) ↔ g.Configurable) ∧
    (g.Configurable → g.duplicateDefects = [] ∧ (g.isEmpty = false → g.reachDefects = [])) ∧
    ∀ after, g.configure = .ok after →
      after.schedule.Nodup ∧ (∀ i, i ∈ after.schedule ↔ g.isLiveAt i) ∧
      (∀ l ∈ after.links, Earlier after.schedule l.source.node l.target.node) ∧
      ∃ formats, g.Agrees formats ∧
        (∀ formats', g.Agrees formats' → ∀ k < g.links.size, formats' k = formats k) ∧
        ∀ k l, after.links[k]? = some l → l.format = some (formats k) ∧
          ∃ n answer, g.nodes[l.source.node]? = some n ∧
            n.negotiate (n.formatsIn formats) = .ok answer ∧ answer[l.source.pad]? = l.format := by
  have assembled := h.assembled unconfigured
  refine ⟨exists_configure_iff assembled, fun ready => ready.no_further_defects assembled.wired, ?_⟩
  intro after ok
  have ready := (exists_configure_iff assembled).1 ⟨after, ok⟩
  have made := configures_of_configure assembled ok
  have now := assembled.ready ok
  obtain ⟨formats, agrees, links⟩ := made.formats
  refine ⟨made.schedules.nodup, made.schedules.mem_iff, now.schedules.ordered, formats, agrees,
    fun formats' agrees' k link =>
      Agrees.unique assembled.wired made.schedules ready.linked agrees' agrees link, ?_⟩
  intro k l link
  rw [links] at link
  obtain ⟨l', link', rfl⟩ := Option.map_eq_some_iff.1 link
  obtain ⟨n, there, noted⟩ := assembled.wired.node_at_end link' .output
  obtain ⟨answer, answered, _, outputs⟩ := agrees there (assembled.wired.live there noted)
  exact ⟨rfl, n, answer, there, answered, outputs _ k noted⟩

/-- A graph of built-in filters without any nodes. -/
def blank : Graph BuiltIn := ⟨⟨0⟩, builtInRegistry, .default, #[], #[], false, [], ⟨0, 0, 0, 0⟩⟩

theorem reachable_blank : blank.Reachable := by
  have created : Graph.create ⟨0⟩ builtInRegistry .default = .ok blank := by rfl
  exact .created created

/-- The calls that link a source to a sink. -/
def sourceToSink : List Call :=
  [.allocate "buffer", .allocate "buffersink", .setUp ⟨⟨0⟩, 0⟩, .setUp ⟨⟨0⟩, 1⟩,
    .link ⟨⟨0⟩, 0⟩ 0 ⟨⟨0⟩, 1⟩ 0]

/-- A source and a sink, configured. -/
def sourceAndSink : Graph BuiltIn := (sourceToSink.foldl Graph.after blank).after .configure

theorem configure_eq_sourceAndSink :
    (sourceToSink.foldl Graph.after blank).configure = .ok sourceAndSink := by rfl

/-- A source and a sink are configured in this order. -/
theorem configure_sourceToSink :
    let g := sourceToSink.foldl Graph.after blank
    g.configured = false ∧ g.Configurable ∧ sourceAndSink.schedule = [0, 1] := by
  have succeeds := (reachable_blank.calls sourceToSink).configure_succeeds_iff (by decide)
  exact ⟨by decide, succeeds.1.1 ⟨sourceAndSink, configure_eq_sourceAndSink⟩, by decide⟩

end FrameFlow.Graph
