import FrameFlow.Proofs.Flow.Failure
import FrameFlow.Proofs.Flow.Quiescence

/-! The topology of a graph is frozen once the graph is configured. Setting options and setting up
nodes do not look whether it is, so they rest on this: of the nodes that were not discarded, none is
left that is still to be set up. -/
namespace FrameFlow

variable {σ : Type}

/-- What is fixed of a node once its graph is configured. -/
structure Node.Shape (σ : Type) where
  kind : Kind σ
  live : Bool
  applied : Setting.Values
  inputs : List (Pad × Option Nat)
  outputs : List (Pad × Option Nat)

def Node.shape (n : Node σ) : Node.Shape σ where
  kind := n.kind
  live := n.isLive
  applied := n.applied
  inputs := n.inputs.map Inlet.end?
  outputs := n.outputs.map Outlet.end?

/-- What is fixed of a graph once it is configured. Nodes go by their place in the arena, which
with the number of the graph makes up their handles. -/
structure Topology (σ : Type) where
  id : GraphId
  registry : Registry σ
  options : GraphOptions
  nodes : List (Node.Shape σ)
  links : Array Link
  configured : Bool
  schedule : List Nat

namespace Graph

def topology (g : Graph σ) : Topology σ where
  id := g.id
  registry := g.registry
  options := g.options
  nodes := g.nodes.toList.map Node.shape
  links := g.links
  configured := g.configured
  schedule := g.schedule

variable {g h start : Graph σ} {es : List (Event σ)}

/-- The topology tells how many nodes there are. -/
theorem nodeCount_eq (g : Graph σ) : g.nodeCount = g.topology.nodes.countP Node.Shape.live := by
  have counted : ∀ (nodes : List (Node σ)) (k : Nat),
      ((nodes.zipIdx k).filterMap fun entry => if entry.1.isLive then some entry.swap else none).length =
        nodes.countP Node.isLive := by
    intro nodes
    induction nodes with
    | nil => exact fun k => rfl
    | cons n rest ih =>
      intro k
      rw [List.zipIdx_cons, List.filterMap_cons, List.countP_cons]
      by_cases used : n.isLive
      · simp only [if_pos used]
        exact congrArg (· + 1) (ih (k + 1))
      · simp only [if_neg used]
        exact ih (k + 1)
  rw [topology, List.countP_map]
  exact counted g.nodes.toList 0

variable [Filter σ]

/-- A run leaves a node what it was, and also whether it is in use. -/
theorem Ready.shape_eq (ready : start.Ready) (run : start.Runs es g) {i : Nat} {n : Node σ}
    (there : start.nodes[i]? = some n) : ∃ m, g.nodes[i]? = some m ∧ m.shape = n.shape := by
  obtain ⟨m, there', via⟩ := run.evolves.nodes there
  have live : m.isLive = n.isLive := by
    cases used : n.isLive with
    | true => exact via.isLive used
    | false =>
      have still := ready.nodes_of_dead run there used
      rw [Option.some.inj (there'.symm.trans still), used]
  refine ⟨m, there', ?_⟩
  simp only [Node.shape, via.kind, live, via.applied, via.inputs, via.outputs]

theorem Ready.topology_eq (ready : start.Ready) (run : start.Runs es g) :
    g.topology = start.topology := by
  have evolves := run.evolves
  have nodes : g.nodes.toList.map Node.shape = start.nodes.toList.map Node.shape := by
    apply List.ext_getElem?
    intro i
    simp only [List.getElem?_map, Array.getElem?_toList]
    obtain none | ⟨n, there⟩ := start.nodes[i]?.eq_none_or_eq_some
    · have outside : g.nodes[i]? = .none := by
        rw [Array.getElem?_eq_none_iff] at none ⊢
        exact evolves.size ▸ none
      rw [none, outside]
    · obtain ⟨m, there', same⟩ := ready.shape_eq run there
      rw [there, there', Option.map_some, Option.map_some, same]
  simp only [topology, nodes, evolves.id, evolves.registry, evolves.options, evolves.links,
    evolves.configured, evolves.schedule]

/-- Whatever is called after a graph was configured, its topology stays. No node can be added or
discarded, no link made, and the graph not configured again. No node is given options or set up
any more, whether it has failed since or not. -/
theorem Reachable.topology_frozen {before : Graph σ} (reachable : before.Reachable)
    (configures : before.configure = .ok g) (calls : List Call) :
    let last := calls.foldl after g
    last.topology = g.topology ∧ last.nodeCount = g.nodeCount ∧ last.configured ∧
    (∀ kind, last.allocate kind = .error .alreadyConfigured) ∧
    (∀ id, last.discard id = .error .alreadyConfigured) ∧
    (∀ source output target input,
      last.link source output target input = .error .alreadyConfigured) ∧
    last.configure = .error .alreadyConfigured ∧
    ∀ id n, last.find id = .ok n →
      (n.life = .initialized ∨ n.life = .failed) ∧
      (∀ key value, n.setOption key value = .error (.setOption n.life)) ∧
      (∀ key value, last.setOption id key value =
        .error (.invalidOperation id (.setOption n.life))) ∧
      last.initializeNode id =
        (last, .error (.invalidOperation id (.initialization n.life))) := by
  intro last
  have ready := (reachable.assembled (unconfigured_of_configure configures)).ready configures
  have ran : g.Ran := ⟨g, [], ready, .refl g⟩
  obtain ⟨es, run⟩ := ran.exists_runs_calls calls
  have configured : last.configured := (ran.runs run).configured
  have same := ready.topology_eq run
  refine ⟨same, ?_, configured, ?_, ?_, ?_, ?_, ?_⟩
  · rw [nodeCount_eq, nodeCount_eq, same]
  · intro kind
    exact if_pos configured
  · intro id
    simp only [discard, configured]
    rfl
  · intro source output target input
    simp only [link, configured]
    rfl
  · exact if_pos configured
  · intro id n found
    obtain ⟨_, there, live⟩ := find_eq_ok_iff.1 found
    have other := (ran.runs run).life_ne there live
    have refused : ∀ key value, n.setOption key value = .error (.setOption n.life) :=
      fun key value => if_neg other
    refine ⟨?_, refused, fun key value => ?_, ?_⟩
    · cases life : n.life with
      | allocated => exact absurd life other
      | initialized => exact .inl rfl
      | failed => exact .inr rfl
      | discarded => simp [Node.isLive, life] at live
    · simp only [Graph.setOption, found, ok_bind, refused]
      rfl
    · simp only [initializeNode, found, if_neg other]

/-- The two pipelines of which one is broken, linked but not yet configured. -/
def linkedBroken : Graph (BuiltIn ⊕ Script) := (twoPipelines.take 10).foldl after blankOrBroken

theorem exists_configure_linkedBroken : ∃ g, linkedBroken.configure = .ok g := by
  have granted : linkedBroken.configure.toOption.isSome := by decide +kernel
  obtain ⟨g, configures⟩ := Option.isSome_iff_exists.1 granted
  cases outcome : linkedBroken.configure with
  | ok h => exact ⟨h, rfl⟩
  | error e => simp [outcome, Except.toOption] at configures

/-- The broken source has failed since the graph was configured. Its options cannot be set, no node
comes in, and the topology is what it was. -/
theorem frozen_of_broken :
    ∃ g, linkedBroken.configure = .ok g ∧ failedBroken.topology = g.topology ∧
      failedBroken.allocate "anull" = .error .alreadyConfigured ∧
      failedBroken.setOption ⟨⟨0⟩, 0⟩ "gain" "1" =
        .error (.invalidOperation ⟨⟨0⟩, 0⟩ (.setOption .failed)) := by
  have created : Graph.create ⟨0⟩ blankOrBroken.registry .default = .ok blankOrBroken := by rfl
  have reachable : linkedBroken.Reachable := (Reachable.created created).calls _
  obtain ⟨g, configures⟩ := exists_configure_linkedBroken
  have onto : linkedBroken.after .configure = g := by
    simp only [after, orSame, configures]
  let calls : List Call := twoPipelines.drop 11 ++ [.request (.pull ⟨⟨0⟩, 3⟩)]
  have last : calls.foldl after g = failedBroken := by
    rw [← pull_fedBroken, ← onto]
    rfl
  have failed : (failedBroken.find ⟨⟨0⟩, 0⟩).map Node.life = .ok .failed := by decide +kernel
  obtain ⟨n, found, life⟩ := map_eq_ok_iff.1 failed
  obtain ⟨same, _, _, closed, _, _, _, fixed⟩ := reachable.topology_frozen configures calls
  rw [last] at same closed fixed
  obtain ⟨_, _, refused, _⟩ := fixed ⟨⟨0⟩, 0⟩ n found
  exact ⟨g, configures, same, closed "anull", life ▸ refused "gain" "1"⟩

end Graph
end FrameFlow
