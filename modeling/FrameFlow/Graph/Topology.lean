import FrameFlow.Graph.Basic
import FrameFlow.Graph.Shape

/-! The shape of a graph of filters: who feeds whom. Discarded nodes have no part in it. -/
namespace FrameFlow.Graph

variable {σ : Type}

/-- The live nodes and the links between them. -/
def shape (g : Graph σ) : Shape :=
  let within := g.links.toList.filter fun l => g.isLiveAt l.source.node && g.isLiveAt l.target.node
  { nodes := g.liveIndices, edges := within.map fun l => (l.source.node, l.target.node) }

/-- Live nodes that a node leads to, without itself, in depth-first order. -/
def descendants (g : Graph σ) (i : Nat) : List Nat := g.shape.descendants i

def ancestors (g : Graph σ) (i : Nat) : List Nat := g.shape.ancestors i

def hasCycle (g : Graph σ) : Bool := g.shape.hasCycle

def cycles (g : Graph σ) : List (List Nat) := g.shape.cycles

/-- Live nodes, each after all that feed it, or else the nodes on cycles. -/
def topologicalOrder (g : Graph σ) : Except (List Nat) (List Nat) := g.shape.topologicalOrder

/-- Initialized nodes without inputs. -/
def roots (g : Graph σ) : List Nat :=
  (g.live.filter fun (_, n) => n.isInitialized && n.inputs.isEmpty).map Prod.fst

/-- Initialized nodes that no root leads to. -/
def unreachable (g : Graph σ) : List Nat :=
  let reached := g.shape.reached g.roots
  (g.live.filter fun (i, n) => n.isInitialized && !reached.contains i).map Prod.fst

/-- How many parts a graph falls into. -/
def subgraphCount (g : Graph σ) : Nat := g.shape.parts.length

end FrameFlow.Graph
