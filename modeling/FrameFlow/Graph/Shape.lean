import FrameFlow.Graph.Adjacency
import FrameFlow.Graph.Walk

/-! Directed graphs of numbered nodes: which nodes a node leads to, in which order nodes can
work, and which nodes lie on cycles. -/
namespace FrameFlow

/-- Nodes in ascending order, and edges from source to target in the order of their age. The
edges stand by source and by target as well. -/
structure Shape where
  nodes : List Nat
  edges : List (Nat × Nat)
  forward : Adjacency := .ofEdges edges
  backward : Adjacency := .ofEdges (edges.map Prod.swap)
  forward_eq : forward = .ofEdges edges := by rfl
  backward_eq : backward = .ofEdges (edges.map Prod.swap) := by rfl
deriving DecidableEq, Repr

namespace Shape

/-- Targets of the edges that leave a node, oldest edge first. -/
def successors (s : Shape) (i : Nat) : List Nat := s.forward.next i

/-- Sources of the edges that enter a node, oldest edge first. -/
def predecessors (s : Shape) (i : Nat) : List Nat := s.backward.next i

theorem successors_eq (s : Shape) (i : Nat) :
    s.successors i = (s.edges.filter fun e => e.1 == i).map Prod.snd := by
  rw [successors, s.forward_eq, Adjacency.next_ofEdges]

theorem predecessors_eq (s : Shape) (i : Nat) :
    s.predecessors i = (s.edges.filter fun e => e.2 == i).map Prod.fst := by
  rw [predecessors, s.backward_eq, Adjacency.next_ofEdges, List.filter_map, List.map_map]
  rfl

def neighbours (s : Shape) (i : Nat) : List Nat := s.successors i ++ s.predecessors i

/-- No walk goes deeper than there are nodes. -/
def depth (s : Shape) : Nat := s.nodes.length

/-- Nodes that a node leads to, without itself, in depth-first order. -/
def descendants (s : Shape) (i : Nat) : List Nat :=
  if s.nodes.contains i then (reachedFrom s.successors s.depth i).tail else []

def ancestors (s : Shape) (i : Nat) : List Nat :=
  if s.nodes.contains i then (reachedFrom s.predecessors s.depth i).tail else []

/-- Nodes to which a path of at least one edge leads. -/
def beyond (s : Shape) (i : Nat) : Trail :=
  (Walk.visitAll s.successors s.depth (s.successors i)).seen

/-- Nodes from which a path of at least one edge leads here. -/
def before (s : Shape) (i : Nat) : Trail :=
  (Walk.visitAll s.predecessors s.depth (s.predecessors i)).seen

def hasCycle (s : Shape) : Bool := s.nodes.any fun i => (s.beyond i).contains i

/-- The nodes on a common cycle with a node, itself included. -/
def component (s : Shape) (i : Nat) : List Nat :=
  let beyond := s.beyond i
  let before := s.before i
  s.nodes.filter fun j => j == i || (beyond.contains j && before.contains j)

/-- The components of nodes in order of departure, each at its last node. -/
def componentsOf (s : Shape) : List Nat → List (List Nat)
  | [] => []
  | i :: later =>
    let nodes := s.component i
    if nodes.all fun j => !later.contains j then nodes :: s.componentsOf later
    else s.componentsOf later

/-- Whether a component has a cycle in it: a single node has one where it feeds itself. -/
def isCyclic (s : Shape) : List Nat → Bool
  | [i] => (s.successors i).contains i
  | _ => true

/-- The sets of nodes that lie on a common cycle. A set comes up when a walk that follows the
newest edge first leaves it. -/
def cycles (s : Shape) : List (List Nat) :=
  let walk := Walk.visitAll (fun i => (s.successors i).reverse) s.depth s.nodes
  (s.componentsOf walk.left.reverse).filter s.isCyclic

/-- Whether every edge leads from an earlier to a later node of a list. -/
def respects (edges : List (Nat × Nat)) : List Nat → Bool
  | [] => true
  | i :: later =>
    edges.all (fun e => e.2 != i || !(i :: later).contains e.1) && respects edges later

/-- All nodes, each after those that lead to it, or else the nodes on cycles. -/
def topologicalOrder (s : Shape) : Except (List Nat) (List Nat) :=
  let order := (Walk.visitAll s.successors s.depth s.nodes).left
  if respects s.edges order then .ok order else .error s.cycles.flatten

/-- The nodes that some of the given nodes lead to, those included. -/
def reached (s : Shape) (roots : List Nat) : Trail :=
  (Walk.visitAll s.successors s.depth roots).seen

/-- The first node of each part of the graph that edges join in either direction. -/
def partsFrom (s : Shape) (w : Walk) : List Nat → List Nat
  | [] => []
  | i :: rest =>
    if i ∈ w.seen then s.partsFrom w rest
    else i :: s.partsFrom (Walk.visit s.neighbours s.depth w i) rest

def parts (s : Shape) : List Nat := s.partsFrom .start s.nodes

end Shape
end FrameFlow
