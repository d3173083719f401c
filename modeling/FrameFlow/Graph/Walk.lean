import FrameFlow.Graph.Trail

/-! Depth-first walks over a directed graph that is given by the list of next nodes of each
node. A walk records the nodes it has seen and those it has left behind, newest first; since
every step down marks a new node, the number of nodes bounds the depth. -/
namespace FrameFlow

structure Walk where
  /-- Nodes in reverse order of arrival. -/
  seen : Trail
  /-- Nodes in reverse order of departure. -/
  left : List Nat
deriving DecidableEq, Repr

namespace Walk

def start : Walk := ⟨.empty, []⟩

/-- Visits a node, then everything new that it leads to, then leaves it. -/
def visit (next : Nat → List Nat) : Nat → Walk → Nat → Walk
  | 0, w, _ => w
  | depth + 1, w, i =>
    if i ∈ w.seen then w
    else
      let below := (next i).foldl (visit next depth) { w with seen := w.seen.push i }
      { below with left := i :: below.left }

/-- Visits several nodes one after the other. -/
def visitAll (next : Nat → List Nat) (depth : Nat) (roots : List Nat) : Walk :=
  roots.foldl (visit next depth) start

end Walk

/-- The nodes that a node leads to, itself first, in the order in which a walk arrives. -/
def reachedFrom (next : Nat → List Nat) (depth i : Nat) : List Nat :=
  (Walk.visitAll next depth [i]).seen.toList.reverse

end FrameFlow
