import FrameFlow.Filter.Pad
import FrameFlow.Text.Printable

/-! Handles by which callers name the nodes of a graph, and the end points of links. -/
namespace FrameFlow

structure GraphId where
  number : Nat
deriving DecidableEq, Repr, Inhabited

/-- Thirty-two hexadecimal digits in five groups. -/
def GraphId.render (g : GraphId) : String :=
  let digits := (Text.hex g.number).toList
  let padded := List.replicate (32 - digits.length) '0' ++ digits
  let group (start count : Nat) := String.ofList ((padded.drop start).take count)
  "-".intercalate [group 0 8, group 8 4, group 12 4, group 16 4, group 20 12]

structure NodeId where
  graph : GraphId
  index : Nat
deriving DecidableEq, Repr, Inhabited

def nodeName (index : Nat) : String := s!"node#{index}"

def linkName (index : Nat) : String := s!"link#{index}"

def NodeId.name (id : NodeId) : String := nodeName id.index

def NodeId.describe (id : NodeId) : String :=
  s!"NodeId \x7b graph: GraphId({id.graph.render}), index: {id.index} \x7d"

/-- A pad of the node with some index. -/
structure Endpoint where
  node : Nat
  pad : Nat
deriving DecidableEq, Repr, Inhabited

def Endpoint.name (e : Endpoint) : String := s!"{nodeName e.node}:{e.pad}"

end FrameFlow
