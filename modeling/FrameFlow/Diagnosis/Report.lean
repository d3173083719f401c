import FrameFlow.Graph.Handle

/-! Reports on a graph: defects, which forbid that it is configured, and warnings, which do
not. -/
namespace FrameFlow

inductive Defect where
  | notInitialized (node : NodeId)
  | initializationFailed (node : NodeId)
  | danglingInput (node : NodeId) (kind : String) (pad : Nat)
  | danglingOutput (node : NodeId) (kind : String) (pad : Nat)
  | duplicateEndpoint (node : NodeId) (direction : Direction) (pad : Nat)
  | cycle (nodes : List NodeId)
  | unreachable (node : NodeId)
  | noSources
  | formatMismatch (node : NodeId) (reason : String)
  | other (text : String)
deriving DecidableEq, Repr

namespace Defect

def message : Defect → String
  | notInitialized node => s!"Node {node.name} was never initialized"
  | initializationFailed node => s!"Node {node.name} failed to initialize and must be discarded"
  | danglingInput node kind pad => s!"Input pad {pad} on {node.name} ({kind}) is not linked"
  | danglingOutput node kind pad => s!"Output pad {pad} on {node.name} ({kind}) is not linked"
  | duplicateEndpoint node direction pad =>
    s!"{direction.name} pad {pad} on {node.name} is used by more than one link"
  | cycle nodes =>
    "Graph contains a cycle involving nodes: " ++ Text.bracketed (nodes.map NodeId.describe)
  | unreachable node => s!"Node {node.name} is not reachable from any source"
  | noSources => "Graph has no source nodes"
  | formatMismatch node reason => s!"Format negotiation failed on {node.name}: {reason}"
  | other text => text

/-- A fatal defect ends the examination of a graph. -/
def isFatal : Defect → Bool
  | cycle _ => true
  | noSources => true
  | _ => false

def fix? : Defect → Option String
  | notInitialized node => some s!"Call initialize() on {node.name} before configuring"
  | initializationFailed node =>
    some s!"Call discard_node() on {node.name} and allocate a new node"
  | danglingInput _ _ pad => some s!"Link an output pad to input pad {pad}"
  | danglingOutput _ _ pad => some s!"Link output pad {pad} to a downstream node or a sink"
  | cycle _ => some "Remove the link that feeds a node back into itself"
  | noSources => some "Add a 'buffer' source node"
  | _ => none

def nodes : Defect → List NodeId
  | notInitialized node => [node]
  | initializationFailed node => [node]
  | danglingInput node _ _ => [node]
  | danglingOutput node _ _ => [node]
  | duplicateEndpoint node _ _ => [node]
  | cycle nodes => nodes
  | unreachable node => [node]
  | noSources => []
  | formatMismatch node _ => [node]
  | other _ => []

end Defect

structure Warning where
  message : String
  node : Option NodeId
  suggestion : Option String
deriving DecidableEq, Repr

structure Report where
  defects : List Defect
  warnings : List Warning
deriving DecidableEq, Repr

namespace Report

def empty : Report := ⟨[], []⟩

def isValid (r : Report) : Bool := r.defects.isEmpty

def addDefect (r : Report) (d : Defect) : Report := { r with defects := r.defects ++ [d] }

def addWarnings (r : Report) (ws : List Warning) : Report :=
  { r with warnings := r.warnings ++ ws }

def summary (r : Report) : String :=
  match r.defects with
  | first :: _ => s!"{r.defects.length} error(s), first: {first.message}"
  | [] =>
    if r.warnings.isEmpty then "graph is valid"
    else s!"graph is valid with {r.warnings.length} warning(s)"

/-- One numbered entry for each defect, with its fix on a line of its own. -/
def details (r : Report) : List String :=
  r.defects.zipIdx.map fun (d, i) =>
    let entry := s!"{i + 1}. {d.message}"
    match d.fix? with
    | some fix => entry ++ "\n   -> " ++ fix
    | none => entry

end Report
end FrameFlow
