import FrameFlow.Blueprint.Basic

/-! Building a graph from a blueprint: nodes are allocated and set up in order, then linked. The
first thing that goes wrong ends the building. -/
namespace FrameFlow

/-- A graph whose nodes have names. -/
structure Built (σ : Type) where
  graph : Graph σ
  names : Table NodeId

namespace Blueprint

variable {σ : Type} [Filter σ]

def stageOptions (g : Graph σ) (id : NodeId) (options : Table Literal) :
    Except GraphError (Graph σ) :=
  options.entries.foldlM (fun g (key, value) => g.setOption id key value.render) g

def addTo (b : Built σ) (n : Node) : Except GraphError (Built σ) := do
  if b.names.contains n.name then throw (.description (.repeatedName n.name))
  let (id, g) ← b.graph.allocate n.kind
  let g ← stageOptions g id n.options
  match g.initializeNode id with
  | (_, .error e) => throw e
  | (g, .ok ()) => pure ⟨g, b.names.put n.name id⟩

def lookUp (names : Table NodeId) (name : String) : Except GraphError NodeId :=
  match names.get? name with
  | some id => .ok id
  | none => .error (.description (.unknownName name))

def linkIn (b : Built σ) (l : Link) : Except GraphError (Built σ) := do
  let source ← lookUp b.names l.source
  let target ← lookUp b.names l.target
  let (_, g) ← b.graph.link source l.output target l.input
  pure { b with graph := g }

def build (b : Blueprint) (id : GraphId) (registry : Registry σ) :
    Except GraphError (Built σ) := do
  let g ← Graph.create id registry b.options
  let withNodes ← b.nodes.foldlM addTo ⟨g, .empty⟩
  b.links.foldlM linkIn withNodes

end Blueprint
end FrameFlow
