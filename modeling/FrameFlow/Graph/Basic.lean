import FrameFlow.Graph.Node
import FrameFlow.Registry

/-! Graphs of filters: an arena of nodes that only grows, an arena of links from output to
input pads, and, once the graph is configured, the order in which nodes are scheduled. -/
namespace FrameFlow

structure GraphOptions where
  /-- How many frames may wait in the feed of a source. -/
  feedCapacity : Nat
  /-- How many nodes and links the arenas make room for at the start. -/
  reserve : Nat
deriving DecidableEq, Repr

def GraphOptions.default : GraphOptions := ⟨64, 8⟩

structure Link where
  source : Endpoint
  target : Endpoint
  /-- Known once the graph is configured. -/
  format : Option Format
deriving DecidableEq, Repr

def Link.isSelf (l : Link) : Bool := l.source.node == l.target.node

structure Stats where
  pushed : Nat
  pulled : Nat
  steps : Nat
  dropped : Nat
deriving DecidableEq, Repr, Inhabited

structure Graph (σ : Type) where
  id : GraphId
  registry : Registry σ
  options : GraphOptions
  nodes : Array (Node σ)
  links : Array Link
  configured : Bool
  /-- Nodes in the order in which they get to work. -/
  schedule : List Nat
  stats : Stats

namespace Graph

variable {σ : Type}

/-- The room that a node takes in the arena. -/
def nodeBytes : Nat := 384

/-- The longest free stretch of an address space of 47 bits, in which the program itself lies two
thirds of the way up. -/
def freeBytes : Nat := 0x555555555555

/-- What one allocation may not ask for, whatever is free. -/
def allocationBytes : Nat := 0x8000000000000000

def create (id : GraphId) (registry : Registry σ) (options : GraphOptions) :
    Except GraphError (Graph σ) :=
  let bytes := nodeBytes * options.reserve
  if allocationBytes ≤ bytes then .error (.allocation .capacityOverflow)
  else if freeBytes ≤ bytes then .error (.allocation .outOfMemory)
  else .ok ⟨id, registry, options, #[], #[], false, [], ⟨0, 0, 0, 0⟩⟩

def handle (g : Graph σ) (index : Nat) : NodeId := ⟨g.id, index⟩

/-- The node that a handle stands for, unless it was discarded. -/
def node? (g : Graph σ) (id : NodeId) : Option (Node σ) :=
  if id.graph = g.id then g.nodes[id.index]?.filter Node.isLive else none

def find (g : Graph σ) (id : NodeId) : Except GraphError (Node σ) :=
  match g.node? id with
  | some n => .ok n
  | none => .error (.nodeNotFound id)

def setNode (g : Graph σ) (index : Nat) (n : Node σ) : Graph σ :=
  { g with nodes := g.nodes.setIfInBounds index n }

def isLiveAt (g : Graph σ) (index : Nat) : Bool := g.nodes[index]?.any Node.isLive

/-- The nodes that were not discarded, with their indices. -/
def live (g : Graph σ) : List (Nat × Node σ) :=
  g.nodes.toList.zipIdx.filterMap fun (n, i) => if n.isLive then some (i, n) else none

def liveIndices (g : Graph σ) : List Nat := g.live.map Prod.fst

def nodeCount (g : Graph σ) : Nat := g.live.length

def isEmpty (g : Graph σ) : Bool := g.live.isEmpty

def withRole (g : Graph σ) (role : Role) : List NodeId :=
  (g.live.filter fun (_, n) => n.role == role).map fun (i, _) => g.handle i

def sources (g : Graph σ) : List NodeId := g.withRole .source

def sinks (g : Graph σ) : List NodeId := g.withRole .sink

/-- Links that leave a node, with their numbers. -/
def linksFrom (g : Graph σ) (id : NodeId) : List (Nat × Link) :=
  if id.graph = g.id then
    (g.links.toList.zipIdx.filter fun (l, _) => l.source.node == id.index).map fun (l, i) => (i, l)
  else []

/-- Links that enter a node, with their numbers. -/
def linksTo (g : Graph σ) (id : NodeId) : List (Nat × Link) :=
  if id.graph = g.id then
    (g.links.toList.zipIdx.filter fun (l, _) => l.target.node == id.index).map fun (l, i) => (i, l)
  else []

/-- Adds a node of a registered kind and returns its handle. -/
def allocate (g : Graph σ) (kind : String) : Except GraphError (NodeId × Graph σ) :=
  if g.configured then .error .alreadyConfigured
  else match g.registry.get? kind with
    | none => .error (.unknownKind kind)
    | some k => .ok (g.handle g.nodes.size, { g with nodes := g.nodes.push (.ofKind k) })

def setOption (g : Graph σ) (id : NodeId) (key value : String) : Except GraphError (Graph σ) := do
  let n ← g.find id
  match n.setOption key value with
  | .ok n => pure (g.setNode id.index n)
  | .error misuse => throw (.invalidOperation id misuse)

/-- Sets up a node. Where the filter refuses its options the node is left failed, so the graph
comes back in either case. -/
def initializeNode [Filter σ] (g : Graph σ) (id : NodeId) : Graph σ × Except GraphError Unit :=
  match g.find id with
  | .error e => (g, .error e)
  | .ok n =>
    if n.life = .allocated then
      match n.apply with
      | .ok n => (g.setNode id.index n, .ok ())
      | .error fault =>
        (g.setNode id.index n.fail, .error (.initialization id n.kind.name fault))
    else (g, .error (.invalidOperation id (.initialization n.life)))

def discard (g : Graph σ) (id : NodeId) : Except GraphError (Graph σ) := do
  if g.configured then throw .alreadyConfigured
  let n ← g.find id
  match n.discard with
  | .ok n => pure (g.setNode id.index n)
  | .error misuse => throw (.invalidOperation id misuse)

/-- Notes a link at one of its ends. -/
def attach (g : Graph σ) (direction : Direction) (e : Endpoint) (link : Nat) : Graph σ :=
  { g with nodes := g.nodes.modify e.node fun n =>
      match direction with
      | .input => { n with inputs := n.inputs.modify e.pad fun p => { p with link := some link } }
      | .output =>
        { n with outputs := n.outputs.modify e.pad fun p => { p with link := some link } } }

def checkRange (n : Node σ) (id : NodeId) (direction : Direction) (pad : Nat) :
    Except LinkError Unit :=
  if pad < n.padCount direction then .ok ()
  else .error (.padOutOfRange id direction pad (n.padCount direction))

def checkFree (n : Node σ) (id : NodeId) (direction : Direction) (pad : Nat) :
    Except LinkError Unit :=
  if (n.link? direction pad).isNone then .ok () else .error (.padOccupied id direction pad)

def checkInitialized (n : Node σ) (id : NodeId) : Except LinkError Unit :=
  if n.isInitialized then .ok () else .error (.notInitialized id)

/-- What stands against a link between two pads. -/
def checkLink (source target : Node σ) (sourceId : NodeId) (output : Nat) (targetId : NodeId)
    (input : Nat) : Except LinkError Unit := do
  checkInitialized source sourceId
  checkInitialized target targetId
  checkRange source sourceId .output output
  checkRange target targetId .input input
  checkFree source sourceId .output output
  checkFree target targetId .input input

/-- Links an output pad to an input pad and returns the number of the link. -/
def link (g : Graph σ) (sourceId : NodeId) (output : Nat) (targetId : NodeId) (input : Nat) :
    Except GraphError (Nat × Graph σ) := do
  if g.configured then throw .alreadyConfigured
  let source ← g.find sourceId
  let target ← g.find targetId
  (checkLink source target sourceId output targetId input).mapError .link
  let number := g.links.size
  let start : Endpoint := ⟨sourceId.index, output⟩
  let finish : Endpoint := ⟨targetId.index, input⟩
  let grown : Graph σ := { g with links := g.links.push ⟨start, finish, none⟩ }
  pure (number, (grown.attach .output start number).attach .input finish number)

end Graph
end FrameFlow
