import FrameFlow.Diagnosis.Report
import FrameFlow.Graph.Topology

/-! Stages of the examination of a graph: whether its nodes are set up, whether its pads are
linked, and whether frames can reach every node. A stage that finds a defect gives no
warnings. -/
namespace FrameFlow

structure Stage (σ : Type) where
  name : String
  examine : Graph σ → Except (List Defect) (List Warning)

/-- Warnings count only where nothing is wrong. -/
def verdict (defects : List Defect) (warnings : List Warning) :
    Except (List Defect) (List Warning) :=
  if defects.isEmpty then .ok warnings else .error defects

namespace Graph

variable {σ : Type}

def initializationDefects (g : Graph σ) : List Defect :=
  (g.live.filter fun (_, n) => !n.isInitialized).map fun (i, n) =>
    match n.life with
    | .failed => .initializationFailed (g.handle i)
    | _ => .notInitialized (g.handle i)

/-- Pads of one side of a node that carry no link. -/
def danglingPads (n : Node σ) (direction : Direction) : List Nat :=
  (List.range (n.padCount direction)).filter fun pad => (n.link? direction pad).isNone

def danglingDefects (g : Graph σ) : List Defect :=
  (g.live.filter fun (_, n) => n.isInitialized).flatMap fun (i, n) =>
    (danglingPads n .input).map (.danglingInput (g.handle i) n.kind.name) ++
      (danglingPads n .output).map (.danglingOutput (g.handle i) n.kind.name)

/-- Both ends of every link in link order, the source first. -/
def linkEnds (g : Graph σ) : List (Direction × Endpoint) :=
  g.links.toList.flatMap fun l => [(.output, l.source), (.input, l.target)]

/-- Ends that two or more links share, each at its first link. -/
def sharedEnds : List (Direction × Endpoint) → List (Direction × Endpoint) →
    List (Direction × Endpoint)
  | _, [] => []
  | before, e :: later =>
    if later.contains e && !before.contains e then e :: sharedEnds (e :: before) later
    else sharedEnds (e :: before) later

def duplicateDefects (g : Graph σ) : List Defect :=
  (sharedEnds [] g.linkEnds).map fun (direction, e) =>
    .duplicateEndpoint (g.handle e.node) direction e.pad

def cycleDefects (g : Graph σ) : List Defect :=
  g.cycles.map fun nodes => .cycle (nodes.map g.handle)

def reachDefects (g : Graph σ) : List Defect :=
  (if g.roots.isEmpty then [.noSources] else []) ++
    g.unreachable.map fun i => .unreachable (g.handle i)

/-- Nothing can be pushed into a root that is not a source. -/
def rootWarnings (g : Graph σ) : List Warning :=
  (g.live.filter fun (i, n) => g.roots.contains i && n.role != .source).map fun (i, n) =>
    ⟨s!"Root {nodeName i} ({n.kind.name}) is not a source", some (g.handle i),
      some "Frames can only be pushed into 'buffer' nodes"⟩

def partWarnings (g : Graph σ) : List Warning :=
  if 1 < g.subgraphCount then
    [⟨s!"Graph contains {g.subgraphCount} disconnected subgraphs", none, none⟩]
  else []

def sinkWarnings (g : Graph σ) : List Warning :=
  if g.sinks.isEmpty then
    [⟨"Graph has no sink node", none, some "Add a 'buffersink' to pull frames out"⟩]
  else []

end Graph

namespace Stage

variable {σ : Type}

def initialization : Stage σ where
  name := "Initialization Validation"
  examine g := verdict g.initializationDefects []

def linkage : Stage σ where
  name := "Structural Validation"
  examine g :=
    if g.isEmpty then
      .ok [⟨"Graph is empty", none, some "Allocate a source, a sink and link them"⟩]
    else verdict (g.danglingDefects ++ g.duplicateDefects) g.sinkWarnings

def topology : Stage σ where
  name := "Topology Validation"
  examine g :=
    if g.isEmpty then .ok []
    else verdict (g.cycleDefects ++ g.reachDefects) (g.rootWarnings ++ g.partWarnings)

/-- All stages in the order in which configuration goes through them. -/
def all : List (Stage σ) := [initialization, linkage, topology]

end Stage
end FrameFlow
