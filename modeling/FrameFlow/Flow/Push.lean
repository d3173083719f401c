import FrameFlow.Graph.Basic

/-! Frames enter a configured graph at its sources. Nothing works on a frame before a sink is
pulled. -/
namespace FrameFlow.Graph

variable {σ : Type}

/-- The node of a configured graph that a handle stands for, if it has the role expected. -/
def running (g : Graph σ) (id : NodeId) (role : Role) : Except GraphError (Node σ) := do
  if !g.configured then throw .notConfigured
  let n ← g.find id
  if n.role ≠ role then throw (.invalidOperation id (.role n.kind.name n.role role))
  pure n

/-- The format of the link at the first output of a node. -/
def feedFormat (g : Graph σ) (n : Node σ) : Option Format := do
  let outlet ← n.outputs.head?
  let link ← outlet.link
  let l ← g.links[link]?
  l.format

/-- What stands against one more frame in the feed of a source. -/
def checkFeed (g : Graph σ) (n : Node σ) (frame : Frame) : Except PushRefusal Unit :=
  if g.options.feedCapacity ≤ n.feed.size then .error (.full g.options.feedCapacity)
  else match g.feedFormat n with
    | some f => if frame.format = f then .ok () else .error (.format frame.format f)
    | none => .ok ()

/-- Puts a frame into the feed of a source, or ends the feed. -/
def push (g : Graph σ) (id : NodeId) (frame : Option Frame) : Except GraphError (Graph σ) := do
  let n ← g.running id .source
  if n.feedEnded then throw (.push id .ended)
  match frame with
  | none => pure (g.setNode id.index { n with feedEnded := true })
  | some frame =>
    (g.checkFeed n frame).mapError (.push id)
    pure { g.setNode id.index { n with feed := n.feed.push frame } with
      stats := { g.stats with pushed := g.stats.pushed + 1 } }

end FrameFlow.Graph
