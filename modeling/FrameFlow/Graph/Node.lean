import FrameFlow.Filter.Basic
import FrameFlow.Graph.Error
import FrameFlow.Queue

/-! Nodes of a graph: a filter with its options, its inlets and outlets, and the frames that wait
for it. -/
namespace FrameFlow

structure Inlet where
  pad : Pad
  link : Option Nat
  /-- Frames that came over the link and were not handled yet. -/
  queue : Queue Frame
  /-- Whether the link has ended. -/
  ended : Bool
  /-- Whether the filter was told so. -/
  told : Bool
deriving DecidableEq, Repr

structure Outlet where
  pad : Pad
  link : Option Nat
  closed : Bool
deriving DecidableEq, Repr

def Inlet.unlinked (pad : Pad) : Inlet := ⟨pad, none, .empty, false, false⟩

def Outlet.unlinked (pad : Pad) : Outlet := ⟨pad, none, false⟩

structure Node (σ : Type) where
  kind : Kind σ
  filter : σ
  life : Life
  /-- Options as they were given, until the node is set up. -/
  staged : Table String
  /-- Options as the filter was set up with. -/
  applied : Setting.Values
  inputs : List Inlet
  outputs : List Outlet
  /-- Frames pushed into a source and not handled yet. -/
  feed : Queue Frame
  feedEnded : Bool
  /-- Whether a sink has been pulled. -/
  hasSlot : Bool
  /-- Whether a sink has handed out its last frame. -/
  exhausted : Bool
  flushed : Bool

namespace Node

variable {σ : Type}

def ofKind (kind : Kind σ) : Node σ where
  kind := kind
  filter := kind.initial
  life := .allocated
  staged := .empty
  applied := .empty
  inputs := []
  outputs := []
  feed := .empty
  feedEnded := false
  hasSlot := false
  exhausted := false
  flushed := false

def role (n : Node σ) : Role := n.kind.role

def isLive (n : Node σ) : Bool := n.life != .discarded

def isInitialized (n : Node σ) : Bool := n.life == .initialized

/-- The pad of an inlet or outlet. -/
def pad? (n : Node σ) (direction : Direction) (pad : Nat) : Option Pad :=
  match direction with
  | .input => n.inputs[pad]?.map Inlet.pad
  | .output => n.outputs[pad]?.map Outlet.pad

/-- The link at an inlet or outlet. -/
def link? (n : Node σ) (direction : Direction) (pad : Nat) : Option Nat :=
  match direction with
  | .input => n.inputs[pad]?.bind Inlet.link
  | .output => n.outputs[pad]?.bind Outlet.link

def padCount (n : Node σ) : Direction → Nat
  | .input => n.inputs.length
  | .output => n.outputs.length

def queued (n : Node σ) : Nat :=
  n.feed.size + n.inputs.foldr (fun p total => p.queue.size + total) 0

def setOption (n : Node σ) (key value : String) : Except Misuse (Node σ) :=
  if n.life = .allocated then .ok { n with staged := n.staged.put key value }
  else .error (.setOption n.life)

/-- Sets up the filter with the staged options and makes an inlet or outlet for each pad. -/
def apply [Filter σ] (n : Node σ) : Except Fault (Node σ) := do
  let values ← n.kind.options.resolve n.staged
  let filter ← Filter.setUp n.filter values
  pure { n with
    filter
    life := .initialized
    staged := .empty
    applied := values
    inputs := (Filter.inputs filter).map .unlinked
    outputs := (Filter.outputs filter).map .unlinked }

/-- The staged options are used up also where this fails; the node is then of no more use. -/
def fail (n : Node σ) : Node σ := { n with staged := .empty, life := .failed }

/-- What is left of a node that was given up before it was linked. -/
def discard (n : Node σ) : Except Misuse (Node σ) :=
  match n.life with
  | .allocated | .failed => .ok { n with
      life := .discarded
      staged := .empty
      applied := .empty
      inputs := []
      outputs := []
      feed := .empty
      hasSlot := false }
  | life => .error (.discard life)

/-- The formats of the outputs, given those of the inputs. A discarded node has no filter that
could answer. -/
def negotiate [Filter σ] (n : Node σ) (formats : List Format) : Except Fault (List Format) :=
  if n.isLive then Filter.negotiate n.filter formats else forward 0 formats

end Node
end FrameFlow
