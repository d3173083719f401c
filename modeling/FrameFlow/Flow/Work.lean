import FrameFlow.Graph.Node

/-! The work that waits at a node, one unit at a time. A source works off its feed and is then
flushed. Any other node takes the queued frames of its inputs, then their ends, and is flushed
once it was told of all of them. -/
namespace FrameFlow

inductive Work where
  | frame (pad : Nat) (frame : Frame)
  | endOfInput (pad : Nat)
  | flush
deriving DecidableEq, Repr

namespace Inlet

def hasWork (p : Inlet) : Bool := !p.queue.isEmpty || (p.ended && !p.told)

/-- The first frame of the first inlet that has one. -/
def takeFrame : List Inlet → Option (Nat × Frame × List Inlet)
  | [] => none
  | p :: rest =>
    match p.queue.pop? with
    | some (frame, queue) => some (0, frame, { p with queue } :: rest)
    | none => (takeFrame rest).map fun (pad, frame, inlets) => (pad + 1, frame, p :: inlets)

/-- The first inlet that ended and was not told. -/
def takeEnd : List Inlet → Option (Nat × List Inlet)
  | [] => none
  | p :: rest =>
    if p.ended && !p.told then some (0, { p with told := true } :: rest)
    else (takeEnd rest).map fun (pad, inlets) => (pad + 1, p :: inlets)

end Inlet

namespace Node

variable {σ : Type}

def readyToFlush (n : Node σ) : Bool :=
  !n.flushed && !n.inputs.isEmpty && n.inputs.all Inlet.told

def hasWork (n : Node σ) : Bool :=
  match n.role with
  | .source => !n.feed.isEmpty || (n.feedEnded && !n.flushed)
  | _ => n.inputs.any Inlet.hasWork || n.readyToFlush

def takeSourceWork (n : Node σ) : Option (Work × Node σ) :=
  match n.feed.pop? with
  | some (frame, feed) => some (.frame 0 frame, { n with feed })
  | none => if n.feedEnded && !n.flushed then some (.flush, { n with flushed := true }) else none

def takeInputWork (n : Node σ) : Option (Work × Node σ) :=
  match Inlet.takeFrame n.inputs with
  | some (pad, frame, inputs) => some (.frame pad frame, { n with inputs })
  | none =>
    match Inlet.takeEnd n.inputs with
    | some (pad, inputs) => some (.endOfInput pad, { n with inputs })
    | none => if n.readyToFlush then some (.flush, { n with flushed := true }) else none

/-- The next unit of work, and the node without it. -/
def takeWork (n : Node σ) : Option (Work × Node σ) :=
  match n.role with
  | .source => n.takeSourceWork
  | _ => n.takeInputWork

/-- Units of work that wait here or may still come up without another frame. -/
def pending (n : Node σ) : Nat :=
  n.queued + n.inputs.countP (!·.told) + if n.flushed then 0 else 1

/-- Whether as much work waits at one node as at another. Nodes stored at one place are the same
node, and then nothing is counted. -/
def samePending (a b : Node σ) : Bool :=
  withPtrEq a b (fun _ => a.pending == b.pending) (by rintro rfl; exact beq_self_eq_true _)

theorem samePending_iff {a b : Node σ} : a.samePending b ↔ a.pending = b.pending := by
  simp [samePending, withPtrEq]

end Node
end FrameFlow
