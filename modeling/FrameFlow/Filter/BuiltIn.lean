import FrameFlow.Filter.Head
import FrameFlow.Filter.Mixer
import FrameFlow.Filter.Sink
import FrameFlow.Filter.Volume

/-! The built-in filters as one type, and the list of their kinds. -/
namespace FrameFlow

inductive BuiltIn where
  | buffer (b : Buffer)
  | sink (s : Sink)
  | passThrough (p : PassThrough)
  | volume (v : Volume)
  | head (h : Head)
  | split (s : Split)
  | mixer (m : Mixer)
deriving DecidableEq, Repr

namespace BuiltIn

def inputs : BuiltIn → List Pad
  | buffer b => Filter.inputs b
  | sink s => Filter.inputs s
  | passThrough p => Filter.inputs p
  | volume v => Filter.inputs v
  | head h => Filter.inputs h
  | split s => Filter.inputs s
  | mixer m => Filter.inputs m

def outputs : BuiltIn → List Pad
  | buffer b => Filter.outputs b
  | sink s => Filter.outputs s
  | passThrough p => Filter.outputs p
  | volume v => Filter.outputs v
  | head h => Filter.outputs h
  | split s => Filter.outputs s
  | mixer m => Filter.outputs m

def setUp (values : Setting.Values) : BuiltIn → Except Fault BuiltIn
  | buffer b => (Filter.setUp b values).map buffer
  | sink s => (Filter.setUp s values).map sink
  | passThrough p => (Filter.setUp p values).map passThrough
  | volume v => (Filter.setUp v values).map volume
  | head h => (Filter.setUp h values).map head
  | split s => (Filter.setUp s values).map split
  | mixer m => (Filter.setUp m values).map mixer

def negotiate (formats : List Format) : BuiltIn → Except Fault (List Format)
  | buffer b => Filter.negotiate b formats
  | sink s => Filter.negotiate s formats
  | passThrough p => Filter.negotiate p formats
  | volume v => Filter.negotiate v formats
  | head h => Filter.negotiate h formats
  | split s => Filter.negotiate s formats
  | mixer m => Filter.negotiate m formats

def onFrame (pad : Nat) (frame : Frame) (tray : Tray) : BuiltIn → Turn BuiltIn
  | buffer b => (Filter.onFrame b pad frame tray).map buffer
  | sink s => (Filter.onFrame s pad frame tray).map sink
  | passThrough p => (Filter.onFrame p pad frame tray).map passThrough
  | volume v => (Filter.onFrame v pad frame tray).map volume
  | head h => (Filter.onFrame h pad frame tray).map head
  | split s => (Filter.onFrame s pad frame tray).map split
  | mixer m => (Filter.onFrame m pad frame tray).map mixer

def onEnd (pad : Nat) (tray : Tray) : BuiltIn → Turn BuiltIn
  | buffer b => (Filter.onEnd b pad tray).map buffer
  | sink s => (Filter.onEnd s pad tray).map sink
  | passThrough p => (Filter.onEnd p pad tray).map passThrough
  | volume v => (Filter.onEnd v pad tray).map volume
  | head h => (Filter.onEnd h pad tray).map head
  | split s => (Filter.onEnd s pad tray).map split
  | mixer m => (Filter.onEnd m pad tray).map mixer

def onFlush (tray : Tray) : BuiltIn → Turn BuiltIn
  | buffer b => (Filter.onFlush b tray).map buffer
  | sink s => (Filter.onFlush s tray).map sink
  | passThrough p => (Filter.onFlush p tray).map passThrough
  | volume v => (Filter.onFlush v tray).map volume
  | head h => (Filter.onFlush h tray).map head
  | split s => (Filter.onFlush s tray).map split
  | mixer m => (Filter.onFlush m tray).map mixer

/-- Only the sink hands out frames. -/
def take : BuiltIn → BuiltIn × Except Fault Offer
  | sink s => (sink s.take.1, s.take.2)
  | b => (b, .error (.unsupported "take_frame"))

def held : BuiltIn → Nat
  | sink s => Filter.held s
  | _ => 0

theorem held_take {b b' : BuiltIn} {frame : Frame} (h : b.take = (b', .ok (.ready frame))) :
    b'.held < b.held := by
  cases b with
  | sink s =>
    obtain ⟨rfl, hs⟩ := Prod.mk.inj h
    exact Sink.size_queue_take (Prod.ext rfl hs)
  | _ => simp [take] at h

instance : Filter BuiltIn where
  inputs := inputs
  outputs := outputs
  setUp b values := setUp values b
  negotiate b formats := negotiate formats b
  onFrame b pad frame tray := onFrame pad frame tray b
  onEnd b pad tray := onEnd pad tray b
  onFlush b tray := onFlush tray b
  take := take
  held := held
  held_take := held_take

end BuiltIn

/-- The kind of the same filters seen as states of a larger type. -/
def Kind.map {σ τ : Type} (f : σ → τ) (k : Kind σ) : Kind τ :=
  { k with initial := f k.initial }

def BuiltIn.kinds : List (Kind BuiltIn) := [
  Buffer.kind.map .buffer,
  Sink.kind.map .sink,
  PassThrough.kind.map .passThrough,
  Volume.kind.map .volume,
  Head.kind.map .head,
  Split.kind.map .split,
  Mixer.kind.map .mixer]

end FrameFlow
