import FrameFlow.Filter.Pad
import FrameFlow.Filter.Tray
import FrameFlow.Setting.Schema

/-! Filters. A filter is a state with the calls that the graph makes on it: setting up from
options, agreeing on formats, handling frames and ends of input, and handing out frames. A
kind is what the graph knows of a filter before it is set up. -/
namespace FrameFlow

/-- What a call leaves behind: the next state and the tray, also where the call fails. -/
structure Turn (σ : Type) where
  state : σ
  tray : Tray
  fault : Option Fault

namespace Turn

variable {σ τ : Type}

def done (state : σ) (tray : Tray) : Turn σ := ⟨state, tray, none⟩

def fail (state : σ) (tray : Tray) (fault : Fault) : Turn σ := ⟨state, tray, some fault⟩

def map (f : σ → τ) (t : Turn σ) : Turn τ := ⟨f t.state, t.tray, t.fault⟩

/-- Emits one frame and ends the call. -/
def emit (state : σ) (tray : Tray) (pad : Nat) (frame : Frame) : Turn σ :=
  match tray.emit pad frame with
  | .ok tray => done state tray
  | .error fault => fail state tray fault

end Turn

/-- The answer of a sink that is asked for a frame. -/
inductive Offer where
  | ready (frame : Frame)
  | again
  | ended
deriving DecidableEq, Repr

/-- Every output carries the format of the first input. -/
def forward (outputs : Nat) (inputs : List Format) : Except Fault (List Format) :=
  match inputs with
  | f :: _ => .ok (List.replicate outputs f)
  | [] => .error (.unsupportedFormat "no input format to forward")

/-- States of type `σ` are filters. Only sinks answer `take`; they hold finitely many frames,
so the number held falls whenever one is handed out. -/
class Filter (σ : Type) where
  inputs : σ → List Pad
  outputs : σ → List Pad
  setUp : σ → Setting.Values → Except Fault σ := fun s _ => .ok s
  negotiate : σ → List Format → Except Fault (List Format) :=
    fun s => forward (outputs s).length
  onFrame : σ → Nat → Frame → Tray → Turn σ
  onEnd : σ → Nat → Tray → Turn σ := fun s _ tray => .done s tray
  onFlush : σ → Tray → Turn σ := fun s tray => .done s tray
  take : σ → σ × Except Fault Offer := fun s => (s, .error (.unsupported "take_frame"))
  held : σ → Nat := fun _ => 0
  held_take : ∀ {s s' : σ} {frame : Frame},
      take s = (s', .ok (.ready frame)) → held s' < held s := by
    simp

/-- A kind of filter and the state in which its filters start. The pads are those of the
kind: a filter may have others once it is set up. -/
structure Kind (σ : Type) where
  name : String
  description : String
  role : Role
  inputs : List Pad
  outputs : List Pad
  options : Setting.Schema
  /-- Whether options decide how many input or output pads there are. -/
  dynamicInputs : Bool
  dynamicOutputs : Bool
  initial : σ

end FrameFlow
