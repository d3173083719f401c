import FrameFlow.Fault
import FrameFlow.Frame.Basic
import FrameFlow.Queue

/-! The tray that a filter puts its output on during one call: frames with their output pads,
and which outputs are closed. Frames are routed after the call. -/
namespace FrameFlow

structure Tray where
  frames : Queue (Nat × Frame)
  closed : List Bool
deriving DecidableEq, Repr

namespace Tray

def start (closed : List Bool) : Tray := ⟨.empty, closed⟩

def fresh (count : Nat) : Tray := start (List.replicate count false)

def outputs (t : Tray) : Nat := t.closed.length

/-- A pad that is closed already still takes frames. -/
def emit (t : Tray) (pad : Nat) (frame : Frame) : Except Fault Tray :=
  if pad < t.outputs then .ok { t with frames := t.frames.push (pad, frame) }
  else .error (.noSuchOutput pad t.outputs)

def close (t : Tray) (pad : Nat) : Tray := { t with closed := t.closed.set pad true }

def closeAll (t : Tray) : Tray := { t with closed := t.closed.map fun _ => true }

/-- A pad out of range counts as closed. -/
def isClosed (t : Tray) (pad : Nat) : Bool := t.closed.getD pad true

def allClosed (t : Tray) : Bool := t.closed.all id

@[simp] theorem outputs_close (t : Tray) (pad : Nat) : (t.close pad).outputs = t.outputs := by
  simp [close, outputs]

@[simp] theorem outputs_closeAll (t : Tray) : t.closeAll.outputs = t.outputs := by
  simp [closeAll, outputs]

theorem lt_outputs_of_not_isClosed {t : Tray} {pad : Nat} (h : t.isClosed pad = false) :
    pad < t.outputs := by
  simp only [isClosed, List.getD_eq_getElem?_getD] at h
  rcases Nat.lt_or_ge pad t.closed.length with inside | outside
  · exact inside
  · rw [List.getElem?_eq_none outside] at h
    simp at h

end Tray
end FrameFlow
