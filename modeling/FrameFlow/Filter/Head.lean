import FrameFlow.Filter.Basic

/-! The kind `head`, which forwards the first frames and closes its output with the last of
them. With none to forward it closes at the first frame it sees. -/
namespace FrameFlow

structure Head where
  remaining : Nat
deriving DecidableEq, Repr

namespace Head

def setUp (values : Setting.Values) : Except Fault Head := do
  let frames := (← values.integer "frames").toInt
  if frames < 0 then throw (.invalidOption "frames" s!"{frames} is negative")
  pure ⟨frames.toNat⟩

/-- Closes the output of a finished turn once no frame remains to be forwarded. -/
def closeAtEnd (turn : Turn Head) : Turn Head :=
  if turn.fault.isNone && turn.state.remaining == 0 then
    { turn with tray := turn.tray.close 0 }
  else turn

def onFrame (h : Head) (frame : Frame) (tray : Tray) : Turn Head :=
  closeAtEnd (if 0 < h.remaining then .emit ⟨h.remaining - 1⟩ tray 0 frame else .done h tray)

instance : Filter Head where
  inputs _ := [.named "default"]
  outputs _ := [.named "default"]
  setUp _ := setUp
  onFrame h _ := h.onFrame

def kind : Kind Head where
  name := "head"
  description := "Forward only the first N frames"
  role := .transform
  inputs := [.named "default"]
  outputs := [.named "default"]
  options := [⟨"frames", .integer 1, "Number of frames to forward", [.nonNegative]⟩]
  dynamicInputs := false
  dynamicOutputs := false
  initial := ⟨0⟩

end Head
end FrameFlow
