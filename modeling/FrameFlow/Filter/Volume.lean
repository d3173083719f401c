import FrameFlow.Filter.Basic

/-! The kinds `anull`, which passes frames on, and `volume`, which multiplies every sample by
a gain. -/
namespace FrameFlow

/-- The one output that forwards a frame is number zero. -/
structure PassThrough where
deriving DecidableEq, Repr

namespace PassThrough

instance : Filter PassThrough where
  inputs _ := [.named "default"]
  outputs _ := [.named "default"]
  onFrame s _ frame tray := .emit s tray 0 frame

def kind : Kind PassThrough where
  name := "anull"
  description := "Pass audio through unchanged"
  role := .transform
  inputs := [.named "default"]
  outputs := [.named "default"]
  options := []
  dynamicInputs := false
  dynamicOutputs := false
  initial := {}

end PassThrough

structure Volume where
  gain : Float32
deriving DecidableEq, Repr

namespace Volume

def apply (v : Volume) (frame : Frame) : Frame :=
  if v.gain == 1 then frame else { frame with samples := frame.samples.map (· * v.gain) }

instance : Filter Volume where
  inputs _ := [.named "default"]
  outputs _ := [.named "default"]
  setUp _ values := (values.number "volume").map fun gain => ⟨gain.toFloat32⟩
  onFrame v _ frame tray := .emit v tray 0 (v.apply frame)

def kind : Kind Volume where
  name := "volume"
  description := "Change audio volume by a constant factor"
  role := .transform
  inputs := [.named "default"]
  outputs := [.named "default"]
  options := [⟨"volume", .float 1, "Linear gain applied to every sample", [.range 0 16]⟩]
  dynamicInputs := false
  dynamicOutputs := false
  initial := ⟨1⟩

end Volume
end FrameFlow
