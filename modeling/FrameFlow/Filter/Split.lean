import FrameFlow.Filter.Basic

/-! The kind `asplit`, which sends every frame to each of its outputs that is still open. -/
namespace FrameFlow

/-- An option that says how many pads a filter has. -/
def padCount (values : Setting.Values) (name : String) : Except Fault Nat := do
  let count := (← values.integer name).toInt
  if count < 0 then throw (.invalidOption name s!"{count} is not a pad count")
  pure count.toNat

structure Split where
  outputs : Nat
deriving DecidableEq, Repr

namespace Split

/-- Emits one frame on each pad of a list unless the pad is closed. -/
def emitAll (s : Split) (frame : Frame) : List Nat → Tray → Turn Split
  | [], tray => .done s tray
  | pad :: rest, tray =>
    if tray.isClosed pad then s.emitAll frame rest tray
    else match tray.emit pad frame with
      | .ok tray => s.emitAll frame rest tray
      | .error fault => .fail s tray fault

instance : Filter Split where
  inputs _ := [.named "default"]
  outputs s := Pad.numbered "output" s.outputs
  setUp _ values := (padCount values "outputs").map Split.mk
  onFrame s _ frame tray := s.emitAll frame (List.range s.outputs) tray

def kind : Kind Split where
  name := "asplit"
  description := "Split audio into several identical outputs"
  role := .transform
  inputs := [.named "default"]
  outputs := Pad.numbered "output" 2
  options := [⟨"outputs", .integer 2, "Number of output pads", [.range 1 16]⟩]
  dynamicInputs := false
  dynamicOutputs := true
  initial := ⟨2⟩

end Split
end FrameFlow
