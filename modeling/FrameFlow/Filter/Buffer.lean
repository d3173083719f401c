import FrameFlow.Filter.Basic

/-! The kind `buffer`, a source that passes on the frames pushed into it. A frame without a
timestamp is stamped with the time at which the frame before it ended. -/
namespace FrameFlow

open Setting (Definition Constraint)

/-- The options of a format, refused where they do not fit its fields. -/
def Format.ofValues (values : Setting.Values) : Except Fault Format := do
  let rate := (← values.integer "sample_rate").toInt
  let channels := (← values.integer "channels").toInt
  if rate < 0 ∨ 0x100000000 ≤ rate then
    throw (.invalidOption "sample_rate" s!"{rate} does not fit a sample rate")
  if channels < 0 ∨ 0x10000 ≤ channels then
    throw (.invalidOption "channels" s!"{channels} does not fit a channel count")
  pure ⟨UInt32.ofNat rate.toNat, UInt16.ofNat channels.toNat⟩

structure Buffer where
  format : Format
  /-- The frame that came before, with its timestamp. -/
  previous : Option Frame
deriving DecidableEq, Repr

namespace Buffer

def initial : Buffer := ⟨⟨48000, 2⟩, none⟩

/-- The end of a frame that starts at `pts`, no later than the last time there is. -/
def ending (pts : Int64) (duration : Nat) : Int64 :=
  Int64.ofInt (min 0x7FFFFFFFFFFFFFFF (pts.toInt + duration))

/-- The timestamp of the next frame if it brings none. -/
def nextPts (b : Buffer) : Int64 :=
  match b.previous with
  | none => 0
  | some frame => ending (frame.pts.getD 0) frame.duration

/-- A frame with its timestamp, and the source after it. -/
def stamp (b : Buffer) (frame : Frame) : Frame × Buffer :=
  let stamped := match frame.pts with
    | some _ => frame
    | none => { frame with pts := some b.nextPts }
  (stamped, { b with previous := some stamped })

instance : Filter Buffer where
  inputs _ := []
  outputs _ := [⟨"default", "Pushed frames"⟩]
  setUp b values := (Format.ofValues values).map fun format => { b with format }
  negotiate b _ := .ok [b.format]
  onFrame b _ frame tray :=
    let (stamped, next) := b.stamp frame
    .emit next tray 0 stamped

def kind : Kind Buffer where
  name := "buffer"
  description := "Accept frames pushed by the caller"
  role := .source
  inputs := []
  outputs := [⟨"default", "Pushed frames"⟩]
  options := [
    ⟨"sample_rate", .integer 48000, "Sample rate of pushed frames", [.positive]⟩,
    ⟨"channels", .integer 2, "Channel count of pushed frames", [.range 1 64]⟩]
  dynamicInputs := false
  dynamicOutputs := false
  initial := initial

end Buffer
end FrameFlow
