import FrameFlow.Frame.Samples

/-! Frames, the units of data that flow: a format, perhaps a timestamp, and interleaved
samples. -/
namespace FrameFlow

structure Format where
  rate : UInt32
  channels : UInt16
deriving DecidableEq, Repr, Inhabited

def Format.render (f : Format) : String := s!"{f.rate}Hz/{f.channels}ch"

structure Frame where
  format : Format
  pts : Option Int64
  samples : Samples
deriving DecidableEq, Repr

namespace Frame

def empty : Frame := ⟨⟨0, 0⟩, none, .empty⟩

instance : Inhabited Frame := ⟨empty⟩

/-- Samples of each channel, counting whole groups only. -/
def duration (f : Frame) : Nat := f.samples.size / f.format.channels.toNat

def describe (f : Frame) : String :=
  let pts := match f.pts with
    | some t => s!"Some({t})"
    | none => "None"
  let format := s!"sample_rate: {f.format.rate}, channels: {f.format.channels}"
  s!"Frame \x7b format: FrameFormat \x7b {format} \x7d, pts: {pts}, " ++
    s!"samples: {f.samples.size} \x7d"

end Frame
end FrameFlow
