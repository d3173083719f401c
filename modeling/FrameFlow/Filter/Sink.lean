import FrameFlow.Filter.Buffer

/-! The kind `buffersink`, a sink that keeps frames until they are pulled. It may require a
sample rate or a number of channels; zero requires nothing. -/
namespace FrameFlow

structure Sink where
  required : Format
  queue : Queue Frame
  ended : Bool
deriving DecidableEq, Repr

namespace Sink

def initial : Sink := ⟨⟨0, 0⟩, .empty, false⟩

def accept (s : Sink) (inputs : List Format) : Except Fault (List Format) :=
  match inputs with
  | [] => .error (.unsupportedFormat "sink has no input format")
  | f :: _ =>
    if s.required.rate ≠ 0 ∧ f.rate ≠ s.required.rate then
      .error (.unsupportedFormat
        s!"sink requires {s.required.rate}Hz, upstream provides {f.render}")
    else if s.required.channels ≠ 0 ∧ f.channels ≠ s.required.channels then
      .error (.unsupportedFormat
        s!"sink requires {s.required.channels} channel(s), upstream provides {f.render}")
    else .ok []

def take (s : Sink) : Sink × Except Fault Offer :=
  match s.queue.pop? with
  | some (frame, rest) => ({ s with queue := rest }, .ok (.ready frame))
  | none => (s, .ok (if s.ended then .ended else .again))

theorem size_queue_take {s s' : Sink} {frame : Frame}
    (h : s.take = (s', .ok (.ready frame))) : s'.queue.size < s.queue.size := by
  unfold take at h
  split at h
  · next hq =>
    obtain ⟨rfl, _⟩ := Prod.mk.inj h
    simp [Queue.size_of_pop? hq]
  · split at h <;> simp at h

instance : Filter Sink where
  inputs _ := [⟨"default", "Frames to hand out"⟩]
  outputs _ := []
  setUp s values := (Format.ofValues values).map fun required => { s with required }
  negotiate := accept
  onFrame s _ frame tray := .done { s with queue := s.queue.push frame } tray
  onFlush s tray := .done { s with ended := true } tray
  take := take
  held s := s.queue.size
  held_take := size_queue_take

def kind : Kind Sink where
  name := "buffersink"
  description := "Buffer frames until the caller pulls them"
  role := .sink
  inputs := [⟨"default", "Frames to hand out"⟩]
  outputs := []
  options := [
    ⟨"sample_rate", .integer 0, "Required sample rate (0 = any)", [.nonNegative]⟩,
    ⟨"channels", .integer 0, "Required channel count (0 = any)", [.range 0 64]⟩]
  dynamicInputs := false
  dynamicOutputs := false
  initial := initial

end Sink
end FrameFlow
