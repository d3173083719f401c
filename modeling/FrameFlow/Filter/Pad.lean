/-! Pads, the numbered connection points of a filter, and the side of the graph on which a
kind of filter stands. -/
namespace FrameFlow

inductive Direction where
  | input
  | output
deriving DecidableEq, Repr

def Direction.name : Direction → String
  | .input => "input"
  | .output => "output"

structure Pad where
  name : String
  description : String
deriving DecidableEq, Repr, Inhabited

namespace Pad

def named (name : String) : Pad := ⟨name, ""⟩

/-- Pads with one name stem, counted from zero. -/
def numbered (stem : String) (count : Nat) : List Pad :=
  (List.range count).map fun i => named (stem ++ toString i)

@[simp] theorem length_numbered (stem : String) (count : Nat) :
    (numbered stem count).length = count := by
  simp [numbered]

end Pad

/-- Frames are pushed into sources and pulled out of sinks. -/
inductive Role where
  | source
  | sink
  | transform
deriving DecidableEq, Repr

def Role.name : Role → String
  | .source => "Source"
  | .sink => "Sink"
  | .transform => "Transform"

end FrameFlow
