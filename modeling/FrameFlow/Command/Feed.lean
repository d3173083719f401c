import FrameFlow.Blueprint.Build
import FrameFlow.Command.Error
import FrameFlow.Diagnosis.Plan
import FrameFlow.Flow.Pull

/-! Running a configured graph on synthetic frames. In each round every source gets one frame and
then every sink is drained; feeding ends early when a source takes no more. At the end all
sources are ended and all sinks are drained once more. -/
namespace FrameFlow.Command

def samplesPerFrame : Nat := 1024

/-- A quiet tone of 440 hertz that goes on from frame to frame, the same in every channel. -/
def tone (rate : UInt32) (place : Nat) : Float32 :=
  let time := Float.ofNat place / Float.ofNat (max rate.toNat 1)
  (Float.sin (time * 440 * Float.ofBits 0x401921FB54442D18)).toFloat32 * 0.25

/-- The samples of a tone from a place on, at least one at each place. -/
def toneSamples (format : Format) (start : Nat) : Samples :=
  let channels := max format.channels.toNat 1
  .compute (samplesPerFrame * channels)
    (fun _ => (List.range samplesPerFrame).flatMap fun n =>
      List.replicate channels (tone format.rate (start + n)))
    (by simp [List.length_flatMap, List.map_const'])

def syntheticFrame (format : Format) (index : Nat) : Frame :=
  let start := index * samplesPerFrame
  ⟨format, some (Int64.ofInt start), toneSamples format start⟩

variable {σ : Type}

def sourceFormat (g : Graph σ) (source : NodeId) : Except Error Format :=
  match (g.linksFrom source).head?.bind fun (_, l) => l.format with
  | some f => .ok f
  | none => .error (.unsettledSource source)

/-- Gives every source its frame of a round; false where a source refuses. -/
def feedSources (index : Nat) : List NodeId → Graph σ → Except Error (Bool × Graph σ)
  | [], g => .ok (true, g)
  | source :: rest, g => do
    let format ← sourceFormat g source
    match g.push source (some (syntheticFrame format index)) with
    | .error _ => .ok (false, g)
    | .ok g => feedSources index rest g

variable [Filter σ]

/-- Drains sinks one after the other and adds the frames to their counts. -/
def drainSinks : List (NodeId × Nat) → Graph σ → Except Error (List (NodeId × Nat) × Graph σ)
  | [], g => .ok ([], g)
  | (sink, count) :: rest, g =>
    match g.drain sink with
    | (_, .error e) => .error (.running e)
    | (g, .ok frames) => do
      let (counts, g) ← drainSinks rest g
      .ok ((sink, count + frames.length) :: counts, g)

/-- Rounds that are still to come, from the one with number `index` on. -/
def feedRounds (sources : List NodeId) :
    Nat → Nat → List (NodeId × Nat) → Graph σ → Except Error (List (NodeId × Nat) × Graph σ)
  | 0, _, counts, g => .ok (counts, g)
  | rounds + 1, index, counts, g => do
    let (all, g) ← feedSources index sources g
    if all then
      let (counts, g) ← drainSinks counts g
      feedRounds sources rounds (index + 1) counts g
    else .ok (counts, g)

def endSources : List NodeId → Graph σ → Except Error (Graph σ)
  | [], g => .ok g
  | source :: rest, g =>
    match g.push source none with
    | .ok g => endSources rest g
    | .error e => .error (.running e)

/-- The frames that came out of each sink, and the graph in the end. -/
def runGraph (g : Graph σ) (frames : Nat) : Except Error (List (NodeId × Nat) × Graph σ) := do
  if g.sources.isEmpty || g.sinks.isEmpty then throw .noEnds
  let (counts, g) ← feedRounds g.sources frames 0 (g.sinks.map (·, 0)) g
  let g ← endSources g.sources g
  drainSinks counts g

end FrameFlow.Command
