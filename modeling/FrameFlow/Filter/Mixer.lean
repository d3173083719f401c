import FrameFlow.Filter.Split

/-! The kind `amix`, which adds up the frames of its inputs, first with first, second with
second. An input that has ended is waited for no longer; in the shortest mode the first end
closes the output. -/
namespace FrameFlow

inductive MixDuration where
  | longest
  | shortest
deriving DecidableEq, Repr

/-- One input of a mixer: frames not mixed yet, and whether more may come. -/
structure Lane where
  queue : Queue Frame
  ended : Bool
deriving DecidableEq, Repr

def Lane.ready (l : Lane) : Bool := !l.queue.isEmpty || l.ended

def Lane.advance (l : Lane) : Lane := { l with queue := l.queue.tail }

structure Mixer where
  duration : MixDuration
  normalize : Bool
  lanes : List Lane
deriving DecidableEq, Repr

/-- Adds samples to an accumulator, as far as the accumulator goes. -/
def addSamples : List Float32 → List Float32 → List Float32
  | [], _ => []
  | acc, [] => acc
  | a :: acc, s :: samples => (a + s) :: addSamples acc samples

/-- The sum of lists of samples, as long as the longest. Normalized, it is divided by their
number. -/
def mixSamples (normalize : Bool) (parts : List (List Float32)) : List Float32 :=
  let length := (parts.map List.length).foldl max 0
  let sum := parts.foldl addSamples (List.replicate length 0)
  let share := 1 / Float32.ofNat parts.length
  if normalize && 1 < parts.length then sum.map (· * share) else sum

@[simp] theorem length_addSamples (acc samples : List Float32) :
    (addSamples acc samples).length = acc.length := by
  fun_induction addSamples acc samples <;> simp_all

theorem length_mixSamples (normalize : Bool) (parts : List (List Float32)) :
    (mixSamples normalize parts).length = (parts.map List.length).foldl max 0 := by
  have added : ∀ (parts : List (List Float32)) (acc : List Float32),
      (parts.foldl addSamples acc).length = acc.length := by
    intro parts
    induction parts with
    | nil => exact fun _ => rfl
    | cons part rest ih =>
      intro acc
      rw [List.foldl_cons, ih, length_addSamples]
  unfold mixSamples
  dsimp only
  split <;> simp [added]

namespace Mixer

def idle (lanes : Nat) : List Lane := List.replicate lanes ⟨.empty, false⟩

def initial : Mixer := ⟨.longest, true, idle 2⟩

def heads (lanes : List Lane) : List Frame := lanes.filterMap fun l => l.queue.head?

/-- Frames that wait on all inputs together. -/
def pending : List Lane → Nat
  | [] => 0
  | l :: rest => l.queue.size + pending rest

/-- The sum of frames in order. It has the format and timestamp of the first one. -/
def mix (normalize : Bool) (first : Frame) (others : List Frame) : Frame :=
  let parts := (first :: others).map Frame.samples
  let sum : Samples := .compute ((parts.map Samples.size).foldl max 0)
    (fun _ => mixSamples normalize (parts.map Samples.toList))
    (by simp [length_mixSamples, List.map_map, Function.comp_def])
  { first with samples := sum }

/-- Takes the first frame off every input. -/
def advance (lanes : List Lane) : List Lane := lanes.map Lane.advance

theorem pending_advance (lanes : List Lane) :
    pending (advance lanes) + (heads lanes).length = pending lanes := by
  induction lanes with
  | nil => rfl
  | cons l rest ih =>
    simp only [advance, pending, heads, List.map_cons] at ih ⊢
    cases h : l.queue.toList with
    | nil =>
      rw [List.filterMap_cons_none (by simp [h])]
      simp only [Lane.advance, Queue.size_eq_length, Queue.toList_tail, h, List.tail_nil,
        List.length_nil]
      omega
    | cons f fs =>
      rw [List.filterMap_cons_some (b := f) (by simp [h])]
      simp only [Lane.advance, Queue.size_eq_length, Queue.toList_tail, h, List.tail_cons,
        List.length_cons]
      omega

/-- Mixes as long as every input has a frame or has ended. Frames left over when the output
is closed are dropped. -/
def run (m : Mixer) (tray : Tray) : Turn Mixer :=
  if tray.isClosed 0 then
    .done { m with lanes := m.lanes.map fun l => { l with queue := .empty } } tray
  else if !m.lanes.all Lane.ready then .done m tray
  else match _heads : heads m.lanes with
    | [] => .done m tray
    | first :: others =>
      let next := { m with lanes := advance m.lanes }
      match tray.emit 0 (mix m.normalize first others) with
      | .ok tray => next.run tray
      | .error fault => .fail next tray fault
termination_by pending m.lanes
decreasing_by
  have := pending_advance m.lanes
  simp only [_heads, List.length_cons] at this
  omega

def setUp (values : Setting.Values) : Except Fault Mixer := do
  let inputs ← padCount values "inputs"
  let duration := if (← values.text "duration") = "shortest" then .shortest else .longest
  let normalize ← values.boolean "normalize"
  pure ⟨duration, normalize, idle inputs⟩

def accept (inputs : List Format) : Except Fault (List Format) :=
  match inputs with
  | [] => .error (.unsupportedFormat "mixer has no input format")
  | first :: _ =>
    match inputs.zipIdx.find? fun (f, _) => f ≠ first with
    | some (f, pad) => .error (.unsupportedFormat
        s!"input {pad} carries {f.render}, input 0 carries {first.render}")
    | none => .ok [first]

def onFrame (m : Mixer) (pad : Nat) (frame : Frame) (tray : Tray) : Turn Mixer :=
  if pad < m.lanes.length then
    run { m with lanes := m.lanes.modify pad fun l => { l with queue := l.queue.push frame } } tray
  else .fail m tray (.failed s!"frame on unknown input pad {pad}")

def onEnd (m : Mixer) (pad : Nat) (tray : Tray) : Turn Mixer :=
  let m := { m with lanes := m.lanes.modify pad fun l => { l with ended := true } }
  m.run (match m.duration with | .shortest => tray.close 0 | .longest => tray)

def onFlush (m : Mixer) (tray : Tray) : Turn Mixer :=
  run { m with lanes := m.lanes.map fun l => { l with ended := true } } tray

instance : Filter Mixer where
  inputs m := Pad.numbered "input" m.lanes.length
  outputs _ := [.named "default"]
  setUp _ := setUp
  negotiate _ := accept
  onFrame := onFrame
  onEnd := onEnd
  onFlush := onFlush

def kind : Kind Mixer where
  name := "amix"
  description := "Mix several audio inputs into one"
  role := .transform
  inputs := Pad.numbered "input" 2
  outputs := [.named "default"]
  options := [
    ⟨"inputs", .integer 2, "Number of input pads", [.range 2 16]⟩,
    ⟨"duration", .text "longest", "Stop at the longest or the shortest input",
      [.oneOf ["longest", "shortest"]]⟩,
    ⟨"normalize", .boolean true, "Divide the sum by the number of contributing inputs", []⟩]
  dynamicInputs := true
  dynamicOutputs := false
  initial := initial

end Mixer
end FrameFlow
