import FrameFlow.Filter.Basic

/-! Scripted filters. A script lists what the filter does at its first, second and later
calls; the last entry goes on for ever. -/
namespace FrameFlow

namespace Script

inductive Act where
  /-- Emit the frame of the call. -/
  | emit (pad : Nat)
  | close (pad : Nat)
  | closeAll
  /-- Keep the frame of the call. -/
  | hold
  /-- Emit all frames kept, oldest first. -/
  | release (pad : Nat)
  | fail (reason : String)
deriving DecidableEq, Repr

/-- Acts for each call that is still to come. -/
abbrev Plan := List (List Act)

inductive Answer where
  | forward
  | refuse (reason : String)
  | formats (formats : List Format)
deriving DecidableEq, Repr

inductive Taking where
  | unsupported
  | oldestFirst
  | refuse (reason : String)
deriving DecidableEq, Repr

/-- What a call does now, and the plan for later calls. -/
def Plan.next : Plan → List Act × Plan
  | [] => ([], [])
  | [acts] => (acts, [acts])
  | acts :: later => (acts, later)

end Script

structure Script where
  inputs : List Pad
  outputs : List Pad
  refusesSetUp : Option String
  answer : Script.Answer
  frames : Script.Plan
  ends : Script.Plan
  flushes : Script.Plan
  taking : Script.Taking
  kept : Queue Frame
  flushed : Bool
deriving DecidableEq, Repr

namespace Script

def releaseAll (s : Script) (pad : Nat) : List Frame → Tray → Turn Script
  | [], tray => .done { s with kept := .empty } tray
  | frame :: rest, tray =>
    match tray.emit pad frame with
    | .ok tray => s.releaseAll pad rest tray
    | .error fault => .fail { s with kept := .ofList rest } tray fault

def act (s : Script) (frame : Frame) (tray : Tray) : Act → Turn Script
  | .emit pad => .emit s tray pad frame
  | .close pad => .done s (tray.close pad)
  | .closeAll => .done s tray.closeAll
  | .hold => .done { s with kept := s.kept.push frame } tray
  | .release pad => s.releaseAll pad s.kept.toList tray
  | .fail reason => .fail s tray (.failed reason)

/-- Acts in order, up to the first that fails. -/
def perform (s : Script) (frame : Frame) (tray : Tray) : List Act → Turn Script
  | [] => .done s tray
  | a :: rest =>
    let turn := s.act frame tray a
    if turn.fault.isSome then turn else turn.state.perform frame turn.tray rest

def onFrame (s : Script) (frame : Frame) (tray : Tray) : Turn Script :=
  perform { s with frames := s.frames.next.2 } frame tray s.frames.next.1

def onEnd (s : Script) (tray : Tray) : Turn Script :=
  perform { s with ends := s.ends.next.2 } .empty tray s.ends.next.1

def onFlush (s : Script) (tray : Tray) : Turn Script :=
  perform { s with flushes := s.flushes.next.2, flushed := true } .empty tray s.flushes.next.1

def take (s : Script) : Script × Except Fault Offer :=
  match s.taking with
  | .unsupported => (s, .error (.unsupported "take_frame"))
  | .refuse reason => (s, .error (.failed reason))
  | .oldestFirst =>
    match s.kept.pop? with
    | some (frame, rest) => ({ s with kept := rest }, .ok (.ready frame))
    | none => (s, .ok (if s.flushed then .ended else .again))

theorem size_kept_take {s s' : Script} {frame : Frame}
    (h : s.take = (s', .ok (.ready frame))) : s'.kept.size < s.kept.size := by
  unfold take at h
  split at h
  · simp at h
  · simp at h
  · split at h
    · next hk =>
      obtain ⟨rfl, _⟩ := Prod.mk.inj h
      simp [Queue.size_of_pop? hk]
    · split at h <;> simp at h

instance : Filter Script where
  inputs := inputs
  outputs := outputs
  setUp s _ := match s.refusesSetUp with
    | some reason => .error (.failed reason)
    | none => .ok s
  negotiate s formats := match s.answer with
    | .forward => FrameFlow.forward s.outputs.length formats
    | .refuse reason => .error (.failed reason)
    | .formats formats => .ok formats
  onFrame s _ := s.onFrame
  onEnd s _ := s.onEnd
  onFlush := onFlush
  take := take
  held s := s.kept.size
  held_take := size_kept_take

end Script
end FrameFlow
