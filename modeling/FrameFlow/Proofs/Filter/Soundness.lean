import FrameFlow.Proofs.Filter.Formats
import FrameFlow.Proofs.Filter.Lawful

/-! Built-in filters do not fail. A call goes well where the tray is as wide as the filter has outputs
and a frame comes on a pad that the filter has, and it leaves the filter with the pads it had. -/
namespace FrameFlow

open Tray (emit_eq_ok_iff)

variable {frame : Frame} {tray : Tray} {pad : Nat}

theorem Turn.fault_emit {σ : Type} (state : σ) (inside : pad < tray.outputs) :
    (Turn.emit state tray pad frame).fault = none := by
  unfold Turn.emit
  rw [emit_eq_ok_iff.2 ⟨inside, rfl⟩]
  rfl

theorem Head.fault_onFrame (h : Head) (opens : 0 < tray.outputs) :
    (h.onFrame frame tray).fault = none := by
  have closing : ∀ {turn : Turn Head}, turn.fault = none → (closeAtEnd turn).fault = none := by
    intro turn sound
    unfold closeAtEnd
    split <;> exact sound
  apply closing
  split
  · exact Turn.fault_emit _ opens
  · rfl

/-- A pad out of range counts as closed, so nothing is emitted on it. -/
theorem Split.sound_emitAll (s : Split) (frame : Frame) (pads : List Nat) (tray : Tray) :
    (s.emitAll frame pads tray).fault = none ∧ (s.emitAll frame pads tray).state = s := by
  fun_induction emitAll s frame pads tray with
  | case1 => exact ⟨rfl, rfl⟩
  | case2 _ _ _ _ ih => exact ih
  | case3 _ _ _ _ _ _ ih => exact ih
  | case4 pad _ tray opened fault refused =>
    have inside := Tray.lt_outputs_of_not_isClosed (Bool.not_eq_true _ ▸ opened)
    simp [emit_eq_ok_iff.2 ⟨inside, rfl⟩] at refused

namespace Mixer

/-- A call that went well and left as many lanes as there were. -/
structure Sound (m : Mixer) (turn : Turn Mixer) : Prop where
  fault : turn.fault = none
  lanes : turn.state.lanes.length = m.lanes.length

variable {m : Mixer}

/-- A mixer only emits while its output is open. -/
theorem sound_run (m : Mixer) (tray : Tray) : m.Sound (m.run tray) := by
  fun_induction run m tray with
  | case1 => exact ⟨rfl, List.length_map ..⟩
  | case2 => exact ⟨rfl, rfl⟩
  | case3 => exact ⟨rfl, rfl⟩
  | case4 m tray _ _ first others heads next after sent ih =>
    exact ⟨ih.fault, ih.lanes.trans (List.length_map ..)⟩
  | case5 m tray opened _ first others heads next fault refused =>
    have inside := Tray.lt_outputs_of_not_isClosed (Bool.not_eq_true _ ▸ opened)
    simp [emit_eq_ok_iff.2 ⟨inside, rfl⟩] at refused

theorem sound_run_of_length {m' : Mixer} (same : m'.lanes.length = m.lanes.length) (tray : Tray) :
    m.Sound (m'.run tray) :=
  ⟨(m'.sound_run tray).fault, (m'.sound_run tray).lanes.trans same⟩

theorem sound_onFrame (inside : pad < m.lanes.length) : m.Sound (m.onFrame pad frame tray) := by
  rw [onFrame, if_pos inside]
  apply sound_run_of_length
  exact List.length_modify ..

theorem sound_onEnd : m.Sound (m.onEnd pad tray) := by
  apply sound_run_of_length
  exact List.length_modify ..

theorem sound_onFlush : m.Sound (m.onFlush tray) := by
  apply sound_run_of_length
  exact List.length_map ..

end Mixer

namespace BuiltIn

/-- The side of the graph on which a filter stands. -/
def role : BuiltIn → Role
  | buffer _ => .source
  | sink _ => .sink
  | _ => .transform

theorem Made.role_eq {values : Setting.Values} {kind : Kind BuiltIn} {f : BuiltIn}
    (made : Made values kind f) : f.role = kind.role := by
  cases made <;> rfl

/-- Filters with the same place in a graph. -/
structure Alike (f f' : BuiltIn) : Prop where
  role : f'.role = f.role
  inputs : Filter.inputs f' = Filter.inputs f
  outputs : Filter.outputs f' = Filter.outputs f

/-- A call that went well and left a filter in its place. -/
structure Sound (f : BuiltIn) (turn : Turn BuiltIn) : Prop where
  fault : turn.fault = none
  alike : f.Alike turn.state

variable {f : BuiltIn}

theorem Alike.refl (f : BuiltIn) : f.Alike f := ⟨rfl, rfl, rfl⟩

theorem sound_done (f : BuiltIn) (tray : Tray) : f.Sound (.done f tray) := ⟨rfl, .refl f⟩

theorem sound_mixer {m : Mixer} {turn : Turn Mixer} (sound : m.Sound turn) :
    Sound (mixer m) (turn.map mixer) where
  fault := sound.fault
  alike := ⟨rfl, congrArg (Pad.numbered "input") sound.lanes, rfl⟩

theorem sound_emit {σ : Type} {wrap : σ → BuiltIn} {state : σ} (alike : f.Alike (wrap state))
    (inside : pad < tray.outputs) : f.Sound ((Turn.emit state tray pad frame).map wrap) where
  fault := Turn.fault_emit state inside
  alike := by
    rw [Turn.map, Turn.state_emit]
    exact alike

/-- A source has no inputs and takes frames all the same. -/
theorem sound_onFrame (wide : tray.outputs = (Filter.outputs f).length)
    (inside : f.role ≠ .source → pad < (Filter.inputs f).length) :
    f.Sound (Filter.onFrame f pad frame tray) := by
  cases f with
  | buffer b => exact sound_emit ⟨rfl, rfl, rfl⟩ (wide ▸ Nat.one_pos)
  | sink s => exact ⟨rfl, rfl, rfl, rfl⟩
  | passThrough p => exact sound_emit ⟨rfl, rfl, rfl⟩ (wide ▸ Nat.one_pos)
  | volume v => exact sound_emit ⟨rfl, rfl, rfl⟩ (wide ▸ Nat.one_pos)
  | head h => exact ⟨h.fault_onFrame (wide ▸ Nat.one_pos), rfl, rfl, rfl⟩
  | split s =>
    obtain ⟨fault, state⟩ := s.sound_emitAll frame (List.range s.outputs) tray
    exact ⟨fault, rfl, rfl, congrArg (fun s : Split => Filter.outputs s) state⟩
  | mixer m =>
    have lane : pad < (Pad.numbered "input" m.lanes.length).length := inside (by simp [role])
    rw [Pad.length_numbered] at lane
    exact sound_mixer (Mixer.sound_onFrame lane)

theorem sound_onEnd : f.Sound (Filter.onEnd f pad tray) := by
  cases f with
  | mixer m => exact sound_mixer Mixer.sound_onEnd
  | _ => exact sound_done _ tray

theorem sound_onFlush : f.Sound (Filter.onFlush f tray) := by
  cases f with
  | mixer m => exact sound_mixer Mixer.sound_onFlush
  | sink s => exact ⟨rfl, rfl, rfl, rfl⟩
  | _ => exact sound_done _ tray

/-- Whatever is asked of a filter, it stays in its place. -/
theorem alike_take : f.Alike f.take.1 := by
  cases f with
  | sink s => exact ⟨rfl, rfl, rfl⟩
  | _ => exact .refl _

end BuiltIn
end FrameFlow
