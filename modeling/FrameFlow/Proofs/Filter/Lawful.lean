import FrameFlow.Filter.BuiltIn
import FrameFlow.Filter.Script
import FrameFlow.Filter.Sum
import FrameFlow.Flow.Step

/-! What filters are to do with the tray of a call: emit frames and close outputs, in any order and
also where the call fails. So a tray keeps its outputs, and no frame on it is for another pad. Nothing
keeps a filter from leaving a tray of its own. -/
namespace FrameFlow

namespace Tray

/-- A tray after frames were emitted on it and outputs were closed. -/
inductive Filled (t : Tray) : Tray → Prop where
  | untouched : Filled t t
  | emit {u v : Tray} {pad : Nat} {frame : Frame} :
      Filled t u → u.emit pad frame = .ok v → Filled t v
  | close {u : Tray} (pad : Nat) : Filled t u → Filled t (u.close pad)
  | closeAll {u : Tray} : Filled t u → Filled t u.closeAll

/-- Every frame is for an output that the tray has. -/
def Fits (t : Tray) : Prop := ∀ f ∈ t.frames.toList, f.1 < t.outputs

/-- Frames and marks for no pads but the first ones, so many. -/
structure Within (count : Nat) (t : Tray) : Prop where
  frames : ∀ f ∈ t.frames.toList, f.1 < count
  closed : ∀ pad, t.closed[pad]? = some true → pad < count

theorem fits_start (closed : List Bool) : (start closed).Fits := by simp [Fits, start]

theorem emit_eq_ok_iff {t u : Tray} {pad : Nat} {frame : Frame} :
    t.emit pad frame = .ok u ↔
      pad < t.outputs ∧ { t with frames := t.frames.push (pad, frame) } = u := by
  unfold emit
  split
  · next inside => simp [inside]
  · next outside => simp [outside]

namespace Filled

variable {t u v : Tray}

theorem trans (first : t.Filled u) (second : u.Filled v) : t.Filled v := by
  induction second with
  | untouched => exact first
  | emit _ emitted ih => exact ih.emit emitted
  | close pad _ ih => exact ih.close pad
  | closeAll _ ih => exact ih.closeAll

theorem outputs (h : t.Filled u) : u.outputs = t.outputs := by
  induction h with
  | untouched => rfl
  | emit _ emitted ih =>
    obtain ⟨_, rfl⟩ := emit_eq_ok_iff.1 emitted
    exact ih
  | close pad _ ih => rw [outputs_close, ih]
  | closeAll _ ih => rw [outputs_closeAll, ih]

theorem fits (h : t.Filled u) (before : t.Fits) : u.Fits := by
  induction h with
  | untouched => exact before
  | emit _ emitted ih =>
    obtain ⟨inside, rfl⟩ := emit_eq_ok_iff.1 emitted
    intro f member
    rw [Queue.toList_push, List.mem_append, List.mem_singleton] at member
    rcases member with earlier | rfl
    · exact ih f earlier
    · exact inside
  | close pad _ ih =>
    intro f member
    rw [outputs_close]
    exact ih f member
  | closeAll _ ih =>
    intro f member
    rw [outputs_closeAll]
    exact ih f member

theorem within (h : t.Filled u) (before : t.Fits) : u.Within t.outputs where
  frames f member := h.outputs ▸ h.fits before f member
  closed _ marked := h.outputs ▸ (List.getElem?_eq_some_iff.1 marked).1

end Filled
end Tray

/-- Filters that only emit frames and close outputs in their calls. -/
class LawfulFilter (σ : Type) [Filter σ] : Prop where
  onFrame : ∀ (s : σ) (pad : Nat) (frame : Frame) (tray : Tray),
    tray.Filled (Filter.onFrame s pad frame tray).tray
  onEnd : ∀ (s : σ) (pad : Nat) (tray : Tray), tray.Filled (Filter.onEnd s pad tray).tray
  onFlush : ∀ (s : σ) (tray : Tray), tray.Filled (Filter.onFlush s tray).tray

open Tray (Filled)

variable {σ τ : Type}

theorem Turn.filled_emit (state : σ) (tray : Tray) (pad : Nat) (frame : Frame) :
    tray.Filled (Turn.emit state tray pad frame).tray := by
  unfold Turn.emit
  split
  · next emitted => exact .emit .untouched emitted
  · exact .untouched

instance : LawfulFilter Buffer where
  onFrame b _ frame tray := Turn.filled_emit _ tray 0 (b.stamp frame).1
  onEnd _ _ _ := .untouched
  onFlush _ _ := .untouched

instance : LawfulFilter Sink where
  onFrame _ _ _ _ := .untouched
  onEnd _ _ _ := .untouched
  onFlush _ _ := .untouched

instance : LawfulFilter PassThrough where
  onFrame s _ frame tray := Turn.filled_emit s tray 0 frame
  onEnd _ _ _ := .untouched
  onFlush _ _ := .untouched

instance : LawfulFilter Volume where
  onFrame v _ frame tray := Turn.filled_emit v tray 0 (v.apply frame)
  onEnd _ _ _ := .untouched
  onFlush _ _ := .untouched

theorem Head.filled_closeAtEnd {tray : Tray} {turn : Turn Head} (h : tray.Filled turn.tray) :
    tray.Filled (closeAtEnd turn).tray := by
  unfold closeAtEnd
  split
  · exact .close 0 h
  · exact h

instance : LawfulFilter Head where
  onFrame h _ frame tray := by
    apply Head.filled_closeAtEnd
    split
    · exact Turn.filled_emit _ tray 0 frame
    · exact .untouched
  onEnd _ _ _ := .untouched
  onFlush _ _ := .untouched

theorem Split.filled_emitAll (s : Split) (frame : Frame) (pads : List Nat) (tray : Tray) :
    tray.Filled (s.emitAll frame pads tray).tray := by
  fun_induction emitAll s frame pads tray with
  | case1 tray => exact .untouched
  | case2 tray pad rest _ ih => exact ih
  | case3 tray pad rest _ next emitted ih => exact (Filled.emit .untouched emitted).trans ih
  | case4 tray pad rest _ fault _ => exact .untouched

instance : LawfulFilter Split where
  onFrame s _ frame tray := s.filled_emitAll frame _ tray
  onEnd _ _ _ := .untouched
  onFlush _ _ := .untouched

namespace Mixer

theorem filled_run (m : Mixer) (tray : Tray) : tray.Filled (m.run tray).tray := by
  fun_induction run m tray with
  | case1 => exact .untouched
  | case2 => exact .untouched
  | case3 => exact .untouched
  | case4 _ _ _ _ _ _ _ _ _ emitted ih => exact (Filled.emit .untouched emitted).trans ih
  | case5 => exact .untouched

instance : LawfulFilter Mixer where
  onFrame m pad frame tray := by
    show tray.Filled (onFrame m pad frame tray).tray
    unfold onFrame
    split
    · exact filled_run _ tray
    · exact .untouched
  onEnd m pad tray := by
    show tray.Filled (onEnd m pad tray).tray
    unfold onEnd
    dsimp only
    split
    · exact (Filled.close 0 .untouched).trans (filled_run _ _)
    · exact filled_run _ tray
  onFlush m tray := filled_run _ tray

end Mixer

instance : LawfulFilter BuiltIn where
  onFrame b pad frame tray := by
    cases b with
    | buffer b => exact LawfulFilter.onFrame b pad frame tray
    | sink s => exact LawfulFilter.onFrame s pad frame tray
    | passThrough p => exact LawfulFilter.onFrame p pad frame tray
    | volume v => exact LawfulFilter.onFrame v pad frame tray
    | head h => exact LawfulFilter.onFrame h pad frame tray
    | split s => exact LawfulFilter.onFrame s pad frame tray
    | mixer m => exact LawfulFilter.onFrame m pad frame tray
  onEnd b pad tray := by
    cases b with
    | buffer b => exact LawfulFilter.onEnd b pad tray
    | sink s => exact LawfulFilter.onEnd s pad tray
    | passThrough p => exact LawfulFilter.onEnd p pad tray
    | volume v => exact LawfulFilter.onEnd v pad tray
    | head h => exact LawfulFilter.onEnd h pad tray
    | split s => exact LawfulFilter.onEnd s pad tray
    | mixer m => exact LawfulFilter.onEnd m pad tray
  onFlush b tray := by
    cases b with
    | buffer b => exact LawfulFilter.onFlush b tray
    | sink s => exact LawfulFilter.onFlush s tray
    | passThrough p => exact LawfulFilter.onFlush p tray
    | volume v => exact LawfulFilter.onFlush v tray
    | head h => exact LawfulFilter.onFlush h tray
    | split s => exact LawfulFilter.onFlush s tray
    | mixer m => exact LawfulFilter.onFlush m tray

namespace Script

theorem filled_releaseAll (s : Script) (pad : Nat) (frames : List Frame) (tray : Tray) :
    tray.Filled (s.releaseAll pad frames tray).tray := by
  fun_induction releaseAll s pad frames tray with
  | case1 => exact .untouched
  | case2 _ _ _ _ emitted ih => exact (Filled.emit .untouched emitted).trans ih
  | case3 => exact .untouched

theorem filled_act (s : Script) (frame : Frame) (tray : Tray) (a : Act) :
    tray.Filled (s.act frame tray a).tray := by
  cases a with
  | emit pad => exact Turn.filled_emit s tray pad frame
  | close pad => exact .close pad .untouched
  | closeAll => exact .closeAll .untouched
  | hold => exact .untouched
  | release pad => exact s.filled_releaseAll pad _ tray
  | fail reason => exact .untouched

theorem filled_perform (s : Script) (frame : Frame) (tray : Tray) (acts : List Act) :
    tray.Filled (s.perform frame tray acts).tray := by
  induction acts generalizing s tray with
  | nil => exact .untouched
  | cons a rest ih =>
    have first := s.filled_act frame tray a
    unfold perform
    dsimp only
    split
    · exact first
    · exact first.trans (ih _ _)

instance : LawfulFilter Script where
  onFrame _ _ frame tray := filled_perform _ frame tray _
  onEnd _ _ tray := filled_perform _ .empty tray _
  onFlush _ tray := filled_perform _ .empty tray _

end Script

instance [Filter σ] [Filter τ] [LawfulFilter σ] [LawfulFilter τ] : LawfulFilter (σ ⊕ τ) where
  onFrame x pad frame tray := by
    cases x with
    | inl s => exact LawfulFilter.onFrame s pad frame tray
    | inr t => exact LawfulFilter.onFrame t pad frame tray
  onEnd x pad tray := by
    cases x with
    | inl s => exact LawfulFilter.onEnd s pad tray
    | inr t => exact LawfulFilter.onEnd t pad tray
  onFlush x tray := by
    cases x with
    | inl s => exact LawfulFilter.onFlush s tray
    | inr t => exact LawfulFilter.onFlush t tray

/-- The scheduler closes all outputs itself after a flush that goes well. -/
theorem Node.filled_invoke [Filter σ] [LawfulFilter σ] (n : Node σ) (work : Work) (tray : Tray) :
    tray.Filled (n.invoke work tray).tray := by
  cases work with
  | frame pad frame => exact LawfulFilter.onFrame n.filter pad frame tray
  | endOfInput pad => exact LawfulFilter.onEnd n.filter pad tray
  | flush =>
    have flushed := LawfulFilter.onFlush n.filter tray
    unfold invoke
    dsimp only
    split
    · exact .closeAll flushed
    · exact flushed

theorem Node.outputs_start_closedOutputs [Filter σ] (n : Node σ) :
    (Tray.start n.closedOutputs).outputs = n.outputs.length := by
  simp [Tray.start, Tray.outputs, closedOutputs]

/-- The tray of a call keeps the outputs of its node. -/
theorem Node.outputs_invoke [Filter σ] [LawfulFilter σ] (n : Node σ) (work : Work) :
    (n.invoke work (.start n.closedOutputs)).tray.outputs = n.outputs.length :=
  (n.filled_invoke work _).outputs.trans n.outputs_start_closedOutputs

theorem Node.within_invoke [Filter σ] [LawfulFilter σ] (n : Node σ) (work : Work) :
    (n.invoke work (.start n.closedOutputs)).tray.Within n.outputs.length :=
  n.outputs_start_closedOutputs ▸ (n.filled_invoke work _).within (Tray.fits_start _)

/-- A source that passes on its frames and, when it is flushed, leaves a tray of its own, with a number of
outputs that has nothing to do with the one it was given. -/
structure Replacing where
  outputs : Nat
deriving DecidableEq, Repr

namespace Replacing

instance : Filter Replacing where
  inputs _ := []
  outputs _ := [.named "default"]
  negotiate _ _ := .ok [⟨48000, 2⟩]
  onFrame r _ frame tray := .emit r tray 0 frame
  onFlush r _ := .done r (.fresh r.outputs)

def kind (outputs : Nat) : Kind Replacing where
  name := "replacing"
  description := ""
  role := .source
  inputs := []
  outputs := [.named "default"]
  options := []
  dynamicInputs := false
  dynamicOutputs := false
  initial := ⟨outputs⟩

end Replacing
end FrameFlow
