import FrameFlow.Filter.BuiltIn
import FrameFlow.Flow.Step
import FrameFlow.Proofs.Filter.Options
import FrameFlow.Proofs.Graph.Arena

/-! The formats of frames that built-in filters handle. Given frames of one format, a filter keeps and
emits only frames of this format, and no call changes which inputs it has. -/
namespace FrameFlow

/-- All frames have one format. -/
def AllOf (format : Format) (frames : List Frame) : Prop := ∀ frame ∈ frames, frame.format = format

variable {format : Format} {frame : Frame} {frames : List Frame}

theorem allOf_nil (format : Format) : AllOf format [] := by simp [AllOf]

theorem allOf_append_iff {more : List Frame} :
    AllOf format (frames ++ more) ↔ AllOf format frames ∧ AllOf format more :=
  List.forall_mem_append

theorem AllOf.push {queue : Queue Frame} (all : AllOf format queue.toList)
    (same : frame.format = format) : AllOf format (queue.push frame).toList := by
  rw [Queue.toList_push, allOf_append_iff]
  exact ⟨all, List.forall_mem_singleton.2 same⟩

namespace Tray

/-- All frames on a tray have one format. -/
def AllOf (format : Format) (t : Tray) : Prop :=
  FrameFlow.AllOf format (t.frames.toList.map Prod.snd)

theorem allOf_start (format : Format) (closed : List Bool) : (start closed).AllOf format := by
  simp [AllOf, FrameFlow.AllOf, start]

theorem AllOf.emit {t u : Tray} {pad : Nat} (all : t.AllOf format) (same : frame.format = format)
    (emitted : t.emit pad frame = .ok u) : u.AllOf format := by
  unfold Tray.emit at emitted
  split at emitted
  · obtain rfl := Except.ok.inj emitted
    unfold AllOf
    rw [Queue.toList_push, List.map_append, allOf_append_iff]
    exact ⟨all, List.forall_mem_singleton.2 same⟩
  · simp at emitted

end Tray

namespace Turn

variable {σ : Type} {state : σ} {tray : Tray} {pad : Nat}

theorem allOf_emit (all : tray.AllOf format) (same : frame.format = format) :
    (emit state tray pad frame).tray.AllOf format := by
  unfold emit
  split
  · next emitted => exact all.emit same emitted
  · exact all

@[simp] theorem state_emit (state : σ) (tray : Tray) (pad : Nat) (frame : Frame) :
    (emit state tray pad frame).state = state := by
  unfold emit
  split <;> rfl

end Turn

@[simp] theorem Buffer.format_stamp (b : Buffer) (frame : Frame) :
    (b.stamp frame).1.format = frame.format := by
  unfold stamp
  dsimp only
  split <;> rfl

@[simp] theorem Volume.format_apply (v : Volume) (frame : Frame) :
    (v.apply frame).format = frame.format := by
  unfold apply
  split <;> rfl

theorem Head.allOf_onFrame (h : Head) {tray : Tray} (all : tray.AllOf format)
    (same : frame.format = format) : (h.onFrame frame tray).tray.AllOf format := by
  have closing : ∀ {turn : Turn Head}, turn.tray.AllOf format →
      (closeAtEnd turn).tray.AllOf format := by
    intro turn all
    unfold closeAtEnd
    split <;> exact all
  unfold onFrame
  apply closing
  split
  · exact Turn.allOf_emit all same
  · exact all

theorem Split.allOf_emitAll (s : Split) {pads : List Nat} {tray : Tray} (all : tray.AllOf format)
    (same : frame.format = format) : (s.emitAll frame pads tray).tray.AllOf format := by
  fun_induction emitAll s frame pads tray with
  | case1 => exact all
  | case2 _ _ _ _ ih => exact ih all
  | case3 _ _ _ _ _ emitted ih => exact ih (all.emit same emitted)
  | case4 => exact all

namespace Mixer

theorem allOf_heads {lanes : List Lane} (all : ∀ l ∈ lanes, AllOf format l.queue.toList) :
    AllOf format (heads lanes) := by
  intro frame member
  obtain ⟨l, there, first⟩ := List.mem_filterMap.1 member
  rw [Queue.head?_eq] at first
  exact all l there frame (List.mem_of_head? first)

theorem allOf_advance {lanes : List Lane} (all : ∀ l ∈ lanes, AllOf format l.queue.toList) :
    ∀ l ∈ advance lanes, AllOf format l.queue.toList := by
  intro l member
  obtain ⟨before, there, rfl⟩ := List.mem_map.1 member
  intro frame later
  rw [Lane.advance, Queue.toList_tail] at later
  exact all before there frame (List.mem_of_mem_tail later)

/-- What a mixer leaves behind where the frames that it was given have one format. -/
structure Keeps (format : Format) (m : Mixer) (turn : Turn Mixer) : Prop where
  tray : turn.tray.AllOf format
  lanes : ∀ l ∈ turn.state.lanes, AllOf format l.queue.toList
  count : turn.state.lanes.length = m.lanes.length

theorem keeps_run {m : Mixer} {tray : Tray} (emitted : tray.AllOf format)
    (lanes : ∀ l ∈ m.lanes, AllOf format l.queue.toList) : Keeps format m (m.run tray) := by
  fun_induction run m tray with
  | case1 m tray closed =>
    refine ⟨emitted, fun l member => ?_, List.length_map ..⟩
    obtain ⟨_, _, rfl⟩ := List.mem_map.1 member
    simp [AllOf]
  | case2 => exact ⟨emitted, lanes, rfl⟩
  | case3 => exact ⟨emitted, lanes, rfl⟩
  | case4 m tray _ _ first others heads next after sent ih =>
    have sum : (mix m.normalize first others).format = format :=
      allOf_heads lanes first (heads ▸ List.mem_cons_self)
    have onward := ih (emitted.emit sum sent) (allOf_advance lanes)
    exact ⟨onward.tray, onward.lanes, onward.count.trans (List.length_map ..)⟩
  | case5 => exact ⟨emitted, allOf_advance lanes, List.length_map ..⟩

theorem keeps_onFrame {m : Mixer} {pad : Nat} {tray : Tray} (emitted : tray.AllOf format)
    (lanes : ∀ l ∈ m.lanes, AllOf format l.queue.toList) (same : frame.format = format) :
    Keeps format m (m.onFrame pad frame tray) := by
  unfold onFrame
  split
  · have given : ∀ l ∈ m.lanes.modify pad fun l => { l with queue := l.queue.push frame },
        AllOf format l.queue.toList := forall_mem_modify (fun l all => all.push same) lanes
    have after := keeps_run (m := { m with lanes := _ }) emitted given
    exact ⟨after.tray, after.lanes, after.count.trans (List.length_modify ..)⟩
  · exact ⟨emitted, lanes, rfl⟩

theorem keeps_onEnd {m : Mixer} {pad : Nat} {tray : Tray} (emitted : tray.AllOf format)
    (lanes : ∀ l ∈ m.lanes, AllOf format l.queue.toList) :
    Keeps format m (m.onEnd pad tray) := by
  have told : ∀ l ∈ m.lanes.modify pad fun l => { l with ended := true },
      AllOf format l.queue.toList := forall_mem_modify (fun l all => all) lanes
  have after : ∀ {tray : Tray}, tray.AllOf format → Keeps format m
      (run { m with lanes := m.lanes.modify pad fun l => { l with ended := true } } tray) := by
    intro tray emitted
    have after := keeps_run (m := { m with lanes := _ }) emitted told
    exact ⟨after.tray, after.lanes, after.count.trans (List.length_modify ..)⟩
  unfold onEnd
  dsimp only
  split
  · exact after emitted
  · exact after emitted

theorem keeps_onFlush {m : Mixer} {tray : Tray} (emitted : tray.AllOf format)
    (lanes : ∀ l ∈ m.lanes, AllOf format l.queue.toList) : Keeps format m (m.onFlush tray) := by
  have told : ∀ l ∈ m.lanes.map fun l => { l with ended := true }, AllOf format l.queue.toList := by
    intro l member
    obtain ⟨before, there, rfl⟩ := List.mem_map.1 member
    exact lanes before there
  have after := keeps_run (m := { m with lanes := _ }) emitted told
  exact ⟨after.tray, after.lanes, after.count.trans (List.length_map ..)⟩

end Mixer

namespace BuiltIn

/-- The frames that a filter keeps for later. -/
def kept : BuiltIn → List Frame
  | sink s => s.queue.toList
  | mixer m => m.lanes.flatMap fun l => l.queue.toList
  | _ => []

theorem allOf_kept_mixer {m : Mixer} :
    AllOf format (mixer m).kept ↔ ∀ l ∈ m.lanes, AllOf format l.queue.toList := by
  simp only [AllOf, kept, List.forall_mem_flatMap]

/-- What a call leaves behind: frames of one format, and the inputs that there were. -/
structure Keeps (format : Format) (f : BuiltIn) (turn : Turn BuiltIn) : Prop where
  tray : turn.tray.AllOf format
  kept : AllOf format turn.state.kept
  inputs : Filter.inputs turn.state = Filter.inputs f

theorem keeps_mixer {m : Mixer} {turn : Turn Mixer} (keeps : Mixer.Keeps format m turn) :
    Keeps format (mixer m) (turn.map mixer) where
  tray := keeps.tray
  kept := allOf_kept_mixer.2 keeps.lanes
  inputs := congrArg (Pad.numbered "input") keeps.count

variable {f : BuiltIn} {pad : Nat} {tray : Tray}

theorem keeps_done (emitted : tray.AllOf format) (kept : AllOf format f.kept) :
    Keeps format f (.done f tray) := ⟨emitted, kept, rfl⟩

theorem keeps_onFrame (emitted : tray.AllOf format) (kept : AllOf format f.kept)
    (same : frame.format = format) : Keeps format f (Filter.onFrame f pad frame tray) := by
  cases f with
  | buffer b =>
    exact ⟨Turn.allOf_emit emitted ((b.format_stamp frame).trans same), allOf_nil format, rfl⟩
  | sink s => exact ⟨emitted, kept.push same, rfl⟩
  | passThrough p => exact ⟨Turn.allOf_emit emitted same, allOf_nil format, rfl⟩
  | volume v =>
    exact ⟨Turn.allOf_emit emitted ((v.format_apply frame).trans same), allOf_nil format, rfl⟩
  | head h => exact ⟨h.allOf_onFrame emitted same, allOf_nil format, rfl⟩
  | split s => exact ⟨s.allOf_emitAll emitted same, allOf_nil format, rfl⟩
  | mixer m => exact keeps_mixer (Mixer.keeps_onFrame emitted (allOf_kept_mixer.1 kept) same)

theorem keeps_onEnd (emitted : tray.AllOf format) (kept : AllOf format f.kept) :
    Keeps format f (Filter.onEnd f pad tray) := by
  cases f with
  | mixer m => exact keeps_mixer (Mixer.keeps_onEnd emitted (allOf_kept_mixer.1 kept))
  | _ => exact keeps_done emitted kept

theorem keeps_onFlush (emitted : tray.AllOf format) (kept : AllOf format f.kept) :
    Keeps format f (Filter.onFlush f tray) := by
  cases f with
  | mixer m => exact keeps_mixer (Mixer.keeps_onFlush emitted (allOf_kept_mixer.1 kept))
  | sink s => exact ⟨emitted, kept, rfl⟩
  | _ => exact keeps_done emitted kept

/-- A sink hands out frames that it has kept. -/
theorem allOf_take (kept : AllOf format f.kept) : AllOf format f.take.1.kept ∧
    Filter.inputs f.take.1 = Filter.inputs f ∧
      ∀ frame, f.take.2 = .ok (.ready frame) → frame.format = format := by
  cases f with
  | sink s =>
    show AllOf format s.take.1.queue.toList ∧ _ ∧
      ∀ frame, s.take.2 = .ok (.ready frame) → frame.format = format
    unfold Sink.take
    split
    · next first rest popped =>
      have kept : AllOf format s.queue.toList := kept
      rw [Queue.pop?_eq_some_iff.1 popped] at kept
      obtain ⟨here, later⟩ := List.forall_mem_cons.1 kept
      refine ⟨later, rfl, fun frame ready => ?_⟩
      obtain rfl : first = frame := by simpa using ready
      exact here
    · refine ⟨kept, rfl, fun frame ready => ?_⟩
      split at ready <;> simp at ready
  | _ => exact ⟨kept, rfl, by simp [take]⟩

theorem Made.kept_eq {values : Setting.Values} {kind : Kind BuiltIn} (made : Made values kind f) :
    f.kept = [] := by
  cases made with
  | mixer read idle => simp [kept, idle, Mixer.idle]
  | sink => exact Queue.toList_empty
  | _ => rfl

end BuiltIn

theorem Node.keeps_invoke {n : Node BuiltIn} {work : Work} {tray : Tray}
    (emitted : tray.AllOf format) (kept : AllOf format n.filter.kept)
    (same : ∀ pad frame, work = .frame pad frame → frame.format = format) :
    BuiltIn.Keeps format n.filter (n.invoke work tray) := by
  cases work with
  | frame pad frame => exact BuiltIn.keeps_onFrame emitted kept (same pad frame rfl)
  | endOfInput pad => exact BuiltIn.keeps_onEnd emitted kept
  | flush =>
    have keeps := BuiltIn.keeps_onFlush emitted kept
    unfold invoke
    dsimp only
    split
    · exact ⟨keeps.tray, keeps.kept, keeps.inputs⟩
    · exact keeps

end FrameFlow
