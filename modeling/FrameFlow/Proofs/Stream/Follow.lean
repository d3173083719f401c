import FrameFlow.Proofs.Flow.Routing
import FrameFlow.Proofs.Stream.Answer

/-! Built-in filters follow their answers. Between calls, the state of a filter is known from what
it was given, and everything it could send so far has been sent. No call of a built-in filter
fails. -/
namespace FrameFlow

namespace Tray

theorem emit_eq {t : Tray} {pad : Nat} (inside : pad < t.outputs) (frame : Frame) :
    t.emit pad frame = .ok { t with frames := t.frames.push (pad, frame) } := if_pos inside

end Tray

theorem Turn.emit_eq {σ : Type} (state : σ) {t : Tray} {pad : Nat} (inside : pad < t.outputs)
    (frame : Frame) :
    Turn.emit state t pad frame = .done state { t with frames := t.frames.push (pad, frame) } := by
  simp only [Turn.emit, t.emit_eq inside]

/-- A tray that starts with some outputs closed and gets some frames. -/
def Tray.with (sent : List (Nat × Frame)) (closed : List Bool) : Tray := ⟨.ofList sent, closed⟩

namespace Tray

variable {sent : List (Nat × Frame)} {closed : List Bool} {pad : Nat}

@[simp] theorem outputs_with : (Tray.with sent closed).outputs = closed.length := rfl

theorem push_with (frame : Frame) :
    { Tray.with sent closed with frames := (Tray.with sent closed).frames.push (pad, frame) } =
      .with (sent ++ [(pad, frame)]) closed := by
  have same : (Queue.ofList sent).push (pad, frame) = .ofList (sent ++ [(pad, frame)]) :=
    Queue.ext (by simp)
  simp only [Tray.with, same]

end Tray

namespace Split

/-- A frame goes out on every pad that is open. -/
theorem emitAll_eq (s : Split) (frame : Frame) {closed : List Bool} {pads : List Nat}
    (opened : ∀ pad ∈ pads, closed.getD pad true = false) (sent : List (Nat × Frame)) :
    s.emitAll frame pads (.with sent closed) =
      .done s (.with (sent ++ pads.map (·, frame)) closed) := by
  induction pads generalizing sent with
  | nil => simp [emitAll]
  | cons pad rest ih =>
    have here : (Tray.with sent closed).isClosed pad = false := opened pad List.mem_cons_self
    have inside := Tray.lt_outputs_of_not_isClosed here
    unfold emitAll
    simp only [here, Bool.false_eq_true, if_false, Tray.emit_eq inside, Tray.push_with]
    rw [ih fun p member => opened p (List.mem_cons_of_mem _ member)]
    simp

end Split

namespace Head

theorem closeAtEnd_done (h : Head) (sent : List (Nat × Frame)) (closed : Bool) :
    closeAtEnd (.done h (.with sent [closed])) =
      .done h (.with sent [closed || h.remaining == 0]) := by
  unfold closeAtEnd
  cases finished : h.remaining == 0 <;> simp [Turn.done, finished, Tray.close, Tray.with]

end Head

namespace Mixer

/-- The lanes of a mixer that has mixed some places of its inputs. -/
def lanesAt (inputs : List Stream) (i : Nat) : List Lane :=
  inputs.map fun s => ⟨.ofList (s.frames.drop i), s.ended⟩

theorem all_ready_lanesAt (inputs : List Stream) (i : Nat) :
    (lanesAt inputs i).all Lane.ready = settledAt inputs i := by
  simp only [lanesAt, settledAt, List.all_map]
  congr 1
  funext s
  have empty : (Queue.ofList (s.frames.drop i)).isEmpty = !decide (i < s.frames.length) := by
    rw [Bool.eq_iff_iff, Queue.isEmpty_iff]
    simp [List.drop_eq_nil_iff]
  simp [Lane.ready, empty]

theorem heads_lanesAt (inputs : List Stream) (i : Nat) :
    heads (lanesAt inputs i) = headsAt inputs i := by
  simp only [heads, lanesAt, headsAt, List.filterMap_map]
  congr 1
  funext s
  simp

theorem advance_lanesAt (inputs : List Stream) (i : Nat) :
    advance (lanesAt inputs i) = lanesAt inputs (i + 1) := by
  simp only [advance, lanesAt, List.map_map]
  congr 1
  funext s
  have rest : (Queue.ofList (s.frames.drop i)).tail = .ofList (s.frames.drop (i + 1)) :=
    Queue.ext (by simp)
  simp [Lane.advance, rest]

/-- A mixer sends all mixes that it can, and keeps the frames behind them. -/
theorem run_lanesAt (m : Mixer) (inputs : List Stream) (i : Nat) {closed : List Bool}
    (opened : closed.getD 0 true = false) (sent : List (Nat × Frame)) :
    run { m with lanes := lanesAt inputs i } (.with sent closed) =
      .done { m with lanes := lanesAt inputs (i + (mixFrom m.normalize inputs i).length) }
        (.with (sent ++ (mixFrom m.normalize inputs i).map (0, ·)) closed) := by
  have unclosed : (Tray.with sent closed).isClosed 0 = false := opened
  fun_induction mixFrom m.normalize inputs i generalizing sent with
  | case1 i settled none =>
    rw [run]
    simp only [unclosed, Bool.false_eq_true, if_false, all_ready_lanesAt, settled, Bool.not_true]
    split
    · simp
    · next heads' => simp [heads_lanesAt, none] at heads'
  | case2 i settled head others heads' ih =>
    rw [run]
    simp only [unclosed, Bool.false_eq_true, if_false, all_ready_lanesAt, settled, Bool.not_true]
    split
    · next none => simp [heads_lanesAt, heads'] at none
    · next first rest found =>
      rw [heads_lanesAt, heads'] at found
      obtain ⟨rfl, rfl⟩ := List.cons.inj found
      have inside := Tray.lt_outputs_of_not_isClosed unclosed
      simp only [Tray.emit_eq inside, Tray.push_with, advance_lanesAt]
      rw [ih _ opened]
      have places : i + 1 + (mixFrom m.normalize inputs (i + 1)).length =
          i + ((mixFrom m.normalize inputs (i + 1)).length + 1) := by omega
      simp [places]
  | case3 i unsettled =>
    rw [run]
    simp [unclosed, all_ready_lanesAt, unsettled]

theorem length_lanesAt (inputs : List Stream) (i : Nat) :
    (lanesAt inputs i).length = inputs.length := List.length_map _

/-- A frame goes to the end of its lane. -/
theorem modify_lanesAt_frame {normalize : Bool} {inputs : List Stream} {pad : Nat} {s : Stream}
    (at_pad : inputs[pad]? = some s) (going : s.ended = false) (frame : Frame) :
    (lanesAt inputs (mixFrom normalize inputs 0).length).modify pad
        (fun l => { l with queue := l.queue.push frame }) =
      lanesAt (inputs.modify pad (Stream.push frame))
        (mixFrom normalize inputs 0).length := by
  have enough : (mixFrom normalize inputs 0).length ≤ s.frames.length := by
    by_contra short
    have before : s.frames.length < 0 + (mixFrom normalize inputs 0).length := by omega
    have settled := settledAt_of_lt (Nat.zero_le _) before
    have there := List.all_eq_true.1 settled s (List.mem_of_getElem? at_pad)
    simp [going] at there
  have queue : ∀ i ≤ s.frames.length, (Queue.ofList (s.frames.drop i)).push frame =
      .ofList ((s.frames ++ [frame]).drop i) := by
    intro i within
    exact Queue.ext (by simp [List.drop_append_of_le_length within])
  refine List.ext_getElem? fun j => ?_
  simp only [lanesAt, List.getElem?_modify, List.getElem?_map]
  by_cases here : pad = j
  · subst here
    simp [at_pad, queue _ enough, Stream.push]
  · simp [here]

theorem modify_lanesAt_end (inputs : List Stream) (pad i : Nat) :
    (lanesAt inputs i).modify pad (fun l => { l with ended := true }) =
      lanesAt (inputs.modify pad Stream.finish) i := by
  refine List.ext_getElem? fun j => ?_
  simp only [lanesAt, List.getElem?_modify, List.getElem?_map]
  cases inputs[j]? with
  | none => rfl
  | some s => by_cases here : pad = j <;> simp [here, Stream.finish]

theorem map_lanesAt_end (inputs : List Stream) (i : Nat) :
    (lanesAt inputs i).map (fun l => { l with ended := true }) =
      lanesAt (inputs.map Stream.finish) i := by
  simp [lanesAt, Stream.finish]

end Mixer

/-- What a filter was given, after one more unit of work. Nothing comes after a flush. -/
def Work.onto (work : Work) (inputs : List Stream) : List Stream :=
  match work with
  | .frame pad f => inputs.modify pad (Stream.push f)
  | .endOfInput pad => inputs.modify pad Stream.finish
  | .flush => inputs.map Stream.finish

/-- Whether a unit of work goes on with what a filter was given. -/
def Work.Fits (inputs : List Stream) : Work → Prop
  | .frame pad _ => ∃ s, inputs[pad]? = some s ∧ s.ended = false
  | .endOfInput pad => pad < inputs.length
  | .flush => True

/-- The frame, if any, in the answer of a sink. -/
def offered : Except Fault Offer → List Frame
  | .ok (.ready frame) => [frame]
  | _ => []

@[simp] theorem emittedOn_range (frame : Frame) (count pad : Nat) :
    emittedOn pad ((List.range count).map (·, frame)) = if pad < count then [frame] else [] := by
  induction count with
  | zero => rfl
  | succ count ih =>
    rw [List.range_succ, List.map_append, emittedOn, List.filterMap_append, ← emittedOn, ih]
    by_cases here : count = pad
    · simp [here]
    · by_cases before : pad < count
      · simp [here, before, Nat.lt_succ_of_lt before]
      · have beyond : ¬pad < count + 1 := by omega
        simp [here, before, beyond]

theorem emittedOn_map_zero (frames : List Frame) : emittedOn 0 (frames.map (0, ·)) = frames := by
  simp [emittedOn, List.filterMap_map]

namespace BuiltIn

/-- A filter, set up as the first one says, in the state in which it is after it was given some
streams, handed out some frames and perhaps was flushed. -/
inductive Follows (taken : List Frame) (flushed : Bool) : BuiltIn → List Stream → BuiltIn → Prop where
  | buffer (b : Buffer) (s : Stream) :
      Follows taken flushed (.buffer b) [s] (.buffer (b.stampAll s.frames).2)
  | sink {required : Format} {s : Stream} {queue : Queue Frame}
      (held : s.frames = taken ++ queue.toList) :
      Follows taken flushed (.sink ⟨required, .empty, false⟩) [s] (.sink ⟨required, queue, flushed⟩)
  | passThrough (p : PassThrough) (s : Stream) :
      Follows taken flushed (.passThrough p) [s] (.passThrough p)
  | volume (v : Volume) (s : Stream) : Follows taken flushed (.volume v) [s] (.volume v)
  | head (h : Head) (s : Stream) :
      Follows taken flushed (.head h) [s] (.head ⟨h.remaining - s.frames.length⟩)
  | split (p : Split) (s : Stream) : Follows taken flushed (.split p) [s] (.split p)
  | mixer {m : Mixer} (longest : m.duration = .longest) (inputs : List Stream) :
      Follows taken flushed (.mixer m) inputs
        (.mixer { m with lanes := Mixer.lanesAt inputs (Mixer.mixFrom m.normalize inputs 0).length })

/-- A call goes well and sends what the answer to the streams has more. Outputs are closed by a flush
or where the answer ends early. -/
structure Continues (taken : List Frame) (flushed : Bool) (start : BuiltIn)
    (inputs later : List Stream) (turn : Turn BuiltIn) : Prop where
  sound : turn.fault = none
  follows : Follows taken flushed start later turn.state
  frames : ∀ pad < (Filter.outputs start).length,
    start.frames later = start.frames inputs ++ emittedOn pad turn.tray.frames.toList
  closed : turn.tray.closed =
    List.replicate (Filter.outputs start).length (flushed || start.endsEarly later)

section Call

variable {taken : List Frame} {start f : BuiltIn} {inputs : List Stream}

theorem continues_done {flushed : Bool} {later : List Stream} {state : BuiltIn}
    {sent : List (Nat × Frame)} (follows : Follows taken flushed start later state)
    (more : ∀ pad < (Filter.outputs start).length,
      start.frames later = start.frames inputs ++ emittedOn pad sent) {closed : List Bool}
    (finished : closed = List.replicate (Filter.outputs start).length
      (flushed || start.endsEarly later)) :
    Continues taken flushed start inputs later (.done state (.with sent closed)) :=
  ⟨rfl, follows, fun pad inside => (more pad inside).trans
    (congrArg (_ ++ emittedOn pad ·) (Queue.toList_ofList sent).symm), finished⟩

/-- The tray of a call that is made before the filter is flushed. -/
def tray (start : BuiltIn) (inputs : List Stream) : Tray :=
  .with [] (List.replicate (Filter.outputs start).length (start.endsEarly inputs))

/-- A filter with one output that emits a frame there. -/
theorem emit_start {σ : Type} (state : σ) (one : (Filter.outputs start).length = 1) (frame : Frame) :
    Turn.emit state (start.tray inputs) 0 frame =
      .done state (.with [(0, frame)] [start.endsEarly inputs]) := by
  have closed : start.tray inputs = .with [] [start.endsEarly inputs] := by
    rw [tray, one]
    rfl
  have inside : 0 < (Tray.with [] [start.endsEarly inputs]).outputs := Nat.zero_lt_one
  rw [closed, Turn.emit_eq state inside, Tray.push_with]
  rfl

theorem map_emit {σ : Type} (wrap : σ → BuiltIn) (state : σ) (t : Tray) (pad : Nat) (frame : Frame) :
    (Turn.emit state t pad frame).map wrap = Turn.emit (wrap state) t pad frame := by
  unfold Turn.emit
  split <;> rfl

/-- A filter with one input that emits one frame for each one that it gets. -/
theorem continues_emit {s : Stream} {state : BuiltIn} (one : (Filter.outputs start).length = 1)
    {given sent : Frame} (follows : Follows taken false start [s.push given] state)
    (more : start.frames [s.push given] = start.frames [s] ++ [sent])
    (still : start.endsEarly [s.push given] = start.endsEarly [s]) :
    Continues taken false start [s] [s.push given] (Turn.emit state (start.tray [s]) 0 sent) := by
  rw [emit_start state one]
  refine continues_done follows (fun pad inside => ?_) ?_
  · obtain rfl : pad = 0 := by omega
    exact more
  · rw [one, still]
    rfl

/-- A head that gets one more frame sends it if it is one of the first. -/
theorem continues_head (h : Head) (s : Stream) (frame : Frame) :
    Continues taken false (.head h) [s] [s.push frame]
      ((Head.onFrame ⟨h.remaining - s.frames.length⟩ frame ((BuiltIn.head h).tray [s])).map .head) := by
  have follows : Follows taken false (.head h) [s.push frame] _ := .head h (s.push frame)
  have early : (BuiltIn.head h).tray [s] =
      .with [] [decide (max h.remaining 1 ≤ s.frames.length)] := rfl
  have longer : (s.push frame).frames.length = s.frames.length + 1 := List.length_append
  have more : (BuiltIn.head h).frames [s.push frame] =
      (BuiltIn.head h).frames [s] ++ [frame].take (h.remaining - s.frames.length) :=
    List.take_append
  have finished : (BuiltIn.head h).endsEarly [s.push frame] =
      (decide (max h.remaining 1 ≤ s.frames.length) ||
        h.remaining - (s.push frame).frames.length == 0) := by
    rw [Bool.eq_iff_iff]
    simp [endsEarly, Stream.first, longer]
    omega
  unfold Head.onFrame
  dsimp only
  rw [longer] at follows finished
  split
  · next left =>
    have one : [frame].take (h.remaining - s.frames.length) = [frame] :=
      List.take_of_length_le left
    rw [early, Turn.emit_eq _ (by simp), Tray.push_with, Head.closeAtEnd_done]
    refine continues_done follows (fun pad inside => ?_) ?_
    · obtain rfl : pad = 0 := Nat.lt_one_iff.1 inside
      rw [more, one]
      rfl
    · rw [finished]
      rfl
  · next out =>
    have none : h.remaining - s.frames.length = 0 := by omega
    have same : h.remaining - (s.frames.length + 1) = h.remaining - s.frames.length := by omega
    rw [none, List.take_zero, List.append_nil] at more
    rw [same] at follows finished
    rw [early, Head.closeAtEnd_done]
    refine continues_done follows (fun pad inside => ?_) ?_
    · rw [more]
      exact (List.append_nil _).symm
    · rw [finished]
      rfl

theorem continues_split (p : Split) (s : Stream) (frame : Frame) :
    Continues taken false (.split p) [s] [s.push frame]
      ((p.emitAll frame (List.range p.outputs) ((BuiltIn.split p).tray [s])).map .split) := by
  have count : (Filter.outputs (BuiltIn.split p)).length = p.outputs := Pad.length_numbered _ _
  have early : (BuiltIn.split p).tray [s] = .with [] (List.replicate p.outputs false) := by
    rw [tray, count]
    rfl
  have opened : ∀ pad ∈ List.range p.outputs,
      (List.replicate p.outputs false).getD pad true = false := by
    intro pad member
    simp [List.mem_range.1 member]
  rw [early, Split.emitAll_eq p frame opened]
  refine continues_done (.split p _) (fun pad inside => ?_) ?_
  · rw [count] at inside
    rw [List.nil_append, emittedOn_range, if_pos inside]
    rfl
  · rw [count]
    rfl

/-- A mixer whose inputs get more sends the mixes that they have more. -/
theorem run_mixer (m : Mixer) {inputs later : List Stream}
    (grow : List.Forall₂ Stream.Begins inputs later) :
    let lanes := Mixer.lanesAt later (Mixer.mixFrom m.normalize later 0).length
    ∃ more, (BuiltIn.mixer m).frames later = (BuiltIn.mixer m).frames inputs ++ more ∧
      Mixer.run { m with lanes := Mixer.lanesAt later (Mixer.mixFrom m.normalize inputs 0).length }
        ((BuiltIn.mixer m).tray inputs) = .done { m with lanes } (.with (more.map (0, ·)) [false]) := by
  have opened : (List.replicate (Filter.outputs (BuiltIn.mixer m)).length
      ((BuiltIn.mixer m).endsEarly inputs)).getD 0 true = false := rfl
  have more := Mixer.mixFrom_split m.normalize grow 0
  have places := congrArg List.length more
  rw [Nat.zero_add] at more places
  rw [List.length_append] at places
  refine ⟨_, more, ?_⟩
  rw [tray, Mixer.run_lanesAt m _ _ opened, ← places]
  rfl

theorem continues_mixer {m : Mixer} (longest : m.duration = .longest) {inputs later : List Stream}
    (grow : List.Forall₂ Stream.Begins inputs later) :
    Continues taken false (.mixer m) inputs later
      ((Mixer.run { m with lanes := Mixer.lanesAt later (Mixer.mixFrom m.normalize inputs 0).length }
        ((BuiltIn.mixer m).tray inputs)).map .mixer) := by
  obtain ⟨more, mixes, run⟩ := run_mixer m grow
  rw [run]
  refine continues_done (.mixer longest later) (fun pad inside => ?_) rfl
  obtain rfl : pad = 0 := Nat.lt_one_iff.1 inside
  rw [emittedOn_map_zero]
  exact mixes

/-- A frame on an input that has not ended. -/
theorem Follows.onFrame (follows : Follows taken false start inputs f) {pad : Nat} {s : Stream}
    (at_pad : inputs[pad]? = some s) (going : s.ended = false) (frame : Frame) :
    Continues taken false start inputs (inputs.modify pad (Stream.push frame))
      (Filter.onFrame f pad frame (start.tray inputs)) := by
  have only : ∀ {t : Stream}, [t][pad]? = some s → pad = 0 ∧ t = s := by
    intro t there
    cases pad <;> simp_all
  cases follows with
  | buffer b t =>
    obtain ⟨rfl, rfl⟩ := only at_pad
    have stamped := b.stampAll_append t.frames [frame]
    have follows : Follows taken false (.buffer b) [t.push frame] _ := .buffer b (t.push frame)
    rw [Stream.push, stamped] at follows
    show Continues _ _ _ _ [t.push frame] ((Turn.emit _ _ 0 _).map .buffer)
    rw [map_emit]
    exact continues_emit rfl follows (congrArg Prod.fst stamped) rfl
  | @sink required t queue held =>
    obtain ⟨rfl, rfl⟩ := only at_pad
    have more : (t.push frame).frames = taken ++ (queue.push frame).toList := by
      simp [Stream.push, held]
    exact ⟨rfl, .sink more, fun _ inside => absurd inside (Nat.not_lt_zero _), rfl⟩
  | passThrough p t =>
    obtain ⟨rfl, rfl⟩ := only at_pad
    show Continues _ _ _ _ [t.push frame] ((Turn.emit _ _ 0 _).map .passThrough)
    rw [map_emit]
    exact continues_emit rfl (.passThrough p _) rfl rfl
  | volume v t =>
    obtain ⟨rfl, rfl⟩ := only at_pad
    show Continues _ _ _ _ [t.push frame] ((Turn.emit _ _ 0 _).map .volume)
    rw [map_emit]
    exact continues_emit rfl (.volume v _) (by simp [BuiltIn.frames, Stream.first, Stream.push]) rfl
  | head h t =>
    obtain ⟨rfl, rfl⟩ := only at_pad
    exact continues_head h t frame
  | split p t =>
    obtain ⟨rfl, rfl⟩ := only at_pad
    exact continues_split p t frame
  | @mixer m longest _ =>
    have inside : pad < (Mixer.lanesAt inputs (Mixer.mixFrom m.normalize inputs 0).length).length := by
      rw [Mixer.length_lanesAt]
      exact (List.getElem?_eq_some_iff.1 at_pad).1
    show Continues _ _ _ _ _ ((Mixer.onFrame _ _ _ _).map .mixer)
    unfold Mixer.onFrame
    rw [if_pos inside, Mixer.modify_lanesAt_frame at_pad going]
    exact continues_mixer longest (Stream.begins_modify at_pad (Stream.begins_push going frame))

/-- The end of an input. -/
theorem Follows.onEnd (follows : Follows taken false start inputs f) {pad : Nat}
    (inside : pad < inputs.length) :
    Continues taken false start inputs (inputs.modify pad Stream.finish)
      (Filter.onEnd f pad (start.tray inputs)) := by
  have at_pad := List.getElem?_eq_getElem inside
  have silent : ∀ {later}, start.frames later = start.frames inputs → ∀ pad : Nat,
      pad < (Filter.outputs start).length →
        start.frames later = start.frames inputs ++ emittedOn pad [] :=
    fun same _ _ => same.trans (List.append_nil _).symm
  cases follows with
  | buffer b t =>
    obtain rfl : pad = 0 := Nat.lt_one_iff.1 inside
    exact continues_done (.buffer b t.finish) (silent rfl) rfl
  | @sink required t queue held =>
    obtain rfl : pad = 0 := Nat.lt_one_iff.1 inside
    exact continues_done (.sink (s := t.finish) held) (silent rfl) rfl
  | passThrough p t =>
    obtain rfl : pad = 0 := Nat.lt_one_iff.1 inside
    exact continues_done (.passThrough p t.finish) (silent rfl) rfl
  | volume v t =>
    obtain rfl : pad = 0 := Nat.lt_one_iff.1 inside
    exact continues_done (.volume v t.finish) (silent rfl) rfl
  | head h t =>
    obtain rfl : pad = 0 := Nat.lt_one_iff.1 inside
    exact continues_done (.head h t.finish) (silent rfl) rfl
  | split p t =>
    obtain rfl : pad = 0 := Nat.lt_one_iff.1 inside
    exact continues_done (.split p t.finish) (silent rfl) rfl
  | @mixer m longest _ =>
    show Continues _ _ _ _ _ ((Mixer.onEnd _ _ _).map .mixer)
    unfold Mixer.onEnd
    dsimp only
    rw [longest, Mixer.modify_lanesAt_end]
    have grow := Stream.begins_modify at_pad (Stream.begins_finish _)
    have onward : Continues taken _ _ _ _ _ := continues_mixer longest grow
    rw [longest] at onward
    exact onward

/-- A flush sends what is left. The outputs are closed after it. -/
theorem Follows.onFlush (follows : Follows taken false start inputs f) :
    ∃ state sent closed, Filter.onFlush f (start.tray inputs) = .done state (.with sent closed) ∧
      closed.length = (Filter.outputs start).length ∧
      Follows taken true start (inputs.map Stream.finish) state ∧
      ∀ pad < (Filter.outputs start).length,
        start.frames (inputs.map Stream.finish) = start.frames inputs ++ emittedOn pad sent := by
  have silent : ∀ {later}, start.frames later = start.frames inputs → ∀ pad : Nat,
      pad < (Filter.outputs start).length →
        start.frames later = start.frames inputs ++ emittedOn pad [] :=
    fun same _ _ => same.trans (List.append_nil _).symm
  cases follows with
  | buffer b t => exact ⟨_, _, _, rfl, List.length_replicate, .buffer b t.finish, silent rfl⟩
  | @sink required t queue held =>
    exact ⟨_, _, _, rfl, List.length_replicate, .sink (s := t.finish) held, silent rfl⟩
  | passThrough p t => exact ⟨_, _, _, rfl, List.length_replicate, .passThrough p t.finish, silent rfl⟩
  | volume v t => exact ⟨_, _, _, rfl, List.length_replicate, .volume v t.finish, silent rfl⟩
  | head h t => exact ⟨_, _, _, rfl, List.length_replicate, .head h t.finish, silent rfl⟩
  | split p t => exact ⟨_, _, _, rfl, List.length_replicate, .split p t.finish, silent rfl⟩
  | @mixer m longest _ =>
    have grow : List.Forall₂ Stream.Begins inputs (inputs.map Stream.finish) :=
      List.forall₂_map_right_iff.2 (List.forall₂_same.2 fun s _ => s.begins_finish)
    obtain ⟨more, mixes, run⟩ := run_mixer m grow
    refine ⟨_, more.map (0, ·), [false], ?_, rfl, .mixer longest _, fun pad inside => ?_⟩
    · show (Mixer.onFlush _ _).map BuiltIn.mixer = _
      unfold Mixer.onFlush
      dsimp only
      rw [Mixer.map_lanesAt_end, run]
      rfl
    · obtain rfl : pad = 0 := Nat.lt_one_iff.1 inside
      rw [emittedOn_map_zero]
      exact mixes

/-- Any call that goes on with what a filter was given. -/
theorem Follows.invoke {n : Node BuiltIn} (follows : Follows taken false start inputs n.filter)
    {work : Work} (fits : work.Fits inputs) :
    Continues taken (work == .flush) start inputs (work.onto inputs)
      (n.invoke work (start.tray inputs)) := by
  cases work with
  | frame pad frame =>
    obtain ⟨s, at_pad, going⟩ := fits
    exact follows.onFrame at_pad going frame
  | endOfInput pad => exact follows.onEnd fits
  | flush =>
    obtain ⟨state, sent, closed, turn, count, flushed, more⟩ := follows.onFlush
    unfold Node.invoke
    dsimp only
    rw [turn]
    refine continues_done flushed more ?_
    rw [← count]
    exact List.map_const'

/-- What a sink hands out comes first of what it was given. -/
theorem Follows.take {flushed : Bool} (follows : Follows taken flushed start inputs f) :
    Follows (taken ++ offered (Filter.take f).2) flushed start inputs (Filter.take f).1 := by
  cases follows with
  | buffer b t => exact .buffer b t
  | @sink required t queue held =>
    show Follows (taken ++ offered (Sink.take _).2) _ _ _ (.sink (Sink.take _).1)
    unfold Sink.take
    dsimp only
    split
    · next frame rest popped =>
      rw [Queue.pop?_eq_some_iff.1 popped] at held
      exact .sink (by simp [held, offered])
    · next none => exact .sink (by cases flushed <;> simp [held, offered])
  | passThrough p t => exact .passThrough p t
  | volume v t => exact .volume v t
  | head h t => exact .head h t
  | split p t => exact .split p t
  | mixer longest _ => exact .mixer longest inputs

/-- A sink is over once it was flushed. -/
theorem Follows.flushed_of_take {flushed : Bool} (follows : Follows taken flushed start inputs f)
    (finished : (Filter.take f).2 = .ok .ended) : flushed := by
  cases follows with
  | @sink required t queue held =>
    have asked : (Sink.take ⟨required, queue, flushed⟩).2 = .ok .ended := finished
    unfold Sink.take at asked
    cases flushed with
    | true => rfl
    | false => split at asked <;> simp at asked
  | _ => simp [Filter.take, BuiltIn.take] at finished

end Call
end BuiltIn
end FrameFlow
