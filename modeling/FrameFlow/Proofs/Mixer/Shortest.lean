import FrameFlow.Proofs.Mixer.Pairing

/-! Mixers in the shortest mode. The first end of an input closes the output before anything more is
mixed. Until then as many frames were mixed as came on the input with the fewest, so frames of the ended
input are lost where it had more than another one. -/
namespace FrameFlow

open Setting (Values)

theorem isOver_eq_false {works : List Work} (going : ∀ pad, .endOfInput pad ∉ works)
    (unflushed : .flush ∉ works) (pad : Nat) : isOver pad works = false := by
  refine List.any_eq_false.2 fun work member => ?_
  cases work with
  | frame => simp [Work.ends]
  | endOfInput p => exact absurd member (going p)
  | flush => exact absurd member unflushed

theorem inOrder_of_going {works : List Work} (going : ∀ pad, isOver pad works = false) :
    InOrder works := by
  refine List.pairwise_of_forall_mem_list fun earlier member later _ => ?_
  cases later with
  | frame pad frame =>
    have open_input := List.any_eq_false.1 (going pad) earlier member
    simpa [Work.mayFollow] using open_input
  | _ => rfl

namespace Mixer

/-- Where the output is closed, frames that wait are dropped and nothing is sent. -/
theorem run_of_closed {m : Mixer} {tray : Tray} (closed : tray.isClosed 0) :
    m.run tray = .done { m with lanes := m.lanes.map fun l => { l with queue := .empty } } tray := by
  rw [run, if_pos closed]

/-- A mixer that has closed its output and holds nothing. -/
structure Over (emitted : List (Nat × Frame)) (solo : Solo Mixer) : Prop where
  closed : solo.closed = [true]
  emitted : solo.emitted = emitted
  idle : ∀ l ∈ solo.state.lanes, l.queue = .empty

theorem over_of_run {solo : Solo Mixer} {work : Work} {m : Mixer} {tray : Tray}
    (turn : work.call solo.state (.start solo.closed) = m.run tray) (closed : tray.closed = [true])
    (empty : tray.frames = .empty) : Over solo.emitted (solo.call work) := by
  have isClosed : tray.isClosed 0 := by simp [Tray.isClosed, closed]
  rw [run_of_closed isClosed] at turn
  rw [Solo.call, turn]
  refine ⟨closed, ?_, fun l member => ?_⟩
  · simp [Turn.done, empty]
  · obtain ⟨lane, _, rfl⟩ := List.mem_map.1 member
    rfl

theorem Over.call {emitted : List (Nat × Frame)} {solo : Solo Mixer} (shut : Over emitted solo)
    (work : Work) : Over emitted (solo.call work) := by
  have tray : (Tray.start solo.closed).closed = [true] := shut.closed
  rw [← shut.emitted]
  cases work with
  | frame pad frame =>
    by_cases inside : pad < solo.state.lanes.length
    · exact over_of_run (if_pos inside) tray rfl
    · have turn : Work.call (.frame pad frame) solo.state (.start solo.closed) = .fail _ _ _ :=
        if_neg inside
      rw [Solo.call, turn]
      exact ⟨tray, by simp [Turn.fail, Tray.start], shut.idle⟩
  | endOfInput pad =>
    refine over_of_run rfl ?_ ?_
    · cases solo.state.duration <;> simp [Tray.close, tray]
    · cases solo.state.duration <;> rfl
  | flush => exact over_of_run rfl tray rfl

/-- A bound that is met just below all of some numbers is the least of them. -/
theorem least_of_lt_iff {pads count : Nat} {length : Nat → Nat}
    (below : ∀ k, k < count ↔ ∀ q < pads, k < length q) :
    (∀ q < pads, count ≤ length q) ∧ ∃ q < pads, length q = count := by
  have least : ∀ q < pads, count ≤ length q := by
    intro q within
    by_contra more
    exact Nat.lt_irrefl _ ((below _).1 (Nat.lt_of_not_le more) q within)
  refine ⟨least, ?_⟩
  by_contra none
  refine Nat.lt_irrefl count ((below count).2 fun q within => ?_)
  exact Nat.lt_of_le_of_ne (least q within) fun same => none ⟨q, within, same.symm⟩

section Before

variable {m : Mixer} {before : List Work} (fresh : m.lanes = idle (Filter.inputs m).length)
  (going : ∀ q, .endOfInput q ∉ before) (unflushed : .flush ∉ before)

include going unflushed

/-- As long as no input ends, a place is due where all inputs have a frame. -/
theorem due_of_going {pads pad : Nat} (inside : pad < pads) {k : Nat} :
    Due pads before k ↔ ∀ q < pads, k < (received q before).length := by
  have going : ∀ q, isOver q before = false := isOver_eq_false going unflushed
  constructor
  · intro due q within
    simpa [going q] using due.settled q within
  · intro long
    exact ⟨fun q within => .inl (long q within), pad, inside, long pad inside⟩

include fresh

theorem caughtUp_of_going : CaughtUp m (Filter.inputs m).length before (Solo.after m before) :=
  caughtUp_after fresh (inOrder_of_going (isOver_eq_false going unflushed))
    (any_closes_eq_false_iff.2 (.inr going))

/-- As many frames were mixed as came on the input with the fewest. -/
theorem length_emitted_of_going {pad : Nat} (inside : pad < (Filter.inputs m).length) :
    (∀ q < (Filter.inputs m).length, (Solo.after m before).emitted.length ≤ (received q before).length) ∧
      ∃ q < (Filter.inputs m).length,
        (received q before).length = (Solo.after m before).emitted.length := by
  have caught := caughtUp_of_going fresh going unflushed
  exact least_of_lt_iff fun k =>
    caught.lt_length_emitted_iff.trans (due_of_going going unflushed inside)

/-- Only what came on each input matters, not when. -/
theorem emitted_eq_of_received_eq {other : List Work} (going' : ∀ q, .endOfInput q ∉ other)
    (unflushed' : .flush ∉ other)
    (same : ∀ q < (Filter.inputs m).length, received q other = received q before) :
    (Solo.after m other).emitted = (Solo.after m before).emitted := by
  have given_eq : given (Filter.inputs m).length other = given (Filter.inputs m).length before := by
    refine List.map_congr_left fun q member => ?_
    rw [same q (List.mem_range.1 member), isOver_eq_false going' unflushed',
      isOver_eq_false going unflushed]
  rw [(caughtUp_of_going fresh going' unflushed').emitted, given_eq,
    (caughtUp_of_going fresh going unflushed).emitted]

omit fresh unflushed in
theorem opened_of_going : (Solo.after m before).closed = [false] := by
  rw [(called_after m before).closed, any_closes_eq_false_iff.2 (.inr going)]

omit fresh unflushed in
/-- The first end closes the output for good. -/
theorem over_of_end (shortest : m.duration = .shortest) (pad : Nat) (later : List Work) :
    Over (Solo.after m before).emitted (Solo.after m (before ++ .endOfInput pad :: later)) := by
  have mode : (Solo.after m before).state.duration = .shortest :=
    (called_after m before).duration.trans shortest
  have now : Over (Solo.after m before).emitted (Solo.after m (before ++ [.endOfInput pad])) := by
    rw [Solo.after_concat]
    refine over_of_run rfl ?_ ?_
    · rw [mode]
      simp [Tray.close, Tray.start, opened_of_going going]
    · rw [mode]
      rfl
  have still := Solo.after_append_induction now (fun _ work shut => shut.call work) later
  rwa [List.append_assoc, List.singleton_append] at still

end Before

/-- The end of an input in the shortest mode, after some frames and before more work. -/
structure CutShort (m : Mixer) (pads : Nat) (before : List Work) (pad : Nat) (later : List Work) :
    Prop where
  opened : (Solo.after m before).closed = [false]
  count : ((List.range pads).map fun q => (received q before).length).min? =
    some (Solo.after m before).emitted.length
  mixed : ∀ k < (Solo.after m before).emitted.length, ∃ mixed,
    (Solo.after m before).emitted[k]? = some (0, mixed) ∧
      IsMixOf m.normalize (contributions pads before k) mixed
  waiting : (Solo.after m before).state.lanes.map (fun l => l.queue.toList) =
    (List.range pads).map fun q => (received q before).drop (Solo.after m before).emitted.length
  shut : Over (Solo.after m before).emitted (Solo.after m (before ++ .endOfInput pad :: later))
  interleaved : ∀ other : List Work, (∀ q, .endOfInput q ∉ other) → .flush ∉ other →
    (∀ q < pads, received q other = received q before) →
      (Solo.after m other).emitted = (Solo.after m before).emitted

/-- In the shortest mode the frames of the ended input have all been mixed just if no other input got
fewer. Of every input the first frames were mixed, as many as came on the input with the fewest; the end
drops the others, and whatever came in between has no effect on that. -/
theorem mixed_before_end_iff {values : Values} {m : Mixer}
    (made : Filter.setUp Mixer.initial values = .ok m) (shortest : m.duration = .shortest)
    {before : List Work} (going : ∀ q, .endOfInput q ∉ before) (unflushed : .flush ∉ before)
    {pad : Nat} (inside : pad < (Filter.inputs m).length) (later : List Work) :
    CutShort m (Filter.inputs m).length before pad later ∧
      ((Solo.after m before).state.lanes[pad]?.map Lane.queue = some .empty ↔
        ∀ q < (Filter.inputs m).length, (received pad before).length ≤ (received q before).length) := by
  have fresh := idle_of_setUp made
  have caught := caughtUp_of_going fresh going unflushed
  obtain ⟨least, slowest, within, reached⟩ := length_emitted_of_going fresh going unflushed inside
  refine ⟨⟨opened_of_going going, ?_, fun k before_end => ?_, caught.waiting,
    over_of_end going shortest pad later,
    fun other going' unflushed' => emitted_eq_of_received_eq fresh going unflushed going' unflushed'⟩, ?_⟩
  · rw [List.min?_eq_some_iff]
    simp only [List.mem_map, List.mem_range]
    refine ⟨⟨slowest, within, reached⟩, ?_⟩
    rintro _ ⟨q, inner, rfl⟩
    exact least q inner
  · have there := List.getElem?_eq_getElem before_end
    obtain ⟨_, mixed, sent, is⟩ := caught.getElem?_emitted.1 there
    exact ⟨mixed, there.trans (congrArg some sent), is⟩
  · rw [caught.queue_eq_empty_iff inside]
    exact ⟨fun few q inner => Nat.le_trans few (least q inner),
      fun fewest => reached ▸ fewest slowest within⟩

def shortestOptions : Values := kind.options.complete (Table.empty.put "duration" (.text "shortest"))

def cutting : Mixer := { initial with duration := .shortest }

def tick : Frame := ⟨⟨48000, 1⟩, none, .ofList [1]⟩

/-- The input that ends got one frame, the other one two. -/
theorem mixed_before_end_fewest :
    let before : List Work := [.frame 1 tick, .frame 0 tick, .frame 1 tick]
    Filter.setUp initial shortestOptions = .ok cutting ∧ (∀ q, .endOfInput q ∉ before) ∧
      .flush ∉ before ∧ 0 < (Filter.inputs cutting).length ∧
      CutShort cutting (Filter.inputs cutting).length before 0 [.frame 1 tick] ∧
      (Solo.after cutting before).state.lanes[0]?.map Lane.queue = some .empty := by
  intro before
  have made : Filter.setUp initial shortestOptions = .ok cutting := by decide +kernel
  have going : ∀ q, Work.endOfInput q ∉ before := by simp [before]
  have unflushed : Work.flush ∉ before := by simp [before]
  have inside : 0 < (Filter.inputs cutting).length := by decide
  obtain ⟨short, mixed_iff⟩ := mixed_before_end_iff made rfl going unflushed inside [.frame 1 tick]
  exact ⟨made, going, unflushed, inside, short, mixed_iff.2 (by decide)⟩

/-- A frame that waits for a slower input is lost when its own input ends. -/
theorem lone_frame_lost :
    let before : List Work := [.frame 0 tick]
    let shut := Solo.after cutting [.frame 0 tick, .endOfInput 0]
    Filter.setUp initial shortestOptions = .ok cutting ∧ received 0 before = [tick] ∧
      (Solo.after cutting before).closed = [false] ∧ shut.closed = [true] ∧ shut.emitted = [] := by
  intro before shut
  have made : Filter.setUp initial shortestOptions = .ok cutting := by decide +kernel
  have going : ∀ q, Work.endOfInput q ∉ before := by simp [before]
  have unflushed : Work.flush ∉ before := by simp [before]
  have inside : 0 < (Filter.inputs cutting).length := by decide
  obtain ⟨least, _⟩ := length_emitted_of_going (idle_of_setUp made) going unflushed inside
  have none : (Solo.after cutting before).emitted = [] :=
    List.length_eq_zero_iff.1 (Nat.le_zero.1 (least 1 (by decide)))
  have shortest : cutting.duration = .shortest := rfl
  have ends := over_of_end going shortest 0 []
  exact ⟨made, rfl, opened_of_going going, ends.closed, ends.emitted.trans none⟩

end Mixer
end FrameFlow
