import FrameFlow.Proofs.Filter.Calls
import Mathlib.Algebra.Order.Ring.Int

/-! The timestamps of a source. A frame that brings none starts where the frame before it ended, counted
from the last timestamp that was brought, or from zero, and never later than the last time there is. -/
namespace FrameFlow

/-- The frame of a unit of work that has one. -/
def Work.frame? : Work → Option Frame
  | .frame _ f => some f
  | _ => none

/-- The frames that a filter was given, on whatever input. -/
def framesOf (works : List Work) : List Frame := works.filterMap Work.frame?

/-- The time at which some frames have ended that come one after the other. -/
inductive TimeAfter : List Frame → Int → Prop where
  | sinceZero {frames : List Frame} (unstamped : ∀ f ∈ frames, f.pts = none) :
      TimeAfter frames (frames.map Frame.duration).sum
  | since {earlier later : List Frame} {last : Frame} {t : Int64} (brings : last.pts = some t)
      (unstamped : ∀ f ∈ later, f.pts = none) :
      TimeAfter (earlier ++ last :: later) (t.toInt + ((last :: later).map Frame.duration).sum)

namespace TimeAfter

variable {before : List Frame} {frame : Frame} {time : Int} {t : Int64}

theorem concat (after : TimeAfter before time) (unstamped : frame.pts = none) :
    TimeAfter (before ++ [frame]) (time + frame.duration) := by
  cases after with
  | sinceZero others =>
    have none : ∀ f ∈ before ++ [frame], f.pts = none :=
      List.forall_mem_append.2 ⟨others, by simpa using unstamped⟩
    simpa using sinceZero none
  | @since earlier later last t brings others =>
    have none : ∀ f ∈ later ++ [frame], f.pts = none :=
      List.forall_mem_append.2 ⟨others, by simpa using unstamped⟩
    have more : TimeAfter (earlier ++ last :: (later ++ [frame])) _ := since brings none
    simpa [Int.add_assoc] using more

theorem stamped (before : List Frame) (brings : frame.pts = some t) :
    TimeAfter (before ++ [frame]) (t.toInt + frame.duration) := by
  have more : TimeAfter (before ++ [frame]) _ := since brings (List.forall_mem_nil _)
  simpa using more

end TimeAfter

/-- The last time there is. -/
def lastTime : Int := 2 ^ 63 - 1

/-- The timestamp of a frame that comes after some others: its own, or else the time after those. -/
structure IsStamp (before : List Frame) (frame : Frame) (t : Int64) : Prop where
  own : ∀ s, frame.pts = some s → t = s
  counted : frame.pts = none → ∃ time, TimeAfter before time ∧ t.toInt = min lastTime time

namespace Buffer

theorem toInt_ending (pts : Int64) (duration : Nat) :
    (ending pts duration).toInt = min lastTime (pts.toInt + duration) := by
  have low := pts.le_toInt
  have high := pts.toInt_lt
  unfold ending lastTime
  refine Int64.toInt_ofInt_of_le ?_ ?_ <;> omega

section Stamps

variable {b : Buffer} {before : List Frame} {frame : Frame}

/-- The timestamp that a source gives a frame. -/
def timeOf (b : Buffer) (frame : Frame) : Int64 := frame.pts.getD b.nextPts

theorem stamp_eq (b : Buffer) (frame : Frame) :
    b.stamp frame = ({ frame with pts := some (b.timeOf frame) },
      { b with previous := some { frame with pts := some (b.timeOf frame) } }) := by
  obtain ⟨format, pts, samples⟩ := frame
  cases pts <;> rfl

theorem toInt_nextPts_stamp (b : Buffer) (frame : Frame) :
    (b.stamp frame).2.nextPts.toInt = min lastTime ((b.timeOf frame).toInt + frame.duration) := by
  rw [stamp_eq]
  exact toInt_ending _ _

/-- A source goes on where the frames before have ended. -/
theorem nextPts_stampAll (fresh : b.previous = none) (before : List Frame) :
    ∃ time, TimeAfter before time ∧ (b.stampAll before).2.nextPts.toInt = min lastTime time := by
  induction before using List.reverseRecOn with
  | nil =>
    have zero : (b.stampAll []).2.nextPts = 0 := by simp [stampAll, nextPts, fresh]
    exact ⟨0, .sinceZero (by simp), by rw [zero]; decide⟩
  | append_singleton before frame ih =>
    obtain ⟨time, after, next⟩ := ih
    have step := toInt_nextPts_stamp (b.stampAll before).2 frame
    rw [stampAll_append]
    cases brought : frame.pts with
    | none =>
      rw [timeOf, brought, Option.getD_none, next] at step
      exact ⟨_, after.concat brought, step.trans (by omega)⟩
    | some t =>
      rw [timeOf, brought, Option.getD_some] at step
      exact ⟨_, .stamped before brought, step⟩

theorem isStamp_timeOf (fresh : b.previous = none) (before : List Frame) (frame : Frame) :
    IsStamp before frame ((b.stampAll before).2.timeOf frame) where
  own s brings := by rw [timeOf, brings, Option.getD_some]
  counted unstamped := by
    rw [timeOf, unstamped, Option.getD_none]
    exact nextPts_stampAll fresh before

/-- A frame without a timestamp of its own comes no earlier than the one before it. -/
theorem timeOf_le (unstamped : frame.pts = none) (before : List Frame) (last : Frame) :
    ((b.stampAll before).2.timeOf last).toInt ≤ ((b.stampAll (before ++ [last])).2.timeOf frame).toInt := by
  have step := toInt_nextPts_stamp (b.stampAll before).2 last
  have high := ((b.stampAll before).2.timeOf last).toInt_lt
  have next : (b.stampAll (before ++ [last])).2.timeOf frame =
      ((b.stampAll before).2.stamp last).2.nextPts := by
    rw [stampAll_append, timeOf, unstamped, Option.getD_none]
    rfl
  rw [next, step, lastTime]
  omega

theorem length_stampAll (b : Buffer) (frames : List Frame) :
    (b.stampAll frames).1.length = frames.length := by
  induction frames generalizing b with
  | nil => rfl
  | cons frame rest ih => simp [stampAll, ih]

theorem getElem?_stampAll (b : Buffer) (frames : List Frame) (k : Nat) :
    (b.stampAll frames).1[k]? = frames[k]?.map fun frame =>
      { frame with pts := some ((b.stampAll (frames.take k)).2.timeOf frame) } := by
  induction frames generalizing b k with
  | nil => rfl
  | cons frame rest ih =>
    cases k with
    | zero =>
      rw [stampAll, stamp_eq]
      rfl
    | succ k => exact ih (b.stamp frame).2 k

/-- In a run of frames without timestamps the later one comes no earlier. -/
theorem timeOf_mono {frames : List Frame} {i k : Nat} {f f' : Frame} (order : i ≤ k)
    (at_i : frames[i]? = some f) (at_k : frames[k]? = some f')
    (unstamped : ∀ j f, i < j → j ≤ k → frames[j]? = some f → f.pts = none) :
    ((b.stampAll (frames.take i)).2.timeOf f).toInt ≤ ((b.stampAll (frames.take k)).2.timeOf f').toInt := by
  induction k generalizing f' with
  | zero =>
    obtain rfl : i = 0 := by omega
    exact Option.some.inj (at_i.symm.trans at_k) ▸ Int.le_refl _
  | succ k ih =>
    rcases Nat.lt_or_eq_of_le order with less | rfl
    · have inside := (List.getElem?_eq_some_iff.1 at_k).1
      have at_last := List.getElem?_eq_getElem (show k < frames.length by omega)
      have here := ih (by omega) at_last fun j f low high => unstamped j f low (by omega)
      have split : frames.take (k + 1) = frames.take k ++ [frames[k]] := by
        rw [List.take_add_one, at_last, Option.toList_some]
      rw [split]
      exact Int.le_trans here (timeOf_le (unstamped (k + 1) f' less (Nat.le_refl _) at_k) _ _)
    · exact Option.some.inj (at_i.symm.trans at_k) ▸ Int.le_refl _

end Stamps

section Calls

variable {b : Buffer} {works : List Work}

/-- What is known of a source after any calls at all. -/
structure Called (b : Buffer) (works : List Work) (solo : Solo Buffer) : Prop where
  state : solo.state = (b.stampAll (framesOf works)).2
  closed : solo.closed = [false]
  emitted : solo.emitted = (b.stampAll (framesOf works)).1.map fun frame => (0, frame)
  faults : solo.faults = []

theorem call_frame (b : Buffer) (pad : Nat) (frame : Frame) :
    (Work.frame pad frame).call b (.start [false]) =
      ⟨(b.stamp frame).2, ⟨.push .empty (0, (b.stamp frame).1), [false]⟩, none⟩ := rfl

theorem call_other {work : Work} (none : work.frame? = none) (b : Buffer) (tray : Tray) :
    work.call b tray = .done b tray := by
  cases work with
  | frame pad f => cases none
  | _ => rfl

theorem Called.call {solo : Solo Buffer} (called : Called b works solo) (work : Work) :
    Called b (works ++ [work]) (solo.call work) := by
  have grown : framesOf (works ++ [work]) = framesOf works ++ work.frame?.toList := by
    cases given : work.frame? <;> simp [framesOf, given]
  obtain ⟨state, closed, emitted, faults⟩ := solo
  obtain ⟨rfl, rfl, rfl, rfl⟩ := called
  cases given : work.frame? with
  | none =>
    rw [given, Option.toList_none, List.append_nil] at grown
    rw [Solo.call, call_other given]
    constructor <;> simp [grown, Turn.done, Tray.start]
  | some frame =>
    obtain ⟨pad, rfl⟩ : ∃ pad, work = .frame pad frame := by
      cases work with
      | frame pad f => exact ⟨pad, congrArg _ (Option.some.inj given)⟩
      | _ => cases given
    rw [given, Option.toList_some] at grown
    rw [Solo.call, call_frame]
    constructor <;> simp [grown, stampAll_append, stampAll]

theorem called_after (b : Buffer) (works : List Work) : Called b works (Solo.after b works) := by
  induction works using List.reverseRecOn with
  | nil => exact ⟨rfl, rfl, rfl, rfl⟩
  | append_singleton works work ih => exact Solo.after_concat b works work ▸ ih.call work

theorem getElem?_emitted (b : Buffer) (works : List Work) (k : Nat) :
    (Solo.after b works).emitted[k]? = (framesOf works)[k]?.map fun frame =>
      (0, { frame with pts := some ((b.stampAll ((framesOf works).take k)).2.timeOf frame) }) := by
  rw [(called_after b works).emitted, List.getElem?_map, getElem?_stampAll, Option.map_map]
  rfl

end Calls

/-- What comes of the frames that a source is given, one by one. -/
structure Stamped (frames : List Frame) (solo : Solo Buffer) : Prop where
  faults : solo.faults = []
  length : solo.emitted.length = frames.length
  /-- Each is passed on with a timestamp and otherwise as it is. -/
  stamps : ∀ {k : Nat} {frame : Frame}, frames[k]? = some frame →
    ∃ t, solo.emitted[k]? = some (0, { frame with pts := some t }) ∧ IsStamp (frames.take k) frame t
  rises : ∀ {i k : Nat} {sent sent' : Nat × Frame} {t t' : Int64}, i ≤ k →
    solo.emitted[i]? = some sent → sent.2.pts = some t →
    solo.emitted[k]? = some sent' → sent'.2.pts = some t' →
    (∀ j f, i < j → j ≤ k → frames[j]? = some f → f.pts = none) → t ≤ t'

/-- A source stamps all frames: with their own timestamps, or counting on from the last of these. -/
theorem stamped_of_setUp {values : Setting.Values} {b : Buffer} (made : Filter.setUp initial values = .ok b)
    (works : List Work) : Stamped (framesOf works) (Solo.after b works) := by
  have fresh : b.previous = none := by
    obtain ⟨format, _, rfl⟩ := map_eq_ok_iff.1 made
    rfl
  have called := called_after b works
  constructor
  · exact called.faults
  · rw [called.emitted, List.length_map, length_stampAll]
  · intro k frame there
    refine ⟨_, ?_, isStamp_timeOf fresh _ frame⟩
    rw [getElem?_emitted, there]
    rfl
  · intro i k sent sent' t t' order at_i stamp at_k stamp' unstamped
    rw [getElem?_emitted, Option.map_eq_some_iff] at at_i at_k
    obtain ⟨f, here, rfl⟩ := at_i
    obtain ⟨f', there, rfl⟩ := at_k
    obtain rfl := Option.some.inj stamp
    obtain rfl := Option.some.inj stamp'
    exact Int64.le_iff_toInt_le.2 (timeOf_mono order here there unstamped)

/-- Frames with gaps in their timestamps: none at first, then one just before the last time, and after a
flush a negative one on a frame without channels. -/
def gaps : List Work :=
  [.frame 0 ⟨⟨48000, 1⟩, none, .replicate 480 0⟩, .frame 0 ⟨⟨48000, 2⟩, none, .replicate 5 0⟩,
    .frame 0 ⟨⟨48000, 1⟩, some 0x7FFFFFFFFFFFFFFE, .replicate 3 0⟩,
    .frame 0 ⟨⟨48000, 1⟩, none, .replicate 1 0⟩, .flush,
    .frame 3 ⟨⟨48000, 0⟩, some (-7), .replicate 4 0⟩, .frame 0 ⟨⟨48000, 1⟩, none, .empty⟩]

theorem stamped_gaps : Filter.setUp initial (kind.options.complete .empty) = .ok initial ∧
    Stamped (framesOf gaps) (Solo.after initial gaps) ∧
    (Solo.after initial gaps).emitted.map (fun sent => sent.2.pts) =
      [some 0, some 480, some 0x7FFFFFFFFFFFFFFE, some 0x7FFFFFFFFFFFFFFF, some (-7), some (-7)] := by
  have made : Filter.setUp initial (kind.options.complete .empty) = .ok initial := by decide +kernel
  exact ⟨made, stamped_of_setUp made gaps, by decide +kernel⟩

end Buffer
end FrameFlow
