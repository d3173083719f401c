import FrameFlow.Filter.BuiltIn
import Mathlib.Data.List.Forall2

/-! What the built-in filters make of whole streams. A stream is the frames that come over a link and
whether it has ended. Each answer grows with the streams that it is an answer to. -/
namespace FrameFlow

structure Stream where
  frames : List Frame
  ended : Bool

namespace Stream

def empty : Stream := ⟨[], false⟩

/-- One stream is a beginning of another. Nothing comes after the end. -/
structure Begins (s t : Stream) : Prop where
  frames : s.frames <+: t.frames
  ended : s.ended → t = s

theorem Begins.refl (s : Stream) : s.Begins s := ⟨List.prefix_rfl, fun _ => rfl⟩

theorem Begins.trans {s t u : Stream} (first : s.Begins t) (second : t.Begins u) : s.Begins u where
  frames := first.frames.trans second.frames
  ended finished := by
    obtain rfl := first.ended finished
    exact second.ended finished

/-- The first of some streams. -/
def first (inputs : List Stream) : Stream := inputs.headD .empty

theorem begins_self (inputs : List Stream) : List.Forall₂ Begins inputs inputs :=
  List.forall₂_same.2 fun s _ => .refl s

theorem eq_of_ended {inputs later : List Stream} (grow : List.Forall₂ Begins inputs later)
    (finished : inputs.all Stream.ended) : later = inputs := by
  induction grow with
  | nil => rfl
  | cons begins _ ih =>
    simp only [List.all_cons, Bool.and_eq_true] at finished
    rw [begins.ended finished.1, ih finished.2]

theorem begins_first {inputs later : List Stream} (grow : List.Forall₂ Begins inputs later) :
    (first inputs).Begins (first later) := by
  cases grow with
  | nil => exact .refl _
  | cons begins _ => exact begins

/-- A stream with one more frame. -/
def push (frame : Frame) (s : Stream) : Stream := { s with frames := s.frames ++ [frame] }

def finish (s : Stream) : Stream := { s with ended := true }

theorem begins_finish (s : Stream) : s.Begins s.finish := by
  refine ⟨List.prefix_rfl, fun finished => ?_⟩
  rw [finish, ← finished]

theorem begins_push {s : Stream} (going : s.ended = false) (frame : Frame) : s.Begins (s.push frame) :=
  ⟨List.prefix_append _ _, by simp [going]⟩

/-- What was given before begins what was given after one more change. -/
theorem begins_modify {inputs : List Stream} {pad : Nat} {s : Stream} {change : Stream → Stream}
    (at_pad : inputs[pad]? = some s) (begins : s.Begins (change s)) :
    List.Forall₂ Begins inputs (inputs.modify pad change) := by
  induction inputs generalizing pad with
  | nil => simp at at_pad
  | cons t rest ih =>
    cases pad with
    | zero =>
      obtain rfl : t = s := by simpa using at_pad
      exact .cons begins (begins_self rest)
    | succ pad => exact .cons (.refl t) (ih (by simpa using at_pad))

end Stream

/-- Stamps frames in order, and leaves the source as it is after the last one. -/
def Buffer.stampAll (b : Buffer) : List Frame → List Frame × Buffer
  | [] => ([], b)
  | frame :: rest =>
    let (stamped, next) := b.stamp frame
    let (later, last) := next.stampAll rest
    (stamped :: later, last)

theorem Buffer.stampAll_append (b : Buffer) (frames more : List Frame) :
    b.stampAll (frames ++ more) =
      ((b.stampAll frames).1 ++ ((b.stampAll frames).2.stampAll more).1,
        ((b.stampAll frames).2.stampAll more).2) := by
  induction frames generalizing b with
  | nil => rfl
  | cons frame rest ih => simp [stampAll, ih]

namespace Mixer

/-- The frames at one place of some streams. -/
def headsAt (inputs : List Stream) (i : Nat) : List Frame := inputs.filterMap fun s => s.frames[i]?

/-- Whether nothing more can come at a place. -/
def settledAt (inputs : List Stream) (i : Nat) : Bool :=
  inputs.all fun s => decide (i < s.frames.length) || s.ended

def longest (inputs : List Stream) : Nat := inputs.foldr (fun s n => max s.frames.length n) 0

theorem lt_longest {inputs : List Stream} {i : Nat} (some_head : headsAt inputs i ≠ []) :
    i < longest inputs := by
  induction inputs with
  | nil => simp [headsAt] at some_head
  | cons s rest ih =>
    simp only [longest, List.foldr_cons] at ih ⊢
    cases head : s.frames[i]? with
    | some f =>
      have inside := (List.getElem?_eq_some_iff.1 head).1
      omega
    | none =>
      have within := ih fun none => some_head (by simpa [headsAt, head] using none)
      omega

/-- The mixes of the frames at a place and at all later ones, up to the first place where more may
come or nothing is. -/
def mixFrom (normalize : Bool) (inputs : List Stream) (i : Nat) : List Frame :=
  if settledAt inputs i then
    match _heads : headsAt inputs i with
    | [] => []
    | first :: others => mix normalize first others :: mixFrom normalize inputs (i + 1)
  else []
termination_by longest inputs - i
decreasing_by
  have inside : i < longest inputs := lt_longest (by simp [_heads])
  omega

theorem mixFrom_cons {normalize : Bool} {inputs : List Stream} {i : Nat} {head : Frame}
    {others : List Frame} (settled : settledAt inputs i) (heads : headsAt inputs i = head :: others) :
    mixFrom normalize inputs i = mix normalize head others :: mixFrom normalize inputs (i + 1) := by
  rw [mixFrom, if_pos settled]
  split
  · next none => simp [heads] at none
  · next heads' =>
    obtain ⟨rfl, rfl⟩ := List.cons.inj (heads.symm.trans heads')
    rfl

/-- Where nothing more can come, later frames change nothing. -/
theorem settledAt_mono {inputs later : List Stream} {i : Nat}
    (grow : List.Forall₂ Stream.Begins inputs later) (settled : settledAt inputs i) :
    settledAt later i ∧ headsAt later i = headsAt inputs i := by
  induction grow with
  | nil => exact ⟨settled, rfl⟩
  | @cons s t rest rest' begins _ ih =>
    simp only [settledAt, List.all_cons, Bool.and_eq_true] at settled
    obtain ⟨rest_settled, rest_heads⟩ := ih settled.2
    have one : (decide (i < t.frames.length) || t.ended) = true ∧ t.frames[i]? = s.frames[i]? := by
      rcases Bool.or_eq_true_iff.1 settled.1 with inside | finished
      · have inside := of_decide_eq_true inside
        have longer := begins.frames.length_le
        refine ⟨by simp; omega, ?_⟩
        rw [List.getElem?_eq_getElem inside]
        exact List.prefix_iff_getElem?.1 begins.frames i inside
      · obtain rfl := begins.ended finished
        exact ⟨by simp [finished], rfl⟩
    refine ⟨?_, ?_⟩
    · simp only [settledAt, List.all_cons, one.1, Bool.true_and]
      exact rest_settled
    · simp only [headsAt, List.filterMap_cons, one.2] at rest_heads ⊢
      rw [rest_heads]

/-- What more makes of streams: first the same mixes, then those of the places after them. -/
theorem mixFrom_split (normalize : Bool) {inputs later : List Stream}
    (grow : List.Forall₂ Stream.Begins inputs later) (i : Nat) :
    mixFrom normalize later i = mixFrom normalize inputs i ++
      mixFrom normalize later (i + (mixFrom normalize inputs i).length) := by
  fun_induction mixFrom normalize inputs i with
  | case1 i settled none => rfl
  | case2 i settled head others heads ih =>
    obtain ⟨settled', heads'⟩ := settledAt_mono grow settled
    rw [mixFrom_cons settled' (heads'.trans heads), ih, List.cons_append, List.length_cons]
    congr 3
    omega
  | case3 => rfl

theorem mixFrom_prefix {normalize : Bool} {inputs later : List Stream}
    (grow : List.Forall₂ Stream.Begins inputs later) (i : Nat) :
    mixFrom normalize inputs i <+: mixFrom normalize later i :=
  mixFrom_split normalize grow i ▸ List.prefix_append _ _

/-- Nothing more could come at the places that were mixed. -/
theorem settledAt_of_lt {normalize : Bool} {inputs : List Stream} {i j : Nat} (after : i ≤ j)
    (before : j < i + (mixFrom normalize inputs i).length) : settledAt inputs j := by
  fun_induction mixFrom normalize inputs i with
  | case1 => simp at before; omega
  | case2 i settled head others _ ih =>
    rcases Nat.eq_or_lt_of_le after with rfl | later
    · exact settled
    · exact ih later (by simp only [List.length_cons] at before; omega)
  | case3 => simp at before; omega

end Mixer

namespace BuiltIn

/-- The frames that a filter sends over each of its outputs, from the state after it was set up. A
source answers to the frames pushed into it. -/
def frames (f : BuiltIn) (inputs : List Stream) : List Frame :=
  match f with
  | buffer b => (b.stampAll (Stream.first inputs).frames).1
  | sink _ => []
  | passThrough _ | split _ => (Stream.first inputs).frames
  | volume v => (Stream.first inputs).frames.map v.apply
  | head h => (Stream.first inputs).frames.take h.remaining
  | mixer m => Mixer.mixFrom m.normalize inputs 0

/-- Whether a filter ends its outputs before its inputs have ended. -/
def endsEarly (f : BuiltIn) (inputs : List Stream) : Bool :=
  match f with
  | head h => max h.remaining 1 ≤ (Stream.first inputs).frames.length
  | _ => false

/-- The stream on each output of a filter. -/
def answer (f : BuiltIn) (inputs : List Stream) : Stream :=
  ⟨f.frames inputs, inputs.all Stream.ended || f.endsEarly inputs⟩

variable {inputs later : List Stream} (grow : List.Forall₂ Stream.Begins inputs later)

include grow

theorem frames_prefix (f : BuiltIn) : f.frames inputs <+: f.frames later := by
  have begins := (Stream.begins_first grow).frames
  cases f with
  | buffer b =>
    obtain ⟨more, same⟩ := begins
    simp only [frames, ← same, Buffer.stampAll_append]
    exact List.prefix_append _ _
  | sink s => exact List.prefix_rfl
  | passThrough p => exact begins
  | split s => exact begins
  | volume v => exact begins.map _
  | head h =>
    obtain ⟨more, same⟩ := begins
    simp only [frames, ← same, List.take_append]
    exact List.prefix_append _ _
  | mixer m => exact Mixer.mixFrom_prefix grow 0

/-- A filter that ends early sends nothing after that. -/
theorem endsEarly_mono {f : BuiltIn} (early : f.endsEarly inputs) :
    f.endsEarly later ∧ f.frames later = f.frames inputs := by
  have begins := (Stream.begins_first grow).frames
  cases f with
  | head h =>
    simp only [endsEarly, decide_eq_true_eq] at early ⊢
    have longer := begins.length_le
    refine ⟨by omega, ?_⟩
    obtain ⟨more, same⟩ := begins
    simp only [frames, ← same]
    rw [List.take_append_of_le_length (by omega)]
  | _ => simp [endsEarly] at early

/-- The answer to more begins with the answer to less. -/
theorem answer_mono (f : BuiltIn) : (f.answer inputs).Begins (f.answer later) where
  frames := f.frames_prefix grow
  ended finished := by
    rcases Bool.or_eq_true_iff.1 finished with all | early
    · rw [Stream.eq_of_ended grow all]
    · obtain ⟨still, same⟩ := endsEarly_mono grow early
      simp [answer, early, still, same]

end BuiltIn
end FrameFlow
