import FrameFlow.Frame.Shared
import Mathlib.Data.List.Count

/-! Pools of sample buffers that count the variables that hold them. Taking a buffer and letting it go
keep the counts right, and with right counts a variable that has its buffer to itself is alone in seeing
a change of it. -/
namespace FrameFlow.Pool

variable {p : Pool} {old v w : Variable} {b i : Nat} {s : List Float32}

def holders (p : Pool) (b : Nat) : Nat := p.buffers[b]?.elim 0 SampleBuffer.holders

/-- The pool's variables hold buffers of the pool, and the buffers count them. -/
structure Sound (p : Pool) : Prop where
  held : ∀ v ∈ p.vars, v.buffer < p.buffers.length
  counted : ∀ b, p.holders b = p.vars.countP (·.buffer == b)

section Frames

theorem frame_reserve (inside : v.buffer < p.buffers.length) :
    (p.reserve s).frame v = p.frame v := by
  simp [frame, samples, reserve, List.getElem?_append_left inside]

theorem getElem?_frames : p.frames[i]? = p.vars[i]?.map p.frame := List.getElem?_map

theorem samples_reserve (new : v.buffer = p.buffers.length) : (p.reserve s).samples v = s := by
  simp [samples, reserve, new]

theorem samples_push : (p.push w).samples v = p.samples v := by
  simp only [samples, push, List.getElem?_modify]
  split <;> cases p.buffers[v.buffer]? <;> rfl

theorem samples_put : (p.put i w).samples v = p.samples v := by
  unfold put
  split
  · simp only [samples, List.getElem?_modify]
    split <;> split <;> cases p.buffers[v.buffer]? <;> rfl
  · rfl

theorem frame_push : (p.push w).frame = p.frame := funext fun _ => by simp [frame, samples_push]

theorem frame_put : (p.put i w).frame = p.frame := funext fun _ => by simp [frame, samples_put]

theorem vars_put : (p.put i w).vars = p.vars.set i w := by
  unfold put
  split
  · rfl
  · next none => exact (List.set_eq_of_length_le (List.getElem?_eq_none_iff.1 none)).symm

theorem frames_reserve (sound : p.Sound) : (p.reserve s).frames = p.frames :=
  List.map_congr_left fun v there => frame_reserve (sound.held v there)

theorem frames_push : (p.push w).frames = p.frames ++ [p.frame w] := by
  simp only [frames, frame_push]
  simp [push]

theorem frames_put : (p.put i w).frames = p.frames.set i (p.frame w) := by
  simp only [frames, frame_put, vars_put, List.map_set]

end Frames

section Counts

theorem holders_reserve : (p.reserve s).holders b = p.holders b := by
  simp only [holders, reserve, List.getElem?_append]
  split
  · rfl
  · next outside =>
    rw [List.getElem?_eq_none (Nat.le_of_not_lt outside)]
    cases b - p.buffers.length <;> rfl

theorem holders_push (inside : w.buffer < p.buffers.length) :
    (p.push w).holders b = p.holders b + if w.buffer = b then 1 else 0 := by
  simp only [holders, push, List.getElem?_modify]
  split
  · next here => simp [← here, List.getElem?_eq_getElem inside, SampleBuffer.retain]
  · cases p.buffers[b]? <;> rfl

theorem holders_put (there : p.vars[i]? = some old) (inside : w.buffer < p.buffers.length) :
    (p.put i w).holders b = p.holders b + (if w.buffer = b then 1 else 0) -
      if old.buffer = b then 1 else 0 := by
  rw [← holders_push inside]
  simp only [holders, put, push, there]
  rw [List.getElem?_modify]
  split <;> cases (p.buffers.modify w.buffer SampleBuffer.retain)[b]? <;>
    simp [SampleBuffer.release]

theorem Sound.reserve (sound : p.Sound) (s : List Float32) : (p.reserve s).Sound where
  held v there := by
    have := sound.held v there
    simp only [Pool.reserve, List.length_append, List.length_singleton]
    omega
  counted b := holders_reserve.trans (sound.counted b)

theorem Sound.push (sound : p.Sound) (inside : w.buffer < p.buffers.length) : (p.push w).Sound where
  held v there := by
    simp only [Pool.push, List.length_modify, List.mem_append, List.mem_singleton] at there ⊢
    rcases there with there | rfl
    · exact sound.held v there
    · exact inside
  counted b := by
    rw [holders_push inside, sound.counted]
    simp [Pool.push, List.countP_singleton]

theorem Sound.put (sound : p.Sound) (i : Nat) (inside : w.buffer < p.buffers.length) :
    (p.put i w).Sound := by
  cases there : p.vars[i]? with
  | none => simpa [Pool.put, there] using sound
  | some old =>
    obtain ⟨i_lt, here⟩ := List.getElem?_eq_some_iff.1 there
    refine ⟨fun v mem => ?_, fun b => ?_⟩
    · have same : (p.put i w).buffers.length = p.buffers.length := by simp [Pool.put, there]
      rw [same]
      rw [vars_put] at mem
      rcases List.mem_or_eq_of_mem_set mem with mem | rfl
      · exact sound.held v mem
      · exact inside
    · have some_left : old.buffer = b → 0 < p.vars.countP (·.buffer == b) := fun same =>
        List.countP_pos_iff.2 ⟨old, List.mem_of_getElem? there, by simpa using same⟩
      rw [holders_put there inside, sound.counted, vars_put, List.countP_set i_lt, here]
      simp only [beq_iff_eq]
      split <;> split <;> grind

end Counts

section Rewriting

theorem place_unique {α : Type} {all : List α} {good : α → Bool} (one : all.countP good = 1) {i j : Nat}
    {x y : α} (at_i : all[i]? = some x) (at_j : all[j]? = some y) (good_x : good x) (good_y : good y) :
    i = j := by
  induction all generalizing i j with
  | nil => simp at at_i
  | cons z rest ih =>
    have none_left : good z → ∀ u ∈ rest, ¬ good u := fun good_z =>
      List.countP_eq_zero.1 (by simpa [List.countP_cons, good_z] using one)
    cases i with
    | zero =>
      obtain rfl := Option.some.inj at_i
      cases j with
      | zero => rfl
      | succ j => exact absurd good_y (none_left good_x y (List.mem_of_getElem? at_j))
    | succ i =>
      cases j with
      | zero =>
        obtain rfl := Option.some.inj at_j
        exact absurd good_x (none_left good_y x (List.mem_of_getElem? at_i))
      | succ j =>
        have bad : ¬ good z := fun good_z => none_left good_z x (List.mem_of_getElem? at_i) good_x
        exact congrArg (· + 1) (ih (by simpa [List.countP_cons, bad] using one) at_i at_j)

variable {f : List Float32 → List Float32}

theorem holders_rewrite {c : Nat} : (p.rewrite c f).holders b = p.holders b := by
  simp only [holders, rewrite, List.getElem?_modify]
  split <;> cases p.buffers[b]? <;> rfl

theorem Sound.rewrite (sound : p.Sound) (c : Nat) : (p.rewrite c f).Sound where
  held v there := by simpa [Pool.rewrite] using sound.held v there
  counted b := holders_rewrite.trans (sound.counted b)

/-- What a change of samples makes of a frame. -/
def onSamples (f : List Float32 → List Float32) (x : Frame) : Frame :=
  { x with samples := .ofList (f x.samples.toList) }

/-- A change in a buffer that one variable alone holds is a change of that variable. -/
theorem frames_rewrite (sound : p.Sound) (there : p.vars[i]? = some v) (alone : p.references v = 1) :
    (p.rewrite v.buffer f).frames = p.frames.modify i (onSamples f) := by
  have one : p.vars.countP (·.buffer == v.buffer) = 1 := (sound.counted v.buffer).symm.trans alone
  refine List.ext_getElem? fun j => ?_
  simp only [frames, List.getElem?_modify, List.getElem?_map]
  change Option.map _ p.vars[j]? = _
  cases there' : p.vars[j]? with
  | none => simp
  | some w =>
    have inside := sound.held w (List.mem_of_getElem? there')
    simp only [Option.map_some, Option.map_eq_map, Option.some.injEq]
    by_cases same : v.buffer = w.buffer
    · obtain rfl := place_unique one there there' (by simp) (by simp [same])
      simp [frame, samples, Pool.rewrite, same, inside, SampleBuffer.change, onSamples]
    · have other : i ≠ j := by
        rintro rfl
        exact same (congrArg Variable.buffer (Option.some.inj (there.symm.trans there')))
      simp [frame, samples, Pool.rewrite, same, other]

end Rewriting

end FrameFlow.Pool
