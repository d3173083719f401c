import FrameFlow.Proofs.Frame.Pool
import FrameFlow.Proofs.Graph.Arena
import Mathlib.Data.List.Induction
import Mathlib.Data.List.Nodup

/-! That frame variables share their buffers shows in the counts alone. Whatever is done with them,
they hold what variables would hold that each own a copy of their samples, and the count of a buffer is
the number of variables that share it. -/
namespace FrameFlow.Pool

variable {p : Pool} {v w : Variable} {b i : Nat}

/-- What can be done with frame variables. -/
inductive Step where
  | new (f : Frame)
  | empty
  | copy (i : Nat)
  | setPts (i : Nat) (pts : Option Int64)
  | release (i : Nat)
  | change (i : Nat) (f : List Float32 → List Float32)
  | assign (i j : Nat)

namespace Step

def on (p : Pool) : Step → Pool
  | new f => p.add f
  | empty => p.add .empty
  | copy i => p.copy i
  | setPts i pts => p.setPts i pts
  | release i => p.release i
  | change i f => p.update i f
  | assign i j => p.assign i j

/-- The step on variables that each own their samples. -/
def onOwned (frames : List Frame) : Step → List Frame
  | new f => frames ++ [f]
  | empty => frames ++ [.empty]
  | copy i => frames ++ frames[i]?.toList
  | setPts i pts => frames.modify i fun f => { f with pts }
  | release i => frames.set i .empty
  | change i f => frames.modify i (onSamples f)
  | assign i j => frames[j]?.elim frames (frames.set i)

/-- Which step made the buffer of each variable, where this step is number `n`. A change makes one unless
the variable has its buffer to itself. -/
def onOrigins (n : Nat) (origins : List Nat) : Step → List Nat
  | new _ => origins ++ [n]
  | empty => origins ++ [n]
  | copy i => origins ++ origins[i]?.toList
  | setPts _ _ => origins
  | release i => origins.set i n
  | change i _ =>
    origins[i]?.elim origins fun o => if origins.count o = 1 then origins else origins.set i n
  | assign i j => origins[j]?.elim origins (origins.set i)

end Step

/-- Some buffers were made by steps below `n`, no two by the same; `origins` has for each variable the step
that made its buffer. -/
structure Stems (p : Pool) (n : Nat) (made origins : List Nat) : Prop where
  length : made.length = p.buffers.length
  nodup : made.Nodup
  earlier : ∀ m ∈ made, m < n
  origins : p.vars.map (fun v => made[v.buffer]?) = origins.map some

section Origins

variable {n o : Nat} {made origins : List Nat}

theorem Stems.origin (stems : Stems p n made origins) (i : Nat) :
    origins[i]? = p.vars[i]?.bind fun v => made[v.buffer]? := by
  have at_i := congrArg (·[i]?) stems.origins
  simp only [List.getElem?_map] at at_i
  cases there : p.vars[i]? <;> cases there' : origins[i]? <;> simp_all

theorem Stems.length_eq (stems : Stems p n made origins) : origins.length = p.vars.length := by
  simpa using (congrArg List.length stems.origins).symm

theorem Stems.later (stems : Stems p n made origins) : Stems p (n + 1) made origins :=
  { stems with earlier := fun m mem => Nat.lt_succ_of_lt (stems.earlier m mem) }

theorem Stems.reserve (sound : p.Sound) (stems : Stems p n made origins) (s : List Float32) :
    Stems (p.reserve s) (n + 1) (made ++ [n]) origins where
  length := by simp [Pool.reserve, stems.length]
  nodup := by
    refine List.nodup_append.2 ⟨stems.nodup, by simp, fun m mem k new => ?_⟩
    rw [List.mem_singleton.1 new]
    exact Nat.ne_of_lt (stems.earlier m mem)
  earlier m mem := by
    rcases List.mem_append.1 mem with mem | new
    · exact Nat.lt_succ_of_lt (stems.earlier m mem)
    · exact List.mem_singleton.1 new ▸ Nat.lt_succ_self n
  origins := by
    refine Eq.trans (List.map_congr_left fun v there => ?_) stems.origins
    exact List.getElem?_append_left (stems.length ▸ sound.held v there)

theorem Stems.push (stems : Stems p n made origins) (of_w : made[w.buffer]? = some o) :
    Stems (p.push w) n made (origins ++ [o]) :=
  { stems with
    length := by simp [Pool.push, stems.length]
    origins := by simp [Pool.push, stems.origins, of_w] }

theorem Stems.put (stems : Stems p n made origins) (i : Nat) (of_w : made[w.buffer]? = some o) :
    Stems (p.put i w) n made (origins.set i o) :=
  { stems with
    length := by
      unfold Pool.put
      split <;> simp [stems.length]
    origins := by rw [vars_put, List.map_set, List.map_set, stems.origins, of_w] }

theorem Stems.rewrite (stems : Stems p n made origins) (c : Nat) (f : List Float32 → List Float32) :
    Stems (p.rewrite c f) n made origins :=
  { stems with length := by simp [Pool.rewrite, stems.length] }

/-- As many variables stem from a step as hold the buffer that it made. -/
theorem Stems.count_eq (stems : Stems p n made origins) (of_b : made[b]? = some o) :
    origins.count o = p.vars.countP (·.buffer == b) := by
  have lifted := List.count_map_of_injective origins some (fun _ _ => Option.some.inj) o
  rw [← lifted, ← stems.origins, List.count, List.countP_map]
  refine List.countP_congr fun v _ => ?_
  obtain ⟨b_lt, here⟩ := List.getElem?_eq_some_iff.1 of_b
  simp only [Function.comp_apply, beq_iff_eq]
  refine ⟨fun same => ?_, fun same => same ▸ of_b⟩
  obtain ⟨v_lt, there⟩ := List.getElem?_eq_some_iff.1 same
  exact (List.Nodup.getElem_inj_iff stems.nodup).1 (there.trans here.symm)

end Origins

/-- The pool holds certain frames, and its variables stem from certain steps. -/
structure Shows (p : Pool) (n : Nat) (frames : List Frame) (origins : List Nat) : Prop where
  sound : p.Sound
  frames : p.frames = frames
  stems : ∃ made, Stems p n made origins

section Steps

variable {n : Nat} {frames : List Frame} {origins : List Nat}

theorem Shows.add (shows : Shows p n frames origins) (f : Frame) :
    Shows (p.add f) (n + 1) (frames ++ [f]) (origins ++ [n]) := by
  obtain ⟨sound, held, made, stems⟩ := shows
  have inside : p.buffers.length < (p.reserve f.samples.toList).buffers.length := by
    simp [Pool.reserve]
  refine ⟨(sound.reserve _).push inside, ?_, _, (stems.reserve sound _).push ?_⟩
  · rw [Pool.add, frames_push, frames_reserve sound, held]
    simp [frame, samples_reserve]
  · simp [← stems.length]

theorem Shows.copy (shows : Shows p n frames origins) (i : Nat) :
    Shows (p.copy i) (n + 1) (frames ++ frames[i]?.toList) (origins ++ origins[i]?.toList) := by
  obtain ⟨sound, rfl, made, stems⟩ := shows
  have origin := stems.origin i
  unfold Pool.copy
  cases there : p.vars[i]? with
  | none => simpa [getElem?_frames, there, origin] using ⟨sound, rfl, made, stems.later⟩
  | some v =>
    have inside := sound.held v (List.mem_of_getElem? there)
    have of_v := List.getElem?_eq_getElem (stems.length ▸ inside)
    rw [there, Option.bind_some, of_v] at origin
    refine ⟨sound.push inside, ?_, made, ?_⟩
    · simp [frames_push, getElem?_frames, there]
    · simpa [origin] using (stems.push of_v).later

theorem Shows.setPts (shows : Shows p n frames origins) (i : Nat) (pts : Option Int64) :
    Shows (p.setPts i pts) (n + 1) (frames.modify i fun f => { f with pts }) origins := by
  obtain ⟨sound, rfl, made, stems⟩ := shows
  have buffers : (p.setPts i pts).vars.map Variable.buffer = p.vars.map Variable.buffer :=
    map_modify_eq _ _ fun _ => rfl
  refine ⟨⟨fun v there => ?_, fun b => ?_⟩, ?_, made, { stems.later with origins := ?_ }⟩
  · have mem : v.buffer ∈ p.vars.map Variable.buffer := buffers ▸ List.mem_map_of_mem there
    obtain ⟨w, there', same⟩ := List.mem_map.1 mem
    exact same ▸ sound.held w there'
  · have counts := congrArg (List.countP (· == b)) buffers
    rw [List.countP_map, List.countP_map] at counts
    exact (sound.counted b).trans counts.symm
  · refine List.ext_getElem? fun j => ?_
    simp only [getElem?_frames, Pool.setPts, List.getElem?_modify]
    cases p.vars[j]? with
    | none => simp
    | some w => by_cases same : i = j <;> simp [same, frame, samples]
  · have origin_at := congrArg (List.map (made[·]?)) buffers
    rw [List.map_map, List.map_map] at origin_at
    exact origin_at.trans stems.origins

/-- A variable is put on a new buffer. -/
theorem Shows.renew (shows : Shows p n frames origins) (s : List Float32) (i : Nat)
    (new : w.buffer = p.buffers.length) :
    Shows ((p.reserve s).put i w) (n + 1) (frames.set i ⟨w.format, w.pts, .ofList s⟩)
      (origins.set i n) := by
  obtain ⟨sound, rfl, made, stems⟩ := shows
  have inside : w.buffer < (p.reserve s).buffers.length := by simp [Pool.reserve, new]
  refine ⟨(sound.reserve s).put i inside, ?_, _, (stems.reserve sound s).put i ?_⟩
  · rw [frames_put, frames_reserve sound, frame, samples_reserve new]
  · simp [new, ← stems.length]

theorem Shows.rewrite {f : List Float32 → List Float32} (shows : Shows p n frames origins)
    (there : p.vars[i]? = some v) (alone : p.references v = 1) :
    Shows (p.rewrite v.buffer f) n (frames.modify i (onSamples f)) origins := by
  obtain ⟨sound, rfl, made, stems⟩ := shows
  exact ⟨sound.rewrite _, frames_rewrite sound there alone, made, stems.rewrite _ f⟩

theorem Shows.later (shows : Shows p n frames origins) : Shows p (n + 1) frames origins := by
  obtain ⟨sound, held, made, stems⟩ := shows
  exact ⟨sound, held, made, stems.later⟩

theorem Shows.origin_eq_none (shows : Shows p n frames origins) (outside : p.vars[i]? = none) :
    origins[i]? = none := by
  obtain ⟨_, _, _, stems⟩ := shows
  simp [stems.origin i, outside]

/-- The count of a variable's buffer is the number of variables that stem from the same step. -/
theorem Shows.exists_origin (shows : Shows p n frames origins) (there : p.vars[i]? = some v) :
    ∃ o, origins[i]? = some o ∧ p.references v = origins.count o := by
  obtain ⟨sound, _, made, stems⟩ := shows
  have inside := stems.length ▸ sound.held v (List.mem_of_getElem? there)
  obtain ⟨o, of_v⟩ : ∃ o, made[v.buffer]? = some o := ⟨_, List.getElem?_eq_getElem inside⟩
  refine ⟨o, ?_, (sound.counted v.buffer).trans (stems.count_eq of_v).symm⟩
  rw [stems.origin, there, Option.bind_some, of_v]

/-- A variable that was put on a new buffer has it to itself. -/
theorem references_renewed (sound : p.Sound) (there : p.vars[i]? = some v)
    (new : w.buffer = p.buffers.length) : ((p.reserve s).put i w).references w = 1 := by
  have inside : w.buffer < (p.reserve s).buffers.length := by simp [Pool.reserve, new]
  have other : v.buffer ≠ w.buffer := by
    have := sound.held v (List.mem_of_getElem? there)
    omega
  have unheld : p.holders w.buffer = 0 := by simp [holders, new]
  calc ((p.reserve s).put i w).holders w.buffer
      = (p.reserve s).holders w.buffer + (if w.buffer = w.buffer then 1 else 0) -
          if v.buffer = w.buffer then 1 else 0 := holders_put there inside
    _ = 1 := by simp [holders_reserve, unheld, other]

theorem Shows.update (shows : Shows p n frames origins) (i : Nat)
    (f : List Float32 → List Float32) :
    Shows (p.update i f) (n + 1) (frames.modify i (onSamples f))
      ((Step.change i f).onOrigins n origins) := by
  cases there : p.vars[i]? with
  | none =>
    have outside : frames.length ≤ i := by
      rw [← shows.frames, ← List.getElem?_eq_none_iff, getElem?_frames, there, Option.map_none]
    rw [List.modify_eq_self outside]
    simpa [Pool.update, detach, there, Step.onOrigins, shows.origin_eq_none there] using shows.later
  | some v =>
    obtain ⟨o, origin, count⟩ := shows.exists_origin there
    simp only [Step.onOrigins, origin, Option.elim_some, ← count]
    by_cases alone : p.references v = 1
    · simpa [Pool.update, detach, there, alone] using (shows.rewrite there alone).later
    · let w : Variable := { v with buffer := p.buffers.length }
      have renewed := shows.renew (p.samples v) i (w := w) rfl
      have there' : ((p.reserve (p.samples v)).put i w).vars[i]? = some w := by
        rw [vars_put]
        exact List.getElem?_set_self (List.getElem?_eq_some_iff.1 there).1
      -- The variable comes with the samples that it had.
      have same : frames.set i ⟨w.format, w.pts, .ofList (p.samples v)⟩ = frames := by
        have held : frames[i]? = some (p.frame v) := by
          rw [← shows.frames, getElem?_frames, there, Option.map_some]
        obtain ⟨inside, here⟩ := List.getElem?_eq_some_iff.1 held
        exact (congrArg (frames.set i) here).symm.trans (List.set_getElem_self inside)
      have changed := renewed.rewrite (f := f) there' (references_renewed shows.sound there rfl)
      rw [same] at changed
      have detached : p.detach i = (p.reserve (p.samples v)).put i w := by
        simp [detach, there, alone, w]
      rw [if_neg alone]
      simpa only [Pool.update, detached, there'] using changed

theorem Shows.assign (shows : Shows p n frames origins) (i j : Nat) :
    Shows (p.assign i j) (n + 1) (frames[j]?.elim frames (frames.set i))
      (origins[j]?.elim origins (origins.set i)) := by
  obtain ⟨sound, rfl, made, stems⟩ := shows
  have origin := stems.origin j
  unfold Pool.assign
  cases there : p.vars[j]? with
  | none => simpa [getElem?_frames, there, origin] using ⟨sound, rfl, made, stems.later⟩
  | some v =>
    have inside := sound.held v (List.mem_of_getElem? there)
    obtain ⟨o, of_v⟩ : ∃ o, made[v.buffer]? = some o :=
      ⟨_, List.getElem?_eq_getElem (stems.length ▸ inside)⟩
    rw [there, Option.bind_some, of_v] at origin
    rw [getElem?_frames, there, origin]
    exact ⟨sound.put i inside, frames_put, made, (stems.put i of_v).later⟩

theorem Shows.on (shows : Shows p n frames origins) (step : Step) :
    Shows (step.on p) (n + 1) (step.onOwned frames) (step.onOrigins n origins) := by
  cases step with
  | new f => exact shows.add f
  | empty => exact shows.add .empty
  | copy i => exact shows.copy i
  | setPts i pts => exact shows.setPts i pts
  | release i => exact shows.renew [] i rfl
  | change i f => exact shows.update i f
  | assign i j => exact shows.assign i j

end Steps

/-- The variables after some steps. -/
def after (steps : List Step) : Pool := steps.foldl Step.on empty

/-- What the variables would hold if each owned its samples. -/
def ownedAfter (steps : List Step) : List Frame := steps.foldl Step.onOwned []

/-- Which step made the buffer of each variable. -/
def originsAfter (steps : List Step) : List Nat :=
  steps.zipIdx.foldl (fun origins (step, n) => step.onOrigins n origins) []

theorem shows_after (steps : List Step) :
    Shows (after steps) steps.length (ownedAfter steps) (originsAfter steps) := by
  induction steps using List.reverseRecOn with
  | nil =>
    have sound : empty.Sound := ⟨by simp [empty], by simp [empty, holders]⟩
    exact ⟨sound, rfl, [], rfl, .nil, by simp, rfl⟩
  | append_singleton steps step shows =>
    simpa [after, ownedAfter, originsAfter, List.zipIdx_append] using shows.on step

theorem shares_iff : shares v w ↔ v.buffer = w.buffer := beq_iff_eq

/-- Whatever is done with frame variables, they hold what variables hold that own their samples. The count
of a buffer is the number of variables that share it, which is an equivalence, and those share one that
stem from the same step. -/
theorem sharing_unobserved (steps : List Step) :
    (after steps).frames = ownedAfter steps ∧
    (∀ v ∈ (after steps).vars,
      (after steps).references v = (after steps).vars.countP (shares v)) ∧
    (Equivalence fun v w => shares v w = true) ∧
    ∀ (i j : Nat) (v w : Variable), (after steps).vars[i]? = some v →
      (after steps).vars[j]? = some w →
      (shares v w ↔ (originsAfter steps)[i]? = (originsAfter steps)[j]?) := by
  obtain ⟨sound, held, made, stems⟩ := shows_after steps
  refine ⟨held, fun v _ => ?_, ⟨fun v => ?_, fun same => ?_, fun same same' => ?_⟩,
    fun i j v w there there' => ?_⟩
  · refine (sound.counted v.buffer).trans (List.countP_congr fun w _ => ?_)
    rw [shares_iff, beq_iff_eq]
    exact eq_comm
  · exact shares_iff.2 rfl
  · exact shares_iff.2 (shares_iff.1 same).symm
  · exact shares_iff.2 ((shares_iff.1 same).trans (shares_iff.1 same'))
  · rw [stems.origin, stems.origin, there, there', Option.bind_some, Option.bind_some, shares_iff]
    refine ⟨congrArg (made[·]?), fun same => ?_⟩
    have inside := stems.length ▸ sound.held v (List.mem_of_getElem? there)
    exact (List.getElem?_inj inside stems.nodup).1 same

/-- A variable with two copies, one of which is written while the other is assigned to itself. -/
def writtenCopies : List Step :=
  [.new ⟨⟨48000, 2⟩, some 5, .empty⟩, .copy 0, .copy 1, .change 1 (· ++ [0, 1]), .assign 2 2]

/-- The unwritten copy alone still shares the buffer of the first variable. -/
theorem sharing_of_writtenCopies :
    let v : Variable := ⟨⟨48000, 2⟩, some 5, 0⟩
    let w : Variable := ⟨⟨48000, 2⟩, some 5, 1⟩
    (after writtenCopies).vars = [v, w, v] ∧ originsAfter writtenCopies = [0, 3, 0] ∧
      (after writtenCopies).references v = 2 ∧ shares v v ∧ ¬ shares v w := by
  intro v w
  have vars : (after writtenCopies).vars = [v, w, v] := by rfl
  have origins : originsAfter writtenCopies = [0, 3, 0] := by rfl
  obtain ⟨_, counts, _, shared⟩ := sharing_unobserved writtenCopies
  rw [vars] at counts shared
  rw [origins] at shared
  refine ⟨vars, origins, ?_, (shared 0 2 v v rfl rfl).2 rfl, fun same => ?_⟩
  · exact (counts v List.mem_cons_self).trans (by rfl)
  · exact absurd ((shared 0 1 v w rfl rfl).1 same) (by decide)

end FrameFlow.Pool
