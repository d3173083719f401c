import FrameFlow.Proofs.Diagnosis.Plan
import FrameFlow.Proofs.Stream.Follow

/-! Where built-in filters start. Each kind sets up filters that follow their answer to empty
streams. -/
namespace FrameFlow

open BuiltIn (Follows)

/-- A mixer is there to mix until the last of its inputs ends. -/
def BuiltIn.MixesLongest (f : BuiltIn) : Prop := ∀ m, f = .mixer m → m.duration = .longest

/-- How many streams a node answers. -/
def Node.width {σ : Type} (n : Node σ) : Nat := if n.role = .source then 1 else n.inputs.length

/-- A node of a built-in kind in a graph that was just configured. -/
structure Node.Starts (n : Node BuiltIn) : Prop where
  follows : Follows [] false n.filter (List.replicate n.width .empty) n.filter
  outputs : n.outputs.length = (Filter.outputs n.filter).length
  fed : n.role ≠ .source → n.inputs ≠ []
  sink : n.role = .sink → ∃ s, n.filter = .sink s

namespace Mixer

variable (normalize : Bool) (count : Nat)

theorem mixFrom_empty : mixFrom normalize (List.replicate count .empty) 0 = [] := by
  have none : headsAt (List.replicate count .empty) 0 = [] := by
    simp [headsAt, Stream.empty]
  rw [mixFrom]
  split
  · split
    · rfl
    · next heads' => exact absurd (heads'.symm.trans none) (List.cons_ne_nil _ _)
  · rfl

theorem lanesAt_empty : lanesAt (List.replicate count .empty) 0 = idle count := List.map_replicate

theorem lanes_of_setUp {values : Setting.Values} {m : Mixer} (set : setUp values = .ok m) :
    ∃ count, m.lanes = idle count := by
  unfold setUp at set
  simp only [bind_eq_ok_iff, pure_eq_ok_iff] at set
  obtain ⟨count, _, _, _, _, _, rfl⟩ := set
  exact ⟨count, rfl⟩

end Mixer

namespace BuiltIn

variable (f : BuiltIn) (count : Nat)

theorem frames_first_empty : (Stream.first (List.replicate count .empty)).frames = [] := by
  cases count <;> rfl

/-- Nothing comes of nothing. -/
theorem frames_empty : f.frames (List.replicate count .empty) = [] := by
  have none := frames_first_empty count
  cases f with
  | buffer b => simp [frames, none, Buffer.stampAll]
  | mixer m => exact Mixer.mixFrom_empty m.normalize count
  | _ => simp [frames, none]

theorem endsEarly_empty : f.endsEarly (List.replicate count .empty) = false := by
  cases f with
  | head h => simp [endsEarly, frames_first_empty count]
  | _ => rfl

end BuiltIn

namespace Node

variable {n : Node BuiltIn}

theorem width_source (source : n.role = .source) : n.width = 1 := if_pos source

theorem width_inner (inner : n.role ≠ .source) : n.width = n.inputs.length := if_neg inner

/-- A filter that passes on what comes on its one input. -/
theorem IsSetUp.starts_of_one (setUp : n.IsSetUp) (role : n.role = .transform)
    (one : (Filter.inputs n.filter).length = 1)
    (follows : Follows [] false n.filter [.empty] n.filter) : n.Starts := by
  have inputs := setUp.inputs_length.trans one
  refine ⟨?_, setUp.outputs_length, fun _ none => ?_, fun sink => ?_⟩
  · rw [width_inner (by simp [role]), inputs]
    exact follows
  · simp [none] at inputs
  · simp [role] at sink

/-- Nodes of built-in kinds that were set up are ready to start once their formats agree. -/
theorem IsSetUp.starts (setUp : n.IsSetUp) (live : n.isLive) (kind : n.kind ∈ BuiltIn.kinds)
    (longest : n.filter.MixesLongest) {formats : Nat → Format} (answers : n.Answers formats) :
    n.Starts := by
  have made := setUp.filter
  simp only [BuiltIn.kinds, List.mem_cons, List.not_mem_nil, or_false] at kind
  rcases kind with kind | kind | kind | kind | kind | kind | kind
  · have role : n.role = .source := congrArg Kind.role kind
    rw [kind] at made
    obtain ⟨b, _, filter⟩ := map_eq_ok_iff (f := BuiltIn.buffer).1 made
    refine ⟨?_, setUp.outputs_length, fun inner => absurd role inner, fun sink => ?_⟩
    · rw [width_source role, ← filter]
      exact .buffer b .empty
    · simp [role] at sink
  · have role : n.role = .sink := congrArg Kind.role kind
    rw [kind] at made
    obtain ⟨s, set, filter⟩ := map_eq_ok_iff (f := BuiltIn.sink).1 made
    obtain ⟨required, _, rfl⟩ := map_eq_ok_iff.1 set
    have inputs : n.inputs.length = 1 := by
      rw [setUp.inputs_length, ← filter]
      rfl
    refine ⟨?_, setUp.outputs_length, fun _ none => ?_, fun _ => ⟨_, filter.symm⟩⟩
    · rw [width_inner (by simp [role]), inputs, ← filter]
      exact .sink (by rfl)
    · simp [none] at inputs
  · have role : n.role = .transform := congrArg Kind.role kind
    rw [kind] at made
    have filter : BuiltIn.passThrough {} = n.filter := Except.ok.inj made
    exact setUp.starts_of_one role (filter ▸ rfl) (filter ▸ .passThrough {} _)
  · have role : n.role = .transform := congrArg Kind.role kind
    rw [kind] at made
    obtain ⟨v, _, filter⟩ := map_eq_ok_iff (f := BuiltIn.volume).1 made
    exact setUp.starts_of_one role (filter ▸ rfl) (filter ▸ .volume v _)
  · have role : n.role = .transform := congrArg Kind.role kind
    rw [kind] at made
    obtain ⟨h, _, filter⟩ := map_eq_ok_iff (f := BuiltIn.head).1 made
    exact setUp.starts_of_one role (filter ▸ rfl) (filter ▸ .head h _)
  · have role : n.role = .transform := congrArg Kind.role kind
    rw [kind] at made
    obtain ⟨p, _, filter⟩ := map_eq_ok_iff (f := BuiltIn.split).1 made
    exact setUp.starts_of_one role (filter ▸ rfl) (filter ▸ .split p _)
  · have role : n.role = .transform := congrArg Kind.role kind
    rw [kind] at made
    obtain ⟨m, set, filter⟩ := map_eq_ok_iff (f := BuiltIn.mixer).1 made
    obtain ⟨count, lanes⟩ := Mixer.lanes_of_setUp set
    have inputs : n.inputs.length = count := by
      rw [setUp.inputs_length, ← filter]
      show (Pad.numbered "input" m.lanes.length).length = count
      rw [Pad.length_numbered, lanes]
      exact List.length_replicate
    refine ⟨?_, setUp.outputs_length, fun _ none => ?_, fun sink => ?_⟩
    · rw [width_inner (by simp [role]), inputs, ← filter]
      have follows : Follows [] false (.mixer m) (List.replicate count .empty) _ :=
        .mixer (longest m filter.symm) _
      rw [Mixer.mixFrom_empty, List.length_nil, Mixer.lanesAt_empty, ← lanes] at follows
      exact follows
    · obtain ⟨answer, answered, _⟩ := answers
      unfold negotiate at answered
      rw [if_pos live, formatsIn, none, ← filter] at answered
      have refused : Mixer.accept [] = .ok answer := answered
      simp [Mixer.accept] at refused
    · simp [role] at sink

end Node
end FrameFlow
