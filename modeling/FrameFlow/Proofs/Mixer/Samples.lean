import FrameFlow.Filter.Mixer

/-! What a mix is, sample by sample. Each sample of a mix is the sum of the samples at the same place of
its parts, as far as they have one there, in the order of the parts. -/
namespace FrameFlow

/-- The sum of samples, from zero on. -/
def sumOf (samples : List Float32) : Float32 := samples.foldl (· + ·) 0

/-- A sum over a number of parts, as loud as one of them where there are several. -/
def scaled (normalize : Bool) (parts : Nat) (sum : Float32) : Float32 :=
  if normalize && 1 < parts then sum * (1 / Float32.ofNat parts) else sum

/-- What the mix of some frames is: format and timestamp of the first one, as many samples as the
longest one, and at each place the sum of the samples there. -/
structure IsMixOf (normalize : Bool) (parts : List Frame) (mixed : Frame) : Prop where
  format : parts.head?.map Frame.format = some mixed.format
  pts : parts.head?.map Frame.pts = some mixed.pts
  size : (parts.map fun f => f.samples.size).max? = some mixed.samples.size
  samples : ∀ j < mixed.samples.size, mixed.samples.toList[j]? =
    some (scaled normalize parts.length (sumOf (parts.filterMap fun f => f.samples.toList[j]?)))

/-- The parts leave no choice for their mix. -/
theorem IsMixOf.unique {normalize : Bool} {parts : List Frame} {mixed mixed' : Frame}
    (is : IsMixOf normalize parts mixed) (is' : IsMixOf normalize parts mixed') : mixed = mixed' := by
  obtain ⟨format, pts, samples⟩ := mixed
  obtain ⟨format', pts', samples'⟩ := mixed'
  obtain rfl : format = format' := Option.some.inj (is.format.symm.trans is'.format)
  obtain rfl : pts = pts' := Option.some.inj (is.pts.symm.trans is'.pts)
  have long : samples.size = samples'.size := Option.some.inj (is.size.symm.trans is'.size)
  have same : samples = samples' := by
    refine Samples.ext (List.ext_getElem? fun j => ?_)
    by_cases inside : j < samples.size
    · exact (is.samples j inside).trans (is'.samples j (long ▸ inside)).symm
    · rw [List.getElem?_eq_none (by simp; omega), List.getElem?_eq_none (by simp; omega)]
  rw [same]

theorem getElem?_addSamples (acc samples : List Float32) (j : Nat) :
    (addSamples acc samples)[j]? = acc[j]?.map fun a => (samples[j]?.toList).foldl (· + ·) a := by
  fun_induction addSamples acc samples generalizing j with
  | case1 => rfl
  | case2 acc => simp
  | case3 a acc s samples ih =>
    cases j with
    | zero => simp
    | succ j => simpa using ih j

/-- Each place of a sum gets what the parts have there, one part after the other. -/
theorem getElem?_foldl_addSamples (parts : List (List Float32)) (acc : List Float32) (j : Nat) :
    (parts.foldl addSamples acc)[j]? =
      acc[j]?.map fun a => (parts.filterMap (·[j]?)).foldl (· + ·) a := by
  induction parts generalizing acc with
  | nil => simp
  | cons part rest ih =>
    rw [List.foldl_cons, ih, getElem?_addSamples, Option.map_map]
    cases there : part[j]? <;> simp [there, Function.comp_def]

theorem getElem?_mixSamples (normalize : Bool) (parts : List (List Float32)) {j : Nat}
    (inside : j < (parts.map List.length).foldl max 0) :
    (mixSamples normalize parts)[j]? =
      some (scaled normalize parts.length (sumOf (parts.filterMap (·[j]?)))) := by
  have sum : (parts.foldl addSamples (List.replicate ((parts.map List.length).foldl max 0) 0))[j]? =
      some (sumOf (parts.filterMap (·[j]?))) := by
    rw [getElem?_foldl_addSamples, List.getElem?_replicate, if_pos inside]
    rfl
  unfold mixSamples scaled
  dsimp only
  split
  · rw [List.getElem?_map, sum]
    rfl
  · exact sum

namespace Mixer

theorem isMixOf_mix (normalize : Bool) (first : Frame) (others : List Frame) :
    IsMixOf normalize (first :: others) (mix normalize first others) := by
  have lengths : ((first :: others).map Frame.samples).map Samples.size =
      (((first :: others).map Frame.samples).map Samples.toList).map List.length := by
    simp [Function.comp_def]
  refine ⟨rfl, rfl, ?_, fun j inside => ?_⟩
  · rw [List.map_cons, List.max?_cons']
    simp [mix, Samples.compute, Function.comp_def]
  · have here := getElem?_mixSamples normalize (((first :: others).map Frame.samples).map Samples.toList)
      (j := j) (lengths ▸ inside)
    rw [List.filterMap_map, List.filterMap_map, List.length_map, List.length_map] at here
    exact here

end Mixer
end FrameFlow
