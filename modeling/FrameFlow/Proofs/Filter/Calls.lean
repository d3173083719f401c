import FrameFlow.Proofs.Flow.Channel
import FrameFlow.Proofs.Stream.Follow

/-! A filter on its own, called over and over without a graph around it. Each call gets an empty tray on
which the outputs are closed that earlier calls have closed. What comes on each input is a stream. -/
namespace FrameFlow

namespace Work

/-- Calls a filter with a unit of work. -/
def call {σ : Type} [Filter σ] (work : Work) (s : σ) (tray : Tray) : Turn σ :=
  match work with
  | .frame pad f => Filter.onFrame s pad f tray
  | .endOfInput pad => Filter.onEnd s pad tray
  | .flush => Filter.onFlush s tray

/-- Whether nothing may come on an input after a unit of work. A flush is the end of all inputs. -/
def ends (pad : Nat) : Work → Bool
  | .frame _ _ => false
  | .endOfInput p => p == pad
  | .flush => true

/-- No frame comes on an input that has ended. -/
def mayFollow (earlier : Work) : Work → Bool
  | .frame pad _ => !earlier.ends pad
  | _ => true

end Work

/-- A filter without a graph around it, and what came of the calls so far. -/
structure Solo (σ : Type) where
  state : σ
  closed : List Bool
  emitted : List (Nat × Frame)
  faults : List Fault

namespace Solo

variable {σ : Type} [Filter σ]

def start (s : σ) : Solo σ := ⟨s, List.replicate (Filter.outputs s).length false, [], []⟩

/-- One more call. It may go wrong, and what it has emitted until then stays. -/
def call (solo : Solo σ) (work : Work) : Solo σ :=
  let turn := work.call solo.state (.start solo.closed)
  ⟨turn.state, turn.tray.closed, solo.emitted ++ turn.tray.frames.toList,
    solo.faults ++ turn.fault.toList⟩

def after (s : σ) (works : List Work) : Solo σ := works.foldl call (start s)

@[simp] theorem after_nil (s : σ) : after s [] = start s := rfl

@[simp] theorem after_concat (s : σ) (works : List Work) (work : Work) :
    after s (works ++ [work]) = (after s works).call work := List.foldl_concat ..

/-- What holds of a state and is kept by every call still holds after more calls. -/
theorem after_append_induction {s : σ} {works : List Work} {P : Solo σ → Prop}
    (now : P (after s works)) (step : ∀ solo work, P solo → P (solo.call work)) (more : List Work) :
    P (after s (works ++ more)) := by
  rw [after, List.foldl_append]
  exact List.foldlRecOn more _ now fun solo held work _ => step solo work held

end Solo

/-- The frames that came on an input. -/
def received (pad : Nat) (works : List Work) : List Frame := works.flatMap (Work.handedOn pad)

/-- Whether an input has ended. -/
def isOver (pad : Nat) (works : List Work) : Bool := works.any (Work.ends pad)

/-- What came on each of the inputs. -/
def given (pads : Nat) (works : List Work) : List Stream :=
  (List.range pads).map fun pad => ⟨received pad works, isOver pad works⟩

/-- Work in an order in which a filter may be given it. -/
def InOrder (works : List Work) : Prop := works.Pairwise fun earlier later => earlier.mayFollow later

instance : DecidablePred InOrder := fun works => inferInstanceAs (Decidable (works.Pairwise _))

section Concat

variable {pad pads : Nat} {works : List Work} {work : Work}

@[simp] theorem received_concat :
    received pad (works ++ [work]) = received pad works ++ work.handedOn pad := by
  simp [received]

@[simp] theorem isOver_concat : isOver pad (works ++ [work]) = (isOver pad works || work.ends pad) := by
  simp [isOver]

@[simp] theorem length_given : (given pads works).length = pads := by simp [given]

@[simp] theorem given_nil : given pads [] = List.replicate pads .empty := by
  simp only [given, received, isOver, List.flatMap_nil, List.any_nil, List.map_const', List.length_range]
  rfl

theorem getElem?_given (inside : pad < pads) :
    (given pads works)[pad]? = some ⟨received pad works, isOver pad works⟩ := by
  simp [given, inside]

/-- What was given grows with each unit of work. -/
theorem given_concat : given pads (works ++ [work]) = work.onto (given pads works) := by
  refine List.ext_getElem? fun pad => ?_
  rcases Nat.lt_or_ge pad pads with inside | outside
  · rw [getElem?_given inside, received_concat, isOver_concat]
    cases work with
    | frame p frame =>
      rw [Work.onto, List.getElem?_modify, getElem?_given inside]
      by_cases here : p = pad <;> simp [Work.handedOn, Work.ends, here, Stream.push]
    | endOfInput p =>
      rw [Work.onto, List.getElem?_modify, getElem?_given inside]
      by_cases here : p = pad <;> simp [Work.handedOn, Work.ends, here, Stream.finish]
    | flush =>
      rw [Work.onto, List.getElem?_map, getElem?_given inside]
      simp [Work.handedOn, Work.ends, Stream.finish]
  · have beyond : (work.onto (given pads works)).length ≤ pad := by
      cases work <;> simpa [Work.onto] using outside
    rw [List.getElem?_eq_none (by simpa using outside), List.getElem?_eq_none beyond]

theorem InOrder.init (ordered : InOrder (works ++ [work])) : InOrder works :=
  (List.pairwise_append.1 ordered).1

theorem InOrder.going {frame : Frame} (ordered : InOrder (works ++ [.frame pad frame])) :
    isOver pad works = false := by
  refine List.any_eq_false.2 fun earlier member => ?_
  have fits := (List.pairwise_append.1 ordered).2.2 earlier member _ (List.mem_singleton_self _)
  simpa [Work.mayFollow] using fits

/-- What came on the inputs before begins what came on them after one more unit of work. -/
theorem InOrder.grows (ordered : InOrder (works ++ [work])) (pads : Nat) :
    List.Forall₂ Stream.Begins (given pads works) (given pads (works ++ [work])) := by
  refine List.forall₂_map_left_iff.2 (List.forall₂_map_right_iff.2 (List.forall₂_same.2 fun pad _ => ?_))
  refine ⟨?_, fun finished => ?_⟩
  · rw [received_concat]
    exact List.prefix_append _ _
  · have silent : work.handedOn pad = [] := by
      cases work with
      | frame p frame =>
        refine if_neg fun here => ?_
        subst here
        simp [ordered.going] at finished
      | _ => rfl
    have ended : isOver pad works = true := finished
    rw [received_concat, isOver_concat, silent, List.append_nil, ended, Bool.true_or]

end Concat
end FrameFlow
