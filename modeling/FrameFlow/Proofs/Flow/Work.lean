import FrameFlow.Flow.Work

/-! Which work a node gives out, and when. Frames go before ends, ends before the flush, and each
unit is given out once. -/
namespace FrameFlow

namespace Queue

variable {α : Type} {q : Queue α}

theorem eq_empty_iff : q = .empty ↔ q.toList = [] :=
  ⟨fun h => h ▸ toList_empty, fun h => ext (h.trans toList_empty.symm)⟩

theorem isEmpty_iff_eq : q.isEmpty ↔ q = .empty := isEmpty_iff.trans eq_empty_iff.symm

end Queue

namespace Inlet

variable {inlets after : List Inlet} {pad : Nat} {frame : Frame}

theorem takeFrame_eq_some (h : takeFrame inlets = some (pad, frame, after)) :
    ∃ p queue, inlets[pad]? = some p ∧ p.queue.toList = frame :: queue.toList ∧
      after = inlets.set pad { p with queue } := by
  induction inlets generalizing pad after with
  | nil => simp [takeFrame] at h
  | cons p rest ih =>
    unfold takeFrame at h
    split at h
    · next popped =>
      simp only [Option.some.injEq, Prod.mk.injEq] at h
      obtain ⟨rfl, rfl, rfl⟩ := h
      exact ⟨p, _, rfl, Queue.pop?_eq_some_iff.1 popped, rfl⟩
    · simp only [Option.map_eq_some_iff, Prod.exists, Prod.mk.injEq] at h
      obtain ⟨pad, _, later, found, rfl, rfl, rfl⟩ := h
      obtain ⟨q, queue, at_pad, first, rfl⟩ := ih found
      exact ⟨q, queue, by simpa using at_pad, first, rfl⟩

theorem takeFrame_eq_none (h : takeFrame inlets = none) : ∀ p ∈ inlets, p.queue = .empty := by
  induction inlets with
  | nil => simp
  | cons p rest ih =>
    unfold takeFrame at h
    split at h
    · simp at h
    · next none =>
      intro q member
      rcases List.mem_cons.1 member with rfl | member
      · exact Queue.eq_empty_iff.2 (Queue.pop?_eq_none_iff.1 none)
      · exact ih (Option.map_eq_none_iff.1 h) q member

theorem takeEnd_eq_some (h : takeEnd inlets = some (pad, after)) :
    ∃ p, inlets[pad]? = some p ∧ p.ended ∧ p.told = false ∧
      after = inlets.set pad { p with told := true } := by
  induction inlets generalizing pad after with
  | nil => simp [takeEnd] at h
  | cons p rest ih =>
    unfold takeEnd at h
    split at h
    · next untold =>
      simp only [Bool.and_eq_true, Bool.not_eq_true'] at untold
      simp only [Option.some.injEq, Prod.mk.injEq] at h
      obtain ⟨rfl, rfl⟩ := h
      exact ⟨p, rfl, untold.1, untold.2, rfl⟩
    · simp only [Option.map_eq_some_iff, Prod.exists, Prod.mk.injEq] at h
      obtain ⟨pad, later, found, rfl, rfl⟩ := h
      obtain ⟨q, at_pad, ended, untold, rfl⟩ := ih found
      exact ⟨q, by simpa using at_pad, ended, untold, rfl⟩

theorem takeEnd_eq_none (h : takeEnd inlets = none) :
    ∀ p ∈ inlets, (p.ended && !p.told) = false := by
  induction inlets with
  | nil => simp
  | cons p rest ih =>
    unfold takeEnd at h
    split at h
    · simp at h
    · next settled =>
      intro q member
      rcases List.mem_cons.1 member with rfl | member
      · simpa using settled
      · exact ih (Option.map_eq_none_iff.1 h) q member

end Inlet

namespace Node

variable {σ : Type} {n m : Node σ} {work : Work}

/-- A node gives out a unit of work. -/
inductive Takes (n : Node σ) : Work → Node σ → Prop where
  | fed {frame : Frame} {feed : Queue Frame} (source : n.role = .source)
      (first : n.feed.toList = frame :: feed.toList) : Takes n (.frame 0 frame) { n with feed }
  | feedOver (source : n.role = .source) (empty : n.feed = .empty) (ended : n.feedEnded)
      (fresh : n.flushed = false) : Takes n .flush { n with flushed := true }
  | frame {pad : Nat} {p : Inlet} {frame : Frame} {queue : Queue Frame} (inner : n.role ≠ .source)
      (at_pad : n.inputs[pad]? = some p) (first : p.queue.toList = frame :: queue.toList) :
      Takes n (.frame pad frame) { n with inputs := n.inputs.set pad { p with queue } }
  | endOfInput {pad : Nat} {p : Inlet} (inner : n.role ≠ .source)
      (quiet : ∀ q ∈ n.inputs, q.queue = .empty) (at_pad : n.inputs[pad]? = some p)
      (ended : p.ended) (untold : p.told = false) :
      Takes n (.endOfInput pad) { n with inputs := n.inputs.set pad { p with told := true } }
  | flush (inner : n.role ≠ .source) (quiet : ∀ q ∈ n.inputs, q.queue = .empty)
      (linked : n.inputs ≠ []) (told : ∀ q ∈ n.inputs, q.told) (fresh : n.flushed = false) :
      Takes n .flush { n with flushed := true }

theorem readyToFlush_iff :
    n.readyToFlush ↔ n.flushed = false ∧ n.inputs ≠ [] ∧ ∀ q ∈ n.inputs, q.told := by
  simp [readyToFlush, and_assoc]

theorem takes_of_takeWork (h : n.takeWork = some (work, m)) : n.Takes work m := by
  unfold takeWork at h
  split at h
  · next source =>
    unfold takeSourceWork at h
    split at h
    · next popped =>
      obtain ⟨rfl, rfl⟩ := Prod.mk.inj (Option.some.inj h)
      exact .fed source (Queue.pop?_eq_some_iff.1 popped)
    · next none =>
      split at h
      · next finished =>
        simp only [Bool.and_eq_true, Bool.not_eq_true'] at finished
        obtain ⟨rfl, rfl⟩ := Prod.mk.inj (Option.some.inj h)
        have empty := Queue.eq_empty_iff.2 (Queue.pop?_eq_none_iff.1 none)
        exact .feedOver source empty finished.1 finished.2
      · simp at h
  · next inner =>
    unfold takeInputWork at h
    split at h
    · next found =>
      obtain ⟨rfl, rfl⟩ := Prod.mk.inj (Option.some.inj h)
      obtain ⟨p, queue, at_pad, first, rfl⟩ := Inlet.takeFrame_eq_some found
      exact .frame inner at_pad first
    · next none =>
      have quiet := Inlet.takeFrame_eq_none none
      split at h
      · next found =>
        obtain ⟨rfl, rfl⟩ := Prod.mk.inj (Option.some.inj h)
        obtain ⟨p, at_pad, ended, untold, rfl⟩ := Inlet.takeEnd_eq_some found
        exact .endOfInput inner quiet at_pad ended untold
      · split at h
        · next ready =>
          obtain ⟨fresh, linked, told⟩ := readyToFlush_iff.1 ready
          obtain ⟨rfl, rfl⟩ := Prod.mk.inj (Option.some.inj h)
          exact .flush inner quiet linked told fresh
        · simp at h

/-- A node with work gives some out. -/
theorem takeWork_ne_none (works : n.hasWork) : n.takeWork ≠ none := by
  intro none
  unfold hasWork at works
  unfold takeWork at none
  split at none
  · next source =>
    simp only [source, Bool.or_eq_true, Bool.not_eq_true'] at works
    unfold takeSourceWork at none
    split at none
    · simp at none
    · next empty =>
      split at none
      · simp at none
      · next rest =>
        have quiet := Queue.isEmpty_iff.2 (Queue.pop?_eq_none_iff.1 empty)
        rcases works with busy | finished
        · simp [quiet] at busy
        · exact rest finished
  · next inner =>
    have works : n.inputs.any Inlet.hasWork || n.readyToFlush := by
      split at works
      · next source => exact absurd source inner
      · exact works
    unfold takeInputWork at none
    split at none
    · simp at none
    · next quiet =>
      split at none
      · simp at none
      · next told =>
        split at none
        · simp at none
        · next unready =>
          rw [Bool.or_eq_true, List.any_eq_true] at works
          obtain ⟨p, member, busy⟩ := works.resolve_right unready
          have empty := Queue.isEmpty_iff_eq.2 (Inlet.takeFrame_eq_none quiet p member)
          have settled := Inlet.takeEnd_eq_none told p member
          simp [Inlet.hasWork, empty, settled] at busy

theorem Takes.outputs (h : n.Takes work m) : m.outputs = n.outputs := by
  cases h <;> rfl

theorem Takes.filter (h : n.Takes work m) : m.filter = n.filter := by
  cases h <;> rfl

theorem Takes.role (h : n.Takes work m) : m.role = n.role := by
  cases h <;> rfl

theorem Takes.life (h : n.Takes work m) : m.life = n.life := by
  cases h <;> rfl

theorem Takes.inputs_length (h : n.Takes work m) : m.inputs.length = n.inputs.length := by
  cases h <;> simp

theorem Takes.flushed_iff (h : n.Takes work m) : m.flushed ↔ n.flushed ∨ work = .flush := by
  cases h <;> simp_all

/-- The end of an input is told of once, and only where no frame waits. -/
theorem Takes.of_endOfInput {pad : Nat} (h : n.Takes (.endOfInput pad) m) :
    n.role ≠ .source ∧ (∀ q ∈ n.inputs, q.queue = .empty) ∧
      ∃ p, n.inputs[pad]? = some p ∧ p.ended ∧ p.told = false := by
  cases h with
  | endOfInput inner quiet at_pad ended untold => exact ⟨inner, quiet, _, at_pad, ended, untold⟩

/-- A node is flushed once nothing more can come: a source after its feed, any other node after it
was told of all ends. -/
def FlushedLast (n : Node σ) : Prop :=
  n.flushed → if n.role = .source then n.feed = .empty ∧ n.feedEnded
    else n.inputs ≠ [] ∧ ∀ q ∈ n.inputs, q.told

theorem Takes.flushedLast (h : n.Takes work m) (fresh : n.flushed = false) : m.FlushedLast := by
  intro flushed
  cases h with
  | feedOver source empty ended _ =>
    have same : ({ n with flushed := true } : Node σ).role = .source := source
    rw [if_pos same]
    exact ⟨empty, ended⟩
  | flush inner _ linked told _ =>
    have same : ({ n with flushed := true } : Node σ).role ≠ .source := inner
    rw [if_neg same]
    exact ⟨linked, told⟩
  | _ => exact absurd flushed (by simp [fresh])

/-- A source without work has handled its feed, and its flush once the feed has ended. -/
theorem source_idle (source : n.role = .source) (idle : n.hasWork = false) :
    n.feed = .empty ∧ (n.feedEnded → n.flushed) := by
  simp only [hasWork, source, Bool.or_eq_false_iff, Bool.not_eq_false', Bool.and_eq_false_iff] at idle
  refine ⟨Queue.isEmpty_iff_eq.1 idle.1, fun ended => ?_⟩
  simpa [ended] using idle.2

/-- Any other node without work has handled its inputs and was told of all their ends, and it was
flushed if they all have ended. -/
theorem inner_idle (inner : n.role ≠ .source) (idle : n.hasWork = false) :
    (∀ q ∈ n.inputs, q.queue = .empty ∧ (q.ended → q.told)) ∧
      (n.inputs ≠ [] → (∀ q ∈ n.inputs, q.told) → n.flushed) := by
  have split : (n.inputs.any Inlet.hasWork || n.readyToFlush) = false := by
    unfold hasWork at idle
    split at idle
    · next source => exact absurd source inner
    · exact idle
  obtain ⟨quiet, unready⟩ := Bool.or_eq_false_iff.1 split
  refine ⟨fun q member => ?_, fun linked told => ?_⟩
  · have := List.any_eq_false.1 quiet q member
    simp only [Inlet.hasWork, Bool.or_eq_true, Bool.not_eq_true', not_or, Bool.and_eq_true,
      Bool.not_eq_false, not_and] at this
    exact ⟨Queue.isEmpty_iff_eq.1 this.1, this.2⟩
  · cases fresh : n.flushed with
    | true => rfl
    | false => simp [readyToFlush_iff.2 ⟨fresh, linked, told⟩] at unready

end Node
end FrameFlow
