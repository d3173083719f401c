import FrameFlow.Proofs.Filter.Calls
import FrameFlow.Proofs.Filter.Soundness
import FrameFlow.Proofs.Mixer.Samples
import FrameFlow.Proofs.Stream.Start

/-! Mixers pair frames by their place. Whatever the order in which the inputs get their frames, the first
mix is that of all first frames, the second that of all second frames, and so on; an input that has ended
before some place has no part in the mix there. -/
namespace FrameFlow

open Setting (Values)

namespace Mixer

section Places

variable {inputs : List Stream} {i j : Nat}

theorem settledAt_of_le (before : i ≤ j) (settled : settledAt inputs j) : settledAt inputs i := by
  refine List.all_eq_true.2 fun s member => ?_
  have there := List.all_eq_true.1 settled s member
  simp only [Bool.or_eq_true, decide_eq_true_eq] at there ⊢
  exact there.imp_left (Nat.lt_of_le_of_lt before)

theorem headsAt_of_le (before : i ≤ j) (none : headsAt inputs i = []) : headsAt inputs j = [] := by
  refine List.filterMap_eq_nil_iff.2 fun s member => ?_
  have short := List.getElem?_eq_none_iff.1 (List.filterMap_eq_nil_iff.1 none s member)
  exact List.getElem?_eq_none (Nat.le_trans short before)

/-- There is a mix for each place where nothing more can come and something is, and for no other. -/
theorem getElem?_mixFrom_eq_some_iff {normalize : Bool} {mixed : Frame} :
    (mixFrom normalize inputs i)[j]? = some mixed ↔ settledAt inputs (i + j) ∧
      ∃ head others, headsAt inputs (i + j) = head :: others ∧ mixed = mix normalize head others := by
  fun_induction mixFrom normalize inputs i generalizing j with
  | case1 i _ none => simp [headsAt_of_le (Nat.le_add_right i j) none]
  | case2 i settled head others heads ih =>
    cases j with
    | zero => simp [settled, heads, eq_comm]
    | succ j =>
      rw [List.getElem?_cons_succ, ih]
      have place : i + 1 + j = i + (j + 1) := by omega
      rw [place]
  | case3 i unsettled =>
    have still : settledAt inputs (i + j) = false :=
      Bool.eq_false_iff.2 fun settled => unsettled (settledAt_of_le (Nat.le_add_right i j) settled)
    simp [still]

end Places

/-- The frames at one place of the inputs, in the order of the inputs. -/
def contributions (pads : Nat) (works : List Work) (k : Nat) : List Frame :=
  (List.range pads).filterMap fun pad => (received pad works)[k]?

/-- The frames at a place are to be mixed as soon as nothing more can come there, if something came. -/
structure Due (pads : Nat) (works : List Work) (k : Nat) : Prop where
  settled : ∀ pad < pads, k < (received pad works).length ∨ isOver pad works
  present : ∃ pad < pads, k < (received pad works).length

section Given

variable {pads : Nat} {works : List Work} {k : Nat}

theorem headsAt_given : headsAt (given pads works) k = contributions pads works k := by
  simp [headsAt, given, contributions, List.filterMap_map]

theorem settledAt_given_iff : settledAt (given pads works) k ↔
    ∀ pad < pads, k < (received pad works).length ∨ isOver pad works := by
  simp [settledAt, given]

theorem due_iff : Due pads works k ↔
    settledAt (given pads works) k ∧ contributions pads works k ≠ [] := by
  have present : contributions pads works k ≠ [] ↔ ∃ pad < pads, k < (received pad works).length := by
    simp [contributions, List.filterMap_eq_nil_iff]
  rw [settledAt_given_iff, present]
  exact ⟨fun due => ⟨due.settled, due.present⟩, fun due => ⟨due.1, due.2⟩⟩

/-- The mixes at the places that are due. -/
theorem getElem?_mixFrom_given {normalize : Bool} {mixed : Frame} :
    (mixFrom normalize (given pads works) 0)[k]? = some mixed ↔
      Due pads works k ∧ IsMixOf normalize (contributions pads works k) mixed := by
  rw [getElem?_mixFrom_eq_some_iff, Nat.zero_add, headsAt_given, due_iff]
  constructor
  · rintro ⟨settled, head, others, parts, rfl⟩
    rw [parts]
    exact ⟨⟨settled, List.cons_ne_nil _ _⟩, isMixOf_mix normalize head others⟩
  · rintro ⟨⟨settled, present⟩, is⟩
    obtain ⟨head, others, parts⟩ := List.exists_cons_of_ne_nil present
    rw [parts] at is
    exact ⟨settled, head, others, parts, is.unique (isMixOf_mix normalize head others)⟩

theorem lt_length_mixFrom_given_iff (normalize : Bool) :
    k < (mixFrom normalize (given pads works) 0).length ↔ Due pads works k := by
  constructor
  · intro inside
    exact (getElem?_mixFrom_given.1 (List.getElem?_eq_getElem inside)).1
  · intro due
    obtain ⟨settled, present⟩ := due_iff.1 due
    obtain ⟨head, others, parts⟩ := List.exists_cons_of_ne_nil present
    have is := parts ▸ isMixOf_mix normalize head others
    exact (List.getElem?_eq_some_iff.1 (getElem?_mixFrom_given.2 ⟨due, is⟩)).1

end Given

/-- The fault, if any, of a unit of work: a frame on an input that is not there. -/
def strayFault (pads : Nat) : Work → Option Fault
  | .frame pad _ => if pad < pads then none else some (.failed s!"frame on unknown input pad {pad}")
  | _ => none

/-- Whether a unit of work closes the output. -/
def closes (m : Mixer) : Work → Bool
  | .endOfInput _ => m.duration = .shortest
  | _ => false

theorem run_keeps (m : Mixer) (tray : Tray) :
    (m.run tray).state.duration = m.duration ∧ (m.run tray).tray.closed = tray.closed := by
  fun_induction run m tray with
  | case1 => exact ⟨rfl, rfl⟩
  | case2 => exact ⟨rfl, rfl⟩
  | case3 => exact ⟨rfl, rfl⟩
  | case4 m tray _ _ first others heads next after sent ih =>
    obtain ⟨_, rfl⟩ := Tray.emit_eq_ok_iff.1 sent
    exact ih
  | case5 => exact ⟨rfl, rfl⟩

/-- The output stays open in the longest mode, and until an input ends. -/
theorem any_closes_eq_false_iff {m : Mixer} {works : List Work} :
    works.any m.closes = false ↔ m.duration = .longest ∨ ∀ pad, .endOfInput pad ∉ works := by
  cases mode : m.duration with
  | longest =>
    refine iff_of_true (List.any_eq_false.2 fun work _ => ?_) (.inl rfl)
    cases work <;> simp [closes, mode]
  | shortest =>
    constructor
    · refine fun opened => .inr fun pad member => ?_
      simpa [closes, mode] using List.any_eq_false.1 opened _ member
    · rintro (longest | going)
      · cases longest
      · refine List.any_eq_false.2 fun work member => ?_
        cases work with
        | endOfInput pad => exact absurd member (going pad)
        | _ => simp [closes]

/-- What a call changes, the frames aside. -/
structure Leaves (m : Mixer) (work : Work) (tray : Tray) (turn : Turn Mixer) : Prop where
  duration : turn.state.duration = m.duration
  lanes : turn.state.lanes.length = m.lanes.length
  closed : turn.tray.closed = if m.closes work then tray.closed.set 0 true else tray.closed
  fault : turn.fault = strayFault m.lanes.length work

theorem leaves_call (m : Mixer) (work : Work) (tray : Tray) :
    Leaves m work tray (work.call m tray) := by
  have running : ∀ {m' : Mixer} {tray' : Tray}, m'.duration = m.duration →
      m'.lanes.length = m.lanes.length →
      tray'.closed = (if m.closes work then tray.closed.set 0 true else tray.closed) →
      strayFault m.lanes.length work = none → Leaves m work tray (m'.run tray') := by
    intro m' tray' duration lanes closed fine
    obtain ⟨duration', closed'⟩ := run_keeps m' tray'
    obtain ⟨fault, lanes'⟩ := sound_run_of_length lanes tray'
    exact ⟨duration'.trans duration, lanes', closed'.trans closed, fault.trans fine.symm⟩
  cases work with
  | frame pad frame =>
    show Leaves _ _ _ (m.onFrame pad frame tray)
    unfold onFrame
    split
    · next inside => exact running rfl (List.length_modify ..) rfl (if_pos inside)
    · next outside => exact ⟨rfl, rfl, rfl, (if_neg outside).symm⟩
  | endOfInput pad =>
    refine running rfl (List.length_modify ..) ?_ rfl
    cases duration : m.duration <;> simp [closes, duration, Tray.close]
  | flush => exact running rfl (List.length_map ..) rfl rfl

/-- What is known of a mixer after any calls at all. -/
structure Called (m : Mixer) (works : List Work) (solo : Solo Mixer) : Prop where
  duration : solo.state.duration = m.duration
  lanes : solo.state.lanes.length = m.lanes.length
  closed : solo.closed = [works.any m.closes]
  faults : solo.faults = works.filterMap (strayFault m.lanes.length)

theorem called_after (m : Mixer) (works : List Work) : Called m works (Solo.after m works) := by
  induction works using List.reverseRecOn with
  | nil => exact ⟨rfl, rfl, rfl, rfl⟩
  | append_singleton works work ih =>
    have leaves := leaves_call (Solo.after m works).state work (.start (Solo.after m works).closed)
    have closes : (Solo.after m works).state.closes work = m.closes work := by
      cases work <;> simp [closes, ih.duration]
    have fault := leaves.fault
    rw [ih.lanes] at fault
    rw [Solo.after_concat]
    refine ⟨leaves.duration.trans ih.duration, leaves.lanes.trans ih.lanes, ?_, ?_⟩
    · refine leaves.closed.trans ?_
      rw [closes, Tray.start, ih.closed]
      cases closing : m.closes work <;> simp [closing]
    · rw [Solo.call, ih.faults, fault, List.filterMap_append]
      cases stray : strayFault m.lanes.length work <;> simp [stray]

/-- While the output is open, a call sends the mixes that the inputs have more. -/
theorem call_lanesAt (m : Mixer) (pads : Nat) {works : List Work} {work : Work}
    (ordered : InOrder (works ++ [work])) (opened : m.closes work = false) :
    let before := mixFrom m.normalize (given pads works) 0
    let later := mixFrom m.normalize (given pads (works ++ [work])) 0
    ∃ more, later = before ++ more ∧
      work.call { m with lanes := lanesAt (given pads works) before.length } (.start [false]) =
        ⟨{ m with lanes := lanesAt (given pads (works ++ [work])) later.length },
          .with (more.map (0, ·)) [false], strayFault pads work⟩ := by
  intro before later
  have grow := ordered.grows pads
  obtain ⟨more, longer, run⟩ := BuiltIn.run_mixer m grow
  have onto : given pads (works ++ [work]) = work.onto (given pads works) := given_concat
  cases work with
  | frame pad frame =>
    show ∃ more, _ ∧ onFrame _ pad frame _ = _
    unfold onFrame
    rcases Nat.lt_or_ge pad pads with inside | outside
    · have there : pad < (lanesAt (given pads works) before.length).length := by
        rwa [length_lanesAt, length_given]
      refine ⟨more, longer, ?_⟩
      rw [if_pos there, modify_lanesAt_frame (getElem?_given inside) ordered.going, strayFault,
        if_pos inside, ← Work.onto, ← onto]
      exact run
    · have beyond : ¬pad < (lanesAt (given pads works) before.length).length := by
        rw [length_lanesAt, length_given]
        omega
      have same : given pads (works ++ [.frame pad frame]) = given pads works :=
        onto.trans (List.modify_eq_self (by simpa using outside))
      refine ⟨[], by simp [later, before, same], ?_⟩
      rw [if_neg beyond, strayFault, if_neg (by omega)]
      simp only [later, same]
      rfl
  | endOfInput pad =>
    refine ⟨more, longer, ?_⟩
    have longest : m.duration = .longest := by
      cases duration : m.duration <;> simp_all [closes]
    show onEnd _ pad _ = _
    unfold onEnd
    dsimp only
    rw [longest, modify_lanesAt_end, ← Work.onto, ← onto]
    rw [longest] at run
    exact run
  | flush =>
    refine ⟨more, longer, ?_⟩
    show onFlush _ _ = _
    unfold onFlush
    dsimp only
    rw [map_lanesAt_end, ← Work.onto, ← onto]
    exact run

/-- A mixer with an open output has sent all mixes that it could, and keeps the frames behind them. -/
structure CaughtUp (m : Mixer) (pads : Nat) (works : List Work) (solo : Solo Mixer) : Prop where
  state : solo.state =
    { m with lanes := lanesAt (given pads works) (mixFrom m.normalize (given pads works) 0).length }
  emitted : solo.emitted = (mixFrom m.normalize (given pads works) 0).map (0, ·)

theorem caughtUp_after {m : Mixer} {pads : Nat} (fresh : m.lanes = idle pads) {works : List Work}
    (ordered : InOrder works) (opened : works.any m.closes = false) :
    CaughtUp m pads works (Solo.after m works) := by
  induction works using List.reverseRecOn with
  | nil =>
    have nothing : mixFrom m.normalize (given pads []) 0 = [] := by rw [given_nil, mixFrom_empty]
    refine ⟨?_, ?_⟩
    · rw [nothing, List.length_nil, given_nil, lanesAt_empty, ← fresh]
      rfl
    · rw [nothing]
      rfl
  | append_singleton works work ih =>
    rw [List.any_append, Bool.or_eq_false_iff] at opened
    have closed := (called_after m works).closed
    rw [opened.1] at closed
    have caught := ih ordered.init opened.1
    obtain ⟨more, longer, turn⟩ := call_lanesAt m pads ordered (by simpa using opened.2)
    rw [Solo.after_concat, Solo.call, closed, caught.state, turn]
    refine ⟨rfl, ?_⟩
    rw [longer, List.map_append, ← caught.emitted]
    simp [Tray.with]

namespace CaughtUp

variable {m : Mixer} {pads : Nat} {works : List Work} {solo : Solo Mixer}

theorem getElem?_emitted (caught : CaughtUp m pads works solo) {k : Nat} {sent : Nat × Frame} :
    solo.emitted[k]? = some sent ↔ Due pads works k ∧
      ∃ mixed, sent = (0, mixed) ∧ IsMixOf m.normalize (contributions pads works k) mixed := by
  rw [caught.emitted, List.getElem?_map, Option.map_eq_some_iff]
  simp only [getElem?_mixFrom_given]
  constructor
  · rintro ⟨mixed, ⟨due, is⟩, rfl⟩
    exact ⟨due, mixed, rfl, is⟩
  · rintro ⟨due, mixed, rfl, is⟩
    exact ⟨mixed, ⟨due, is⟩, rfl⟩

theorem lt_length_emitted_iff (caught : CaughtUp m pads works solo) {k : Nat} :
    k < solo.emitted.length ↔ Due pads works k := by
  rw [caught.emitted, List.length_map, lt_length_mixFrom_given_iff]

theorem waiting (caught : CaughtUp m pads works solo) :
    solo.state.lanes.map (fun l => l.queue.toList) =
      (List.range pads).map fun pad => (received pad works).drop solo.emitted.length := by
  rw [caught.state, caught.emitted, List.length_map]
  simp [lanesAt, given, Function.comp_def]

/-- An input holds nothing just if all its frames were mixed. -/
theorem queue_eq_empty_iff (caught : CaughtUp m pads works solo) {pad : Nat} (inside : pad < pads) :
    solo.state.lanes[pad]?.map Lane.queue = some .empty ↔
      (received pad works).length ≤ solo.emitted.length := by
  have there : solo.state.lanes[pad]?.map (fun l => l.queue.toList) =
      some ((received pad works).drop solo.emitted.length) := by
    rw [← List.getElem?_map, caught.waiting, List.getElem?_map, List.getElem?_range inside]
    rfl
  obtain ⟨lane, at_pad, queue⟩ := Option.map_eq_some_iff.1 there
  rw [at_pad, Option.map_some, Option.some.injEq, ← List.drop_eq_nil_iff, ← queue]
  exact ⟨fun none => none ▸ Queue.toList_empty, fun none => Queue.ext (by simp [none])⟩

end CaughtUp

theorem length_inputs (m : Mixer) : (Filter.inputs m).length = m.lanes.length := Pad.length_numbered _ _

/-- A mixer that was just set up has an idle lane for each input. -/
theorem idle_of_setUp {values : Values} {m : Mixer} (made : Filter.setUp Mixer.initial values = .ok m) :
    m.lanes = idle (Filter.inputs m).length := by
  obtain ⟨_, fresh⟩ := lanes_of_setUp made
  have count := congrArg List.length fresh
  rw [idle, List.length_replicate] at count
  rw [length_inputs, count, fresh]

/-- Each frame that a mixer has sent so far is the mix of what its inputs have at one place, place by
place: every place has been mixed at which each input had a frame or had ended, and no other. The frames
behind wait on their inputs. Only the end of an input closes the output, and only in the shortest mode. -/
theorem emitted_by_position {values : Values} {m : Mixer}
    (made : Filter.setUp Mixer.initial values = .ok m) {works : List Work} (ordered : InOrder works) :
    let pads := (Filter.inputs m).length
    let solo := Solo.after m works
    solo.faults = works.filterMap (strayFault pads) ∧
      (solo.closed = [false] ↔ m.duration = .longest ∨ ∀ pad, .endOfInput pad ∉ works) ∧
      (solo.closed = [false] →
        (∀ k sent, solo.emitted[k]? = some sent ↔ Due pads works k ∧
          ∃ mixed, sent = (0, mixed) ∧ IsMixOf m.normalize (contributions pads works k) mixed) ∧
        solo.state.lanes.map (fun l => l.queue.toList) =
          (List.range pads).map fun pad => (received pad works).drop solo.emitted.length) := by
  intro pads solo
  have called := called_after m works
  have opened_iff : solo.closed = [false] ↔ works.any m.closes = false := by
    rw [called.closed]
    simp only [List.cons.injEq, and_true]
  refine ⟨called.faults.trans (by rw [← length_inputs]), opened_iff.trans any_closes_eq_false_iff,
    fun opened => ?_⟩
  have caught := caughtUp_after (idle_of_setUp made) ordered (opened_iff.1 opened)
  exact ⟨fun k sent => caught.getElem?_emitted, caught.waiting⟩

/-- One input ends a frame before the other: the second frame of the other input is mixed alone. -/
def uneven : List Work :=
  [.frame 0 ⟨⟨48000, 1⟩, some 0, .ofList [1, 2]⟩, .frame 0 ⟨⟨48000, 1⟩, some 2, .ofList [3]⟩,
    .frame 1 ⟨⟨48000, 1⟩, none, .ofList [4]⟩, .endOfInput 1]

theorem emitted_by_position_uneven :
    let solo := Solo.after initial uneven
    Filter.setUp initial (kind.options.complete .empty) = .ok initial ∧ InOrder uneven ∧
      solo.closed = [false] ∧
      (∀ k sent, solo.emitted[k]? = some sent ↔ Due 2 uneven k ∧
        ∃ mixed, sent = (0, mixed) ∧ IsMixOf true (contributions 2 uneven k) mixed) ∧
      solo.state.lanes.map (fun l => l.queue.toList) =
        (List.range 2).map fun pad => (received pad uneven).drop solo.emitted.length := by
  have made : Filter.setUp initial (kind.options.complete .empty) = .ok initial := by decide +kernel
  have ordered : InOrder uneven := by decide
  obtain ⟨_, opened_iff, open_output⟩ := emitted_by_position made ordered
  have opened := opened_iff.2 (.inl rfl)
  exact ⟨made, ordered, opened, open_output opened⟩

end Mixer
end FrameFlow
