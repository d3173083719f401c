import FrameFlow.Proofs.Flow.Progress

/-! Looking for work and taking it. A node has work just where it gives some out, it keeps everything where
it gives out nothing, and each unit given out leaves it one less. So a node that nothing arrives at is
worked off after a known number of units. -/
namespace FrameFlow

namespace Inlet

/-- Takes the first frame of the first inlet that has one. The queue of every inlet that is asked is
written back, also where it was empty. -/
def shiftFirst : List Inlet → Option (Nat × Frame) × List Inlet
  | [] => (none, [])
  | p :: rest =>
    let shifted := { p with queue := p.queue.tail }
    match p.queue.head? with
    | some frame => (some (0, frame), shifted :: rest)
    | none => ((shiftFirst rest).1.map fun (pad, frame) => (pad + 1, frame), shifted :: (shiftFirst rest).2)

/-- Marks the first inlet that ended and was not told. -/
def tellFirst : List Inlet → Option Nat × List Inlet
  | [] => (none, [])
  | p :: rest =>
    if p.ended && !p.told then (some 0, { p with told := true } :: rest)
    else ((tellFirst rest).1.map (· + 1), p :: (tellFirst rest).2)

theorem shiftFirst_eq (inlets : List Inlet) :
    shiftFirst inlets = ((takeFrame inlets).map fun taken => (taken.1, taken.2.1),
      ((takeFrame inlets).map fun taken => taken.2.2).getD inlets) := by
  induction inlets with
  | nil => rfl
  | cons p rest ih =>
    cases popped : p.queue.pop? with
    | some taken => simp [shiftFirst, takeFrame, Queue.head?, Queue.tail, popped]
    | none =>
      have empty := Queue.pop?_eq_none_iff.1 popped
      have same : p.queue.tail = p.queue := Queue.ext (by simp [empty])
      cases found : takeFrame rest <;> simp [shiftFirst, takeFrame, popped, empty, same, ih, found]

theorem tellFirst_eq (inlets : List Inlet) :
    tellFirst inlets = ((takeEnd inlets).map Prod.fst, ((takeEnd inlets).map Prod.snd).getD inlets) := by
  induction inlets with
  | nil => rfl
  | cons p rest ih =>
    by_cases due : p.ended && !p.told
    · simp only [tellFirst, takeEnd, if_pos due, Option.map_some, Option.getD_some]
    · cases found : takeEnd rest <;> simp [tellFirst, takeEnd, due, ih, found]

end Inlet

/-- The frames of an inlet, and its end where the node is still to be told of it. -/
def Inlet.outstanding (p : Inlet) : Nat := p.queue.size + if p.ended && !p.told then 1 else 0

namespace Node

variable {σ : Type} {n m : Node σ} {work : Work}

def giveSourceWork (n : Node σ) : Option Work × Node σ :=
  let shifted := { n with feed := n.feed.tail }
  match n.feed.head? with
  | some frame => (some (.frame 0 frame), shifted)
  | none =>
    if shifted.feedEnded && !shifted.flushed then (some .flush, { shifted with flushed := true })
    else (none, shifted)

def giveInputWork (n : Node σ) : Option Work × Node σ :=
  let shifted := { n with inputs := (Inlet.shiftFirst n.inputs).2 }
  match (Inlet.shiftFirst n.inputs).1 with
  | some (pad, frame) => (some (.frame pad frame), shifted)
  | none =>
    let told := { shifted with inputs := (Inlet.tellFirst shifted.inputs).2 }
    match (Inlet.tellFirst shifted.inputs).1 with
    | some pad => (some (.endOfInput pad), told)
    | none => if told.readyToFlush then (some .flush, { told with flushed := true }) else (none, told)

/-- Takes the next unit of work in place: feed and inlets are written back as they were looked at, also
where in the end there is nothing to give. -/
def giveWork (n : Node σ) : Option Work × Node σ :=
  if n.role = .source then n.giveSourceWork else n.giveInputWork

theorem giveSourceWork_eq (n : Node σ) : n.giveSourceWork =
    (n.takeSourceWork.map Prod.fst, (n.takeSourceWork.map Prod.snd).getD n) := by
  cases popped : n.feed.pop? with
  | some taken => simp [giveSourceWork, takeSourceWork, Queue.head?, Queue.tail, popped]
  | none =>
    have empty := Queue.pop?_eq_none_iff.1 popped
    have same : n.feed.tail = n.feed := Queue.ext (by simp [empty])
    by_cases ending : n.feedEnded && !n.flushed <;>
      simp [giveSourceWork, takeSourceWork, popped, empty, same, ending]

theorem giveInputWork_eq (n : Node σ) : n.giveInputWork =
    (n.takeInputWork.map Prod.fst, (n.takeInputWork.map Prod.snd).getD n) := by
  unfold giveInputWork takeInputWork
  cases frame : Inlet.takeFrame n.inputs with
  | some taken => simp [Inlet.shiftFirst_eq, frame]
  | none =>
    cases ends : Inlet.takeEnd n.inputs with
    | some taken => simp [Inlet.shiftFirst_eq, Inlet.tellFirst_eq, frame, ends]
    | none =>
      by_cases ready : n.readyToFlush <;>
        simp [Inlet.shiftFirst_eq, Inlet.tellFirst_eq, frame, ends, ready]

theorem giveWork_eq (n : Node σ) :
    n.giveWork = (n.takeWork.map Prod.fst, (n.takeWork.map Prod.snd).getD n) := by
  cases role : n.role with
  | source =>
    simp only [giveWork, takeWork, role, if_true]
    exact n.giveSourceWork_eq
  | _ =>
    simp only [giveWork, takeWork, role, reduceCtorEq, if_false]
    exact n.giveInputWork_eq

/-- The frames that wait in the feed and in the queues, the ends still to be told of, and the flush. -/
def outstanding (n : Node σ) : Nat :=
  n.feed.size + (n.inputs.map Inlet.outstanding).sum + if n.flushed then 0 else 1

theorem Takes.outstanding_succ (takes : n.Takes work m) : m.outstanding + 1 = n.outstanding := by
  refine takes.total_succ (fun p frame queue first => ?_) fun p ended untold => ?_
  · have shorter : p.queue.size = queue.size + 1 := by simp [Queue.size_eq_length, first]
    simp only [Inlet.outstanding, shorter]
    omega
  · simp [Inlet.outstanding, ended, untold]

/-- What is given out is work that the node had. -/
theorem Takes.hasWork (takes : n.Takes work m) : n.hasWork := by
  by_contra idle
  rw [Bool.not_eq_true] at idle
  cases takes with
  | fed source first => simp [(source_idle source idle).1] at first
  | feedOver source _ ended fresh => simp [(source_idle source idle).2 ended] at fresh
  | frame inner at_pad first =>
    have quiet := (inner_idle inner idle).1 _ (List.mem_of_getElem? at_pad)
    simp [quiet.1] at first
  | endOfInput inner _ at_pad ended untold =>
    have quiet := (inner_idle inner idle).1 _ (List.mem_of_getElem? at_pad)
    simp [quiet.2 ended] at untold
  | flush inner _ linked told fresh => simp [(inner_idle inner idle).2 linked told] at fresh

theorem hasWork_iff_takes : n.hasWork ↔ ∃ work m, n.takeWork = some (work, m) := by
  constructor
  · intro works
    obtain ⟨⟨work, m⟩, taken⟩ := Option.ne_none_iff_exists'.1 (takeWork_ne_none works)
    exact ⟨work, m, taken⟩
  · rintro ⟨work, m, taken⟩
    exact (takes_of_takeWork taken).hasWork

/-- A node gives out units of work, one after the other, until it has none. -/
inductive WorksOff : Node σ → List Work → Node σ → Prop where
  | done {n : Node σ} (none : n.takeWork = none) : WorksOff n [] n
  | more {n m last : Node σ} {work : Work} {works : List Work} (taken : n.takeWork = some (work, m))
      (onward : WorksOff m works last) : WorksOff n (work :: works) last

theorem exists_worksOff (n : Node σ) : ∃ works last, n.WorksOff works last := by
  cases taken : n.takeWork with
  | none => exact ⟨[], n, .done taken⟩
  | some given =>
    have fewer := (takes_of_takeWork taken).outstanding_succ
    obtain ⟨works, last, onward⟩ := exists_worksOff given.2
    exact ⟨given.1 :: works, last, .more taken onward⟩
termination_by n.outstanding

theorem WorksOff.unique {works works' : List Work} {last last' : Node σ} (off : n.WorksOff works last)
    (off' : n.WorksOff works' last') : works' = works ∧ last' = last := by
  induction off generalizing works' with
  | done none =>
    cases off' with
    | done => exact ⟨rfl, rfl⟩
    | more taken => simp [none] at taken
  | more taken _ ih =>
    cases off' with
    | done none => simp [none] at taken
    | more taken' onward =>
      obtain ⟨rfl, rfl⟩ := Prod.mk.inj (Option.some.inj (taken.symm.trans taken'))
      obtain ⟨rfl, rfl⟩ := ih onward
      exact ⟨rfl, rfl⟩

theorem WorksOff.length_add {works : List Work} {last : Node σ} (off : n.WorksOff works last) :
    works.length + last.outstanding = n.outstanding := by
  induction off with
  | done => simp
  | more taken _ ih =>
    have fewer := (takes_of_takeWork taken).outstanding_succ
    rw [List.length_cons]
    omega

theorem WorksOff.hasWork_eq_false {works : List Work} {last : Node σ} (off : n.WorksOff works last) :
    last.hasWork = false := by
  induction off with
  | done none =>
    by_contra works
    exact takeWork_ne_none (Bool.not_eq_false _ ▸ works) none
  | more _ _ ih => exact ih

end Node

variable {σ : Type}

/-- A step is only missing where no node of the schedule has work. -/
theorem Graph.step_eq_none_iff [Filter σ] {g : Graph σ} :
    g.step = none ↔ ∀ i ∈ g.schedule, g.hasWorkAt i = false := by
  refine ⟨idle_of_step, fun idle => ?_⟩
  have found : g.schedule.find? g.hasWorkAt = none := by simpa using idle
  simp [step, nextToWork, found]

/-- Whatever the state of a node, it has work just where it gives some out, it is as before where it gives
out nothing, and each unit leaves the frames, ends and flush that wait at it one less. With nothing new it
comes to be without work, and while some node of a schedule has work there is a step to take. -/
theorem Node.takeWork_exact [Filter σ] (n : Node σ) (g : Graph σ) :
    (n.hasWork ↔ ∃ work m, n.takeWork = some (work, m)) ∧
      n.giveWork = (n.takeWork.map Prod.fst, (n.takeWork.map Prod.snd).getD n) ∧
      (∀ work m, n.takeWork = some (work, m) → m.outstanding + 1 = n.outstanding) ∧
      (∃ works last, n.WorksOff works last ∧
        (∀ works' last', n.WorksOff works' last' → works' = works ∧ last' = last) ∧
        works.length + last.outstanding = n.outstanding ∧ last.hasWork = false) ∧
      (g.step = none ↔ ∀ i ∈ g.schedule, g.hasWorkAt i = false) := by
  obtain ⟨works, last, off⟩ := n.exists_worksOff
  exact ⟨hasWork_iff_takes, n.giveWork_eq, fun _ _ taken => (takes_of_takeWork taken).outstanding_succ,
    ⟨works, last, off, fun _ _ off' => off.unique off', off.length_add, off.hasWork_eq_false⟩,
    Graph.step_eq_none_iff⟩

/-- A sink whose input has ended after a last frame, neither of which it has handled. -/
def Node.laden : Node BuiltIn :=
  let inlet := Inlet.unlinked ⟨"in", ""⟩
  { Node.ofKind (Sink.kind.map .sink) with
    inputs := [{ inlet with queue := .ofList [Frame.empty], ended := true }] }

/-- Three units wait at this sink: the frame, the end and the flush. -/
theorem Node.takeWork_exact_laden :
    let g : Graph BuiltIn := ⟨⟨0⟩, .empty, ⟨0, 0⟩, #[.laden], #[], true, [0], ⟨0, 0, 0, 0⟩⟩
    (∃ work m, laden.takeWork = some (work, m) ∧ laden.giveWork = (some work, m) ∧
        m.outstanding = 2) ∧
      (∃ works last, laden.WorksOff works last ∧ works.length + last.outstanding = 3) ∧
      g.step ≠ none := by
  intro g
  obtain ⟨busy, given, fewer, ⟨works, last, off, _, count, _⟩, stepping⟩ := takeWork_exact laden g
  have waiting : laden.outstanding = 3 := by decide
  obtain ⟨work, m, taken⟩ := busy.1 (by decide)
  have left := fewer work m taken
  have in_place : laden.giveWork = (some work, m) := by
    rw [given, taken]
    rfl
  refine ⟨⟨work, m, taken, in_place, by omega⟩, ⟨works, last, off, by omega⟩, fun none => ?_⟩
  exact absurd (stepping.1 none 0 (by decide)) (by decide)

end FrameFlow
