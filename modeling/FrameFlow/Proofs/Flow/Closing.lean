import FrameFlow.Proofs.Filter.Lawful
import FrameFlow.Proofs.Flow.Delivery
import FrameFlow.Proofs.Flow.Faultless
import FrameFlow.Proofs.Flow.Protocol

/-! Closed outputs. A call may close an output and go on to emit frames on it. Such frames go over the link
all the same: only frames on an output that an earlier call has closed are dropped. -/
namespace FrameFlow

variable {σ : Type}

namespace Tray

/-- What a filter may do with a tray. -/
inductive Act where
  | emit (pad : Nat) (frame : Frame)
  | close (pad : Nat)
  | closeAll
deriving DecidableEq

/-- A frame for an output that is not there is refused, and the tray stays as it was. -/
def act (t : Tray) : Act → Tray
  | .emit pad frame => (t.emit pad frame).toOption.getD t
  | .close pad => t.close pad
  | .closeAll => t.closeAll

def perform (t : Tray) (acts : List Act) : Tray := acts.foldl act t

@[simp] theorem perform_nil (t : Tray) : t.perform [] = t := rfl

@[simp] theorem perform_cons (t : Tray) (a : Act) (rest : List Act) :
    t.perform (a :: rest) = (t.act a).perform rest := rfl

theorem act_emit_of_inside {t : Tray} {pad : Nat} (inside : pad < t.outputs) (frame : Frame) :
    t.act (.emit pad frame) = { t with frames := t.frames.push (pad, frame) } := by
  rw [act, emit_eq_ok_iff.2 ⟨inside, rfl⟩]
  rfl

theorem act_emit_of_outside {t : Tray} {pad : Nat} (outside : ¬pad < t.outputs) (frame : Frame) :
    t.act (.emit pad frame) = t := by
  rw [act, emit, if_neg outside]
  rfl

theorem filled_act (t : Tray) (a : Act) : t.Filled (t.act a) := by
  cases a with
  | emit pad frame =>
    by_cases inside : pad < t.outputs
    · rw [act_emit_of_inside inside]
      exact .emit .untouched (emit_eq_ok_iff.2 ⟨inside, rfl⟩)
    · rw [act_emit_of_outside inside]
      exact .untouched
  | close pad => exact .close pad .untouched
  | closeAll => exact .closeAll .untouched

theorem outputs_act (t : Tray) (a : Act) : (t.act a).outputs = t.outputs := (t.filled_act a).outputs

/-- The frame, if any, that an act emits on an output. -/
def Act.emits (pad : Nat) : Act → List Frame
  | .emit p frame => if p = pad then [frame] else []
  | _ => []

/-- The frames that acts emit on an output while it is open, or else those while it is closed. -/
def emittedWhile (closed : Bool) (pad : Nat) (t : Tray) : List Act → List Frame
  | [] => []
  | a :: rest => (if t.isClosed pad = closed then a.emits pad else []) ++
      (t.act a).emittedWhile closed pad rest

theorem emittedOn_act {t : Tray} {pad : Nat} (inside : pad < t.outputs) (a : Act) :
    emittedOn pad (t.act a).frames.toList = emittedOn pad t.frames.toList ++ a.emits pad := by
  cases a with
  | emit p frame =>
    by_cases there : p < t.outputs
    · rw [act_emit_of_inside there, Queue.toList_push, emittedOn, List.filterMap_append]
      by_cases here : p = pad <;> simp [emittedOn, Act.emits, here]
    · have other : p ≠ pad := fun here => there (here ▸ inside)
      rw [act_emit_of_outside there, Act.emits, if_neg other, List.append_nil]
  | close p => exact (List.append_nil _).symm
  | closeAll => exact (List.append_nil _).symm

/-- An output stays closed. -/
theorem isClosed_act {t : Tray} {pad : Nat} (closed : t.isClosed pad) (a : Act) :
    (t.act a).isClosed pad := by
  cases a with
  | emit p frame =>
    by_cases there : p < t.outputs
    · rw [act_emit_of_inside there]
      exact closed
    · rwa [act_emit_of_outside there]
  | close p =>
    simp only [isClosed, List.getD_eq_getElem?_getD] at closed ⊢
    simp only [act, close, List.getElem?_set]
    split
    · split <;> rfl
    · exact closed
  | closeAll =>
    simp only [isClosed, List.getD_eq_getElem?_getD, act, closeAll, List.getElem?_map]
    cases t.closed[pad]? <;> rfl

/-- Nothing is emitted on an open output after it was closed. -/
theorem emittedWhile_open_of_closed {t : Tray} {pad : Nat} (closed : t.isClosed pad)
    (acts : List Act) : t.emittedWhile false pad acts = [] := by
  induction acts generalizing t with
  | nil => rfl
  | cons a rest ih =>
    have later := ih (isClosed_act closed a)
    simp [emittedWhile, closed, later]

/-- On an output, acts emit the frames from before it was closed and then those from after. -/
theorem emittedOn_perform {t : Tray} {pad : Nat} (inside : pad < t.outputs) (acts : List Act) :
    emittedOn pad (t.perform acts).frames.toList = emittedOn pad t.frames.toList ++
      (t.emittedWhile false pad acts ++ t.emittedWhile true pad acts) := by
  induction acts generalizing t with
  | nil => simp [emittedWhile]
  | cons a rest ih =>
    rw [perform_cons, ih (t.outputs_act a ▸ inside), emittedOn_act inside]
    cases closed : t.isClosed pad with
    | true =>
      have silent := emittedWhile_open_of_closed (isClosed_act closed a) rest
      simp [emittedWhile, closed, silent]
    | false => simp [emittedWhile, closed]

end Tray

theorem Event.callTo_eq_some_iff {e : Event σ} {i : Nat} {c : Invocation σ} :
    e.callTo i = some c ↔ e = .invoked c ∧ c.index = i := by
  cases e with
  | invoked d =>
    simp only [Event.callTo, Option.ite_none_right_eq_some, Option.some.injEq, Event.invoked.injEq]
    constructor
    · rintro ⟨here, rfl⟩
      exact ⟨rfl, here⟩
    · rintro ⟨rfl, here⟩
      exact ⟨here, rfl⟩
  | _ => simp [Event.callTo]

namespace Graph

variable [Filter σ] {g h : Graph σ} {k : Nat} {l : Link} {c : Invocation σ}

/-- A call that goes well puts what it emits on an output in the queue at the other end of the link, unless
an earlier call has closed the output. -/
theorem Happens.queue_of_invoked (wired : g.Wired) (event : g.Happens (.invoked c) h)
    (link : g.links[k]? = some l) (source : l.source.node = c.index)
    (apart : l.target.node ≠ c.index) :
    ∃ p q q', c.node.outputs[l.source.pad]? = some p ∧ g.inletAt l.target = some q ∧
      h.inletAt l.target = some q' ∧
      q'.queue.toList = q.queue.toList ++ if c.turn.fault = none ∧ p.closed = false then
        emittedOn l.source.pad c.turn.tray.frames.toList else [] := by
  obtain ⟨p, _, q, q', outlet, _, inlet, inlet', via⟩ := event.transfers wired link
  obtain ⟨n, there, at_pad⟩ := Option.bind_eq_some_iff.1 outlet
  obtain rfl := Option.some.inj (event.takes.1.symm.trans (source ▸ there))
  refine ⟨p, q, q', at_pad, inlet, inlet', ?_⟩
  have moved := via.queue
  rw [event.sentOn_eq wired link] at moved
  simpa [Event.handedAt, Ne.symm apart, Event.emits, source, at_pad] using moved

/-- At any call of a session, the frames emitted on an output that an earlier call has closed are dropped,
and all others arrive if the call goes well, also those emitted after a close in the same call. So what
arrives is what was emitted while the output was open just if nothing was emitted after such a close. -/
theorem Reachable.arrivals_of_invoked {before : Graph σ} (reachable : before.Reachable)
    (configured : before.configure = .ok g) (requests : List Request) {es fs : List (Event σ)}
    (moment : (g.serveAll requests).2 = es ++ .invoked c :: fs) (link : g.links[k]? = some l)
    (source : l.source.node = c.index) {acts : List Tray.Act}
    (performed : c.turn.tray = (Tray.start c.node.closedOutputs).perform acts) :
    ∃ h h' p q q', g.Runs es h ∧ h.Happens (.invoked c) h' ∧ h'.Runs fs (g.serveAll requests).1 ∧
      c.node.outputs[l.source.pad]? = some p ∧ h.inletAt l.target = some q ∧
      h'.inletAt l.target = some q' ∧
      let tray := Tray.start c.node.closedOutputs
      let early := tray.emittedWhile false l.source.pad acts
      let late := tray.emittedWhile true l.source.pad acts
      q'.queue.toList = q.queue.toList ++
        (if c.turn.fault = none ∧ p.closed = false then early ++ late else []) ∧
      (q'.queue.toList = q.queue.toList ++ (if c.turn.fault = none then early else []) ↔
        (c.turn.fault = none → p.closed = false → late = [])) := by
  have ready := (reachable.assembled (unconfigured_of_configure configured)).ready configured
  obtain ⟨h, first, later⟩ := (moment ▸ g.runs_serveAll requests).split
  cases later with
  | @next _ h' _ _ _ event later =>
    have apart : l.target.node ≠ c.index := fun back =>
      ready.schedules.not_feeds_self ⟨l, Array.mem_of_getElem? link, source, back⟩
    obtain ⟨p, q, q', at_pad, inlet, inlet', queue⟩ :=
      event.queue_of_invoked (ready.running.runs first).wired (first.evolves.links ▸ link) source apart
    have closed : (Tray.start c.node.closedOutputs).isClosed l.source.pad = p.closed := by
      simp [Tray.start, Tray.isClosed, Node.closedOutputs, at_pad]
    have inside : l.source.pad < (Tray.start c.node.closedOutputs).outputs := by
      simpa [Tray.start, Tray.outputs, Node.closedOutputs] using (List.getElem?_eq_some_iff.1 at_pad).1
    rw [performed, Tray.emittedOn_perform inside] at queue
    refine ⟨h, h', p, q, q', first, event, later, at_pad, inlet, inlet', ?_⟩
    intro tray early late
    have fresh : emittedOn l.source.pad tray.frames.toList = [] := by simp [tray, Tray.start, emittedOn]
    rw [fresh, List.nil_append] at queue
    refine ⟨queue, ?_⟩
    rw [queue, List.append_cancel_left_eq]
    by_cases failed : c.turn.fault = none
    · cases shut : p.closed with
      | true =>
        have silent : early = [] := Tray.emittedWhile_open_of_closed (closed.trans shut) acts
        simp [failed, silent]
      | false => simp [failed, early, late, tray]
    · simp [failed]

/-- A filter that closes its output and then passes the frame on. -/
def closesFirst : Kind (BuiltIn ⊕ Script) where
  name := "late"
  description := ""
  role := .transform
  inputs := [.named "default"]
  outputs := [.named "default"]
  options := []
  dynamicInputs := false
  dynamicOutputs := false
  initial := .inr ⟨[.named "default"], [.named "default"], none, .forward, [[.close 0, .emit 0]], [], [],
    .unsupported, .empty, false⟩

/-- A graph of built-in filters and such a filter, without any nodes. -/
def blankOrLate : Graph (BuiltIn ⊕ Script) :=
  ⟨⟨0⟩, .assemble (BuiltIn.kinds.map (Kind.map .inl)) [closesFirst], .default, #[], #[], false, [],
    ⟨0, 0, 0, 0⟩⟩

/-- The calls that link a source to a filter that closes its output first, and that one to a sink. -/
def sourceLateSink : List Call :=
  [.allocate "buffer", .allocate "late", .allocate "buffersink", .setUp ⟨⟨0⟩, 0⟩, .setUp ⟨⟨0⟩, 1⟩,
    .setUp ⟨⟨0⟩, 2⟩, .link ⟨⟨0⟩, 0⟩ 0 ⟨⟨0⟩, 1⟩ 0, .link ⟨⟨0⟩, 1⟩ 0 ⟨⟨0⟩, 2⟩ 0]

def assembledLate : Graph (BuiltIn ⊕ Script) := sourceLateSink.foldl Graph.after blankOrLate

def configuredLate : Graph (BuiltIn ⊕ Script) := assembledLate.after .configure

theorem configure_assembledLate : assembledLate.configure = .ok configuredLate := by rfl

theorem reachable_assembledLate : assembledLate.Reachable := by
  have created : Graph.create ⟨0⟩ blankOrLate.registry .default = .ok blankOrLate := by rfl
  exact (Reachable.created created).calls sourceLateSink

def pushAndPull : List Request := [.push ⟨⟨0⟩, 0⟩ (some ⟨⟨48000, 2⟩, none, .empty⟩), .pull ⟨⟨0⟩, 2⟩]

/-- The frame as the source has stamped it. -/
def stampedFirst : Frame := ⟨⟨48000, 2⟩, some 0, .empty⟩

/-- The one call of the filter: it closes its output and emits the frame, which reaches the sink. -/
theorem late_call : ∃ es c fs, (configuredLate.serveAll pushAndPull).2 = es ++ .invoked c :: fs ∧
    c.index = 1 ∧ c.node.closedOutputs = [false] ∧ c.turn.fault = none ∧
    c.turn.tray = (Tray.start [false]).perform [.close 0, .emit 0 stampedFirst] ∧
    handedTo ⟨2, 0⟩ (configuredLate.serveAll pushAndPull).2 = [stampedFirst] := by
  have worked : (serveAllWithin 5 configuredLate pushAndPull).map (fun s =>
      ((callsTo 1 s.2).map fun c => (c.node.closedOutputs, c.turn.fault, c.turn.tray),
        handedTo ⟨2, 0⟩ s.2)) =
      some ([([false], none, (Tray.start [false]).perform [.close 0, .emit 0 stampedFirst])],
        [stampedFirst]) := by decide +kernel
  obtain ⟨session, within, found⟩ := Option.map_eq_some_iff.1 worked
  obtain ⟨calls, handed⟩ := Prod.mk.inj found
  obtain ⟨c, only, call⟩ := List.map_eq_singleton_iff.1 calls
  obtain ⟨es, e, fs, split, _, called, _⟩ := List.filterMap_eq_cons_iff.1 only
  obtain ⟨rfl, here⟩ := Event.callTo_eq_some_iff.1 called
  obtain ⟨opened, fine, tray⟩ : _ ∧ _ ∧ _ := by simpa only [Prod.mk.injEq] using call
  rw [serveAll_eq_of_within within]
  exact ⟨es, c, fs, split, here, opened, fine, tray, handed⟩

theorem link_configuredLate :
    configuredLate.links[1]? = some ⟨⟨1, 0⟩, ⟨2, 0⟩, some ⟨48000, 2⟩⟩ := by decide +kernel

/-- The frame that the filter emits after it has closed its output waits at the sink after the call. -/
theorem arrivals_of_late_call :
    ∃ es c fs, (configuredLate.serveAll pushAndPull).2 = es ++ .invoked c :: fs ∧
      c.turn.tray = (Tray.start c.node.closedOutputs).perform [.close 0, .emit 0 stampedFirst] ∧
      ∃ h h' q q', configuredLate.Runs es h ∧ h.Happens (.invoked c) h' ∧
        h.inletAt ⟨2, 0⟩ = some q ∧ h'.inletAt ⟨2, 0⟩ = some q' ∧
        q'.queue.toList = q.queue.toList ++ [stampedFirst] := by
  obtain ⟨es, c, fs, moment, here, opened, fine, tray, _⟩ := late_call
  rw [← opened] at tray
  obtain ⟨h, h', p, q, q', first, event, _, at_pad, inlet, inlet', queue, _⟩ :=
    reachable_assembledLate.arrivals_of_invoked configure_assembledLate pushAndPull moment
      link_configuredLate here.symm tray
  have unclosed : p.closed = false := by
    have flags := congrArg (fun closed => closed[0]?) opened
    simpa [Node.closedOutputs, at_pad] using flags
  refine ⟨es, c, fs, moment, tray, h, h', q, q', first, event, inlet, inlet', ?_⟩
  rw [queue, if_pos ⟨fine, unclosed⟩, opened]
  rfl

/-- A frame that is emitted on a closed output gets to the other end of the link all the same. -/
theorem emitted_after_close_arrives :
    assembledLate.Reachable ∧ assembledLate.configure = .ok configuredLate ∧
      configuredLate.links[1]? = some ⟨⟨1, 0⟩, ⟨2, 0⟩, some ⟨48000, 2⟩⟩ ∧
      ∃ es c fs, (configuredLate.serveAll pushAndPull).2 = es ++ .invoked c :: fs ∧ c.index = 1 ∧
        c.turn.tray = (Tray.start c.node.closedOutputs).perform [.close 0, .emit 0 stampedFirst] ∧
        (Tray.start c.node.closedOutputs).emittedWhile false 0 [.close 0, .emit 0 stampedFirst] = [] ∧
        handedTo ⟨2, 0⟩ (configuredLate.serveAll pushAndPull).2 = [stampedFirst] := by
  obtain ⟨es, c, fs, moment, here, opened, _, tray, handed⟩ := late_call
  refine ⟨reachable_assembledLate, configure_assembledLate, link_configuredLate, es, c, fs, moment, here,
    ?_, ?_, handed⟩
  · rw [opened, tray]
  · rw [opened]
    rfl

end Graph
end FrameFlow
