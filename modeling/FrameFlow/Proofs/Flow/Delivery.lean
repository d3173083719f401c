import FrameFlow.Filter.Script
import FrameFlow.Filter.Sum
import FrameFlow.Proofs.Diagnosis.Configuration
import FrameFlow.Proofs.Flow.Running
import FrameFlow.Proofs.Flow.Session

/-! Links lose nothing. What a filter emits on an open output is handed to the filter at the other
end of the link or waits there, in order, and the inlet has ended just where the outlet is closed. A
source is given its feed only, so frames that come over a link to it wait for ever. -/
namespace FrameFlow

variable {σ : Type}

namespace Event

/-- The frames that a call emits on an output, where it goes well and the output was open before. -/
def emits (a : Endpoint) : Event σ → List Frame
  | .invoked c =>
    if c.index = a.node ∧ c.turn.fault.isNone ∧ c.node.outputs[a.pad]?.any (!·.closed) then
      emittedOn a.pad c.turn.tray.frames.toList
    else []
  | _ => []

/-- The frame, if any, with which a call comes to a pad of a filter. -/
def handsTo (a : Endpoint) : Event σ → List Frame
  | .invoked c => if c.index = a.node then c.work.handedOn a.pad else []
  | _ => []

end Event

/-- The frames that a filter has emitted on an output while it was open. -/
def emitted (a : Endpoint) (es : List (Event σ)) : List Frame := es.flatMap (Event.emits a)

/-- The frames that a filter was handed on one of its pads. -/
def handedTo (a : Endpoint) (es : List (Event σ)) : List Frame := es.flatMap (Event.handsTo a)

namespace Graph

variable [Filter σ] {g h : Graph σ} {e : Event σ} {k : Nat} {l : Link}

/-- What goes over a link is what is emitted on the output where it starts. -/
theorem Happens.sentOn_eq (wired : g.Wired) (event : g.Happens e h)
    (link : g.links[k]? = some l) : e.sentOn k = e.emits l.source := by
  cases e with
  | invoked c =>
    obtain ⟨there, takes⟩ := event.takes
    show sentOver (some k) c.sent = _
    by_cases here : c.index = l.source.node
    · obtain ⟨n, at_source, noted⟩ := wired.node_at_end link .output
      obtain ⟨p, outlet, _⟩ := Option.bind_eq_some_iff.1 noted
      obtain rfl := Option.some.inj (there.symm.trans (here ▸ at_source))
      have source : l.source = ⟨c.index, l.source.pad⟩ := by rw [here]
      have outlet' : c.rest.outputs[l.source.pad]? = some p := by
        rw [takes.outputs]
        exact outlet
      have outlet : c.node.outputs[l.source.pad]? = some p := outlet
      rw [Invocation.sentOver_eq wired there takes.outputs link source outlet']
      simp [Event.emits, here, outlet]
    · rw [Invocation.sentOver_of_other wired there takes.outputs link (Ne.symm here)]
      simp [Event.emits, here]
  | _ => rfl

/-- Frames are taken from the inlets of all nodes but sources. -/
theorem Happens.handedAt_eq (event : g.Happens e h) {a : Endpoint} {n : Node σ}
    (there : g.nodes[a.node]? = some n) :
    e.handedAt a = if n.role = .source then [] else e.handsTo a := by
  cases e with
  | invoked c =>
    by_cases here : c.index = a.node
    · obtain rfl := Option.some.inj (event.takes.1.symm.trans (here ▸ there))
      by_cases source : c.node.role = .source <;>
        simp [Event.handedAt, Event.handsTo, here, source]
    · simp [Event.handedAt, Event.handsTo, here]
  | _ => simp [Event.handedAt, Event.handsTo]

/-- A link with what it has brought from one end to the other. -/
structure Conserves (es : List (Event σ)) (g : Graph σ) (l : Link) (n : Node σ) (p : Outlet)
    (q : Inlet) : Prop where
  source : g.outletAt l.source = some p
  node : g.nodes[l.target.node]? = some n
  target : n.inputs[l.target.pad]? = some q
  frames : emitted l.source es =
    (if n.role = .source then [] else handedTo l.target es) ++ q.queue.toList
  ended : q.ended = p.closed

variable {es fs : List (Event σ)} {n : Node σ} {p : Outlet} {q : Inlet}

omit [Filter σ] in
theorem Conserves.inlet (conserves : Conserves es g l n p q) : g.inletAt l.target = some q :=
  Option.bind_eq_some_iff.2 ⟨n, conserves.node, conserves.target⟩

/-- Nothing has come over a link of a graph that was just configured. -/
theorem Ready.conserves (ready : g.Ready) (link : g.links[k]? = some l) :
    ∃ n p q, Conserves [] g l n p q := by
  obtain ⟨p, source, _⟩ := ready.wired.outlet_at_source link
  obtain ⟨q, inlet, _⟩ := ready.wired.inlet_at_target link
  obtain ⟨n, there, target⟩ := Option.bind_eq_some_iff.1 inlet
  have untouched := (ready.prepared there).untouched.inlets q (List.mem_of_getElem? target)
  refine ⟨n, p, q, source, there, target, ?_, ready.running.ended link source inlet⟩
  simp [emitted, handedTo, untouched.queue]

/-- An event moves frames from the outlet on to the inlet, and it opens nothing that is closed. -/
theorem Conserves.happens (conserves : Conserves es g l n p q) (running : g.Running)
    (event : g.Happens e h) (link : g.links[k]? = some l) :
    ∃ n' p' q', Conserves (es ++ [e]) h l n' p' q' ∧ (p.closed → p'.closed) ∧
      (q.ended → q'.ended) := by
  obtain ⟨p₀, p', q₀, q', outlet, outlet', inlet, inlet', via⟩ :=
    event.transfers running.wired link
  obtain rfl := Option.some.inj (conserves.source.symm.trans outlet)
  obtain rfl := Option.some.inj (conserves.inlet.symm.trans inlet)
  obtain ⟨n', there', target'⟩ := Option.bind_eq_some_iff.1 inlet'
  obtain ⟨n'', there'', evolved⟩ := event.evolves.nodes conserves.node
  obtain rfl := Option.some.inj (there'.symm.trans there'')
  have moved := via.queue
  rw [event.handedAt_eq conserves.node, event.sentOn_eq running.wired link] at moved
  refine ⟨n', p', q', ⟨outlet', there', target', ?_, ?_⟩, fun closed => ?_, fun ended => ?_⟩
  · have frames := conserves.frames
    simp only [emitted, handedTo, List.flatMap_append, List.flatMap_singleton, evolved.role]
      at frames ⊢
    by_cases source : n.role = .source
    · simp only [source, if_true, List.nil_append] at frames moved ⊢
      rw [frames, moved]
    · simp only [source, if_false] at frames moved ⊢
      rw [frames, List.append_assoc, List.append_assoc, moved]
  · rw [via.ended, via.closed, conserves.ended]
  · rw [via.closed, closed, Bool.true_or]
  · rw [via.ended, ended, Bool.true_or]

/-- What holds of a link at some time and later. -/
theorem Conserves.runs (conserves : Conserves es g l n p q) (running : g.Running)
    (run : g.Runs fs h) (link : g.links[k]? = some l) :
    h.Running ∧ ∃ n' p' q', Conserves (es ++ fs) h l n' p' q' ∧ (p.closed → p'.closed) ∧
      (q.ended → q'.ended) := by
  induction run generalizing es n p q with
  | refl g =>
    rw [List.append_nil]
    exact ⟨running, n, p, q, conserves, fun closed => closed, fun ended => ended⟩
  | next event _ ih =>
    obtain ⟨n', p', q', after, closed, ended⟩ := conserves.happens running event link
    obtain ⟨running', n'', p'', q'', last, closed', ended'⟩ :=
      ih after (running.happens event) (event.evolves.links ▸ link)
    rw [List.append_assoc] at last
    exact ⟨running', n'', p'', q'', last, closed' ∘ closed, ended' ∘ ended⟩

/-- At every moment of a session, the frames that were emitted on the open output of a link are those
that were handed on at its other end, in order, and then those that wait. Sources are not handed any.
The inlet has ended just where the outlet is closed, and both stay as they are to the end of the
session. -/
theorem Reachable.link_conserves {before : Graph σ} (reachable : before.Reachable)
    (configured : before.configure = .ok g) (requests : List Request)
    (moment : (g.serveAll requests).2 = es ++ fs) (link : g.links[k]? = some l) :
    ∃ h, g.Runs es h ∧ h.Runs fs (g.serveAll requests).1 ∧
      ∃ n p q, h.outletAt l.source = some p ∧ h.nodes[l.target.node]? = some n ∧
        n.inputs[l.target.pad]? = some q ∧
        emitted l.source es =
          (if n.role = .source then [] else handedTo l.target es) ++ q.queue.toList ∧
        (q.ended ↔ p.closed) ∧
        ∃ p' q', (g.serveAll requests).1.outletAt l.source = some p' ∧
          (g.serveAll requests).1.inletAt l.target = some q' ∧
          (p.closed → p'.closed) ∧ (q.ended → q'.ended) := by
  have ready := (reachable.assembled (unconfigured_of_configure configured)).ready configured
  obtain ⟨h, first, later⟩ := (moment ▸ g.runs_serveAll requests).split
  obtain ⟨_, _, _, start⟩ := ready.conserves link
  obtain ⟨running, n, p, q, now, _⟩ := start.runs ready.running first link
  obtain ⟨_, n', p', q', last, closed, ended⟩ :=
    now.runs running later (first.evolves.links ▸ link)
  refine ⟨h, first, later, n, p, q, now.source, now.node, now.target, now.frames, ?_, p', q',
    last.source, last.inlet, closed, ended⟩
  rw [now.ended]

/-- The frame that goes from the source to the sink is still known on both sides of the link. -/
theorem link_of_sourceAndSink :
    let requests : List Request :=
      [.push ⟨⟨0⟩, 0⟩ (some ⟨⟨48000, 2⟩, none, .empty⟩), .pull ⟨⟨0⟩, 1⟩]
    let es := (sourceAndSink.serveAll requests).2
    emitted ⟨0, 0⟩ es = [⟨⟨48000, 2⟩, some 0, .empty⟩] ∧
      ∃ (n : Node BuiltIn) (q : Inlet), n.inputs[0]? = some q ∧ emitted ⟨0, 0⟩ es =
        (if n.role = .source then [] else handedTo ⟨1, 0⟩ es) ++ q.queue.toList := by
  intro requests es
  have worked : (serveAllWithin 3 sourceAndSink requests).map (fun s => emitted ⟨0, 0⟩ s.2) =
      some [⟨⟨48000, 2⟩, some 0, .empty⟩] := by decide +kernel
  obtain ⟨session, within, sent⟩ := Option.map_eq_some_iff.1 worked
  have link : sourceAndSink.links[0]? = some ⟨⟨0, 0⟩, ⟨1, 0⟩, some ⟨48000, 2⟩⟩ := by
    decide +kernel
  obtain ⟨h, _, _, n, p, q, _, _, inlet, frames, _⟩ :=
    (reachable_blank.calls sourceToSink).link_conserves configure_eq_sourceAndSink requests
      (List.append_nil es).symm link
  refine ⟨?_, n, q, inlet, frames⟩
  rw [← sent, ← serveAll_eq_of_within within]

/-- A source that has an input all the same. It passes on what it is fed. -/
def fedAside : Kind (BuiltIn ⊕ Script) where
  name := "odd"
  description := ""
  role := .source
  inputs := [.named "default"]
  outputs := [.named "default"]
  options := []
  dynamicInputs := false
  dynamicOutputs := false
  initial := .inr ⟨[.named "default"], [.named "default"], none, .forward, [[.emit 0]], [], [],
    .unsupported, .empty, false⟩

/-- A graph of built-in filters and such a source, without any nodes. -/
def blankOrFedAside : Graph (BuiltIn ⊕ Script) :=
  ⟨⟨0⟩, .assemble (BuiltIn.kinds.map (Kind.map .inl)) [fedAside], .default, #[], #[], false, [],
    ⟨0, 0, 0, 0⟩⟩

/-- The calls that link a source to the input of the other, and that one to a sink. -/
def sourceIntoSource : List Call :=
  [.allocate "buffer", .allocate "odd", .allocate "buffersink", .setUp ⟨⟨0⟩, 0⟩,
    .setUp ⟨⟨0⟩, 1⟩, .setUp ⟨⟨0⟩, 2⟩, .link ⟨⟨0⟩, 0⟩ 0 ⟨⟨0⟩, 1⟩ 0, .link ⟨⟨0⟩, 1⟩ 0 ⟨⟨0⟩, 2⟩ 0]

def twoSources : Graph (BuiltIn ⊕ Script) :=
  (sourceIntoSource.foldl Graph.after blankOrFedAside).after .configure

theorem configure_eq_twoSources :
    (sourceIntoSource.foldl Graph.after blankOrFedAside).configure = .ok twoSources := by rfl

/-- A source that has an input is handed frames that never came over the link to it. -/
theorem handed_more_than_emitted :
    (sourceIntoSource.foldl Graph.after blankOrFedAside).Reachable ∧
      (sourceIntoSource.foldl Graph.after blankOrFedAside).configure = .ok twoSources ∧
      twoSources.links[0]?.map (fun l => (l.source, l.target)) = some (⟨0, 0⟩, ⟨1, 0⟩) ∧
      let session := twoSources.serveAll
        [.push ⟨⟨0⟩, 1⟩ (some ⟨⟨48000, 2⟩, none, .empty⟩), .pull ⟨⟨0⟩, 2⟩]
      emitted ⟨0, 0⟩ session.2 = [] ∧
        handedTo ⟨1, 0⟩ session.2 = [⟨⟨48000, 2⟩, none, .empty⟩] ∧
        ∀ waiting, emitted ⟨0, 0⟩ session.2 ≠ handedTo ⟨1, 0⟩ session.2 ++ waiting := by
  have created : Graph.create ⟨0⟩ blankOrFedAside.registry .default = .ok blankOrFedAside := by rfl
  refine ⟨(Reachable.created created).calls sourceIntoSource, configure_eq_twoSources,
    by decide +kernel, ?_⟩
  intro session
  have worked : (serveAllWithin 3 twoSources
      [.push ⟨⟨0⟩, 1⟩ (some ⟨⟨48000, 2⟩, none, .empty⟩), .pull ⟨⟨0⟩, 2⟩]).map
        (fun s => (emitted ⟨0, 0⟩ s.2, handedTo ⟨1, 0⟩ s.2)) =
      some ([], [⟨⟨48000, 2⟩, none, .empty⟩]) := by decide +kernel
  obtain ⟨_, within, found⟩ := Option.map_eq_some_iff.1 worked
  obtain ⟨sent, came⟩ := Prod.mk.inj found
  have same : session = _ := serveAll_eq_of_within within
  rw [same]
  exact ⟨sent, came, fun waiting => by simp [sent, came]⟩

end Graph
end FrameFlow
