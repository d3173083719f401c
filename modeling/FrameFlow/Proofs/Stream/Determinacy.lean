import FrameFlow.Proofs.Flow.Progress
import FrameFlow.Proofs.Stream.Network
import FrameFlow.Proofs.Stream.Tracking

/-! What a link has carried begins the stream that flows over it, in whatever order frames are pushed
and pulled. Where no node has work left, or the link has ended, it is the whole stream. -/
namespace FrameFlow

open BuiltIn (Follows)

/-- Two lists of streams at the inlets of a node, one for the inlets and one for their links. -/
theorem forall₂_inlets {R : Stream → Stream → Prop} {inlets : List Inlet}
    {view : Nat → Inlet → Stream} {on : Nat → Stream}
    (related : ∀ pad q, inlets[pad]? = some q → ∃ k, q.link = some k ∧ R (view pad q) (on k)) :
    List.Forall₂ R (inlets.mapIdx view) ((inlets.filterMap Inlet.link).map on) := by
  induction inlets generalizing view with
  | nil => exact .nil
  | cons q rest ih =>
    obtain ⟨k, noted, first⟩ := related 0 q rfl
    rw [List.mapIdx_cons, List.filterMap_cons_some noted, List.map_cons]
    apply List.Forall₂.cons first
    apply ih
    intro pad p inlet
    exact related (pad + 1) p inlet

namespace Node

variable {n m : Node BuiltIn} {i : Nat} {es : List (Event BuiltIn)}

theorem Evolves.inflow (via : n.Evolves m) (fed : Stream) (on : Nat → Stream) :
    m.inflow fed on = n.inflow fed on := by
  have links : m.inputs.filterMap Inlet.link = n.inputs.filterMap Inlet.link := by
    have same := congrArg (List.filterMap Prod.snd) via.inputs
    simpa [List.filterMap_map, Inlet.end?, Function.comp_def] using same
  unfold Node.inflow
  rw [via.role, links]

/-- A filter that was flushed was given all ends. -/
theorem FlushedLast.all_ended (last : n.FlushedLast) (flushed : n.flushed) :
    (n.intake i es).all Stream.ended := by
  have before := last flushed
  by_cases source : n.role = .source
  · rw [intake_source source]
    simpa using flushed
  · rw [if_neg source] at before
    rw [intake_inner source, List.all_eq_true]
    intro s member
    obtain ⟨pad, inside, rfl⟩ := List.mem_mapIdx.1 member
    exact before.2 _ (List.getElem_mem inside)

/-- What a filter has sent begins its answer to what it was given. -/
theorem FlushedLast.begins_answer (last : n.FlushedLast) (i : Nat) (es : List (Event BuiltIn))
    (f : BuiltIn) : Stream.Begins
      ⟨f.frames (n.intake i es), n.flushed || f.endsEarly (n.intake i es)⟩
      (f.answer (n.intake i es)) := by
  refine ⟨List.prefix_rfl, fun finished => ?_⟩
  have finished : (n.flushed || f.endsEarly (n.intake i es)) = true := finished
  have ended : ((n.intake i es).all Stream.ended || f.endsEarly (n.intake i es)) = true := by
    rcases Bool.or_eq_true_iff.1 finished with flushed | early
    · rw [last.all_ended flushed, Bool.true_or]
    · rw [early, Bool.or_true]
  unfold BuiltIn.answer
  rw [finished, ended]

/-- A filter without work that was given all ends was flushed. -/
theorem flushed_of_all_ended (idle : n.hasWork = false) (fed : n.role ≠ .source → n.inputs ≠ [])
    (finished : (n.intake i es).all Stream.ended) : n.flushed := by
  by_cases source : n.role = .source
  · rw [intake_source source] at finished
    simpa using finished
  · apply (inner_idle source idle).2 (fed source)
    intro q member
    obtain ⟨pad, inside, rfl⟩ := List.getElem_of_mem member
    rw [intake_inner source, List.all_eq_true] at finished
    exact finished _ (List.mem_mapIdx.2 ⟨pad, inside, rfl⟩)

end Node

namespace Graph

variable {start g : Graph BuiltIn} {es : List (Event BuiltIn)} {fed on : Nat → Stream}

/-- The stream on a link so far. -/
def sofar (g : Graph BuiltIn) (es : List (Event BuiltIn)) (k : Nat) : Stream :=
  ⟨carried k es, (g.links[k]?.bind fun l => g.outletAt l.source).any Outlet.closed⟩

theorem sofar_eq {k : Nat} {l : Link} {p : Outlet} (link : g.links[k]? = some l)
    (outlet : g.outletAt l.source = some p) : g.sofar es k = ⟨carried k es, p.closed⟩ := by
  simp [sofar, link, outlet]

/-- What a filter was given, compared with what flows in. -/
theorem Running.forall₂_intake (running : g.Running) {R : Stream → Stream → Prop} {i : Nat}
    {n : Node BuiltIn} (there : g.nodes[i]? = some n) {into : Stream}
    (source : n.role = .source → R ⟨workedOff i es, n.flushed⟩ into)
    (inner : n.role ≠ .source → ∀ pad q k, n.inputs[pad]? = some q → q.link = some k →
      R ⟨handed ⟨i, pad⟩ es, q.told⟩ (on k)) :
    List.Forall₂ R (n.intake i es) (n.inflow into on) := by
  by_cases role : n.role = .source
  · rw [Node.intake_source role, Node.inflow, if_pos role]
    exact .cons (source role) .nil
  · rw [Node.intake_inner role, Node.inflow, if_neg role]
    apply forall₂_inlets
    intro pad q inlet
    obtain ⟨k, noted⟩ := running.linked there inlet
    exact ⟨k, noted, inner role pad q k inlet noted⟩

namespace Tracked

variable {i k : Nat} {first n : Node BuiltIn} {l : Link}

/-- At an inlet, a link has carried what was handed on and what waits. -/
theorem sofar_of_inlet (tracked : Tracked start es g) (there : g.nodes[i]? = some n) {pad : Nat}
    {q : Inlet} (inlet : n.inputs[pad]? = some q) (noted : q.link = some k) :
    g.sofar es k = ⟨handed ⟨i, pad⟩ es ++ q.queue.toList, q.ended⟩ := by
  have wired := tracked.running.wired
  obtain ⟨l, link, target⟩ := (wired.inlet_link_iff there inlet).1 noted
  obtain ⟨p, outlet, _⟩ := wired.outlet_at_source link
  have at_target : g.inletAt l.target = some q := by
    rw [target]
    exact inletAt_eq_some there inlet
  rw [sofar_eq link outlet, tracked.links link at_target, target,
    tracked.running.ended link outlet at_target]

/-- At an outlet, a link has carried the answer of the node. -/
theorem sofar_of_outlet (tracked : Tracked start es g) (link : g.links[k]? = some l)
    (there : g.nodes[l.source.node]? = some n) (tracks : Tracks first l.source.node es n) :
    g.sofar es k = ⟨first.filter.frames (n.intake l.source.node es),
      n.flushed || first.filter.endsEarly (n.intake l.source.node es)⟩ := by
  obtain ⟨p, outlet, noted⟩ := tracked.running.wired.outlet_at_source link
  obtain ⟨m, there', inside⟩ := Option.bind_eq_some_iff.1 outlet
  obtain rfl := Option.some.inj (there.symm.trans there')
  have member := List.mem_of_getElem? inside
  rw [sofar_eq link outlet, tracks.sent p member k noted, tracks.closed p member]

/-- A filter was given a beginning of what flows in, if so are the streams on its links. -/
theorem intake_begins (tracked : Tracked start es g) (there : g.nodes[i]? = some n)
    (tracks : Tracks first i es n)
    (inlets : ∀ q ∈ n.inputs, ∀ k, q.link = some k → (g.sofar es k).Begins (on k)) :
    List.Forall₂ Stream.Begins (n.intake i es) (n.inflow (accepted i es) on) := by
  apply tracked.running.forall₂_intake there
  · intro source
    rw [tracks.fed source]
    refine ⟨List.prefix_append _ _, fun flushed => ?_⟩
    have last := tracked.running.flushedLast there flushed
    rw [if_pos source] at last
    have marked : n.flushed = true := flushed
    rw [last.1, last.2, Queue.toList_empty, List.append_nil, marked]
  · intro _ pad q k inlet noted
    have onward := inlets q (List.mem_of_getElem? inlet) k noted
    rw [tracked.sofar_of_inlet there inlet noted] at onward
    refine Stream.Begins.trans ⟨List.prefix_append _ _, fun told => ?_⟩ onward
    have marked : q.told = true := told
    have quiet := tracked.running.told_of_mem there (List.mem_of_getElem? inlet) told
    rw [quiet.1, quiet.2, Queue.toList_empty, List.append_nil, marked]

/-- A filter without work was given all that flows in, if so have the streams on its links. -/
theorem intake_eq (tracked : Tracked start es g) (there : g.nodes[i]? = some n)
    (tracks : Tracks first i es n) (idle : n.hasWork = false)
    (inlets : ∀ q ∈ n.inputs, ∀ k, q.link = some k → g.sofar es k = on k) :
    n.intake i es = n.inflow (accepted i es) on := by
  have all : List.Forall₂ (· = ·) (n.intake i es) (n.inflow (accepted i es) on) := by
    apply tracked.running.forall₂_intake there
    · intro source
      obtain ⟨empty, finished⟩ := Node.source_idle source idle
      have same : n.flushed = n.feedEnded := by
        rw [Bool.eq_iff_iff]
        constructor
        · intro flushed
          have last := tracked.running.flushedLast there flushed
          rw [if_pos source] at last
          exact last.2
        · exact finished
      rw [tracks.fed source, empty, Queue.toList_empty, List.append_nil, same]
    · intro inner pad q k inlet noted
      have member := List.mem_of_getElem? inlet
      obtain ⟨empty, ended⟩ := (Node.inner_idle inner idle).1 q member
      have same : q.told = q.ended := by
        rw [Bool.eq_iff_iff]
        constructor
        · exact fun told => (tracked.running.told_of_mem there member told).1
        · exact ended
      rw [← inlets q member k noted, tracked.sofar_of_inlet there inlet noted, empty,
        Queue.toList_empty, List.append_nil, same]
  rwa [List.forall₂_eq_eq_eq] at all

section Streams

variable (ready : start.Ready) (tracked : Tracked start es g)
  (flows : start.Flows (fun i => accepted i es) on)

include ready tracked flows

/-- What a link has carried so far begins the stream that flows over it. -/
theorem sofar_begins (link : start.links[k]? = some l) : (g.sofar es k).Begins (on k) := by
  apply ready.schedules.link_induction (P := fun k => (g.sofar es k).Begins (on k)) ready.wired _ link
  intro k l first link at_first inlets
  obtain ⟨_, at_first', live⟩ := isLiveAt_iff.1 (ready.wired.isLiveAt_end link .output)
  obtain rfl := Option.some.inj (at_first.symm.trans at_first')
  obtain ⟨n, there, via⟩ := tracked.evolves.nodes at_first
  have tracks := tracked.nodes at_first live there
  have last := (tracked.running.flushedLast there).begins_answer l.source.node es first.filter
  have arriving : ∀ q ∈ n.inputs, ∀ k, q.link = some k → (g.sofar es k).Begins (on k) := by
    intro q member k noted
    obtain ⟨p, before, same⟩ := via.exists_inlet member
    exact inlets p before k (same.trans noted)
  have grow := tracked.intake_begins there tracks arriving
  rw [via.inflow] at grow
  rw [tracked.sofar_of_outlet (tracked.evolves.links ▸ link) there tracks, flows link at_first]
  exact last.trans (first.filter.answer_mono grow)

/-- Where no node has work, links have carried their whole streams. -/
theorem sofar_eq_of_idle
    (starts : ∀ {i : Nat} {n : Node BuiltIn}, start.nodes[i]? = some n → n.isLive → n.Starts)
    (idle : ∀ i ∈ g.schedule, g.hasWorkAt i = false) (link : start.links[k]? = some l) :
    g.sofar es k = on k := by
  apply ready.schedules.link_induction (P := fun k => g.sofar es k = on k) ready.wired _ link
  intro k l first link at_first inlets
  have live_at := ready.wired.isLiveAt_end link .output
  obtain ⟨_, at_first', live⟩ := isLiveAt_iff.1 live_at
  obtain rfl := Option.some.inj (at_first.symm.trans at_first')
  obtain ⟨n, there, via⟩ := tracked.evolves.nodes at_first
  have tracks := tracked.nodes at_first live there
  have quiet : n.hasWork = false := by
    have scheduled : l.source.node ∈ g.schedule :=
      tracked.evolves.schedule ▸ (ready.schedules.mem_iff _).2 live_at
    have none := idle _ scheduled
    rwa [hasWorkAt, there] at none
  have arrived : ∀ q ∈ n.inputs, ∀ k, q.link = some k → g.sofar es k = on k := by
    intro q member k noted
    obtain ⟨p, before, same⟩ := via.exists_inlet member
    exact inlets p before k (same.trans noted)
  have given := tracked.intake_eq there tracks quiet arrived
  have fed : n.role ≠ .source → n.inputs ≠ [] := by
    intro inner none
    apply (starts at_first live).fed (via.role ▸ inner)
    apply List.length_eq_zero_iff.1
    rw [← via.inputs_length, none]
    rfl
  have flushed : n.flushed = (n.intake l.source.node es).all Stream.ended := by
    rw [Bool.eq_iff_iff]
    constructor
    · exact (tracked.running.flushedLast there).all_ended
    · exact Node.flushed_of_all_ended quiet fed
  rw [tracked.sofar_of_outlet (tracked.evolves.links ▸ link) there tracks, flows link at_first,
    ← via.inflow, ← given, flushed]
  rfl

end Streams
end Tracked
end Graph
end FrameFlow
