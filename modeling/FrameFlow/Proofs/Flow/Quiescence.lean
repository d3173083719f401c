import FrameFlow.Proofs.Flow.Protocol
import FrameFlow.Proofs.Flow.Quiet

/-! Where a pull brings no frame although its sink is not over, the whole graph has come to rest: no
frame waits in it, and filters were told of every end and flushed where nothing more can come. The
feed of every source is then empty, so as many frames fit into it as its capacity says. -/
namespace FrameFlow

variable {σ : Type}

theorem Node.receive_of_padless {n : Node σ} (padless : n.inputs = []) (sent : List (Nat × Frame))
    (ends : List Nat) : n.receive sent ends = n := by
  have same : n.inputs.map (Inlet.receive sent ends) = n.inputs := by rw [padless, List.map_nil]
  simp only [Node.receive, same]

namespace Graph

variable {g h start : Graph σ} {i : Nat} {n : Node σ} {id : NodeId}

section Feeds

/-- Pushes frames into a source one after another, up to the first that is refused. -/
def pushAll (g : Graph σ) (id : NodeId) (frames : List Frame) : Except GraphError (Graph σ) :=
  frames.foldlM (fun g frame => g.push id (some frame)) g

variable (source : g.running id .source = .ok n) (going : n.feedEnded = false)

include source going

/-- A frame of the right format is accepted where the feed has room. -/
theorem exists_push_eq_ok {frame : Frame} (room : n.feed.size < g.options.feedCapacity)
    (fits : ∀ f, g.feedFormat n = some f → frame.format = f) :
    ∃ h, g.push id (some frame) = .ok h ∧ h.options = g.options ∧ h.links = g.links ∧
      h.running id .source = .ok { n with feed := n.feed.push frame } := by
  obtain ⟨configured, same, there, live, role⟩ := running_eq_ok_iff.1 source
  have checked : g.checkFeed n frame = .ok () := by
    unfold checkFeed
    rw [if_neg (Nat.not_le.2 room)]
    split
    · next f known => exact guard_eq_ok_iff.2 (fits f known)
    · rfl
  refine ⟨_, push_some_eq_ok_iff.2 ⟨n, source, going, checked, rfl⟩, rfl, rfl, ?_⟩
  refine running_eq_ok_iff.2 ⟨configured, same, ?_, live, role⟩
  exact (nodes_setNode there id.index).trans (if_pos rfl)

/-- Where the feed is full, any frame is refused for that. -/
theorem push_of_full (full : g.options.feedCapacity ≤ n.feed.size) (frame : Frame) :
    g.push id (some frame) = .error (.push id (.full g.options.feedCapacity)) := by
  simp [push, source, going, checkFeed, full, bind, Except.bind, Except.mapError]

/-- A feed takes frames until it is full, and then no more. -/
theorem exists_pushAll_eq_ok {frames : List Frame}
    (room : n.feed.size + frames.length = g.options.feedCapacity)
    (fits : ∀ frame ∈ frames, ∀ f, g.feedFormat n = some f → frame.format = f) :
    ∃ h, g.pushAll id frames = .ok h ∧
      ∀ frame, h.push id (some frame) = .error (.push id (.full g.options.feedCapacity)) := by
  induction frames generalizing g n with
  | nil => exact ⟨g, rfl, push_of_full source going (Nat.le_of_eq room.symm)⟩
  | cons frame rest ih =>
    have first := fits frame List.mem_cons_self
    rw [List.length_cons] at room
    obtain ⟨h, pushed, options, links, source'⟩ := exists_push_eq_ok source going (by omega) first
    have format : h.feedFormat { n with feed := n.feed.push frame } = g.feedFormat n := by
      simp only [feedFormat, links]
    obtain ⟨last, all, full⟩ := ih source' going (by rw [Queue.size_push, options]; omega)
      fun later member => by
        rw [format]
        exact fits later (List.mem_cons_of_mem _ member)
    refine ⟨last, bind_eq_ok_iff.2 ⟨h, pushed, all⟩, ?_⟩
    rw [← options]
    exact full

end Feeds

/-- Nothing is left to do in a graph after some events. -/
structure Quiescent (g : Graph σ) (es : List (Event σ)) : Prop where
  feeds : ∀ {i : Nat} {n : Node σ}, g.nodes[i]? = some n → n.role = .source → n.feed = .empty
  queues : ∀ {i : Nat} {n : Node σ} {q : Inlet}, g.nodes[i]? = some n → q ∈ n.inputs →
    q.queue = .empty
  ends : ∀ {k : Nat} {l : Link} {p : Outlet}, g.links[k]? = some l →
    g.outletAt l.source = some p → p.closed →
      .endOfInput l.target.pad ∈ (callsTo l.target.node es).map Invocation.work
  sources : ∀ {i : Nat} {n : Node σ}, g.nodes[i]? = some n → n.role = .source → n.feedEnded →
    .flush ∈ (callsTo i es).map Invocation.work
  inner : ∀ {i : Nat} {n : Node σ}, g.nodes[i]? = some n → n.inputs ≠ [] →
    (∀ q ∈ n.inputs, q.ended) → .flush ∈ (callsTo i es).map Invocation.work

variable [Filter σ] {es : List (Event σ)} {e : Event σ}

/-- Nothing happens to a node that was discarded. -/
theorem Happens.nodes_of_dead (wired : g.Wired) (event : g.Happens e h)
    (scheduled : ∀ j ∈ g.schedule, g.isLiveAt j) (there : g.nodes[i]? = some n)
    (dead : n.isLive = false) (padless : n.inputs = []) : h.nodes[i]? = some n := by
  have apart : ∀ j, g.isLiveAt j → i ≠ j := by
    rintro j live rfl
    obtain ⟨m, there', live⟩ := isLiveAt_iff.1 live
    obtain rfl := Option.some.inj (there.symm.trans there')
    simp [dead] at live
  rw [event.nodes wired, there, Option.map_some, Option.some.injEq]
  cases event with
  | pushed accepted =>
    obtain ⟨_, source, _⟩ := push_some_eq_ok_iff.1 accepted
    exact if_neg (apart _ (isLiveAt_of_running source))
  | ended accepted =>
    obtain ⟨_, source, _⟩ := push_none_eq_ok_iff.1 accepted
    exact if_neg (apart _ (isLiveAt_of_running source))
  | asked sink _ => exact if_neg (apart _ (isLiveAt_of_running sink))
  | invoked _ first _ _ =>
    have member := List.mem_of_find?_eq_some (nextToWork_eq_some_iff.1 first).1
    simp [Event.effect, apart _ (scheduled _ member), Node.receive_of_padless padless]

theorem Runs.nodes_of_dead (run : g.Runs es h) (wired : g.Wired)
    (scheduled : ∀ j ∈ g.schedule, g.isLiveAt j) (there : g.nodes[i]? = some n)
    (dead : n.isLive = false) (padless : n.inputs = []) : h.nodes[i]? = some n := by
  induction run with
  | refl => exact there
  | next event _ ih =>
    refine ih (event.evolves.wired wired) (fun j member => ?_)
      (event.nodes_of_dead wired scheduled there dead padless)
    rw [event.evolves.schedule] at member
    obtain ⟨m, at_j, live⟩ := isLiveAt_iff.1 (scheduled j member)
    obtain ⟨m', at_j', via⟩ := event.evolves.nodes at_j
    exact isLiveAt_iff.2 ⟨m', at_j', via.isLive live⟩

theorem Ready.nodes_of_dead (ready : start.Ready) (run : start.Runs es g)
    (there : start.nodes[i]? = some n) (dead : n.isLive = false) : g.nodes[i]? = some n := by
  have padless := ((ready.prepared there).padless fun life => by simp [Node.isLive, life] at dead).1
  exact run.nodes_of_dead ready.wired (fun j => (ready.schedules.mem_iff j).1) there dead padless

/-- Nodes that were not discarded stay in the schedule. -/
theorem Ready.mem_schedule (ready : start.Ready) (run : start.Runs es g) (live : g.isLiveAt i) :
    i ∈ g.schedule := by
  obtain ⟨m, there, alive⟩ := isLiveAt_iff.1 live
  obtain ⟨n, before, _⟩ := run.evolves.before there
  rw [run.evolves.schedule, ready.schedules.mem_iff, isLiveAt_iff]
  refine ⟨n, before, ?_⟩
  by_contra dead
  have still := ready.nodes_of_dead run before (by simpa using dead)
  exact dead (Option.some.inj (there.symm.trans still) ▸ alive)

/-- Where no node of the schedule has work, no node has any. -/
theorem Idle.hasWork_eq_false (idle : g.Idle) (ready : start.Ready) (run : start.Runs es g)
    (there : g.nodes[i]? = some n) : n.hasWork = false := by
  obtain ⟨first, at_first, via⟩ := run.evolves.before there
  cases live : first.isLive with
  | true =>
    have member : i ∈ g.schedule := by
      rw [run.evolves.schedule, ready.schedules.mem_iff]
      exact isLiveAt_iff.2 ⟨first, at_first, live⟩
    have quiet := idle i member
    rwa [← Bool.not_eq_true, hasWorkAt_iff there, Bool.not_eq_true] at quiet
  | false =>
    obtain rfl := Option.some.inj ((ready.nodes_of_dead run at_first live).symm.trans there)
    have prepared := ready.prepared at_first
    have padless := prepared.padless fun life => by simp [Node.isLive, life] at live
    have untouched := prepared.untouched
    unfold Node.hasWork
    split
    · simp [untouched.feed, untouched.feedEnded, Queue.isEmpty_iff_eq]
    · simp [padless.1, Node.readyToFlush]

/-- A graph in which no node has work is at rest. -/
theorem Idle.quiescent (idle : g.Idle) (ready : start.Ready) (run : start.Runs es g)
    (bare : ∀ (i : Nat) (n : Node σ), start.nodes[i]? = some n → n.role = .source → n.inputs = []) :
    g.Quiescent es := by
  have running := ready.running.runs run
  have inner : ∀ {i : Nat} {n : Node σ}, g.nodes[i]? = some n → n.inputs ≠ [] → n.role ≠ .source := by
    intro i n there linked source
    obtain ⟨first, at_first, via⟩ := run.evolves.before there
    have none := bare i first at_first (via.role ▸ source)
    have length := via.inputs_length
    simp [none, linked] at length
  have handled : ∀ {i : Nat} {n : Node σ} {q : Inlet}, g.nodes[i]? = some n → q ∈ n.inputs →
      q.queue = .empty ∧ (q.ended → q.told) := fun there member =>
    (Node.inner_idle (inner there (List.ne_nil_of_mem member))
      (idle.hasWork_eq_false ready run there)).1 _ member
  refine ⟨?_, fun there member => (handled there member).1, ?_, ?_, ?_⟩
  · intro i n there source
    exact (Node.source_idle source (idle.hasWork_eq_false ready run there)).1
  · intro k l p link outlet closed
    obtain ⟨q, inlet, _⟩ := running.wired.inlet_at_target link
    obtain ⟨n, there, at_pad⟩ := Option.bind_eq_some_iff.1 inlet
    have ended : q.ended := (running.ended link outlet inlet).trans closed
    exact ((ready.remembers run there).told at_pad).1
      ((handled there (List.mem_of_getElem? at_pad)).2 ended)
  · intro i n there source ended
    exact (ready.remembers run there).flushed.1
      ((Node.source_idle source (idle.hasWork_eq_false ready run there)).2 ended)
  · intro i n there linked ended
    have flushed := (Node.inner_idle (inner there linked)
      (idle.hasWork_eq_false ready run there)).2 linked fun q member =>
        (handled there member).2 (ended q member)
    exact (ready.remembers run there).flushed.1 flushed

/-- A pull without a frame leaves the graph at rest, unless the sink is over. A source that has not
ended takes then as many frames as its feed can hold, and refuses the next one for being full. -/
theorem Reachable.rests_after_pull {before : Graph σ} (reachable : before.Reachable)
    (configured : before.configure = .ok g)
    (bare : ∀ (i : Nat) (n : Node σ), g.nodes[i]? = some n → n.role = .source → n.inputs = [])
    (requests : List Request) :
    let now := (g.serveAll requests).1
    let last := (now.pull id).1
    (now.pull id).2 = .ok none → last.isExhausted id = .ok false →
    last.Quiescent ((g.serveAll requests).2 ++ now.pullEvents id) ∧
      ∀ source n, last.running source .source = .ok n → n.feedEnded = false →
        ∀ frames : List Frame, frames.length = last.options.feedCapacity →
          (∀ frame ∈ frames, ∀ f, last.feedFormat n = some f → frame.format = f) →
          ∃ full, last.pushAll source frames = .ok full ∧ ∀ frame, full.push source (some frame) =
            .error (.push source (.full last.options.feedCapacity)) := by
  intro now last unready unexhausted
  have ready := (reachable.assembled (unconfigured_of_configure configured)).ready configured
  have to_now := g.runs_serveAll requests
  have to_last := to_now.trans (now.runs_pull id)
  obtain ⟨⟨e, refused⟩, _⟩ | ⟨n, sink, _, pulls⟩ := now.pull_cases id
  · simp [refused] at unready
  · have idle : last.Idle := by
      obtain ⟨m, offer, there, _, finished | ⟨_, idle⟩⟩ :=
        pulls.last_offer ready to_now.evolves unready
      · obtain ⟨m', sink', _⟩ := (now.runs_pull id).evolves.running sink
        obtain rfl := Option.some.inj ((running_eq_ok_iff.1 sink').2.2.1.symm.trans there)
        simp [last, isExhausted, sink', Except.map, Node.asked, finished] at unexhausted
      · exact idle
    have rests := idle.quiescent ready to_last bare
    refine ⟨rests, fun source n running going frames length fits => ?_⟩
    obtain ⟨_, _, there, _, role⟩ := running_eq_ok_iff.1 running
    refine exists_pushAll_eq_ok running going ?_ fits
    rw [rests.feeds there role, Queue.size_empty, length, Nat.zero_add]

/-- The pull of one sink works off what was pushed for the other one, and the source of that has room
for as many frames as at the start. -/
theorem rest_of_twoSinks :
    let now := (twoSinks.serveAll [.push ⟨⟨0⟩, 3⟩ (some ⟨⟨48000, 2⟩, none, .empty⟩)]).1
    let last := (now.pull ⟨⟨0⟩, 2⟩).1
    (∀ n, last.nodes[3]? = some n → n.role = .source → n.feed = .empty) ∧
      ∃ full, last.pushAll ⟨⟨0⟩, 3⟩ (List.replicate 64 ⟨⟨48000, 2⟩, none, .empty⟩) = .ok full ∧
        ∀ frame, full.push ⟨⟨0⟩, 3⟩ (some frame) = .error (.push ⟨⟨0⟩, 3⟩ (.full 64)) := by
  intro now last
  have worked : (traceWithin 4 now ⟨⟨0⟩, 2⟩).map (fun t => (t.1.2, t.1.1.isExhausted ⟨⟨0⟩, 2⟩,
      (t.1.1.running ⟨⟨0⟩, 3⟩ .source).map fun n => (n.feedEnded, t.1.1.feedFormat n))) =
      some (.ok none, .ok false, .ok (false, some ⟨48000, 2⟩)) := by decide +kernel
  obtain ⟨trace, traced, outcome⟩ := Option.map_eq_some_iff.1 worked
  have pulled := (pull_eq_of_traceWithin traced).1
  simp only [← pulled, Prod.mk.injEq, map_eq_ok_iff] at outcome
  obtain ⟨unready, unexhausted, n, source, going, format⟩ := outcome
  have capacity : last.options.feedCapacity = 64 := congrArg GraphOptions.feedCapacity
    ((twoSinks.runs_serveAll _).trans (now.runs_pull ⟨⟨0⟩, 2⟩)).evolves.options
  have roles : ∀ m ∈ twoSinks.nodes.toList, m.role = .source → m.inputs = [] := by decide +kernel
  obtain ⟨rests, room⟩ := reachable_sourcesToSinks.rests_after_pull configure_eq_twoSinks
    (fun j m there => roles m (Array.mem_toList_iff.2 (Array.mem_of_getElem? there)))
    [.push ⟨⟨0⟩, 3⟩ (some ⟨⟨48000, 2⟩, none, .empty⟩)] unready unexhausted
  have full := room ⟨⟨0⟩, 3⟩ n source going (List.replicate 64 ⟨⟨48000, 2⟩, none, .empty⟩)
    (List.length_replicate.trans capacity.symm) fun frame member f known => by
      rw [List.eq_of_mem_replicate member]
      exact Option.some.inj (format.symm.trans known)
  rw [capacity] at full
  exact ⟨fun n there role => rests.feeds there role, full⟩

end Graph
end FrameFlow
