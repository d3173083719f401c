import FrameFlow.Proofs.Diagnosis.Configuration
import FrameFlow.Proofs.Stream.Determinacy
import FrameFlow.Proofs.Stream.Meaning

/-! What can be pulled out of a graph of built-in filters. A sink that has nothing to hand out has
handed out the whole stream on its link. -/
namespace FrameFlow

open BuiltIn (Follows)

namespace Graph

section Requests

variable {σ : Type} [Filter σ] {g : Graph σ} {i j : Nat}

/-- What requests have fed into a source: the frames it accepted, and whether it accepted the end. -/
def fed (g : Graph σ) (requests : List Request) (i : Nat) : Stream :=
  accepted i (g.serveAll requests).2

/-- The frame, if any, that a pull gets. -/
def gotten : Except GraphError (Option Frame) → List Frame
  | .ok (some frame) => [frame]
  | _ => []

/-- The frames that requests get out of a sink. -/
def pulled (g : Graph σ) (id : NodeId) : List Request → List Frame
  | [] => []
  | .pull source :: rest =>
    (if source = id then gotten (g.pull id).2 else []) ++ (g.pull source).1.pulled id rest
  | r :: rest => (g.serve r).1.pulled id rest

theorem stepEvents_cases (g : Graph σ) :
    g.stepEvents = [] ∨ ∃ c, g.stepEvents = [.invoked c] := by
  unfold stepEvents
  split
  · exact .inl rfl
  · split
    · exact .inl rfl
    · split
      · exact .inl rfl
      · exact .inr ⟨_, rfl⟩

omit [Filter σ] in
theorem handedOut_append (es fs : List (Event σ)) :
    handedOut j (es ++ fs) = handedOut j es ++ handedOut j fs := List.flatMap_append

/-- In a pull the sink is asked and filters are called. -/
theorem Pulls.events {after : Graph σ} {es : List (Event σ)}
    {answer : Except GraphError (Option Frame)} (pulls : Pulls i g es after answer) :
    ∀ e ∈ es, (∃ offer, e = .asked i offer) ∨ ∃ c, e = .invoked c := by
  have waiting : ∀ g : Graph σ, ∀ e ∈ Event.asked i (.ok .again) :: g.stepEvents,
      (∃ offer, e = .asked i offer) ∨ ∃ c, e = .invoked c := by
    intro g e member
    rcases List.mem_cons.1 member with rfl | member
    · exact .inl ⟨_, rfl⟩
    · obtain none | ⟨c, one⟩ := g.stepEvents_cases
      · simp [none] at member
      · exact .inr ⟨c, by simpa [one] using member⟩
  induction pulls with
  | answered => simp
  | idle => simp
  | stuck => exact waiting _
  | halted => exact waiting _
  | onward _ _ _ _ _ ih =>
    intro e member
    rcases List.mem_append.1 member with now | later
    · exact waiting _ e now
    · exact ih e later

theorem handedOut_waiting (g : Graph σ) :
    handedOut j (.asked i (.ok .again) :: g.stepEvents) = [] := by
  obtain none | ⟨c, one⟩ := g.stepEvents_cases
  · simp [none, handedOut, Event.handsOut, offered]
  · simp [one, handedOut, Event.handsOut, offered]

/-- The events of a pull hand out the frame that it gets. -/
theorem Pulls.handedOut_eq {after : Graph σ} {es : List (Event σ)}
    {answer : Except GraphError (Option Frame)} (pulls : Pulls i g es after answer) :
    handedOut i es = gotten answer := by
  induction pulls with
  | @answered g asked n offer there asking final =>
    rcases offer with fault | (frame | _ | _) <;>
      simp [handedOut, Event.handsOut, offered, answerOf, gotten]
  | idle => simp [handedOut, Event.handsOut, offered, gotten]
  | stuck => exact handedOut_waiting _
  | halted => exact handedOut_waiting _
  | onward _ _ _ _ _ ih => rw [handedOut_append, handedOut_waiting, ih, List.nil_append]

/-- A pull from one sink hands out nothing at another. -/
theorem Pulls.handedOut_other {after : Graph σ} {es : List (Event σ)}
    {answer : Except GraphError (Option Frame)} (pulls : Pulls i g es after answer) (other : i ≠ j) :
    handedOut j es = [] := by
  apply List.flatMap_eq_nil_iff.2
  intro e member
  obtain ⟨offer, rfl⟩ | ⟨c, rfl⟩ := pulls.events e member
  · exact if_neg other
  · rfl

/-- Nothing is pushed during a pull. -/
theorem Pulls.accepted_append {after : Graph σ} {es : List (Event σ)}
    {answer : Except GraphError (Option Frame)} (pulls : Pulls i g es after answer)
    (before : List (Event σ)) : accepted j (before ++ es) = accepted j before := by
  have unfed : es.flatMap (Event.feeds j) = [] := by
    apply List.flatMap_eq_nil_iff.2
    intro e member
    obtain ⟨offer, rfl⟩ | ⟨c, rfl⟩ := pulls.events e member <;> rfl
  have unended : es.any (Event.endsFeed j) = false := by
    apply List.any_eq_false.2
    intro e member
    obtain ⟨offer, rfl⟩ | ⟨c, rfl⟩ := pulls.events e member <;> simp [Event.endsFeed]
  simp [accepted, unfed, unended]

/-- The frames that requests get out of a sink are those that it hands out. -/
theorem pulled_eq_handedOut (requests : List Request) {id : NodeId} (here : id.graph = g.id) :
    g.pulled id requests = handedOut id.index (g.serveAll requests).2 := by
  induction requests generalizing g with
  | nil => rfl
  | cons r rest ih =>
    have onward := ih (g := (g.serve r).1) ((g.runs_serve r).evolves.id ▸ here)
    show _ = handedOut id.index ((g.serve r).2 ++ ((g.serve r).1.serveAll rest).2)
    rw [handedOut_append, ← onward]
    cases r with
    | push source frame =>
      have nothing : handedOut id.index (g.serve (.push source frame)).2 = [] := by
        cases frame with
        | none =>
          simp only [serve]
          split <;> rfl
        | some frame =>
          simp only [serve]
          split <;> rfl
      rw [nothing]
      rfl
    | pull source =>
      have got : handedOut id.index (g.pullEvents source) =
          if source = id then gotten (g.pull id).2 else [] := by
        obtain ⟨⟨e, refused⟩, none⟩ | ⟨n, sink, _, pulls⟩ := g.pull_cases source
        · rw [none]
          split
          · next same => simp [← same, refused, gotten, handedOut]
          · rfl
        · obtain ⟨_, there, at_sink, _⟩ := running_eq_ok_iff.1 sink
          split
          · next same =>
            subst same
            exact pulls.handedOut_eq
          · next other =>
            apply pulls.handedOut_other
            intro same
            apply other
            cases source
            cases id
            simp_all
      rw [pulled, serve, got]

end Requests

variable {before start g : Graph BuiltIn} {es : List (Event BuiltIn)} {on : Nat → Stream}

/-- Configured nodes of built-in kinds are ready to start. -/
theorem Assembled.starts (assembled : before.Assembled) (ok : before.configure = .ok start)
    (builtIn : start.OfBuiltIns) {i : Nat} {n : Node BuiltIn} (there : start.nodes[i]? = some n)
    (live : n.isLive) : n.Starts := by
  have ready := assembled.ready ok
  have made := configures_of_configure assembled ok
  obtain ⟨formats, agrees, _⟩ := made.formats
  obtain ⟨kind, longest⟩ := builtIn there live
  have setUp := ready.isSetUp there live
  exact setUp.starts live kind (setUp.mixesLongest kind longest) (agrees (made.nodes ▸ there) live)

/-- A sink that hands out no frame holds none, and it is over just where it was flushed. -/
theorem take_of_sink {f : BuiltIn} {s : Sink} (sink : (Filter.take f).1 = .sink s)
    (none : offered (Filter.take f).2 = []) :
    s.queue = .empty ∧ ((Filter.take f).2 = .ok .ended ↔ s.ended) := by
  cases f with
  | sink before =>
    obtain rfl := BuiltIn.sink.inj sink
    have asked : offered before.take.2 = [] := none
    show before.take.1.queue = .empty ∧ (before.take.2 = .ok .ended ↔ before.take.1.ended)
    unfold Sink.take at asked ⊢
    cases popped : before.queue.pop? with
    | some p => simp [popped, offered] at asked
    | none =>
      have empty := Queue.eq_empty_iff.2 (Queue.pop?_eq_none_iff.1 popped)
      cases before.ended <;> simp [empty]
  | _ => simp [Filter.take, BuiltIn.take] at sink

section Sink

variable (ready : start.Ready) (tracked : Tracked start es g)
  (flows : start.Flows (fun i => accepted i es) on)
  (starts : ∀ {i : Nat} {n : Node BuiltIn}, start.nodes[i]? = some n → n.isLive → n.Starts)
  {i : Nat} {first n : Node BuiltIn} (at_first : start.nodes[i]? = some first)
  (live : first.isLive) (sink : first.role = .sink) (there : g.nodes[i]? = some n)

include tracked starts at_first live sink there

omit starts live in
theorem Tracked.not_source : n.role ≠ .source := by
  obtain ⟨_, at_first', via⟩ := tracked.evolves.before there
  obtain rfl := Option.some.inj (at_first.symm.trans at_first')
  rw [via.role, sink]
  decide

/-- A sink follows the stream on its only input and holds what it has not handed out. -/
theorem Tracked.sink_holds :
    ∃ q s, n.inputs = [q] ∧ n.filter = .sink s ∧ s.ended = n.flushed ∧
      handed ⟨i, 0⟩ es = handedOut i es ++ s.queue.toList := by
  have inner := tracked.not_source at_first sink there
  have follows := (tracked.nodes at_first live there).follows
  obtain ⟨s, filter⟩ := (starts at_first live).sink sink
  rw [filter] at follows
  generalize given : n.intake i es = inputs at follows
  generalize now : n.filter = f at follows
  cases follows with
  | @sink required t queue held =>
    rw [Node.intake_inner inner] at given
    obtain ⟨q, inputs, rfl⟩ := List.mapIdx_eq_singleton_iff.1 given
    exact ⟨q, _, inputs, rfl, rfl, held⟩

/-- The link that leads into a sink has carried what the sink was handed and what waits. -/
theorem Tracked.link_of_sink :
    ∃ q k l, n.inputs = [q] ∧ start.links[k]? = some l ∧ l.target = ⟨i, 0⟩ ∧
      g.sofar es k = ⟨handed ⟨i, 0⟩ es ++ q.queue.toList, q.ended⟩ := by
  obtain ⟨q, _, inputs, _⟩ := tracked.sink_holds starts at_first live sink there
  have inlet : n.inputs[0]? = some q := by
    rw [inputs]
    rfl
  obtain ⟨k, noted⟩ := tracked.running.linked there inlet
  obtain ⟨l, link, target⟩ := (tracked.running.wired.inlet_link_iff there inlet).1 noted
  rw [tracked.evolves.links] at link
  exact ⟨q, k, l, inputs, link, target, tracked.sofar_of_inlet there inlet noted⟩

include ready flows

/-- A sink that was flushed and holds no frame has handed out the stream on its link. -/
theorem Tracked.handedOut_eq_of_flushed (flushed : n.flushed)
    (handed_out : handed ⟨i, 0⟩ es = handedOut i es) :
    ∃ k l, start.links[k]? = some l ∧ l.target = ⟨i, 0⟩ ∧ handedOut i es = (on k).frames ∧
      (on k).ended := by
  obtain ⟨q, k, l, inputs, link, target, sofar⟩ :=
    tracked.link_of_sink starts at_first live sink there
  have inner := tracked.not_source at_first sink there
  have member : q ∈ n.inputs := by simp [inputs]
  have told := tracked.running.flushedLast there flushed
  rw [if_neg inner] at told
  have last := tracked.running.told_of_mem there member (told.2 q member)
  have begins := tracked.sofar_begins ready flows link
  rw [sofar, last.1, last.2, Queue.toList_empty, List.append_nil] at begins
  refine ⟨k, l, link, target, ?_, ?_⟩
  · rw [begins.ended rfl, handed_out]
  · rw [begins.ended rfl]

/-- Where no node has work, a sink that was not flushed and holds no frame has handed out the stream
on its link. -/
theorem Tracked.handedOut_eq_of_idle (idle : ∀ j ∈ g.schedule, g.hasWorkAt j = false)
    (unflushed : n.flushed = false) (handed_out : handed ⟨i, 0⟩ es = handedOut i es) :
    ∃ k l, start.links[k]? = some l ∧ l.target = ⟨i, 0⟩ ∧ handedOut i es = (on k).frames ∧
      (on k).ended = false := by
  obtain ⟨q, k, l, inputs, link, target, sofar⟩ :=
    tracked.link_of_sink starts at_first live sink there
  have inner := tracked.not_source at_first sink there
  have quiet : n.hasWork = false := by
    have scheduled : i ∈ g.schedule := by
      rw [tracked.evolves.schedule, ready.schedules.mem_iff]
      exact isLiveAt_iff.2 ⟨first, at_first, live⟩
    have none := idle i scheduled
    rwa [hasWorkAt, there] at none
  obtain ⟨handled, flush⟩ := Node.inner_idle inner quiet
  obtain ⟨empty, told⟩ := handled q (by simp [inputs])
  have going : q.ended = false := by
    rw [Bool.eq_false_iff]
    intro ended
    have flushed := flush (by simp [inputs]) (by simpa [inputs] using told ended)
    simp [unflushed] at flushed
  have whole := tracked.sofar_eq_of_idle ready flows starts idle link
  rw [sofar, empty, Queue.toList_empty, List.append_nil, going] at whole
  refine ⟨k, l, link, target, ?_, ?_⟩
  · rw [← whole, handed_out]
  · rw [← whole]

omit there

/-- A sink with no frame to hand out, either at its end or where no node has work, has handed out
the stream on its link. -/
theorem Tracked.handedOut_eq {offer : Except Fault Offer} (there : g.nodes[i]? = some (n.asked offer))
    (answer : (Filter.take n.filter).2 = offer)
    (last : offer = .ok .ended ∨
      offer = .ok .again ∧ ∀ j ∈ g.schedule, g.hasWorkAt j = false) :
    ∃ k l, start.links[k]? = some l ∧ l.target = ⟨i, 0⟩ ∧ handedOut i es = (on k).frames ∧
      (n.asked offer).exhausted = (on k).ended := by
  obtain ⟨_, s, _, now, ended, held⟩ := tracked.sink_holds starts at_first live sink there
  have unoffered : offered (Filter.take n.filter).2 = [] := by
    rw [answer]
    obtain rfl | ⟨rfl, _⟩ := last <;> rfl
  obtain ⟨empty, flushed_iff⟩ := take_of_sink now unoffered
  rw [answer, ended] at flushed_iff
  have handed_out : handed ⟨i, 0⟩ es = handedOut i es := by
    rw [held, empty, Queue.toList_empty, List.append_nil]
  obtain rfl | ⟨rfl, idle⟩ := last
  · obtain ⟨k, l, link, target, frames, finished⟩ := tracked.handedOut_eq_of_flushed ready flows starts
      at_first live sink there (flushed_iff.1 rfl) handed_out
    exact ⟨k, l, link, target, frames, finished ▸ Bool.or_true _⟩
  · have unflushed : (n.asked (.ok .again)).flushed = false := by
      rw [Bool.eq_false_iff]
      intro flushed
      have ended := flushed_iff.2 flushed
      simp at ended
    obtain ⟨k, l, link, target, frames, going⟩ := tracked.handedOut_eq_of_idle ready flows starts
      at_first live sink there idle unflushed handed_out
    refine ⟨k, l, link, target, frames, ?_⟩
    rw [going, Bool.eq_false_iff]
    intro exhausted
    have flushed := (tracked.nodes at_first live there).finished exhausted
    simp [unflushed] at flushed

end Sink

/-- In whatever order frames are pushed and pulled, once a sink has nothing to hand out, the frames
pulled out of it are the stream on its link. The sink is exhausted just where the stream has
ended. -/
theorem Reachable.pulled_eq_stream (reachable : before.Reachable)
    (configured : before.configure = .ok g) (builtIn : g.OfBuiltIns) (requests : List Request)
    {id : NodeId} (empty : ((g.serveAll requests).1.pull id).2 = .ok none) :
    ∃ on k l, g.Carries (g.fed requests) on ∧
      (∀ on', g.Carries (g.fed requests) on' → ∀ j < g.links.size, on' j = on j) ∧
      g.links[k]? = some l ∧ l.target = ⟨id.index, 0⟩ ∧ g.pulled id requests = (on k).frames ∧
      ((g.serveAll requests).1.pull id).1.isExhausted id = .ok (on k).ended := by
  have assembled := reachable.assembled (unconfigured_of_configure configured)
  have ready := assembled.ready configured
  have starts : ∀ {i : Nat} {n : Node BuiltIn}, g.nodes[i]? = some n → n.isLive → n.Starts :=
    fun there live => assembled.starts configured builtIn there live
  have run := g.runs_serveAll requests
  have before := (ready.tracked starts).runs run
  obtain ⟨⟨e, refused⟩, _⟩ | ⟨n, sink, sound, pulls⟩ := (g.serveAll requests).1.pull_cases id
  · simp [refused] at empty
  · obtain ⟨_, here, at_sink, alive, role⟩ := running_eq_ok_iff.1 sink
    have onward := pulls.runs sink
    have after := before.runs onward
    obtain ⟨first, at_first, via⟩ := run.evolves.before at_sink
    have inside := (Array.getElem?_eq_some_iff.1 at_sink).1
    have healthy := (failedFeeder_eq_none_iff before.running.wired inside).1 sound
    have live : first.isLive := by
      rw [Node.isLive, ← via.life.resolve_right (healthy.usable at_sink)]
      exact alive
    obtain ⟨m, offer, there, answer, last⟩ := pulls.last_offer ready run.evolves empty
    obtain ⟨on, flows⟩ : ∃ on, g.Flows (g.fed requests) on :=
      ⟨_, ready.schedules.flows ready.wired _⟩
    have same : (fun i => accepted i ([] ++ (g.serveAll requests).2 ++
        (g.serveAll requests).1.pullEvents id)) = g.fed requests := by
      funext i
      rw [pulls.accepted_append]
      rfl
    obtain ⟨k, l, link, target, frames, finished⟩ := after.handedOut_eq ready (same ▸ flows) starts
      at_first live (via.role ▸ role) there answer last
    have carries : ∀ {on'}, g.Carries (g.fed requests) on' ↔ g.Flows (g.fed requests) on' :=
      ready.carries_iff builtIn
    refine ⟨on, k, l, carries.2 flows, fun on' other j inside => ?_, link, target, ?_, ?_⟩
    · exact flows.unique ready.wired ready.schedules (carries.1 other) (Array.getElem?_eq_getElem inside)
    · rw [pulled_eq_handedOut requests (run.evolves.id ▸ here), ← frames, handedOut_append,
        pulls.handedOut_eq, empty]
      exact (List.append_nil _).symm
    · obtain ⟨m', sink', _⟩ := onward.evolves.running sink
      obtain ⟨_, _, there', _⟩ := running_eq_ok_iff.1 sink'
      obtain rfl := Option.some.inj (there.symm.trans there')
      rw [← finished, isExhausted, sink']
      rfl

theorem ofBuiltIns_sourceAndSink : sourceAndSink.OfBuiltIns := by
  have source : sourceAndSink.nodes[0]?.map Node.kind = some (Buffer.kind.map .buffer) := by rfl
  have sink : sourceAndSink.nodes[1]?.map Node.kind = some (Sink.kind.map .sink) := by rfl
  intro i n there live
  have inside : i < 2 := (Array.getElem?_eq_some_iff.1 there).1
  obtain rfl | rfl : i = 0 ∨ i = 1 := by omega
  · rw [there] at source
    have kind : n.kind = Buffer.kind.map .buffer := Option.some.inj source
    exact ⟨by simp [BuiltIn.kinds, kind], fun mixer => by simp [kind, Kind.map, Buffer.kind] at mixer⟩
  · rw [there] at sink
    have kind : n.kind = Sink.kind.map .sink := Option.some.inj sink
    exact ⟨by simp [BuiltIn.kinds, kind], fun mixer => by simp [kind, Kind.map, Sink.kind] at mixer⟩

/-- A source and a sink with one frame on its way. -/
def fedOnce : Graph BuiltIn :=
  (sourceAndSink.serve (.push ⟨⟨0⟩, 0⟩ (some ⟨⟨48000, 2⟩, none, .empty⟩))).1

theorem size_fedOnce : 1 < fedOnce.nodes.size := by decide +kernel

theorem pullable_fedOnce : (pullWithin 1 3 fedOnce).isSome := by decide +kernel

/-- What is left of it after the frame was pulled. -/
def drained : Graph BuiltIn := ((pullWithin 1 3 fedOnce).get pullable_fedOnce).1

theorem size_drained : 1 < drained.nodes.size := by decide +kernel

theorem pull_fedOnce :
    fedOnce.pull ⟨⟨0⟩, 1⟩ = (drained, .ok (some ⟨⟨48000, 2⟩, some 0, .empty⟩)) := by
  have sink : fedOnce.running ⟨⟨0⟩, 1⟩ .sink = .ok (getElem fedOnce.nodes 1 size_fedOnce) :=
    running_eq_ok_iff.2 ⟨by decide +kernel, by decide +kernel, Array.getElem?_eq_getElem _,
      by decide +kernel, by decide +kernel⟩
  have within := (Option.some_get pullable_fedOnce).symm
  rw [pull_eq_of_pullWithin sink (by decide +kernel) within]
  refine Prod.ext rfl ?_
  decide +kernel

theorem pull_drained : (drained.pull ⟨⟨0⟩, 1⟩).2 = .ok none := by
  have sink : drained.running ⟨⟨0⟩, 1⟩ .sink = .ok (getElem drained.nodes 1 size_drained) :=
    running_eq_ok_iff.2 ⟨by decide +kernel, by decide +kernel, Array.getElem?_eq_getElem _,
      by decide +kernel, by decide +kernel⟩
  have outcome : (pullWithin 1 3 drained).map Prod.snd = some (.ok none) := by decide +kernel
  obtain ⟨result, within, answer⟩ := Option.map_eq_some_iff.1 outcome
  rw [pull_eq_of_pullWithin sink (by decide +kernel) within, answer]

/-- The frame pushed into the source is what was pulled out of the sink, stamped. -/
theorem stream_sourceAndSink :
    let requests : List Request :=
      [.push ⟨⟨0⟩, 0⟩ (some ⟨⟨48000, 2⟩, none, .empty⟩), .pull ⟨⟨0⟩, 1⟩]
    ∃ on k, sourceAndSink.Carries (sourceAndSink.fed requests) on ∧
      (on k).frames = [⟨⟨48000, 2⟩, some 0, .empty⟩] := by
  intro requests
  have drains : (sourceAndSink.serveAll requests).1 = drained := congrArg Prod.fst pull_fedOnce
  have empty : ((sourceAndSink.serveAll requests).1.pull ⟨⟨0⟩, 1⟩).2 = .ok none := by
    rw [drains, pull_drained]
  obtain ⟨on, k, l, carries, _, _, _, frames, _⟩ :=
    (reachable_blank.calls sourceToSink).pulled_eq_stream configure_eq_sourceAndSink
      ofBuiltIns_sourceAndSink requests empty
  refine ⟨on, k, carries, ?_⟩
  have got : sourceAndSink.pulled ⟨⟨0⟩, 1⟩ requests = gotten (fedOnce.pull ⟨⟨0⟩, 1⟩).2 := by
    show (if _ then _ else []) ++ [] = _
    rw [if_pos rfl, List.append_nil]
    rfl
  rw [← frames, got, pull_fedOnce]
  rfl

end Graph
end FrameFlow
