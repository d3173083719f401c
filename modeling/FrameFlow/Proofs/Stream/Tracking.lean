import FrameFlow.Proofs.Stream.History
import FrameFlow.Proofs.Stream.Start

/-! Nodes of built-in kinds keep track of their streams. Whatever happens, each filter has answered
what it was given, and its links have carried the answer. -/
namespace FrameFlow

open BuiltIn (Follows Continues)

theorem Work.begins_onto {inputs : List Stream} {work : Work} (fits : work.Fits inputs) :
    List.Forall₂ Stream.Begins inputs (work.onto inputs) := by
  cases work with
  | frame pad f =>
    obtain ⟨s, at_pad, going⟩ := fits
    exact Stream.begins_modify at_pad (Stream.begins_push going f)
  | endOfInput pad =>
    exact Stream.begins_modify (List.getElem?_eq_getElem fits) (Stream.begins_finish _)
  | flush =>
    exact List.forall₂_map_right_iff.2 (List.forall₂_same.2 fun s _ => s.begins_finish)

theorem Node.mem_closeOutputs {σ : Type} {n : Node σ} {closed : List Bool} {p : Outlet}
    (member : p ∈ (n.closeOutputs closed).outputs) :
    ∃ pad p', n.outputs[pad]? = some p' ∧ p.link = p'.link ∧
      p.closed = (p'.closed || closed.getD pad false) := by
  obtain ⟨⟨p', pad⟩, found, rfl⟩ := List.mem_map.1 member
  exact ⟨pad, p', List.mem_zipIdx_iff_getElem?.1 found, rfl, rfl⟩

/-- What is known of a node, given the node at first and the events since. Its links have carried
what the filter answers to what it was given. Its outputs are closed where the answer ended early or
the filter was flushed. -/
structure Tracks (first : Node BuiltIn) (i : Nat) (es : List (Event BuiltIn)) (n : Node BuiltIn) :
    Prop where
  sound : n.life ≠ .failed
  follows : Follows (handedOut i es) n.flushed first.filter (n.intake i es) n.filter
  outputs : n.outputs.length = (Filter.outputs first.filter).length
  closed : ∀ p ∈ n.outputs, p.closed = (n.flushed || first.filter.endsEarly (n.intake i es))
  sent : ∀ p ∈ n.outputs, ∀ k, p.link = some k → carried k es = first.filter.frames (n.intake i es)
  fed : n.role = .source → accepted i es = ⟨workedOff i es ++ n.feed.toList, n.feedEnded⟩
  finished : n.exhausted → n.flushed

namespace Tracks

variable {first n : Node BuiltIn} {i : Nat} {es : List (Event BuiltIn)} {e : Event BuiltIn}

/-- A node at the start. -/
theorem start (starts : n.Starts) (untouched : n.Untouched) (sound : n.life ≠ .failed) :
    Tracks n i [] n := by
  have nothing : n.intake i [] = List.replicate n.width .empty := by
    by_cases source : n.role = .source
    · rw [Node.intake_source source, Node.width_source source, untouched.flushed]
      rfl
    · rw [Node.intake_inner source, Node.width_inner source]
      apply List.mapIdx_eq_replicate_iff.2
      intro pad inside
      have untold := (untouched.inlets _ (List.getElem_mem inside)).told
      rw [untold]
      rfl
  constructor
  · exact sound
  · rw [nothing, untouched.flushed]
    exact starts.follows
  · exact starts.outputs
  · intro p member
    rw [nothing, BuiltIn.endsEarly_empty, untouched.flushed]
    exact untouched.outlets p member
  · intro p _ k _
    rw [nothing, BuiltIn.frames_empty]
    rfl
  · intro _
    rw [untouched.feed, untouched.feedEnded]
    rfl
  · simp [untouched.exhausted]

/-- What comes in changes nothing yet. -/
theorem receive (tracks : Tracks first i es n) (sent : List (Nat × Frame)) (ends : List Nat) :
    Tracks first i es (n.receive sent ends) := by
  have same : (n.receive sent ends).intake i es = n.intake i es := Node.intake_receive sent ends
  constructor
  · exact tracks.sound
  · rw [same]
    exact tracks.follows
  · exact tracks.outputs
  · rw [same]
    exact tracks.closed
  · rw [same]
    exact tracks.sent
  · exact tracks.fed
  · exact tracks.finished

/-- An event that gives the filter nothing, but may change its feed or ask it for a frame. -/
theorem update (tracks : Tracks first i es n) (unhanded : ∀ pad, e.handedAt ⟨i, pad⟩ = [])
    (unworked : e.worksOff i = []) (unsent : ∀ p ∈ n.outputs, ∀ k, p.link = some k → e.sentOn k = [])
    {filter : BuiltIn} {feed : Queue Frame} {feedEnded hasSlot exhausted : Bool}
    (follows : Follows (handedOut i es ++ e.handsOut i) n.flushed first.filter (n.intake i es) filter)
    (fed : n.role = .source → feed.toList = n.feed.toList ++ e.feeds i ∧
      feedEnded = (n.feedEnded || e.endsFeed i))
    (finished : exhausted → n.flushed) :
    Tracks first i (es ++ [e]) { n with filter, feed, feedEnded, hasSlot, exhausted } := by
  have same : Node.intake { n with filter, feed, feedEnded, hasSlot, exhausted } i (es ++ [e]) =
      n.intake i es := Node.intake_concat_of_idle unhanded unworked
  constructor
  · exact tracks.sound
  · rw [same, handedOut_concat]
    exact follows
  · exact tracks.outputs
  · rw [same]
    exact tracks.closed
  · intro p member k noted
    rw [same, carried_concat, unsent p member k noted, List.append_nil]
    exact tracks.sent p member k noted
  · intro source
    obtain ⟨frames, ended⟩ := fed source
    have before := tracks.fed source
    rw [accepted_concat, before, workedOff_concat, unworked, frames, ended]
    simp
  · exact finished

end Tracks

section Called

variable {g h : Graph BuiltIn} {c : Invocation BuiltIn}

/-- Work that is taken goes on with what the filter was given: no frame comes after an end. -/
theorem Graph.Running.fits (running : g.Running) (event : g.Happens (.invoked c) h)
    (es : List (Event BuiltIn)) : c.work.Fits (c.node.intake c.index es) := by
  obtain ⟨there, takes⟩ := event.takes
  have fresh := running.fresh_of_takes there takes
  generalize c.work = work at takes
  generalize c.rest = rest at takes
  cases takes with
  | fed source _ =>
    rw [Node.intake_source source]
    exact ⟨_, rfl, fresh⟩
  | @frame pad q frame queue inner inlet waiting =>
    rw [Node.intake_inner inner]
    refine ⟨⟨handed ⟨c.index, pad⟩ es, q.told⟩, ?_, ?_⟩
    · rw [List.getElem?_mapIdx, inlet, Option.map_some]
    · rw [Bool.eq_false_iff]
      intro told
      have empty := (running.told_of_mem there (List.mem_of_getElem? inlet) told).2
      rw [empty, Queue.toList_empty] at waiting
      simp at waiting
  | endOfInput inner _ inlet _ _ =>
    rw [Node.intake_inner inner]
    have inside := (List.getElem?_eq_some_iff.1 inlet).1
    simpa [Work.Fits] using inside
  | feedOver _ _ _ _ => trivial
  | flush _ _ _ _ _ => trivial

variable {first : Node BuiltIn} {es : List (Event BuiltIn)} (running : g.Running)
  (event : g.Happens (.invoked c) h) (tracks : Tracks first c.index es c.node)

include running event tracks

/-- Before a call an outlet is closed just where the answer has ended early. -/
theorem Tracks.closed_of_called : ∀ p ∈ c.rest.outputs,
    p.closed = first.filter.endsEarly (c.node.intake c.index es) := by
  obtain ⟨there, takes⟩ := event.takes
  intro p member
  have closed := tracks.closed p (takes.outputs ▸ member)
  rwa [running.fresh_of_takes there takes, Bool.false_or] at closed

/-- Every call goes on with the answer. -/
theorem Tracks.continues : Continues (handedOut c.index es) (c.work == .flush) first.filter
    (c.node.intake c.index es) (c.work.onto (c.node.intake c.index es)) c.turn := by
  obtain ⟨there, takes⟩ := event.takes
  have closed : c.rest.closedOutputs = List.replicate (Filter.outputs first.filter).length
      (first.filter.endsEarly (c.node.intake c.index es)) := by
    apply List.eq_replicate_iff.2
    constructor
    · rw [Node.closedOutputs, List.length_map, takes.outputs]
      exact tracks.outputs
    · intro b member
      obtain ⟨p, outlet, rfl⟩ := List.mem_map.1 member
      exact tracks.closed_of_called running event p outlet
  have follows : Follows (handedOut c.index es) false first.filter (c.node.intake c.index es)
      c.rest.filter := by
    rw [takes.filter, ← running.fresh_of_takes there takes]
    exact tracks.follows
  rw [event.turn, closed]
  exact follows.invoke (running.fits event es)

omit running in
theorem Tracks.outlet_lt {p : Outlet} {pad : Nat} (outlet : c.rest.outputs[pad]? = some p) :
    pad < (Filter.outputs first.filter).length := by
  rw [← tracks.outputs, ← event.takes.2.outputs]
  exact (List.getElem?_eq_some_iff.1 outlet).1

/-- A call closes an outlet where the answer to what was given with it ends. -/
theorem Tracks.closed_by_called {p : Outlet} {pad : Nat} (outlet : c.rest.outputs[pad]? = some p) :
    (p.closed || c.turn.tray.closed.getD pad false) =
      (c.work == .flush || first.filter.endsEarly (c.work.onto (c.node.intake c.index es))) := by
  have inside := tracks.outlet_lt event outlet
  rw [tracks.closed_of_called running event p (List.mem_of_getElem? outlet),
    (tracks.continues running event).closed]
  cases early : first.filter.endsEarly (c.node.intake c.index es) with
  | true =>
    have still := (BuiltIn.endsEarly_mono (Work.begins_onto (running.fits event es)) early).1
    simp [still]
  | false => simp [inside]

omit running in
/-- A source has worked off what it accepted, up to what waits. -/
theorem Tracks.fed_of_called (source : c.node.role = .source) :
    accepted c.index (es ++ [.invoked c]) =
      ⟨workedOff c.index (es ++ [.invoked c]) ++ c.rest.feed.toList, c.rest.feedEnded⟩ := by
  obtain ⟨there, takes⟩ := event.takes
  obtain ⟨frames, ended⟩ := takes.feed source
  have worked : (Event.invoked c).worksOff c.index = c.work.handedOn 0 := if_pos ⟨rfl, source⟩
  rw [accepted_concat, tracks.fed source, workedOff_concat, worked, ended, ← frames]
  simp [Event.feeds, Event.endsFeed]

/-- The links of the node called have carried the answer to what it was given with the call. -/
theorem Tracks.sent_of_called {p : Outlet} {pad k : Nat} (outlet : c.rest.outputs[pad]? = some p)
    (noted : p.link = some k) : carried k (es ++ [.invoked c]) =
      first.filter.frames (c.work.onto (c.node.intake c.index es)) := by
  obtain ⟨there, takes⟩ := event.takes
  have continues := tracks.continues running event
  have member := List.mem_of_getElem? outlet
  have before := tracks.sent p (takes.outputs ▸ member) k noted
  obtain ⟨l, link, source⟩ :=
    (running.wired.outlet_link_iff there (takes.outputs ▸ outlet)).1 noted
  have finished := Invocation.sentOver_eq running.wired there takes.outputs link source outlet
  rw [carried_concat, before]
  show _ ++ sentOver (some k) c.sent = _
  rw [finished, continues.sound, tracks.closed_of_called running event p member]
  cases early : first.filter.endsEarly (c.node.intake c.index es) with
  | true =>
    have grow := Work.begins_onto (running.fits event es)
    rw [(BuiltIn.endsEarly_mono grow early).2]
    exact List.append_nil _
  | false =>
    exact (continues.frames pad (tracks.outlet_lt event outlet)).symm

/-- The node that is called. -/
theorem Tracks.called : Tracks first c.index (es ++ [.invoked c]) c.left := by
  obtain ⟨there, takes⟩ := event.takes
  have continues := tracks.continues running event
  have left : c.left = { c.rest with filter := c.turn.state }.closeOutputs c.turn.tray.closed := by
    simp [Invocation.left, continues.sound]
  have flushed : c.rest.flushed = (c.work == .flush) := by
    rw [Bool.eq_iff_iff, takes.flushed_iff, running.fresh_of_takes there takes]
    simp
  have given : c.left.intake c.index (es ++ [.invoked c]) =
      c.work.onto (c.node.intake c.index es) := by
    rw [left]
    exact takes.intake
  have outlets : ∀ p ∈ c.left.outputs, ∃ pad p', c.rest.outputs[pad]? = some p' ∧
      p.link = p'.link ∧ p.closed = (p'.closed || c.turn.tray.closed.getD pad false) := by
    intro p member
    rw [left] at member
    exact Node.mem_closeOutputs member
  constructor
  · rw [left]
    show c.rest.life ≠ .failed
    rw [takes.life]
    exact tracks.sound
  · rw [given, handedOut_concat, left]
    show Follows (handedOut c.index es ++ []) c.rest.flushed _ _ c.turn.state
    rw [List.append_nil, flushed]
    exact continues.follows
  · rw [c.evolves_left.outputs_length, takes.outputs]
    exact tracks.outputs
  · intro p member
    obtain ⟨pad, p', outlet, _, closed⟩ := outlets p member
    have last : c.left.flushed = (c.work == .flush) := by
      rw [left]
      exact flushed
    rw [given, closed, last]
    exact tracks.closed_by_called running event outlet
  · intro p member k noted
    obtain ⟨pad, p', outlet, same, _⟩ := outlets p member
    rw [given]
    exact tracks.sent_of_called running event outlet (same ▸ noted)
  · intro source
    have role : c.node.role = .source := by
      rw [left] at source
      exact takes.role ▸ source
    rw [left]
    exact tracks.fed_of_called event role
  · intro finished
    have exhausted : c.node.exhausted := by
      rw [left] at finished
      exact takes.exhausted ▸ finished
    have flushed := tracks.finished exhausted
    simp [running.fresh_of_takes there takes] at flushed

end Called

namespace Graph

variable {start g h : Graph BuiltIn} {i : Nat} {first n : Node BuiltIn}
  {es : List (Event BuiltIn)} {e : Event BuiltIn}

/-- An event at another node. -/
theorem tracks_elsewhere (running : g.Running) (event : g.Happens e h)
    (there : g.nodes[i]? = some n) (other : e.place ≠ i) (tracks : Tracks first i es n) :
    Tracks first i (es ++ [e]) (e.effect i n) := by
  have unsent : ∀ p ∈ n.outputs, ∀ k, p.link = some k → e.sentOn k = [] := by
    intro p member k noted
    cases e with
    | invoked c =>
      obtain ⟨called, takes⟩ := event.takes
      obtain ⟨pad, outlet⟩ := List.mem_iff_getElem?.1 member
      obtain ⟨l, link, source⟩ := (running.wired.outlet_link_iff there outlet).1 noted
      have apart : l.source.node ≠ c.index := by
        rw [source]
        exact Ne.symm other
      exact Invocation.sentOver_of_other running.wired called takes.outputs link apart
    | _ => rfl
  have still : Tracks first i (es ++ [e]) n := by
    apply tracks.update (fun pad => e.handedAt_elsewhere other pad) (e.worksOff_elsewhere other) unsent
    · rw [e.handsOut_elsewhere other, List.append_nil]
      exact tracks.follows
    · intro _
      simp [e.feeds_elsewhere other, e.endsFeed_elsewhere other]
    · exact tracks.finished
  obtain ⟨sent, ends, same⟩ := e.effect_elsewhere other n
  rw [same]
  exact still.receive sent ends

/-- An event keeps track of every node. -/
theorem tracks_effect (running : g.Running) (event : g.Happens e h) (there : g.nodes[i]? = some n)
    (tracks : Tracks first i es n) : Tracks first i (es ++ [e]) (e.effect i n) := by
  by_cases here : e.place = i
  · cases event with
    | @pushed id frame _ _ =>
      obtain rfl : id.index = i := here
      rw [Event.effect, if_pos rfl]
      apply tracks.update (fun _ => rfl) rfl (fun _ _ _ _ => rfl) _ _ tracks.finished
      · simpa [Event.handsOut] using tracks.follows
      · simp [Event.feeds, Event.endsFeed]
    | @ended id _ _ =>
      obtain rfl : id.index = i := here
      rw [Event.effect, if_pos rfl]
      apply tracks.update (fun _ => rfl) rfl (fun _ _ _ _ => rfl) _ _ tracks.finished
      · simpa [Event.handsOut] using tracks.follows
      · simp [Event.feeds, Event.endsFeed]
    | @asked id _ _ offer sink asking =>
      obtain rfl : id.index = i := here
      obtain ⟨_, _, at_sink, _⟩ := running_eq_ok_iff.1 sink
      obtain rfl := Option.some.inj (there.symm.trans at_sink)
      obtain rfl : (Filter.take n.filter).2 = offer := congrArg Prod.snd asking
      rw [Event.effect, if_pos rfl]
      apply tracks.update (fun _ => rfl) rfl (fun _ _ _ _ => rfl)
      · simpa [Event.handsOut] using tracks.follows.take
      · simp [Event.feeds, Event.endsFeed]
      · intro finished
        rcases Bool.or_eq_true_iff.1 finished with before | now
        · exact tracks.finished before
        · apply tracks.follows.flushed_of_take
          revert now
          split
          · next ended => exact fun _ => ended
          · simp
    | @invoked j m rest work configured next usable taken =>
      have event := Happens.invoked configured next usable taken
      obtain rfl : j = i := here
      obtain rfl := Option.some.inj ((nextToWork_eq_some_iff.1 next).2.symm.trans there)
      rw [Event.effect, if_pos rfl]
      exact (tracks.called running event).receive _ _
  · exact tracks_elsewhere running event there here tracks

/-- What is known of a graph after some events: its nodes keep track of their streams, and what a
link carried was handed on or waits. -/
structure Tracked (start : Graph BuiltIn) (es : List (Event BuiltIn)) (g : Graph BuiltIn) :
    Prop where
  evolves : start.Evolves g
  running : g.Running
  nodes : ∀ {i : Nat} {first n : Node BuiltIn}, start.nodes[i]? = some first → first.isLive →
    g.nodes[i]? = some n → Tracks first i es n
  links : ∀ {k : Nat} {l : Link} {q : Inlet}, g.links[k]? = some l → g.inletAt l.target = some q →
    carried k es = handed l.target es ++ q.queue.toList

theorem Ready.tracked (ready : start.Ready)
    (starts : ∀ {i : Nat} {n : Node BuiltIn},
    start.nodes[i]? = some n → n.isLive → n.Starts) : Tracked start [] start := by
  refine ⟨.refl start, ready.running, fun {i first n} there live there' => ?_,
    fun {k l q} _ inlet => ?_⟩
  · obtain rfl := Option.some.inj (there.symm.trans there')
    have sound : first.life ≠ .failed := by simp [ready.initialized there live]
    exact .start (starts there live) (ready.prepared there).untouched sound
  · obtain ⟨n, there, member⟩ := Option.bind_eq_some_iff.1 inlet
    have untouched := (ready.prepared there).untouched.inlets q (List.mem_of_getElem? member)
    rw [untouched.queue]
    rfl

theorem Tracked.happens (tracked : Tracked start es g) (event : g.Happens e h) :
    Tracked start (es ++ [e]) h := by
  refine ⟨tracked.evolves.trans event.evolves, tracked.running.happens event,
    fun {i first m} there live there' => ?_, fun {k l q'} link inlet' => ?_⟩
  · rw [event.nodes tracked.running.wired] at there'
    obtain ⟨n, before, rfl⟩ := Option.map_eq_some_iff.1 there'
    exact tracks_effect tracked.running event before (tracked.nodes there live before)
  · rw [event.evolves.links] at link
    obtain ⟨p, p', q, q'', _, _, inlet, inlet'', via⟩ := event.transfers tracked.running.wired link
    obtain rfl := Option.some.inj (inlet''.symm.trans inlet')
    rw [carried_concat, tracked.links link inlet, handed_concat, List.append_assoc, ← via.queue,
      List.append_assoc]

/-- Streams are tracked through every run. -/
theorem Tracked.runs {fs : List (Event BuiltIn)} (tracked : Tracked start es g)
    (run : g.Runs fs h) : Tracked start (es ++ fs) h :=
  run.history (P := Tracked start) (fun tracked event => tracked.happens event) tracked

end Graph
end FrameFlow
