import FrameFlow.Proofs.Diagnosis.Agreement
import FrameFlow.Proofs.Filter.Formats
import FrameFlow.Proofs.Flow.Quiescence
import FrameFlow.Proofs.Stream.Pulling

/-! Frames have the formats that were negotiated. Wherever a graph of built-in filters holds a frame,
the frame has the format of the link there, and so does every frame that is pulled. -/
namespace FrameFlow

/-- A node that holds frames of one format only. -/
structure Node.HoldsOnly (format : Format) (n : Node BuiltIn) : Prop where
  feed : AllOf format n.feed.toList
  queues : ∀ p ∈ n.inputs, AllOf format p.queue.toList
  kept : AllOf format n.filter.kept
  inputs : n.inputs.length = (Filter.inputs n.filter).length

namespace Node

variable {n m : Node BuiltIn} {format : Format} {work : Work}

theorem Evolves.isLinked {σ : Type} {n m : Node σ} (h : n.Evolves m) (linked : n.IsLinked) :
    m.IsLinked := by
  intro d pad inside
  have count : m.padCount d = n.padCount d := by
    cases d with
    | input => exact h.inputs_length
    | output => exact h.outputs_length
  rw [h.link?_eq]
  exact linked d pad (count ▸ inside)

/-- A frame that is taken from a node to be handled has the format of the node. -/
theorem HoldsOnly.takes (holds : n.HoldsOnly format) (takes : n.Takes work m) :
    m.HoldsOnly format ∧ ∀ pad frame, work = .frame pad frame → frame.format = format := by
  obtain ⟨feed, queues, kept, inputs⟩ := holds
  cases takes with
  | fed source first =>
    rw [first] at feed
    obtain ⟨here, later⟩ := List.forall_mem_cons.1 feed
    exact ⟨⟨later, queues, kept, inputs⟩, by rintro _ _ ⟨⟩; exact here⟩
  | feedOver => exact ⟨⟨feed, queues, kept, inputs⟩, by simp⟩
  | @frame pad p frame queue inner at_pad first =>
    have waiting := queues p (List.mem_of_getElem? at_pad)
    rw [first] at waiting
    obtain ⟨here, later⟩ := List.forall_mem_cons.1 waiting
    refine ⟨⟨feed, fun q member => ?_, kept, (List.length_set ..).trans inputs⟩,
      by rintro _ _ ⟨⟩; exact here⟩
    rcases List.mem_or_eq_of_mem_set member with other | rfl
    · exact queues q other
    · exact later
  | @endOfInput pad p inner quiet at_pad ended untold =>
    refine ⟨⟨feed, fun q member => ?_, kept, (List.length_set ..).trans inputs⟩, by simp⟩
    rcases List.mem_or_eq_of_mem_set member with other | rfl
    · exact queues q other
    · exact queues p (List.mem_of_getElem? at_pad)
  | flush => exact ⟨⟨feed, queues, kept, inputs⟩, by simp⟩

theorem HoldsOnly.receive (holds : n.HoldsOnly format) {sent : List (Nat × Frame)} {ends : List Nat}
    (same : ∀ p ∈ n.inputs, AllOf format (sentOver p.link sent)) :
    (n.receive sent ends).HoldsOnly format where
  feed := holds.feed
  queues := by
    intro q member
    obtain ⟨p, there, rfl⟩ := List.mem_map.1 member
    rw [Inlet.toList_queue_receive, allOf_append_iff]
    exact ⟨holds.queues p there, same p there⟩
  kept := holds.kept
  inputs := (List.length_map ..).trans holds.inputs

theorem HoldsOnly.asked (holds : n.HoldsOnly format) (offer : Except Fault Offer) :
    (n.asked offer).HoldsOnly format where
  feed := holds.feed
  queues := holds.queues
  kept := (BuiltIn.allOf_take holds.kept).1
  inputs := holds.inputs.trans (congrArg List.length (BuiltIn.allOf_take holds.kept).2.1).symm

theorem HoldsOnly.lane (holds : n.HoldsOnly format) {mixer : Mixer} (mixes : n.filter = .mixer mixer)
    {pad : Nat} {lane : Lane} (at_lane : mixer.lanes[pad]? = some lane) :
    pad < n.inputs.length ∧ AllOf format lane.queue.toList := by
  have inputs := holds.inputs
  have kept := holds.kept
  rw [mixes] at inputs kept
  have count : n.inputs.length = mixer.lanes.length := inputs.trans (Pad.length_numbered ..)
  exact ⟨count ▸ (List.getElem?_eq_some_iff.1 at_lane).1,
    BuiltIn.allOf_kept_mixer.1 kept lane (List.mem_of_getElem? at_lane)⟩

theorem HoldsOnly.sink (holds : n.HoldsOnly format) {sink : Sink} (keeps : n.filter = .sink sink) :
    0 < n.inputs.length ∧ AllOf format sink.queue.toList := by
  have inputs := holds.inputs
  have kept := holds.kept
  rw [keeps] at inputs kept
  exact ⟨inputs ▸ Nat.one_pos, kept⟩

/-- What a call leaves of a node. -/
theorem HoldsOnly.left {c : Invocation BuiltIn} (holds : c.rest.HoldsOnly format)
    (keeps : BuiltIn.Keeps format c.rest.filter c.turn) : c.left.HoldsOnly format := by
  have inputs := holds.inputs.trans (congrArg List.length keeps.inputs).symm
  unfold Invocation.left
  split
  · exact ⟨holds.feed, holds.queues, keeps.kept, inputs⟩
  · exact ⟨holds.feed, holds.queues, keeps.kept, inputs⟩

end Node

theorem Invocation.mem_frames_of_sentOver {σ : Type} (c : Invocation σ) {k : Nat} {frame : Frame}
    (sent : frame ∈ sentOver (some k) c.sent) : frame ∈ c.turn.tray.frames.toList.map Prod.snd := by
  unfold Invocation.sent at sent
  split at sent
  · rw [sentOver_deliveries] at sent
    obtain ⟨⟨pad, emitted⟩, member, kept⟩ := List.mem_filterMap.1 sent
    obtain rfl : emitted = frame := Option.some.inj (Option.ite_none_right_eq_some.1 kept).2
    exact List.mem_map_of_mem member
  · simp at sent

namespace Graph

/-- The format of the link at a pad. -/
def formatAt {σ : Type} (g : Graph σ) (d : Direction) (e : Endpoint) : Option Format :=
  (g.linkAt d e).bind fun k => g.links[k]?.bind Link.format

theorem Evolves.formatAt_eq {σ : Type} {g h : Graph σ} (e : g.Evolves h) (d : Direction)
    (a : Endpoint) : h.formatAt d a = g.formatAt d a := by
  unfold formatAt
  rw [e.linkAt, e.links]

/-- Links carry the formats of the nodes at their ends, and scheduled nodes hold frames of no other. -/
structure HasFormats (g : Graph BuiltIn) (format : Nat → Format) : Prop where
  wired : g.Wired
  links : ∀ {k : Nat} {l : Link}, g.links[k]? = some l →
    ∀ d, l.format = some (format (l.endAt d).node)
  linked : ∀ {i : Nat} {n : Node BuiltIn}, i ∈ g.schedule → g.nodes[i]? = some n → n.IsLinked
  opens : ∀ {i : Nat} {n : Node BuiltIn}, i ∈ g.schedule → g.nodes[i]? = some n →
    n.role = .source → n.outputs ≠ []
  holds : ∀ {i : Nat} {n : Node BuiltIn}, i ∈ g.schedule → g.nodes[i]? = some n →
    n.HoldsOnly (format i)

variable {g h : Graph BuiltIn} {format : Nat → Format} {e : Event BuiltIn} {i : Nat}
  {n : Node BuiltIn}

namespace HasFormats

theorem formatAt_eq (has : g.HasFormats format) (scheduled : i ∈ g.schedule)
    (there : g.nodes[i]? = some n) {d : Direction} {pad : Nat} (inside : pad < n.padCount d) :
    g.formatAt d ⟨i, pad⟩ = some (format i) := by
  obtain ⟨k, noted⟩ := Option.isSome_iff_exists.1 (has.linked scheduled there d pad inside)
  obtain ⟨l, link, ends⟩ := has.wired.end_of_link? there noted
  simp [formatAt, linkAt, there, noted, link, has.links link d, ends]

/-- The feed of a source takes frames of the format of its node. -/
theorem feedFormat_eq (has : g.HasFormats format) (scheduled : i ∈ g.schedule)
    (there : g.nodes[i]? = some n) (source : n.role = .source) :
    g.feedFormat n = some (format i) := by
  have opens := has.opens scheduled there source
  have first := has.formatAt_eq (d := .output) scheduled there (List.length_pos_iff.2 opens)
  rw [← first]
  unfold feedFormat formatAt
  cases outputs : n.outputs with
  | nil => exact absurd outputs opens
  | cons outlet rest => simp [linkAt, there, Node.link?, outputs]

theorem format_of_push (has : g.HasFormats format) {id : NodeId} {frame : Frame}
    (scheduled : id.index ∈ g.schedule) (accepted : g.push id (some frame) = .ok h) :
    frame.format = format id.index := by
  obtain ⟨n, running, _, checked, _⟩ := push_some_eq_ok_iff.1 accepted
  obtain ⟨_, _, there, _, role⟩ := running_eq_ok_iff.1 running
  unfold checkFeed at checked
  rw [has.feedFormat_eq scheduled there role] at checked
  split at checked
  · simp at checked
  · exact guard_eq_ok_iff.1 checked

/-- What a call sends has the format of the nodes at which it arrives. -/
theorem allOf_sentOver (has : g.HasFormats format) {c : Invocation BuiltIn}
    (there : g.nodes[c.index]? = some n) (outputs : c.rest.outputs = n.outputs)
    (emitted : c.turn.tray.AllOf (format c.index)) {j : Nat} {m m' : Node BuiltIn}
    (at_node : g.nodes[j]? = some m) (via : m.Evolves m') :
    ∀ p ∈ m'.inputs, AllOf (format j) (sentOver p.link c.sent) := by
  intro p member
  obtain ⟨pad, inlet⟩ := List.mem_iff_getElem?.1 member
  cases noted : p.link with
  | none => simp [AllOf, sentOver]
  | some k =>
    have at_pad : m.link? .input pad = some k := by
      rw [← via.link?_eq]
      simp [Node.link?, inlet, noted]
    obtain ⟨l, link, target⟩ := has.wired.end_of_link? at_node at_pad
    by_cases source : l.source.node = c.index
    · have same : format c.index = format j := by
        have ends := (has.links link .output).symm.trans (has.links link .input)
        rw [target] at ends
        exact source ▸ Option.some.inj ends
      exact fun frame sent => same ▸ emitted frame (c.mem_frames_of_sentOver sent)
    · rw [Invocation.sentOver_of_other has.wired there outputs link source]
      exact allOf_nil (format j)

theorem happens (has : g.HasFormats format) (event : g.Happens e h) : h.HasFormats format where
  wired := event.evolves.wired has.wired
  links := event.evolves.links ▸ has.links
  linked := by
    intro i m scheduled there
    obtain ⟨n, before, via⟩ := event.evolves.before there
    exact via.isLinked (has.linked (event.evolves.schedule ▸ scheduled) before)
  opens := by
    intro i m scheduled there source
    obtain ⟨n, before, via⟩ := event.evolves.before there
    have opens := has.opens (event.evolves.schedule ▸ scheduled) before (via.role ▸ source)
    rw [← List.length_pos_iff] at opens ⊢
    exact via.outputs_length ▸ opens
  holds := by
    intro i m scheduled there
    rw [event.evolves.schedule] at scheduled
    rw [event.nodes has.wired] at there
    obtain ⟨n, before, rfl⟩ := Option.map_eq_some_iff.1 there
    have holds := has.holds scheduled before
    cases event with
    | @pushed id frame _ accepted =>
      unfold Event.effect
      dsimp only
      split
      · next here =>
        subst here
        have fits := has.format_of_push scheduled accepted
        exact ⟨holds.feed.push fits, holds.queues, holds.kept, holds.inputs⟩
      · exact holds
    | ended accepted =>
      unfold Event.effect
      dsimp only
      split
      · exact ⟨holds.feed, holds.queues, holds.kept, holds.inputs⟩
      · exact holds
    | asked sink asking =>
      unfold Event.effect
      dsimp only
      split
      · exact holds.asked _
      · exact holds
    | @invoked j k rest work _ first _ taken =>
      obtain ⟨working, there'⟩ := nextToWork_eq_some_iff.1 first
      let c : Invocation BuiltIn := ⟨j, k, work, rest, rest.invoke work (.start rest.closedOutputs)⟩
      have takes := Node.takes_of_takeWork taken
      obtain ⟨held, same⟩ := (has.holds (List.mem_of_find?_eq_some working) there').takes takes
      have keeps : BuiltIn.Keeps (format j) c.rest.filter c.turn :=
        Node.keeps_invoke (Tray.allOf_start (format j) rest.closedOutputs) held.kept same
      have arrives : ∀ {m m' : Node BuiltIn}, g.nodes[i]? = some m → m.Evolves m' →
          ∀ p ∈ m'.inputs, AllOf (format i) (sentOver p.link c.sent) := fun at_node via =>
        has.allOf_sentOver there' takes.outputs keeps.tray at_node via
      show ((if i = j then c.left else n).receive c.sent c.ends).HoldsOnly (format i)
      split
      · next here =>
        subst here
        exact (held.left keeps).receive (arrives there' (takes.evolves.trans c.evolves_left))
      · exact holds.receive (arrives before (.refl n))

theorem runs (has : g.HasFormats format) {es : List (Event BuiltIn)} (run : g.Runs es h) :
    h.HasFormats format := by
  induction run with
  | refl => exact has
  | next event _ ih => exact ih (has.happens event)

/-- A frame that is pulled was kept by the sink. -/
theorem format_of_pull (has : g.HasFormats format) {id : NodeId} {frame : Frame}
    (scheduled : id.index ∈ g.schedule) (sink : g.running id .sink = .ok n) {after : Graph BuiltIn}
    {es : List (Event BuiltIn)} {answer : Except GraphError (Option Frame)}
    (pulls : Pulls id.index g es after answer) (pulled : answer = .ok (some frame)) :
    frame.format = format id.index := by
  have handed : frame ∈ handedOut id.index es := by
    rw [pulls.handedOut_eq, pulled]
    exact List.mem_singleton_self frame
  obtain ⟨e, member, offers⟩ := List.mem_flatMap.1 handed
  cases e with
  | asked j offer =>
    simp only [Event.handsOut] at offers
    split at offers
    · next here =>
      obtain ⟨first, rest, rfl⟩ := List.append_of_mem member
      obtain ⟨h, before, asking⟩ := (pulls.runs sink).split
      cases asking with
      | next event _ =>
        obtain ⟨m, there, offer_eq⟩ := event.asks
        have now := has.runs before
        rw [here] at there
        have kept := (now.holds (before.evolves.schedule ▸ scheduled) there).kept
        refine (BuiltIn.allOf_take kept).2.2 frame (offer_eq.trans ?_)
        unfold offered at offers
        split at offers
        · exact congrArg _ (congrArg _ (List.mem_singleton.1 offers).symm)
        · simp at offers
    · simp at offers
  | _ => simp [Event.handsOut] at offers

end HasFormats

variable {before : Graph BuiltIn}

/-- The nodes of a schedule were there before. -/
theorem live_of_configure (assembled : before.Assembled) (configured : before.configure = .ok g)
    (scheduled : i ∈ g.schedule) (there : g.nodes[i]? = some n) : (i, n) ∈ before.live := by
  have made := configures_of_configure assembled configured
  obtain ⟨m, there', live⟩ := isLiveAt_iff.1 ((made.schedules.mem_iff i).1 scheduled)
  rw [made.nodes] at there
  exact mem_live_iff.2 ⟨there, Option.some.inj (there'.symm.trans there) ▸ live⟩

theorem Assembled.equipped_of_configure (assembled : before.Assembled)
    (configured : before.configure = .ok g) (builtIn : before.OnlyBuiltIn) : before.Equipped := by
  have ready := (exists_configure_iff assembled).1 ⟨g, configured⟩
  exact assembled.equipped ready.initialized ready.linked builtIn

/-- A graph that was just configured holds no frames, and its links carry what was negotiated. -/
theorem Assembled.hasFormats (assembled : before.Assembled) (configured : before.configure = .ok g)
    (builtIn : before.OnlyBuiltIn) : ∃ format, g.HasFormats format ∧ before.Spreads format := by
  have ready := assembled.ready configured
  have equipped := assembled.equipped_of_configure configured builtIn
  obtain ⟨formats, agrees, links⟩ := (configures_of_configure assembled configured).formats
  obtain ⟨format, spreads, carried⟩ := equipped.exists_spreads_of_agrees agrees
  refine ⟨format, ⟨ready.wired, ?_, ?_, ?_, ?_⟩, spreads⟩
  · intro k l link d
    obtain ⟨l', link', rfl⟩ := Option.map_eq_some_iff.1 ((links k).symm.trans link)
    have source := carried k l' link'
    cases d with
    | output => exact congrArg some source
    | input =>
      exact congrArg some (source.trans
        (spreads.along ⟨l', Array.mem_of_getElem? link', rfl, rfl⟩))
  · intro i n scheduled there
    exact ready.linked there (mem_live_iff.1
      (live_of_configure assembled configured scheduled there)).2
  · intro i n scheduled there source
    have live := live_of_configure assembled configured scheduled there
    have some_output := (equipped.made live).outputs_ne_nil source
    rw [← List.length_pos_iff, ← (equipped.isSetUp live).outputs_length] at some_output
    exact List.length_pos_iff.1 some_output
  · intro i n scheduled there
    have live := live_of_configure assembled configured scheduled there
    have kept := (equipped.made live).kept_eq
    have untouched := (ready.prepared there).untouched
    refine ⟨?_, fun p member => ?_, kept ▸ allOf_nil _, (equipped.isSetUp live).inputs_length⟩
    · simp [untouched.feed, AllOf]
    · simp [(untouched.inlets p member).queue, AllOf]

/-- Whatever a configured graph of built-in filters was asked for, its frames have the formats that
were negotiated: those in the feed of a source that of the link at its output, those in a queue, a
mixer or a sink that of the link at the input. A frame that is pulled has the format of the link to
the sink, with the numbers that the sink asks for. -/
theorem Reachable.frames_as_negotiated (reachable : before.Reachable)
    (configured : before.configure = .ok g) (builtIn : before.OnlyBuiltIn) (calls : List Call) :
    let now := calls.foldl Graph.after g
    (∀ i n, (i, n) ∈ now.live →
      (n.role = .source → ∀ frame ∈ n.feed.toList,
        g.formatAt .output ⟨i, 0⟩ = some frame.format) ∧
      (∀ pad p, n.inputs[pad]? = some p → ∀ frame ∈ p.queue.toList,
        g.formatAt .input ⟨i, pad⟩ = some frame.format) ∧
      (∀ m pad lane, n.filter = .mixer m → m.lanes[pad]? = some lane → ∀ frame ∈ lane.queue.toList,
        g.formatAt .input ⟨i, pad⟩ = some frame.format) ∧
      ∀ s, n.filter = .sink s → ∀ frame ∈ s.queue.toList,
        g.formatAt .input ⟨i, 0⟩ = some frame.format) ∧
    ∀ id frame, (now.pull id).2 = .ok (some frame) →
      g.formatAt .input ⟨id.index, 0⟩ = some frame.format ∧
      ∀ n, now.nodes[id.index]? = some n → Meets n.applied.numbers frame.format.numbers := by
  intro now
  have assembled := reachable.assembled (unconfigured_of_configure configured)
  have ready := assembled.ready configured
  have equipped := assembled.equipped_of_configure configured builtIn
  obtain ⟨format, start, spreads⟩ := assembled.hasFormats configured builtIn
  have ran : g.Ran := ⟨g, [], ready, .refl g⟩
  obtain ⟨es, run⟩ := ran.exists_runs_calls calls
  have has : now.HasFormats format := start.runs run
  have at_pad : ∀ {i : Nat} {n : Node BuiltIn}, i ∈ now.schedule → now.nodes[i]? = some n →
      ∀ {d : Direction} {pad : Nat}, pad < n.padCount d →
        g.formatAt d ⟨i, pad⟩ = some (format i) := by
    intro i n scheduled there d pad inside
    rw [← run.evolves.formatAt_eq]
    exact has.formatAt_eq scheduled there inside
  refine ⟨fun i n live => ?_, fun id frame pulled => ?_⟩
  · obtain ⟨there, alive⟩ := mem_live_iff.1 live
    have scheduled := ready.mem_schedule run (isLiveAt_iff.2 ⟨n, there, alive⟩)
    have holds := has.holds scheduled there
    have at_input : ∀ {pad : Nat}, pad < n.inputs.length →
        g.formatAt .input ⟨i, pad⟩ = some (format i) := fun inside =>
      at_pad (d := .input) scheduled there inside
    refine ⟨fun source frame member => ?_, fun pad p inlet frame member => ?_,
      fun m pad lane mixer at_lane frame member => ?_, fun s sink frame member => ?_⟩
    · have opens := List.length_pos_iff.2 (has.opens scheduled there source)
      rw [at_pad (d := .output) scheduled there opens, holds.feed frame member]
    · rw [at_input (List.getElem?_eq_some_iff.1 inlet).1,
        holds.queues p (List.mem_of_getElem? inlet) frame member]
    · obtain ⟨inside, queue⟩ := holds.lane mixer at_lane
      rw [at_input inside, queue frame member]
    · obtain ⟨inside, queue⟩ := holds.sink sink
      rw [at_input inside, queue frame member]
  · obtain ⟨⟨e, refused⟩, _⟩ | ⟨n, sink, _, pulls⟩ := now.pull_cases id
    · simp [refused] at pulled
    · obtain ⟨_, _, there, alive, role⟩ := running_eq_ok_iff.1 sink
      have scheduled := ready.mem_schedule run (isLiveAt_of_running sink)
      have same : frame.format = format id.index := has.format_of_pull scheduled sink pulls pulled
      obtain ⟨first, at_first, via⟩ := run.evolves.before there
      have live := live_of_configure assembled configured
        (run.evolves.schedule ▸ scheduled) at_first
      obtain ⟨name, s, filter⟩ := (equipped.made live).exists_sink (via.role.symm.trans role)
      have inside : 0 < n.inputs.length := by
        rw [via.inputs_length, (equipped.isSetUp live).inputs_length, filter]
        exact Nat.one_pos
      refine ⟨?_, fun m there' => ?_⟩
      · rw [at_pad (d := .input) scheduled there inside, same]
      · obtain rfl := Option.some.inj (there.symm.trans there')
        rw [via.applied, same]
        exact equipped.meets_of_sink spreads live name

/-- The frame that waits at the source and the one that comes out of the sink have the format of the
link between them. -/
theorem format_of_fedOnce :
    (∀ n, (0, n) ∈ fedOnce.live → n.role = .source → ∀ frame ∈ n.feed.toList,
      sourceAndSink.formatAt .output ⟨0, 0⟩ = some frame.format) ∧
    (fedOnce.pull ⟨⟨0⟩, 1⟩).2 = .ok (some ⟨⟨48000, 2⟩, some 0, .empty⟩) ∧
      sourceAndSink.formatAt .input ⟨1, 0⟩ = some ⟨48000, 2⟩ := by
  obtain ⟨held, pulled⟩ := (reachable_blank.calls sourceToSink).frames_as_negotiated
    configure_eq_sourceAndSink onlyBuiltIn_sourceToSink
    [.request (.push ⟨⟨0⟩, 0⟩ (some ⟨⟨48000, 2⟩, none, .empty⟩))]
  have frame := congrArg Prod.snd pull_fedOnce
  exact ⟨fun n live => (held 0 n live).1, frame, (pulled ⟨⟨0⟩, 1⟩ _ frame).1⟩

end Graph
end FrameFlow
