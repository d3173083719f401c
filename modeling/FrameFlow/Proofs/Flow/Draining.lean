import FrameFlow.Proofs.Filter.Lawful
import FrameFlow.Proofs.Flow.Collecting
import FrameFlow.Proofs.Flow.Quiet

/-! The end of a stream gets through. Where no node has work, a node whose inputs have all ended was
flushed, and a flush closes all outputs. So once the sources have ended, the ends come down link by
link, and a sink that is drained is exhausted. -/
namespace FrameFlow

variable {σ τ : Type}

/-- Whether an event is the end of the stream of a source. -/
def Event.endsAt (i : Nat) : Event σ → Bool
  | .ended j => j == i
  | _ => false

theorem ended_mem_of_any {i : Nat} {es : List (Event σ)} (found : es.any (Event.endsAt i)) :
    .ended i ∈ es := by
  obtain ⟨e, member, same⟩ := List.any_eq_true.1 found
  cases e with
  | ended j =>
    obtain rfl : j = i := by simpa [Event.endsAt] using same
    exact member
  | _ => simp [Event.endsAt] at same

/-- Every flush leaves a tray that can mark each output of its node as closed. -/
def MarksAll (es : List (Event σ)) : Prop :=
  ∀ c, .invoked c ∈ es → c.work = .flush → c.node.outputs.length ≤ c.turn.tray.outputs

theorem marksAll_cons_iff {e : Event σ} {es : List (Event σ)} :
    MarksAll (e :: es) ↔ MarksAll [e] ∧ MarksAll es := by
  simp only [MarksAll, List.mem_cons, List.not_mem_nil, or_false, or_imp, forall_and]

namespace Node

variable {n m : Node σ} {work : Work}

/-- A filter that was flushed without failing has no open output left. -/
def Finished (n : Node σ) : Prop := n.flushed → n.life ≠ .failed → ∀ p ∈ n.outputs, p.closed

/-- A node that can get no more to work on was flushed once it has no work. -/
theorem flushed_of_ends (idle : n.hasWork = false)
    (bare : n.inputs = [] → n.role = .source ∧ n.feedEnded)
    (ends : n.inputs ≠ [] → n.role ≠ .source ∧ ∀ q ∈ n.inputs, q.ended) : n.flushed := by
  by_cases none : n.inputs = []
  · obtain ⟨source, ended⟩ := bare none
    exact (source_idle source idle).2 ended
  · obtain ⟨inner, ended⟩ := ends none
    obtain ⟨handled, flush⟩ := inner_idle inner idle
    exact flush none fun q member => (handled q member).2 (ended q member)

theorem Takes.feedEnded (takes : n.Takes work m) : m.feedEnded = n.feedEnded := by
  cases takes <;> rfl

variable [Filter σ]

/-- A flush that goes well closes every output of its node that its tray can mark. -/
theorem closed_of_flush {tray : Tray} (marks : n.outputs.length ≤ (n.invoke .flush tray).tray.outputs)
    (fine : (n.invoke .flush tray).fault = none) {p : Outlet}
    (member : p ∈ (n.closeOutputs (n.invoke .flush tray).tray.closed).outputs) : p.closed := by
  obtain ⟨pad, before, outlet, _, closed⟩ := mem_closeOutputs member
  have flushed : (Filter.onFlush n.filter tray).fault = none := by
    unfold invoke at fine
    dsimp only at fine
    split at fine
    · exact fine
    · exact fine
  have all : (n.invoke .flush tray).tray = (Filter.onFlush n.filter tray).tray.closeAll := by
    unfold invoke
    simp [flushed]
  have inside : pad < (Filter.onFlush n.filter tray).tray.closed.length := by
    rw [all, Tray.outputs_closeAll] at marks
    exact Nat.lt_of_lt_of_le (List.getElem?_eq_some_iff.1 outlet).1 marks
  rw [closed, all]
  simp [Tray.closeAll, inside]

end Node

namespace Graph

section Events

variable [Filter σ] {g h start : Graph σ} {e : Event σ} {es : List (Event σ)} {i j : Nat}
  {n m : Node σ}

theorem Happens.finished (running : g.Running) (event : g.Happens e h) (marks : MarksAll [e])
    (finished : ∀ {i : Nat} {n : Node σ}, g.nodes[i]? = some n → n.Finished)
    (there : h.nodes[i]? = some m) : m.Finished := by
  rw [event.nodes running.wired] at there
  obtain ⟨n, before, rfl⟩ := Option.map_eq_some_iff.1 there
  have kept := finished before
  unfold Event.effect
  split
  · split <;> exact kept
  · split <;> exact kept
  · split <;> exact kept
  · next c =>
    split
    · next here =>
      obtain ⟨at_node, takes⟩ := event.takes
      have fresh := running.fresh_of_takes at_node takes
      intro flushed sound
      cases fault : c.turn.fault with
      | some f =>
        refine absurd ?_ sound
        show c.left.life = .failed
        simp [Invocation.left, fault]
      | none =>
        have left : c.left =
            { c.rest with filter := c.turn.state }.closeOutputs c.turn.tray.closed := by
          simp [Invocation.left, fault]
        have flush : c.work = .flush := by
          have marked : c.rest.flushed := by
            have marked : c.left.flushed := flushed
            rw [left] at marked
            exact marked
          exact (takes.flushed_iff.1 marked).resolve_left (by simp [fresh])
        intro p member
        have member : p ∈ c.left.outputs := member
        rw [left] at member
        have marked := marks c (List.mem_singleton_self _) flush
        rw [← takes.outputs] at marked
        rw [event.turn, flush] at member fault marked
        exact Node.closed_of_flush marked fault member
    · exact kept

/-- Filters that only emit frames and close outputs on the trays that they are given can mark all. -/
theorem Runs.marksAll [LawfulFilter σ] (run : g.Runs es h) : MarksAll es := by
  intro c member flush
  induction run with
  | refl => simp at member
  | next event _ ih =>
    rcases List.mem_cons.1 member with rfl | later
    · rw [event.turn, c.rest.outputs_invoke, event.takes.2.outputs]
    · exact ih later

theorem Ready.finished (ready : g.Ready) (there : g.nodes[i]? = some n) : n.Finished := by
  intro flushed
  simp [(ready.prepared there).untouched.flushed] at flushed

theorem Runs.finished (running : g.Running) (run : g.Runs es h) (marks : MarksAll es)
    (finished : ∀ {i : Nat} {n : Node σ}, g.nodes[i]? = some n → n.Finished)
    (there : h.nodes[i]? = some m) : m.Finished := by
  induction run with
  | refl => exact finished there
  | next event _ ih =>
    obtain ⟨now, later⟩ := marksAll_cons_iff.1 marks
    exact ih (running.happens event) later (event.finished running now finished) there

theorem Happens.feedEnded (wired : g.Wired) (event : g.Happens e h) (there : g.nodes[i]? = some n)
    (there' : h.nodes[i]? = some m) (closing : n.feedEnded ∨ e = .ended i) : m.feedEnded := by
  rw [event.nodes wired, there, Option.map_some, Option.some.injEq] at there'
  subst there'
  cases e with
  | ended j =>
    show (if i = j then { n with feedEnded := true } else n).feedEnded
    split
    · rfl
    · next other => exact closing.resolve_right fun same => other (Event.ended.inj same).symm
  | invoked c =>
    have closing := closing.resolve_right (by simp)
    show (if i = c.index then c.left else n).feedEnded
    split
    · next here =>
      obtain ⟨at_node, takes⟩ := event.takes
      obtain rfl := Option.some.inj (there.symm.trans (here ▸ at_node))
      have left : c.left.feedEnded = c.rest.feedEnded := by
        unfold Invocation.left
        split <;> rfl
      rw [left, takes.feedEnded, closing]
    · exact closing
  | _ =>
    have closing := closing.resolve_right (by simp)
    unfold Event.effect
    dsimp only
    split <;> exact closing

/-- A source that has accepted its end keeps it. -/
theorem Runs.feedEnded (wired : g.Wired) (run : g.Runs es h) (there : h.nodes[i]? = some m)
    (closing : (∃ n, g.nodes[i]? = some n ∧ n.feedEnded) ∨ .ended i ∈ es) : m.feedEnded := by
  induction run with
  | refl =>
    obtain ⟨n, there', ended⟩ | ended := closing
    · obtain rfl := Option.some.inj (there.symm.trans there')
      exact ended
    · simp at ended
  | next event run ih =>
    refine ih (event.evolves.wired wired) there ?_
    obtain ⟨n, before, _⟩ := (event.evolves.trans run.evolves).before there
    obtain ⟨k, after, _⟩ := event.evolves.nodes before
    rcases closing with ⟨n', there', ended⟩ | ended
    · obtain rfl := Option.some.inj (before.symm.trans there')
      exact .inl ⟨k, after, event.feedEnded wired before after (.inl ended)⟩
    · rcases List.mem_cons.1 ended with rfl | later
      · exact .inl ⟨k, after, event.feedEnded wired before after (.inr rfl)⟩
      · exact .inr later

/-- A graph in which no node has work or has failed, and in which all sources that lead to some place
have ended. -/
structure Spent (start g : Graph σ) (i : Nat) : Prop where
  ready : start.Ready
  evolves : start.Evolves g
  live : start.isLiveAt i
  running : g.Running
  unfailed : g.Unfailed
  idle : g.Idle
  finished : ∀ {j : Nat} {n : Node σ}, g.nodes[j]? = some n → n.Finished
  bare : ∀ {j : Nat} {n : Node σ}, g.nodes[j]? = some n → n.role = .source → n.inputs = []
  roots : ∀ {j : Nat} {n : Node σ}, g.nodes[j]? = some n → n.inputs = [] → g.LeadsTo j i →
    n.role = .source ∧ n.feedEnded

theorem Ready.spent (ready : start.Ready) (run : start.Runs es g) (marks : MarksAll es)
    (live : start.isLiveAt i) (unfailed : g.Unfailed) (idle : g.Idle)
    (bare : ∀ (j : Nat) (m : Node σ), start.nodes[j]? = some m → m.role = .source → m.inputs = [])
    (ended : ∀ (j : Nat) (m : Node σ), start.nodes[j]? = some m → m.inputs = [] →
      start.LeadsTo j i → m.role = .source ∧ .ended j ∈ es) : Spent start g i where
  ready := ready
  evolves := run.evolves
  live := live
  running := ready.running.runs run
  unfailed := unfailed
  idle := idle
  finished there := run.finished ready.running marks ready.finished there
  bare := by
    intro j n there source
    obtain ⟨first, at_first, via⟩ := run.evolves.before there
    have none := bare j first at_first (via.role ▸ source)
    exact List.length_eq_zero_iff.1 (by rw [via.inputs_length, none]; rfl)
  roots := by
    intro j n there none leads
    obtain ⟨first, at_first, via⟩ := run.evolves.before there
    have none' : first.inputs = [] :=
      List.length_eq_zero_iff.1 (by rw [← via.inputs_length, none]; rfl)
    rw [LeadsTo, run.evolves.feeds] at leads
    obtain ⟨source, ended⟩ := ended j first at_first none' leads
    exact ⟨via.role.trans source, run.feedEnded ready.wired there (.inr ended)⟩

namespace Spent

variable {k : Nat} {l : Link}

/-- A node was flushed if the links at its inputs have ended. -/
theorem flushed (spent : Spent start g i) (there : g.nodes[j]? = some n) (leads : g.LeadsTo j i)
    (ends : ∀ q ∈ n.inputs, q.ended) : n.flushed := by
  have quiet := spent.idle.quiet spent.ready spent.evolves spent.live leads
  rw [hasWorkAt, there] at quiet
  refine Node.flushed_of_ends quiet (fun none => spent.roots there none leads) fun some_input => ?_
  exact ⟨fun source => some_input (spent.bare there source), ends⟩

/-- The end has come over every link that leads there, from the sources down. -/
theorem ended (spent : Spent start g i) (link : g.links[k]? = some l) {q : Inlet}
    (inlet : g.inletAt l.target = some q) (leads : g.LeadsTo l.target.node i) : q.ended := by
  have wired := spent.running.wired
  have same := spent.evolves.links
  suffices all : ∀ l q, g.links[k]? = some l → g.inletAt l.target = some q →
      g.LeadsTo l.target.node i → q.ended from all l q link inlet leads
  apply spent.ready.schedules.link_induction (P := fun k => ∀ l q, g.links[k]? = some l →
    g.inletAt l.target = some q → g.LeadsTo l.target.node i → q.ended) spent.ready.wired _
    (same ▸ link)
  intro k l first link at_first before l' q link' inlet leads
  obtain rfl := Option.some.inj ((same ▸ link').symm.trans link)
  obtain ⟨n, there, via⟩ := spent.evolves.nodes at_first
  have feeds : g.Feeds l'.source.node l'.target.node :=
    ⟨l', Array.mem_of_getElem? link', rfl, rfl⟩
  have ends : ∀ q ∈ n.inputs, q.ended := by
    intro q' member
    obtain ⟨pad, at_pad⟩ := List.mem_iff_getElem?.1 member
    obtain ⟨k', noted⟩ := spent.running.linked there at_pad
    obtain ⟨p', at_start, noted'⟩ := via.exists_inlet member
    obtain ⟨l'', link'', target⟩ := (wired.inlet_link_iff there at_pad).1 noted
    refine before p' at_start k' (noted'.trans noted) l'' q' link'' ?_ ?_
    · rw [target]
      exact inletAt_eq_some there at_pad
    · rw [target]
      exact .head feeds leads
  have flushed := spent.flushed there (.head feeds leads) ends
  obtain ⟨p, outlet, _⟩ := wired.outlet_at_source link'
  obtain ⟨n', there', at_pad⟩ := Option.bind_eq_some_iff.1 outlet
  obtain rfl := Option.some.inj (there.symm.trans there')
  have sound : n.life ≠ .failed := (spent.unfailed.healthy _).usable there
  rw [spent.running.ended link' outlet inlet]
  exact spent.finished there flushed sound p (List.mem_of_getElem? at_pad)

/-- Every node that leads there was flushed. -/
theorem flushed_of_leadsTo (spent : Spent start g i) (there : g.nodes[j]? = some n)
    (leads : g.LeadsTo j i) : n.flushed := by
  apply spent.flushed there leads
  intro q member
  obtain ⟨pad, at_pad⟩ := List.mem_iff_getElem?.1 member
  obtain ⟨k, noted⟩ := spent.running.linked there at_pad
  obtain ⟨l, link, target⟩ := (spent.running.wired.inlet_link_iff there at_pad).1 noted
  refine spent.ended link ?_ ?_
  · rw [target]
    exact inletAt_eq_some there at_pad
  · rw [target]
    exact leads

end Spent

/-- The events that a drain brings about. -/
def drainEvents (g : Graph σ) (id : NodeId) : List (Event σ) :=
  match _pulling : g.pull id with
  | (after, .ok (some _)) => g.pullEvents id ++ after.drainEvents id
  | _ => g.pullEvents id
termination_by Load.Measure.mk (g.sinkLoad id.index)
decreasing_by exact sinkLoad_pull _pulling

theorem drainEvents_of_frame {id : NodeId} {after : Graph σ} {frame : Frame}
    (pulling : g.pull id = (after, .ok (some frame))) :
    g.drainEvents id = g.pullEvents id ++ after.drainEvents id := by
  rw [drainEvents]
  split
  · next pulling' =>
    obtain ⟨rfl, _⟩ := Prod.mk.inj (pulling.symm.trans pulling')
    rfl
  · next other => exact (other after frame pulling).elim

theorem drainEvents_of_last {id : NodeId} (last : ∀ frame, (g.pull id).2 ≠ .ok (some frame)) :
    g.drainEvents id = g.pullEvents id := by
  rw [drainEvents]
  split
  · next pulling => exact absurd (congrArg Prod.snd pulling) (last _)
  · rfl

theorem exists_runs_drainEvents (g : Graph σ) (id : NodeId) : ∃ h, g.Runs (g.drainEvents id) h := by
  fun_induction drainEvents g id with
  | case1 g after frame pulling ih =>
    obtain ⟨h, later⟩ := ih
    have now := g.runs_pull id
    rw [pulling] at now
    exact ⟨h, now.trans later⟩
  | case2 g _ => exact ⟨_, g.runs_pull id⟩

/-- The events of a drain that is given up after some pulls, and each pull after some rounds. -/
def drainEventsWithin (rounds : Nat) (id : NodeId) : Nat → Graph σ → Option (List (Event σ))
  | 0, _ => none
  | pulls + 1, g =>
    match traceWithin rounds g id with
    | none => none
    | some ((after, .ok (some _)), es) =>
      (drainEventsWithin rounds id pulls after).map (es ++ ·)
    | some (_, es) => some es

theorem drainEvents_eq_of_within {rounds pulls : Nat} {id : NodeId}
    (within : drainEventsWithin rounds id pulls g = some es) : g.drainEvents id = es := by
  induction pulls generalizing g es with
  | zero => simp [drainEventsWithin] at within
  | succ pulls ih =>
    unfold drainEventsWithin at within
    split at within
    · simp at within
    · next traced =>
      obtain ⟨later, found, rfl⟩ := Option.map_eq_some_iff.1 within
      obtain ⟨pulled, events⟩ := pull_eq_of_traceWithin traced
      rw [drainEvents_of_frame pulled, events, ih found]
    · next result _ last traced =>
      obtain ⟨pulled, events⟩ := pull_eq_of_traceWithin traced
      rw [drainEvents_of_last fun frame got => ?_, events]
      · exact Option.some.inj within
      · rw [pulled] at got
        exact last result.1 frame (Prod.ext rfl got)

end Events

section Sink

variable [Filter τ] {g h start : Graph (BuiltIn ⊕ τ)} {id : NodeId} {n : Node (BuiltIn ⊕ τ)}
  {s : Sink}

theorem exists_drainEvents_eq (g : Graph (BuiltIn ⊕ τ)) (id : NodeId) :
    ∃ later, g.drainEvents id = g.pullEvents id ++ later := by
  rw [drainEvents]
  split
  · exact ⟨_, rfl⟩
  · exact ⟨[], (List.append_nil _).symm⟩

/-- Where no call fails, a drain is pulls with a frame and then one without. -/
theorem Buffering.drainOnto_eq (buffering : Buffering g id.index n s)
    (sink : g.running id .sink = .ok n) (faultless : Faultless (g.drainEvents id))
    (frames : List Frame) :
    ∃ got count, let pulls : List Request := List.replicate count (.pull id)
      drainOnto frames g id = (((g.serveAll pulls).1.pull id).1, .ok got) ∧
        ((g.serveAll pulls).1.pull id).2 = .ok none ∧
        g.drainEvents id = (g.serveAll pulls).2 ++ (g.serveAll pulls).1.pullEvents id := by
  fun_induction drainOnto frames g id generalizing n s with
  | case1 frames g after e pulling =>
    obtain ⟨later, events⟩ := g.exists_drainEvents_eq id
    rw [events, faultless_append_iff] at faultless
    obtain ⟨answer, answers⟩ := buffering.exists_pull_eq_ok sink faultless.1
    simp [pulling] at answers
  | case2 frames g after pulling =>
    refine ⟨frames, 0, ?_, congrArg Prod.snd pulling,
      drainEvents_of_last (by simp [pulling])⟩
    show (after, _) = ((g.pull id).1, _)
    rw [pulling]
  | case3 frames g after frame pulling ih =>
    have events := drainEvents_of_frame pulling
    rw [events, faultless_append_iff] at faultless
    have run := g.runs_pull id
    rw [pulling] at run
    obtain ⟨m, t, onward, _⟩ := buffering.runs run faultless.1
    obtain ⟨got, count, result, empty, rest⟩ :=
      ih onward (onward.sink run.evolves sink) faultless.2
    have session : g.serveAll (List.replicate (count + 1) (.pull id)) =
        ((after.serveAll (List.replicate count (.pull id))).1,
          g.pullEvents id ++ (after.serveAll (List.replicate count (.pull id))).2) := by
      simp only [List.replicate_succ, serveAll, serve, pulling]
    refine ⟨got, count + 1, ?_⟩
    simp only [session]
    exact ⟨result, empty, by rw [events, rest, List.append_assoc]⟩

theorem Buffering.drain_eq (buffering : Buffering g id.index n s)
    (sink : g.running id .sink = .ok n) (faultless : Faultless (g.drainEvents id)) :
    ∃ got count, let pulls : List Request := List.replicate count (.pull id)
      g.drain id = (((g.serveAll pulls).1.pull id).1, .ok got) ∧
        ((g.serveAll pulls).1.pull id).2 = .ok none ∧
        g.drainEvents id = (g.serveAll pulls).2 ++ (g.serveAll pulls).1.pullEvents id := by
  obtain ⟨got, count, result, empty, events⟩ := buffering.drainOnto_eq sink faultless []
  refine ⟨got.reverse, count, ?_, empty, events⟩
  rw [drain, result]
  rfl

omit [Filter τ] in
/-- A sink that waits is not over. -/
theorem Buffering.unflushed_of_waiting {i : Nat} {exhausted : Bool} (buffering : Buffering g i n s)
    (waiting : g.Waiting i exhausted) : n.flushed = false := by
  obtain ⟨m, t, there, filter, empty, _⟩ := waiting.sink
  obtain rfl := Option.some.inj (buffering.there.symm.trans there)
  obtain rfl := BuiltIn.sink.inj (Sum.inl.inj (buffering.buffers.filter.symm.trans filter))
  rw [← buffering.buffers.ended, Bool.eq_false_iff]
  intro ended
  obtain popped | ⟨⟨frame, rest⟩, popped⟩ := s.queue.pop?.eq_none_or_eq_some
  · have nothing := Queue.eq_empty_iff.2 (Queue.pop?_eq_none_iff.1 popped)
    simp [Sink.take_of_empty nothing, ended] at empty
  · simp [Sink.take_of_pop?_eq_some popped] at empty

end Sink

/-- A graph of built-in filters and sources that flush onto a tray of their own, without any nodes. -/
def blankOrReplacing (outputs : Nat) : Graph (BuiltIn ⊕ Replacing) :=
  ⟨⟨0⟩, .assemble (BuiltIn.kinds.map (Kind.map .inl)) [(Replacing.kind outputs).map .inr], .default, #[],
    #[], false, [], ⟨0, 0, 0, 0⟩⟩

/-- The calls that link such a source to a sink. -/
def replacingToSink : List Call :=
  [.allocate "replacing", .allocate "buffersink", .setUp ⟨⟨0⟩, 0⟩, .setUp ⟨⟨0⟩, 1⟩,
    .link ⟨⟨0⟩, 0⟩ 0 ⟨⟨0⟩, 1⟩ 0]

def replacing (outputs : Nat) : Graph (BuiltIn ⊕ Replacing) :=
  (replacingToSink.foldl Graph.after (blankOrReplacing outputs)).after .configure

theorem reachable_replacingToSink (outputs : Nat) :
    (replacingToSink.foldl Graph.after (blankOrReplacing outputs)).Reachable := by
  have created : Graph.create ⟨0⟩ (blankOrReplacing outputs).registry .default =
      .ok (blankOrReplacing outputs) := by rfl
  exact (Reachable.created created).calls replacingToSink

theorem configure_eq_replacing :
    (replacingToSink.foldl Graph.after (blankOrReplacing 0)).configure = .ok (replacing 0) := by rfl

theorem size_replacing : 1 < (replacing 0).nodes.size := by decide +kernel

end Graph
end FrameFlow
