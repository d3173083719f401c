import FrameFlow.Filter.BuiltIn
import FrameFlow.Filter.Sum
import FrameFlow.Proofs.Flow.Progress
import FrameFlow.Proofs.Flow.Session
import FrameFlow.Proofs.Stream.History

/-! Runs in which no call fails. No node fails in them, so every pull of a `buffersink` is answered,
whatever the other nodes are. A sink that is over stays over, and asking it takes no step. -/
namespace FrameFlow

variable {σ τ : Type}

/-- No call that the scheduler makes fails. -/
def Faultless (es : List (Event σ)) : Prop := ∀ c, .invoked c ∈ es → c.turn.fault = none

def Event.isSound : Event σ → Bool
  | .invoked c => c.turn.fault.isNone
  | _ => true

theorem all_isSound_iff {es : List (Event σ)} : es.all Event.isSound ↔ Faultless es := by
  rw [List.all_eq_true]
  constructor
  · intro sound c member
    simpa [Event.isSound] using sound _ member
  · intro faultless e member
    cases e with
    | invoked c => simp [Event.isSound, faultless c member]
    | _ => rfl

instance (es : List (Event σ)) : Decidable (Faultless es) := decidable_of_iff _ all_isSound_iff

theorem faultless_append_iff {es fs : List (Event σ)} :
    Faultless (es ++ fs) ↔ Faultless es ∧ Faultless fs := by
  simp only [Faultless, List.mem_append, or_imp, forall_and]

theorem faultless_cons_iff {e : Event σ} {es : List (Event σ)} :
    Faultless (e :: es) ↔ Faultless [e] ∧ Faultless es := by
  rw [← List.singleton_append, faultless_append_iff]

namespace Graph

def Unfailed (g : Graph σ) : Prop := ∀ j, g.hasFailed j = false

/-- No node that is scheduled has work. -/
def Idle (g : Graph σ) : Prop := ∀ j ∈ g.schedule, g.hasWorkAt j = false

variable {g h start : Graph σ} {i : Nat} {e : Event σ} {es : List (Event σ)}

theorem Unfailed.healthy (unfailed : g.Unfailed) (i : Nat) : g.Healthy i := fun j _ => unfailed j

variable [Filter σ]

theorem Ready.unfailed (ready : g.Ready) : g.Unfailed := by
  intro j
  obtain none | ⟨n, there⟩ := g.nodes[j]?.eq_none_or_eq_some
  · simp [hasFailed, none]
  · rw [Bool.eq_false_iff, ne_eq, hasFailed_iff there]
    intro failed
    have live : n.isLive := by simp [Node.isLive, failed]
    simp [ready.initialized there live] at failed

theorem Unfailed.runs (unfailed : g.Unfailed) (wired : g.Wired) (run : g.Runs es h)
    (faultless : Faultless es) : h.Unfailed := by
  induction run with
  | refl => exact unfailed
  | next event _ ih =>
    obtain ⟨now, later⟩ := faultless_cons_iff.1 faultless
    refine ih (fun j => ?_) (event.evolves.wired wired) later
    rw [event.hasFailed_eq wired fun c same => now c (same ▸ List.mem_singleton_self _)]
    exact unfailed j

theorem Running.runs (running : g.Running) (run : g.Runs es h) : h.Running := by
  induction run with
  | refl => exact running
  | next event _ ih => exact ih (running.happens event)

/-- A pull is answered where no node has failed, no call fails and the sink does not refuse. -/
theorem Unfailed.exists_pull_eq_ok (unfailed : g.Unfailed) (wired : g.Wired) {id : NodeId}
    {n : Node σ} (sink : g.running id .sink = .ok n) (faultless : Faultless (g.pullEvents id))
    (answers : ∀ fault, .asked id.index (.error fault) ∉ g.pullEvents id) :
    ∃ got, (g.pull id).2 = .ok got := by
  obtain ⟨configured, _, there, _⟩ := running_eq_ok_iff.1 sink
  have fed : g.failedFeeder id.index = none :=
    (failedFeeder_eq_none_iff wired (Array.getElem?_eq_some_iff.1 there).1).2 (unfailed.healthy _)
  have pulls := pulls_pull sink fed
  cases answer : (g.pull id).2 with
  | ok got => exact ⟨got, rfl⟩
  | error e =>
    exfalso
    obtain ⟨fault, asked, _⟩ | ⟨c, fault, called, failed, _⟩ | ⟨j, rfl⟩ :=
      pulls.error_cases wired configured answer
    · exact answers fault asked
    · simp [faultless c called] at failed
    · have held := (pulls.heldUp_iff wired configured).1 answer
      have failed := held.failed
      simp [unfailed j] at failed

/-- A sink is asked in the state in which it is. -/
theorem Happens.asks {offer : Except Fault Offer} (event : g.Happens (.asked i offer) h) :
    ∃ n, g.nodes[i]? = some n ∧ (Filter.take n.filter).2 = offer := by
  cases event with
  | asked sink asking =>
    obtain ⟨_, _, there, _⟩ := running_eq_ok_iff.1 sink
    exact ⟨_, there, congrArg Prod.snd asking⟩

end Graph

/-- A buffersink after some work. -/
def Sink.worked (s : Sink) : Work → Sink
  | .frame _ frame => { s with queue := s.queue.push frame }
  | .endOfInput _ => s
  | .flush => { s with ended := true }

theorem Sink.take_of_pop?_eq_some {s : Sink} {frame : Frame} {rest : Queue Frame}
    (popped : s.queue.pop? = some (frame, rest)) :
    s.take = ({ s with queue := rest }, .ok (.ready frame)) := by
  simp only [take, popped]

theorem Sink.take_of_empty {s : Sink} (empty : s.queue = .empty) :
    s.take = (s, .ok (if s.ended then .ended else .again)) := by
  have popped : s.queue.pop? = none := Queue.pop?_eq_none_iff.2 (Queue.eq_empty_iff.1 empty)
  simp only [take, popped]

theorem Sink.take_of_again {s : Sink} (waits : s.take.2 = .ok .again) : s.take = (s, .ok .again) := by
  obtain popped | ⟨⟨frame, rest⟩, popped⟩ := s.queue.pop?.eq_none_or_eq_some
  · have empty := Queue.eq_empty_iff.2 (Queue.pop?_eq_none_iff.1 popped)
    rw [take_of_empty empty] at waits ⊢
    rw [← waits]
  · simp [take_of_pop?_eq_some popped] at waits

/-- A sink never refuses to answer. -/
theorem Sink.exists_take_eq_ok (s : Sink) : ∃ offer, s.take.2 = .ok offer := by
  unfold take
  split
  · exact ⟨_, rfl⟩
  · exact ⟨_, rfl⟩

variable [Filter τ]

/-- A node of the kind `buffersink` with what it keeps. -/
structure Node.Buffers (n : Node (BuiltIn ⊕ τ)) (s : Sink) : Prop where
  filter : n.filter = .inl (.sink s)
  role : n.role = .sink
  ended : s.ended = n.flushed
  exhausted : n.exhausted → s.ended ∧ s.queue = .empty

namespace Node.Buffers

variable {n m : Node (BuiltIn ⊕ τ)} {s : Sink} {work : Work}

theorem take_eq (buffers : n.Buffers s) :
    Filter.take n.filter = (.inl (.sink s.take.1), s.take.2) := by
  rw [buffers.filter]
  rfl

theorem invoke_eq (filter : n.filter = .inl (.sink s)) (work : Work) (tray : Tray) :
    (n.invoke work tray).state = .inl (.sink (s.worked work)) := by
  cases work with
  | frame pad frame =>
    show (Filter.onFrame n.filter pad frame tray).state = _
    rw [filter]
    rfl
  | endOfInput pad =>
    show (Filter.onEnd n.filter pad tray).state = _
    rw [filter]
    rfl
  | flush =>
    have same : (n.invoke .flush tray).state = (Filter.onFlush n.filter tray).state := by
      unfold Node.invoke
      dsimp only
      split <;> rfl
    rw [same, filter]
    rfl

omit [Filter τ] in
theorem receive (buffers : n.Buffers s) (sent : List (Nat × Frame)) (ends : List Nat) :
    (n.receive sent ends).Buffers s :=
  ⟨buffers.filter, buffers.role, buffers.ended, buffers.exhausted⟩

/-- A sink is over once it has said so, and then it holds nothing. -/
theorem asked (buffers : n.Buffers s) : (n.asked s.take.2).Buffers s.take.1 := by
  have filter : (n.asked s.take.2).filter = .inl (.sink s.take.1) := by
    show (Filter.take n.filter).1 = _
    rw [buffers.take_eq]
  obtain popped | ⟨⟨frame, rest⟩, popped⟩ := s.queue.pop?.eq_none_or_eq_some
  · have empty := Queue.eq_empty_iff.2 (Queue.pop?_eq_none_iff.1 popped)
    rw [Sink.take_of_empty empty] at filter ⊢
    refine ⟨filter, buffers.role, buffers.ended, fun exhausted => ?_⟩
    by_cases ended : s.ended
    · exact ⟨ended, empty⟩
    · simp only [Node.asked, ended, Bool.false_eq_true, if_false, Bool.or_false] at exhausted
      exact buffers.exhausted exhausted
  · rw [Sink.take_of_pop?_eq_some popped] at filter ⊢
    refine ⟨filter, buffers.role, buffers.ended, fun exhausted => ?_⟩
    simp only [Node.asked, Bool.or_false] at exhausted
    rw [(buffers.exhausted exhausted).2] at popped
    simp [Queue.pop?_eq_some_iff] at popped

/-- Work only comes to a sink that is not over. -/
theorem worked {c : Invocation (BuiltIn ⊕ τ)} (buffers : c.node.Buffers s)
    (takes : c.node.Takes c.work c.rest) (fresh : c.node.flushed = false)
    (turn : c.turn = c.rest.invoke c.work (.start c.rest.closedOutputs)) :
    c.left.Buffers (s.worked c.work) := by
  have unexhausted : c.node.exhausted = false := by
    rw [Bool.eq_false_iff]
    intro exhausted
    have ended := (buffers.exhausted exhausted).1
    simp [buffers.ended, fresh] at ended
  have open_still : s.ended = false := buffers.ended.trans fresh
  have state : c.turn.state = .inl (.sink (s.worked c.work)) := by
    rw [turn]
    exact invoke_eq (takes.filter.trans buffers.filter) c.work _
  have left : c.left.filter = c.turn.state ∧ c.left.role = c.rest.role ∧
      c.left.flushed = c.rest.flushed ∧ c.left.exhausted = c.rest.exhausted := by
    unfold Invocation.left
    split <;> exact ⟨rfl, rfl, rfl, rfl⟩
  refine ⟨left.1.trans state, ?_, ?_, ?_⟩
  · rw [left.2.1, takes.role, buffers.role]
  · rw [left.2.2.1, Bool.eq_iff_iff, takes.flushed_iff]
    cases work : c.work <;> simp [Sink.worked, open_still, fresh]
  · rw [left.2.2.2, takes.exhausted, unexhausted]
    simp

end Node.Buffers

/-- A sink that says that it is over stays so. -/
theorem Graph.Happens.exhausted [Filter σ] {g h : Graph σ} {e : Event σ} {i : Nat} {n m : Node σ}
    (wired : g.Wired) (event : g.Happens e h) (there : g.nodes[i]? = some n)
    (there' : h.nodes[i]? = some m) (exhausted : n.exhausted) : m.exhausted := by
  rw [event.nodes wired, there, Option.map_some, Option.some.injEq] at there'
  subst there'
  unfold Event.effect
  split
  · split <;> exact exhausted
  · split <;> exact exhausted
  · split
    · simp [Node.asked, exhausted]
    · exact exhausted
  · next c =>
    show (if i = c.index then c.left else n).exhausted
    split
    · next here =>
      obtain ⟨at_node, takes⟩ := event.takes
      obtain rfl := Option.some.inj (there.symm.trans (here ▸ at_node))
      have left : c.left.exhausted = c.rest.exhausted := by
        unfold Invocation.left
        split <;> rfl
      rw [left, takes.exhausted, exhausted]
    · exact exhausted

namespace Graph

/-- A graph that runs without failures, and a buffersink in it. -/
structure Buffering (g : Graph (BuiltIn ⊕ τ)) (i : Nat) (n : Node (BuiltIn ⊕ τ)) (s : Sink) :
    Prop where
  running : g.Running
  unfailed : g.Unfailed
  there : g.nodes[i]? = some n
  buffers : n.Buffers s

variable {g h start : Graph (BuiltIn ⊕ τ)} {i : Nat} {n m : Node (BuiltIn ⊕ τ)} {s : Sink}
  {e : Event (BuiltIn ⊕ τ)} {es : List (Event (BuiltIn ⊕ τ))} {id : NodeId}

/-- A buffersink that was just configured is empty. -/
theorem Ready.buffering (ready : g.Ready) (sink : g.running id .sink = .ok n)
    (kind : n.kind = (Sink.kind.map .sink).map .inl) : ∃ s, Buffering g id.index n s := by
  obtain ⟨_, _, there, live, role⟩ := running_eq_ok_iff.1 sink
  have prepared := ready.prepared there
  have setUp := (prepared.isSetUp (ready.initialized there live)).filter
  rw [kind] at setUp
  obtain ⟨b, inner, filter⟩ := map_eq_ok_iff.1 setUp
  obtain ⟨s, own, rfl⟩ := map_eq_ok_iff.1 inner
  obtain ⟨required, _, rfl⟩ := map_eq_ok_iff.1 own
  refine ⟨_, ready.running, ready.unfailed, there, filter.symm, role, ?_, ?_⟩
  · exact prepared.untouched.flushed.symm
  · simp [prepared.untouched.exhausted]

namespace Buffering

theorem happens (buffering : Buffering g i n s) (event : g.Happens e h) (faultless : Faultless [e]) :
    ∃ m s', Buffering h i m s' ∧ (n.exhausted → m.exhausted) := by
  obtain ⟨running, unfailed, there, buffers⟩ := buffering
  have running' := running.happens event
  have unfailed' := unfailed.runs running.wired (.single event) faultless
  have there' : h.nodes[i]? = some (e.effect i n) := by
    rw [event.nodes running.wired, there, Option.map_some]
  have kept : ∃ s', (e.effect i n).Buffers s' := by
    unfold Event.effect
    split
    · split
      · exact ⟨s, buffers.filter, buffers.role, buffers.ended, buffers.exhausted⟩
      · exact ⟨s, buffers⟩
    · split
      · exact ⟨s, buffers.filter, buffers.role, buffers.ended, buffers.exhausted⟩
      · exact ⟨s, buffers⟩
    · split
      · next here =>
        obtain ⟨k, at_node, rfl⟩ := event.asks
        obtain rfl := Option.some.inj (there.symm.trans (here ▸ at_node))
        rw [buffers.take_eq]
        exact ⟨_, buffers.asked⟩
      · exact ⟨s, buffers⟩
    · next c =>
      split
      · next here =>
        obtain ⟨at_node, takes⟩ := event.takes
        obtain rfl := Option.some.inj (there.symm.trans (here ▸ at_node))
        have fresh := running.fresh_of_takes at_node takes
        exact ⟨_, (buffers.worked takes fresh event.turn).receive _ _⟩
      · exact ⟨s, buffers.receive _ _⟩
  obtain ⟨s', kept⟩ := kept
  exact ⟨_, s', ⟨running', unfailed', there', kept⟩, event.exhausted running.wired there there'⟩

theorem runs (buffering : Buffering g i n s) (run : g.Runs es h) (faultless : Faultless es) :
    ∃ m s', Buffering h i m s' ∧ (n.exhausted → m.exhausted) := by
  induction run generalizing n s with
  | refl => exact ⟨n, s, buffering, fun exhausted => exhausted⟩
  | next event _ ih =>
    obtain ⟨now, later⟩ := faultless_cons_iff.1 faultless
    obtain ⟨m, s', onward, exhausted⟩ := buffering.happens event now
    obtain ⟨k, s'', last, exhausted'⟩ := ih onward later
    exact ⟨k, s'', last, exhausted' ∘ exhausted⟩

omit [Filter τ] in
theorem sink (buffering : Buffering h id.index m s) (evolves : g.Evolves h)
    (sink : g.running id .sink = .ok n) : h.running id .sink = .ok m := by
  obtain ⟨k, sink', _⟩ := evolves.running sink
  obtain rfl := Option.some.inj (buffering.there.symm.trans (running_eq_ok_iff.1 sink').2.2.1)
  exact sink'

variable (buffering : Buffering g id.index n s) (sink : g.running id .sink = .ok n)

include buffering sink

omit [Filter τ] sink in
theorem failedFeeder_eq_none : g.failedFeeder id.index = none :=
  (failedFeeder_eq_none_iff buffering.running.wired
    (Array.getElem?_eq_some_iff.1 buffering.there).1).2 (buffering.unfailed.healthy _)

/-- Where no call fails, every pull is answered. -/
theorem exists_pull_eq_ok (faultless : Faultless (g.pullEvents id)) :
    ∃ got, (g.pull id).2 = .ok got := by
  refine buffering.unfailed.exists_pull_eq_ok buffering.running.wired sink faultless ?_
  intro fault asked
  obtain ⟨before, after, events⟩ := List.append_of_mem asked
  rw [events] at faultless
  obtain ⟨h, first, rest⟩ := (events ▸ g.runs_pull id).split
  obtain ⟨m, s', there, _⟩ := buffering.runs first (faultless_append_iff.1 faultless).1
  cases rest with
  | next event _ =>
    obtain ⟨k, at_node, refused⟩ := event.asks
    obtain rfl := Option.some.inj (there.there.symm.trans at_node)
    obtain ⟨offer, answers⟩ := s'.exists_take_eq_ok
    rw [there.buffers.take_eq, answers] at refused
    simp at refused

omit [Filter τ] buffering in
theorem isExhausted_eq : g.isExhausted id = .ok n.exhausted := by
  rw [isExhausted, sink]
  rfl

/-- The pull of a sink that is over asks the sink and does no more. -/
theorem pull_of_exhausted (exhausted : n.exhausted) :
    g.pull id = ((g.askSink id.index n).1, .ok none) := by
  obtain ⟨ended, empty⟩ := buffering.buffers.exhausted exhausted
  have offer : (Filter.take n.filter).2 = .ok .ended := by
    rw [buffering.buffers.take_eq, Sink.take_of_empty empty, ended, if_pos rfl]
  have asking : g.askSink id.index n = ((g.askSink id.index n).1, .ok .ended) :=
    Prod.ext rfl offer
  unfold pull
  simp only [sink, buffering.failedFeeder_eq_none]
  exact pullFrom_of_final buffering.there asking (by simp)

/-- A sink that is over stays so through a session, and then a pull brings nothing and takes no
step. -/
theorem exhausted_lasts (exhausted : n.exhausted) (requests : List Request)
    (faultless : Faultless (g.serveAll requests).2) :
    let last := (g.serveAll requests).1
    last.isExhausted id = .ok true ∧ (last.pull id).2 = .ok none ∧
      (last.pull id).1.stats.steps = last.stats.steps := by
  intro last
  have run := g.runs_serveAll requests
  obtain ⟨m, _, at_last, stays⟩ := buffering.runs run faultless
  have sink_last := at_last.sink run.evolves sink
  rw [isExhausted_eq sink_last, at_last.pull_of_exhausted sink_last (stays exhausted),
    stays exhausted]
  exact ⟨rfl, rfl, rfl⟩

/-- Where no node has work, the pull of an empty sink asks the sink and does no more. -/
theorem pull_of_idle (waits : s.take.2 = .ok .again) (idle : g.Idle) :
    g.pull id = ((g.askSink id.index n).1, .ok none) := by
  have offer : (Filter.take n.filter).2 = .ok .again := by rw [buffering.buffers.take_eq, waits]
  have asking : g.askSink id.index n = ((g.askSink id.index n).1, .ok .again) :=
    Prod.ext rfl offer
  have quiet : (g.askSink id.index n).1.step = none := by
    have none : (g.askSink id.index n).1.schedule.find? (g.askSink id.index n).1.hasWorkAt = none := by
      rw [List.find?_eq_none, schedule_askSink asking]
      intro j member
      rw [hasWorkAt_askSink buffering.there asking, idle j member]
      decide
    simp only [step, nextToWork, none]
    rfl
  unfold pull
  simp only [sink, buffering.failedFeeder_eq_none]
  rw [pullFrom_of_again buffering.there asking, quiet]

end Buffering
end Graph
end FrameFlow
