import FrameFlow.Proofs.Flow.Isolation
import FrameFlow.Proofs.Flow.Session

/-! Failures last. The pull in which a filter fails tells so, and from then on every pull from a sink
that the failed node feeds is refused, whatever is called in between. A node that failed is neither
called nor given up nor set up again. -/
namespace FrameFlow

variable {σ : Type}

/-- Whether an event is a call of a node that ends with this fault. -/
def Event.breaks (i : Nat) (fault : Fault) : Event σ → Bool
  | .invoked c => c.index == i && c.turn.fault == some fault
  | _ => false

namespace Graph

variable {g h : Graph σ} {i j : Nat}

theorem Evolves.hasFailed (e : g.Evolves h) (failed : g.hasFailed j) : h.hasFailed j := by
  obtain none | ⟨n, there⟩ := g.nodes[j]?.eq_none_or_eq_some
  · simp [Graph.hasFailed, none] at failed
  · obtain ⟨m, there', via⟩ := e.nodes there
    have before := (hasFailed_iff there).1 failed
    exact (hasFailed_iff there').2 (via.life.elim (·.trans before) fun fails => fails)

theorem failedFeeder_eq_some (wired : g.Wired) (inside : i < g.nodes.size)
    (found : g.failedFeeder i = some j) : g.hasFailed j ∧ g.LeadsTo j i :=
  ⟨List.find?_some found,
    (wired.mem_reachedFrom_feeders_iff inside).1 (List.mem_of_find?_eq_some found)⟩

variable [Filter σ]

/-- A call that fails leaves its node failed. -/
theorem Happens.hasFailed_of_fault {c : Invocation σ} {fault : Fault} (wired : g.Wired)
    (event : g.Happens (.invoked c) h) (failed : c.turn.fault = some fault) :
    h.hasFailed c.index := by
  have after := event.nodes wired c.index
  rw [event.takes.1, Option.map_some] at after
  rw [hasFailed_iff after]
  simp [Event.effect, Node.receive, Invocation.left, failed]

/-- No event of a run is a call on a node that had failed before. -/
theorem Runs.index_ne_of_hasFailed {es : List (Event σ)} (run : g.Runs es h)
    (failed : g.hasFailed j) {c : Invocation σ} (called : .invoked c ∈ es) : c.index ≠ j := by
  induction run with
  | refl => simp at called
  | next event _ ih =>
    rcases List.mem_cons.1 called with rfl | later
    · rintro rfl
      exact event.usable ((hasFailed_iff event.takes.1).1 failed)
    · exact ih (event.evolves.hasFailed failed) later

/-- The pull in which a call fails ends with the fault of that call. -/
theorem Pulls.answer_of_fault {after : Graph σ} {es : List (Event σ)}
    {answer : Except GraphError (Option Frame)} (wired : g.Wired) (configured : g.configured)
    (pulls : Pulls i g es after answer) {c : Invocation σ} {fault : Fault}
    (called : .invoked c ∈ es) (failed : c.turn.fault = some fault) :
    answer = .error (.pull (g.handle c.index) fault) ∧ after.hasFailed c.index := by
  induction pulls with
  | answered => simp at called
  | idle => simp at called
  | @stuck g asked after n e there asking stepping =>
    have evolves := evolves_askSink there asking
    have same : asked.handle c.index = g.handle c.index := by simp [handle, evolves.id]
    have called := (List.mem_cons.1 called).resolve_left (by simp)
    obtain ⟨_, _, _, _, _, none, _⟩ | ⟨d, fault', one, found, event, rfl⟩ :=
      step_error (evolves.configured ▸ configured) stepping
    · simp [none] at called
    · obtain rfl : c = d := by simpa [one] using called
      obtain rfl := Option.some.inj (failed.symm.trans found)
      exact ⟨by rw [same], event.hasFailed_of_fault (evolves.wired wired) failed⟩
  | halted there asking stepping _ =>
    have called := (List.mem_cons.1 called).resolve_left (by simp)
    obtain ⟨d, one, sound, _⟩ :=
      step_ok ((evolves_askSink there asking).configured ▸ configured) stepping
    obtain rfl : c = d := by simpa [one] using called
    simp [sound] at failed
  | @onward g asked after last n es answer there asking stepping _ later ih =>
    have evolves := evolves_askSink there asking
    have onto := evolves.trans (evolves_step stepping)
    have same : after.handle c.index = g.handle c.index := by simp [handle, onto.id]
    obtain ⟨d, one, sound, _⟩ := step_ok (evolves.configured ▸ configured) stepping
    rcases List.mem_append.1 called with now | called
    · obtain rfl : c = d := by simpa [one] using now
      simp [sound] at failed
    · rw [← same]
      exact ih (onto.wired wired) (onto.configured ▸ configured) called

/-- A pull from a sink that a failed node feeds is refused, and it does nothing. -/
theorem pull_of_failed_feeder {id : NodeId} {n : Node σ} (wired : g.Wired)
    (sink : g.running id .sink = .ok n) (failed : g.hasFailed j) (leads : g.LeadsTo j id.index) :
    ∃ k, g.hasFailed k ∧ g.LeadsTo k id.index ∧
      g.pull id = (g, .error (.invalidOperation id (.failedFeeder (g.handle k)))) ∧
      g.pullEvents id = [] := by
  have inside := (Array.getElem?_eq_some_iff.1 (running_eq_ok_iff.1 sink).2.2.1).1
  cases fed : g.failedFeeder id.index with
  | none =>
    have sound := (failedFeeder_eq_none_iff wired inside).1 fed leads
    simp [sound] at failed
  | some k =>
    obtain ⟨blamed, onward⟩ := failedFeeder_eq_some wired inside fed
    refine ⟨k, blamed, onward, ?_, ?_⟩
    · simp only [pull, sink, fed]
    · simp [pullEvents, sink, fed]

/-- A pull in which a filter fails is answered with the node and its fault. Once a sink or a node that
leads to it has failed, every pull from that sink is refused and changes nothing, after whatever
calls. A failed node is never called, discarded or set up again. -/
theorem Reachable.failures_last (reachable : g.Reachable) (configured : g.configured) :
    (∀ id c fault, .invoked c ∈ g.pullEvents id → c.turn.fault = some fault →
      (g.pull id).2 = .error (.pull (g.handle c.index) fault) ∧
        (g.pull id).1.hasFailed c.index) ∧
    ∀ j, g.hasFailed j → ∀ calls : List Call,
      let last := calls.foldl after g
      last.hasFailed j ∧ last.isLiveAt j ∧
      (∀ id c, .invoked c ∈ last.pullEvents id → c.index ≠ j) ∧
      ∀ id n, g.running id .sink = .ok n → g.LeadsTo j id.index →
        ∃ k, last.hasFailed k ∧ last.LeadsTo k id.index ∧
          last.pull id = (last, .error (.invalidOperation id (.failedFeeder (last.handle k)))) ∧
          last.pullEvents id = [] := by
  refine ⟨fun id c fault called failed => ?_, fun j failed calls => ?_⟩
  · obtain ⟨_, none⟩ | ⟨n, sink, _, pulls⟩ := g.pull_cases id
    · simp [none] at called
    · exact pulls.answer_of_fault reachable.wired configured called failed
  · intro last
    obtain ⟨es, run⟩ := (reachable.ran configured).exists_runs_calls calls
    have still : last.hasFailed j := run.evolves.hasFailed failed
    refine ⟨still, ?_, fun id c called => ?_, fun id n sink leads => ?_⟩
    · obtain none | ⟨n, there⟩ := last.nodes[j]?.eq_none_or_eq_some
      · simp [Graph.hasFailed, none] at still
      · exact isLiveAt_iff.2 ⟨n, there, by simp [Node.isLive, (hasFailed_iff there).1 still]⟩
    · exact (last.runs_pull id).index_ne_of_hasFailed still called
    · obtain ⟨m, sink', _⟩ := run.evolves.running sink
      have wired := run.evolves.wired reachable.wired
      refine pull_of_failed_feeder wired sink' still ?_
      rw [LeadsTo, run.evolves.feeds]
      exact leads

theorem reachable_fedBroken : fedBroken.Reachable := by
  have created : Graph.create ⟨0⟩ blankOrBroken.registry .default = .ok blankOrBroken := by rfl
  exact (Reachable.created created).calls twoPipelines

theorem size_failedSink : 1 < failedBroken.nodes.size := by decide +kernel

theorem running_failedSink :
    failedBroken.running ⟨⟨0⟩, 1⟩ .sink = .ok (getElem failedBroken.nodes 1 size_failedSink) :=
  running_eq_ok_iff.2 ⟨by decide +kernel, by decide +kernel, Array.getElem?_eq_getElem _,
    by decide +kernel, by decide +kernel⟩

/-- The pull of one sink runs into the fault of the broken source, and the sink that this source feeds
is never served again. -/
theorem failures_of_broken :
    (fedBroken.pull ⟨⟨0⟩, 3⟩).2 = .error (.pull ⟨⟨0⟩, 0⟩ (.failed "broken")) ∧
      ∀ calls : List Call, let last := calls.foldl after failedBroken
        last.hasFailed 0 ∧ ∃ k, last.pull ⟨⟨0⟩, 1⟩ =
          (last, .error (.invalidOperation ⟨⟨0⟩, 1⟩ (.failedFeeder (last.handle k)))) := by
  have traced : (traceWithin 1 fedBroken ⟨⟨0⟩, 3⟩).map
      (fun t => t.2.any (Event.breaks 0 (.failed "broken"))) = some true := by decide +kernel
  obtain ⟨⟨result, es⟩, within, called⟩ := Option.map_eq_some_iff.1 traced
  obtain ⟨e, member, called⟩ := List.any_eq_true.1 called
  have handle : fedBroken.handle 0 = ⟨⟨0⟩, 0⟩ := by decide +kernel
  have leads : failedBroken.LeadsTo 0 1 := by
    rw [← reachable_failedBroken.wired.mem_reachedFrom_feeders_iff (by decide +kernel)]
    decide +kernel
  constructor
  · cases e with
    | invoked c =>
      simp only [Event.breaks, Bool.and_eq_true, beq_iff_eq] at called
      have answer := (reachable_fedBroken.failures_last (by decide +kernel)).1 ⟨⟨0⟩, 3⟩ c _
        ((pull_eq_of_traceWithin within).2 ▸ member) called.2
      rw [answer.1, called.1, handle]
    | _ => simp [Event.breaks] at called
  · intro calls last
    obtain ⟨still, _, _, refused⟩ :=
      (reachable_failedBroken.failures_last (by decide +kernel)).2 0 (by decide +kernel) calls
    obtain ⟨k, _, _, same, _⟩ := refused ⟨⟨0⟩, 1⟩ _ running_failedSink leads
    exact ⟨still, k, same⟩

end Graph
end FrameFlow
