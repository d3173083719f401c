import FrameFlow.Proofs.Flow.Failure
import FrameFlow.Proofs.InPlace

/-! What errors leave of a graph. A call that is refused leaves it as it was. A node that cannot be set
up is left failed, and so is a node whose filter fails in a call of the scheduler; of that call
nothing else is left. -/
namespace FrameFlow

variable {σ : Type}

namespace Graph

/-- What stands against a pull before the sink is asked, and the error that tells so. -/
inductive RefusesPull (g : Graph σ) (id : NodeId) : GraphError → Prop where
  | notConfigured (off : g.configured = false) : RefusesPull g id .notConfigured
  | unknown (on : g.configured) (missing : g.find id = .error (.nodeNotFound id)) :
      RefusesPull g id (.nodeNotFound id)
  | role {n : Node σ} (on : g.configured) (found : g.find id = .ok n) (other : n.role ≠ .sink) :
      RefusesPull g id (.invalidOperation id (.role n.kind.name n.role .sink))
  | failedFeeder {n : Node σ} {j : Nat} (sink : g.running id .sink = .ok n)
      (failed : g.failedFeeder id.index = some j) :
      RefusesPull g id (.invalidOperation id (.failedFeeder (g.handle j)))

variable [Filter σ] {g h : Graph σ} {id : NodeId} {e : GraphError}

theorem RefusesPull.pull_eq (refuses : g.RefusesPull id e) : g.pull id = (g, .error e) := by
  have refused : ∀ {e : GraphError}, g.running id .sink = .error e → g.pull id = (g, .error e) := by
    intro e refused
    simp only [pull, refused]
  cases refuses with
  | notConfigured off =>
    apply refused
    simp only [running, off]
    rfl
  | unknown on missing =>
    apply refused
    simp only [running, on, missing]
    rfl
  | role on found other =>
    apply refused
    simp only [running, on, found]
    exact if_pos other
  | failedFeeder sink failed => simp only [pull, sink, failed]

/-- The node at a place could not be set up. It has failed, with its staged options used up; it has no
pads and no option was applied. Nothing else is different. -/
structure SetUpFails (g : Graph σ) (i : Nat) (h : Graph σ) : Prop where
  node : ∃ n, g.nodes[i]? = some n ∧
    h.nodes[i]? = some { n with staged := .empty, life := .failed } ∧
    n.inputs = [] ∧ n.outputs = [] ∧ n.applied = .empty
  others : ∀ j, j ≠ i → h.nodes[j]? = g.nodes[j]?
  remaining : h = { g with nodes := h.nodes }

theorem Reachable.setUpFails {n : Node σ} (reachable : g.Reachable) (found : g.find id = .ok n)
    (fresh : n.life = .allocated) (failed : (InPlace.setUp id).on g = (.error e, h)) :
    g.SetUpFails id.index h := by
  obtain ⟨_, there, _⟩ := find_eq_ok_iff.1 found
  obtain ⟨applied, inputs, outputs⟩ := reachable.bare_of_allocated there fresh
  rw [InPlace.on_setUp] at failed
  obtain ⟨_, missing, _⟩ | ⟨m, found', ⟨other, _⟩ | ⟨_, ⟨_, _, made⟩ | ⟨_, _, made⟩⟩⟩ :=
    g.initializeNode_cases id
  · simp [found] at missing
  · exact absurd (Except.ok.inj (found.symm.trans found') ▸ fresh) other
  · simp [made] at failed
  · obtain rfl := Except.ok.inj (found.symm.trans found')
    obtain ⟨-, rfl⟩ : _ ∧ g.setNode id.index n.fail = h := by simpa [made] using failed
    have nodes := nodes_setNode there (m := n.fail)
    constructor
    · exact ⟨n, there, (nodes _).trans (if_pos rfl), inputs, outputs, applied⟩
    · exact fun j other => (nodes j).trans (if_neg (Ne.symm other))
    · rfl

/-- The first node with work gives it to its filter, and that call fails. The work is gone from the
node, which has failed. What the call has emitted and closed is nowhere: no other node is different, no
port was closed, no link has ended, and no queue holds more than before. -/
structure CallFails (g : Graph σ) (c : Invocation σ) (fault : Fault) (h : Graph σ) : Prop where
  first : g.nextToWork = some (c.index, c.node)
  taken : c.node.takeWork = some (c.work, c.rest)
  turn : c.turn = c.rest.invoke c.work (.start c.rest.closedOutputs)
  fault : c.turn.fault = some fault
  node : h.nodes[c.index]? = some { c.rest with filter := c.turn.state, life := .failed }
  others : ∀ j, j ≠ c.index → h.nodes[j]? = g.nodes[j]?
  outlets : ∀ a, h.outletAt a = g.outletAt a
  inlets : ∀ a p, g.inletAt a = some p → ∃ q, h.inletAt a = some q ∧ q.link = p.link ∧
    q.ended = p.ended ∧ (Event.invoked c).handedAt a ++ q.queue.toList = p.queue.toList
  remaining : h = { g with
    nodes := h.nodes, stats := { g.stats with steps := g.stats.steps + 1 } }

/-- A call that fails is all that a step has done. -/
theorem callFails_of_handleWork {i : Nat} {n m : Node σ} {work : Work} {fault : Fault}
    (first : g.nextToWork = some (i, n)) (taken : n.takeWork = some (work, m))
    (failed : (m.invoke work (.start m.closedOutputs)).fault = some fault) :
    g.CallFails ⟨i, n, work, m, m.invoke work (.start m.closedOutputs)⟩ fault
      (g.handleWork i m work).1 := by
  have there := (nextToWork_eq_some_iff.1 first).2
  have takes := Node.takes_of_takeWork taken
  have left : (g.handleWork i m work).1 = (g.setNode i { m with
      filter := (m.invoke work (.start m.closedOutputs)).state, life := .failed }).countStep 0 := by
    unfold handleWork
    simp only [failed]
  rw [left]
  have nodes := nodes_setNode there (m := { m with
    filter := (m.invoke work (.start m.closedOutputs)).state, life := .failed })
  refine ⟨first, taken, rfl, failed, (nodes i).trans (if_pos rfl),
    fun j other => (nodes j).trans (if_neg (Ne.symm other)), fun a => ?_, fun a p inlet => ?_, rfl⟩
  · show (Graph.setNode ..).nodes[a.node]?.bind _ = g.nodes[a.node]?.bind _
    rw [nodes]
    split
    · next here =>
      rw [← here, there, Option.bind_some, Option.bind_some]
      exact congrArg (·[a.pad]?) takes.outputs
    · rfl
  · obtain ⟨k, at_node, at_pad⟩ := Option.bind_eq_some_iff.1 inlet
    show ∃ q, (Graph.setNode ..).nodes[a.node]?.bind _ = some q ∧ _
    rw [nodes]
    split
    · next here =>
      subst here
      obtain rfl := Option.some.inj (there.symm.trans at_node)
      -- Taking the work is all that has touched the inlets of the node.
      obtain ⟨q, inlet', link, ended, queue, _⟩ := takes.inlet at_pad
      exact ⟨q, inlet', link, ended, by simpa [Event.handedAt] using queue⟩
    · next other =>
      refine ⟨p, inlet, rfl, rfl, ?_⟩
      simp [Event.handedAt, other]

theorem Happens.callFails {c : Invocation σ} {fault : Fault} (event : g.Happens (.invoked c) h)
    (failed : c.turn.fault = some fault) : g.CallFails c fault h := by
  cases event with
  | invoked _ first _ taken => exact callFails_of_handleWork first taken failed

/-- A step that fails has met a node that failed before and done nothing, or a call has failed. -/
theorem step_of_error (stepping : (InPlace.step : InPlace σ Bool).on g = (.error e, h)) :
    (∃ i n, g.nextToWork = some (i, n) ∧ n.life = .failed ∧ h = g ∧
        e = .invalidOperation (g.handle i) .failedEarlier) ∨
      ∃ c fault, g.CallFails c fault h ∧ e = .pull (g.handle c.index) fault := by
  rw [InPlace.on_step] at stepping
  cases taken : g.step with
  | none => simp [taken] at stepping
  | some result =>
    obtain ⟨after, outcome⟩ := result
    cases outcome with
    | ok _ => simp [taken] at stepping
    | error e' =>
      obtain ⟨rfl, rfl⟩ : e' = e ∧ after = h := by simpa [taken] using stepping
      obtain ⟨i, n, first, ⟨failed, same, _, refused⟩ | ⟨_, work, m, takes, handled, _⟩⟩ :=
        step_cases taken
      · exact .inl ⟨i, n, first, failed, same, Except.error.inj refused⟩
      · have outcome := outcome_handleWork g i m work
        rw [handled] at outcome
        split at outcome
        · next fault failed =>
          have fails := callFails_of_handleWork first takes failed
          rw [handled] at fails
          exact .inr ⟨_, fault, fails, Except.error.inj outcome⟩
        · simp at outcome

/-- A call that fails is the last event of its pull, and all that this event has done is left. -/
theorem Pulls.exists_callFails {es : List (Event σ)} {answer : Except GraphError (Option Frame)}
    {c : Invocation σ} {fault : Fault} {n : Node σ} (pulls : Pulls id.index g es h answer)
    (sink : g.running id .sink = .ok n) (called : .invoked c ∈ es)
    (failed : c.turn.fault = some fault) :
    ∃ earlier before, es = earlier ++ [.invoked c] ∧ g.Runs earlier before ∧
      before.CallFails c fault h := by
  generalize place : id.index = i at pulls
  have asks : ∀ {g asked : Graph σ} {n m : Node σ}, g.running id .sink = .ok n →
      g.nodes[i]? = some m → g.askSink i m = (asked, .ok .again) →
        g.Happens (.asked i (.ok .again)) asked := by
    intro g asked n m sink there asking
    obtain rfl := Option.some.inj ((place ▸ (running_eq_ok_iff.1 sink).2.2.1).symm.trans there)
    exact place ▸ .asked sink (place ▸ asking)
  -- Only the last round has a call that fails: after such a call no further round is made.
  induction pulls generalizing n with
  | answered => simp at called
  | idle => simp at called
  | @stuck g asked after m e there asking stepping =>
    have event := asks sink there asking
    have configured := event.evolves.configured ▸ (running_eq_ok_iff.1 sink).1
    have called := (List.mem_cons.1 called).resolve_left (by simp)
    obtain ⟨_, _, _, _, _, none, _⟩ | ⟨d, _, one, _, last, _⟩ := step_error configured stepping
    · simp [none] at called
    · obtain rfl : c = d := by simpa [one] using called
      exact ⟨_, asked, by rw [one]; rfl, .single event, last.callFails failed⟩
  | halted there asking stepping _ =>
    have event := asks sink there asking
    have configured := event.evolves.configured ▸ (running_eq_ok_iff.1 sink).1
    have called := (List.mem_cons.1 called).resolve_left (by simp)
    obtain ⟨d, one, sound, _⟩ := step_ok configured stepping
    obtain rfl : c = d := by simpa [one] using called
    simp [sound] at failed
  | @onward g asked after last m es answer there asking stepping _ later ih =>
    have event := asks sink there asking
    have configured := event.evolves.configured ▸ (running_eq_ok_iff.1 sink).1
    obtain ⟨d, one, sound, onto⟩ := step_ok configured stepping
    have round : g.Runs (.asked i (.ok .again) :: asked.stepEvents) after :=
      one ▸ .next event (.single onto)
    rcases List.mem_append.1 called with now | called
    · obtain rfl : c = d := by simpa [one] using now
      simp [sound] at failed
    · obtain ⟨_, sink', _⟩ := round.evolves.running sink
      obtain ⟨earlier, before, split, run, fails⟩ := ih sink' called
      exact ⟨_ ++ earlier, before, by rw [split, List.append_assoc], round.trans run, fails⟩

/-- Errors leave a graph intact, also where the operations are carried out in place. -/
theorem Reachable.errors_leave_graph (reachable : g.Reachable) :
    (∀ call, (InPlace.perform call).on g = (g.verdict call, g.after call)) ∧
    (∀ call e, call.isAtomic → g.verdict call = .error e →
      (InPlace.perform call).on g = (.error e, g)) ∧
    (∀ id e, g.find id = .error e → (InPlace.setUp id).on g = (.error e, g)) ∧
    (∀ id n, g.find id = .ok n → n.life ≠ .allocated →
      (InPlace.setUp id).on g = (.error (.invalidOperation id (.initialization n.life)), g)) ∧
    (∀ id n e h, g.find id = .ok n → n.life = .allocated →
      (InPlace.setUp id).on g = (.error e, h) → g.SetUpFails id.index h) ∧
    (∀ id e, g.RefusesPull id e → g.pull id = (g, .error e)) ∧
    (∀ id c fault, .invoked c ∈ g.pullEvents id → c.turn.fault = some fault →
      ∃ earlier before, g.pullEvents id = earlier ++ [.invoked c] ∧ g.Runs earlier before ∧
        before.CallFails c fault (g.pull id).1) ∧
    ∀ now e after, (InPlace.step : InPlace σ Bool).on now = (.error e, after) →
      (∃ i n, now.nextToWork = some (i, n) ∧ n.life = .failed ∧ after = now ∧
        e = .invalidOperation (now.handle i) .failedEarlier) ∨
      ∃ c fault, now.CallFails c fault after ∧ e = .pull (now.handle c.index) fault := by
  refine ⟨InPlace.on_perform g, ?_, ?_, ?_, ?_, ?_, ?_, fun now e after => step_of_error⟩
  · intro call e atomic refused
    rw [InPlace.on_perform, refused, after_of_error atomic refused]
  · intro id e missing
    rw [InPlace.on_setUp]
    unfold initializeNode
    simp only [missing]
  · intro id n found other
    rw [InPlace.on_setUp]
    unfold initializeNode
    simp only [found, if_neg other]
  · exact fun id n e h found fresh failed => reachable.setUpFails found fresh failed
  · exact fun id e refuses => refuses.pull_eq
  · intro id c fault called failed
    obtain ⟨_, none⟩ | ⟨n, sink, _, pulls⟩ := g.pull_cases id
    · simp [none] at called
    · exact pulls.exists_callFails sink called failed

/-- A graph with one node, which was given an option that its kind does not have. -/
def misset : Graph (BuiltIn ⊕ Script) :=
  [.allocate "anull", .setOption ⟨⟨0⟩, 0⟩ "loudness" "1"].foldl after blankOrBroken

theorem reachable_misset : misset.Reachable := by
  have created : Graph.create ⟨0⟩ blankOrBroken.registry .default = .ok blankOrBroken := by rfl
  exact (Reachable.created created).calls _

theorem size_misset : 0 < misset.nodes.size := by decide +kernel

/-- A configured graph takes no more nodes, the broken source fails with the rest as it was, and so does a
node that cannot be set up. -/
theorem errors_of_broken :
    (InPlace.perform (.allocate "anull")).on fedBroken = (.error .alreadyConfigured, fedBroken) ∧
      (∃ c after, fedBroken.CallFails c (.failed "broken") after) ∧
      ∃ h, misset.SetUpFails 0 h := by
  obtain ⟨_, intact, _, _, _, _, _, steps⟩ := reachable_fedBroken.errors_leave_graph
  obtain ⟨_, _, _, _, setUp, _, _, _⟩ := reachable_misset.errors_leave_graph
  refine ⟨intact (.allocate "anull") .alreadyConfigured rfl (by decide +kernel), ?_, ?_⟩
  · have outcome : ((InPlace.step : InPlace (BuiltIn ⊕ Script) Bool).on fedBroken).1 =
        .error (.pull ⟨⟨0⟩, 0⟩ (.failed "broken")) := by decide +kernel
    obtain ⟨_, _, _, _, _, blames⟩ | ⟨c, fault, fails, same⟩ :=
      steps _ _ _ (Prod.ext outcome rfl)
    · simp at blames
    · obtain ⟨_, rfl⟩ := GraphError.pull.inj same
      exact ⟨c, _, fails⟩
  · have found : misset.find ⟨⟨0⟩, 0⟩ = .ok (getElem misset.nodes 0 size_misset) :=
      find_eq_ok_iff.2 ⟨by decide +kernel, Array.getElem?_eq_getElem _, by decide +kernel⟩
    have outcome : ((InPlace.setUp ⟨⟨0⟩, 0⟩).on misset).1 =
        .error (.initialization ⟨⟨0⟩, 0⟩ "anull" (.unknownOption "loudness")) := by
      decide +kernel
    exact ⟨_, setUp ⟨⟨0⟩, 0⟩ _ _ _ found (by decide +kernel) (Prod.ext outcome rfl)⟩

end Graph
end FrameFlow
