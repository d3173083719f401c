import FrameFlow.Proofs.Flow.Draining
import FrameFlow.Proofs.Flow.Quiescence
import FrameFlow.Proofs.Graph.Lifecycle
import FrameFlow.Proofs.Graph.References

/-! The stages of a node's life. Before configuration a node is set up, which may fail, or it is given
up; afterwards it may only break down at work, in a call of its own filter. Each call moves a node by
one such step or leaves its life as it is. -/
namespace FrameFlow.Graph

variable {σ : Type} [Filter σ] {g h : Graph σ} {es : List (Event σ)} {i : Nat} {n m : Node σ}
  {id : NodeId}

section Breakdown

/-- A node fails in a call of its own filter only. -/
theorem Happens.exists_fault {e : Event σ} (wired : g.Wired) (event : g.Happens e h)
    (there : g.nodes[i]? = some n) (there' : h.nodes[i]? = some m) (sound : n.life ≠ .failed)
    (failed : m.life = .failed) :
    ∃ c fault, e = .invoked c ∧ c.index = i ∧ c.turn.fault = some fault := by
  rw [event.nodes wired, there, Option.map_some, Option.some.injEq] at there'
  subst there'
  cases e with
  | invoked c =>
    have life : (if i = c.index then c.left else n).life = .failed := failed
    split at life
    · next here =>
      obtain ⟨at_node, takes⟩ := event.takes
      obtain rfl := Option.some.inj (there.symm.trans (here ▸ at_node))
      cases fault : c.turn.fault with
      | some f => exact ⟨c, f, rfl, here.symm, fault⟩
      | none => simp [Invocation.left, fault, Node.closeOutputs, takes.life, sound] at life
    · exact absurd life sound
  | _ =>
    unfold Event.effect at failed
    dsimp only at failed
    split at failed <;> exact absurd failed sound

theorem Runs.exists_fault (wired : g.Wired) (run : g.Runs es h) (there : g.nodes[i]? = some n)
    (there' : h.nodes[i]? = some m) (sound : n.life ≠ .failed) (failed : m.life = .failed) :
    ∃ c fault, .invoked c ∈ es ∧ c.index = i ∧ c.turn.fault = some fault := by
  induction run generalizing n with
  | refl => exact absurd (Option.some.inj (there.symm.trans there') ▸ failed) sound
  | next event _ ih =>
    obtain ⟨k, between, _⟩ := event.evolves.nodes there
    by_cases broken : k.life = .failed
    · obtain ⟨c, fault, rfl, here, found⟩ := event.exists_fault wired there between sound broken
      exact ⟨c, fault, List.mem_cons_self, here, found⟩
    · obtain ⟨c, fault, called, here, found⟩ :=
        ih (event.evolves.wired wired) between there' broken
      exact ⟨c, fault, List.mem_cons_of_mem _ called, here, found⟩

theorem runs_drain (g : Graph σ) (id : NodeId) : g.Runs (g.drainEvents id) (g.drain id).1 := by
  have onto : ∀ frames, g.Runs (g.drainEvents id) (drainOnto frames g id).1 := by
    intro frames
    fun_induction drainOnto frames g id with
    | case1 frames g after e pulling =>
      rw [drainEvents_of_last (by simp [pulling])]
      have last := g.runs_pull id
      rwa [pulling] at last
    | case2 frames g after pulling =>
      rw [drainEvents_of_last (by simp [pulling])]
      have last := g.runs_pull id
      rwa [pulling] at last
    | case3 frames g after frame pulling ih =>
      rw [drainEvents_of_frame pulling]
      have first := g.runs_pull id
      rw [pulling] at first
      exact first.trans ih
  exact onto []

/-- The events that a call brings about. -/
def eventsOf (g : Graph σ) : Call → List (Event σ)
  | .request r => (g.serve r).2
  | .drain id => g.drainEvents id
  | _ => []

theorem Ran.runs_after (ran : g.Ran) (call : Call) : g.Runs (g.eventsOf call) (g.after call) := by
  cases flows : call.flows with
  | true =>
    cases call with
    | request r => exact g.runs_serve r
    | drain id => exact g.runs_drain id
    | _ => simp [Call.flows] at flows
  | false =>
    have none : g.eventsOf call = [] := by
      unfold eventsOf
      split <;> simp_all [Call.flows]
    rw [none, ran.after_eq call flows]
    exact .refl g

end Breakdown

/-- The ways in which a call moves the node at some place from one stage of its life to the next. -/
inductive Moves (g : Graph σ) (i : Nat) : Call → Life → Life → Prop where
  | setUp {id : NodeId} (here : id.index = i) (assembling : g.configured = false)
      (granted : (g.initializeNode id).2 = .ok ()) : Moves g i (.setUp id) .allocated .initialized
  | spoiled {id : NodeId} {kind : String} {fault : Fault} (here : id.index = i)
      (assembling : g.configured = false)
      (refused : (g.initializeNode id).2 = .error (.initialization id kind fault)) :
      Moves g i (.setUp id) .allocated .failed
  | discarded {id : NodeId} {h : Graph σ} {life : Life} (here : id.index = i)
      (assembling : g.configured = false) (granted : g.discard id = .ok h)
      (unused : life = .allocated ∨ life = .failed) : Moves g i (.discard id) life .discarded
  | broken {call : Call} {c : Invocation σ} {fault : Fault} (configured : g.configured)
      (called : .invoked c ∈ g.eventsOf call) (here : c.index = i)
      (failed : c.turn.fault = some fault) : Moves g i call .initialized .failed

theorem Moves.ne_discarded {call : Call} {life next : Life} (moved : g.Moves i call life next) :
    life ≠ .discarded := by
  cases moved with
  | discarded _ _ _ unused => rcases unused with rfl | rfl <;> simp
  | _ => simp

/-- The node at some place stays, and its life with it unless a call moves it on. -/
def Continues (g : Graph σ) (call : Call) (h : Graph σ) : Prop :=
  ∀ ⦃i : Nat⦄ ⦃n : Node σ⦄, g.nodes[i]? = some n →
    ∃ m, h.nodes[i]? = some m ∧ (m.life = n.life ∨ g.Moves i call n.life m.life)

section Moves

variable {call : Call}

theorem continues_of_nodes (nodes : h.nodes = g.nodes) : g.Continues call h :=
  fun _ n there => ⟨n, nodes ▸ there, .inl rfl⟩

theorem continues_setNode (there : g.nodes[i]? = some n)
    (step : m.life = n.life ∨ g.Moves i call n.life m.life) : g.Continues call (g.setNode i m) := by
  intro j k there'
  rw [nodes_setNode there]
  split
  · next same =>
    obtain rfl := Option.some.inj (there.symm.trans (same ▸ there'))
    exact ⟨m, rfl, same ▸ step⟩
  · exact ⟨k, there', .inl rfl⟩

theorem continues_setUp (unconfigured : g.configured = false) (id : NodeId) :
    g.Continues (.setUp id) (g.initializeNode id).1 := by
  obtain ⟨_, _, same⟩ | ⟨n, found, ⟨_, same⟩ | ⟨fresh, setUp⟩⟩ := g.initializeNode_cases id
  · exact same ▸ continues_of_nodes rfl
  · exact same ▸ continues_of_nodes rfl
  · obtain ⟨_, there, _⟩ := find_eq_ok_iff.1 found
    rcases setUp with ⟨m, applied, made⟩ | ⟨_, _, made⟩
    · have ready : m.life = .initialized := by
        obtain ⟨_, _, _, _, rfl⟩ := Node.apply_eq_ok_iff.1 applied
        rfl
      rw [made]
      refine continues_setNode there (.inr ?_)
      rw [fresh, ready]
      exact .setUp rfl unconfigured (by rw [made])
    · rw [made]
      refine continues_setNode there (.inr ?_)
      rw [fresh]
      exact .spoiled rfl unconfigured (by rw [made])

theorem continues_discard (granted : g.discard id = .ok h) : g.Continues (.discard id) h := by
  have unconfigured := (discard_eq_ok_iff.1 granted).1
  obtain ⟨_, n, m, found, gone, rfl⟩ := discard_eq_ok_iff.1 granted
  obtain ⟨_, there, _⟩ := find_eq_ok_iff.1 found
  obtain ⟨unused, rfl⟩ := Node.discard_eq_ok_iff.1 gone
  exact continues_setNode there (.inr (.discarded rfl unconfigured granted unused))

theorem continues_link {source target : NodeId} {output input number : Nat}
    (granted : g.link source output target input = .ok (number, h)) : g.Continues call h := by
  obtain ⟨_, rfl⟩ := link_eq_ok granted
  intro j n there
  simp only [joined, nodes_attach, there, Option.map_some]
  refine ⟨_, rfl, .inl ?_⟩
  split <;> split <;> simp only [Node.life_noteLink]

theorem continues_of_unconfigured (assembled : g.Assembled) (call : Call) :
    g.Continues call (g.after call) := by
  have unconfigured := assembled.unconfigured
  cases call with
  | allocate kind =>
    refine orSame_induction (continues_of_nodes rfl) fun (_, h) ok i n there => ?_
    obtain ⟨_, k, rfl⟩ := allocate_eq_ok ok
    have inside := (Array.getElem?_eq_some_iff.1 there).1
    exact ⟨n, by simpa [Array.getElem?_push, Nat.ne_of_lt inside] using there, .inl rfl⟩
  | setOption id key value =>
    refine orSame_induction (continues_of_nodes rfl) fun h ok => ?_
    obtain ⟨n, m, found, set, rfl⟩ := setOption_eq_ok_iff.1 ok
    obtain ⟨_, there, _⟩ := find_eq_ok_iff.1 found
    obtain ⟨_, rfl⟩ := Node.setOption_eq_ok_iff.1 set
    exact continues_setNode there (.inl rfl)
  | setUp id => exact continues_setUp unconfigured id
  | discard id => exact orSame_induction (continues_of_nodes rfl) fun _ ok => continues_discard ok
  | link source output target input =>
    exact orSame_induction (continues_of_nodes rfl) fun _ ok => continues_link ok
  | configure =>
    refine orSame_induction (continues_of_nodes rfl) fun h ok => ?_
    obtain ⟨_, nodes, _⟩ := configures_of_configure assembled ok
    exact continues_of_nodes nodes
  | request r =>
    exact (after_eq_of_unconfigured unconfigured (.request r) rfl).symm ▸ continues_of_nodes rfl
  | drain id =>
    exact (after_eq_of_unconfigured unconfigured (.drain id) rfl).symm ▸ continues_of_nodes rfl

/-- While frames flow, a node that was discarded stays so. -/
theorem Ran.life_of_discarded (ran : g.Ran) (run : g.Runs es h) (there : g.nodes[i]? = some n)
    (there' : h.nodes[i]? = some m) (gone : n.life = .discarded) : m.life = .discarded := by
  obtain ⟨start, before, ready, first⟩ := ran
  obtain ⟨k, at_start, via⟩ := first.evolves.before there
  have life : k.life = .discarded :=
    (via.life.resolve_right (by simp [gone])).symm.trans gone
  have still := ready.nodes_of_dead (first.trans run) at_start (by simp [Node.isLive, life])
  rw [Option.some.inj (there'.symm.trans still), life]

/-- While frames flow, only a node that is set up breaks down. -/
theorem Ran.continues (ran : g.Ran) (wired : g.Wired) (call : Call) :
    g.Continues call (g.after call) := by
  intro i n there
  have run := ran.runs_after call
  obtain ⟨m, there', via⟩ := run.evolves.nodes there
  refine ⟨m, there', ?_⟩
  rcases via.life with same | failed
  · exact .inl same
  · cases life : n.life with
    | allocated => exact absurd life (ran.life_ne there (by simp [Node.isLive, life]))
    | initialized =>
      obtain ⟨c, fault, called, here, found⟩ :=
        run.exists_fault wired there there' (by simp [life]) failed
      exact .inr (failed ▸ .broken ran.configured called here found)
    | failed => exact .inl failed
    | discarded => exact .inl (ran.life_of_discarded run there there' life)

theorem Reachable.continues (reachable : g.Reachable) (call : Call) :
    g.Continues call (g.after call) := by
  rcases reachable.assembled_or_ran with assembled | ran
  · exact continues_of_unconfigured assembled call
  · exact ran.continues reachable.wired call

/-- A node that comes in is still to be set up. -/
theorem Reachable.life_of_new (reachable : g.Reachable) (new : g.nodes[i]? = none)
    (there : (g.after call).nodes[i]? = some m) : m.life = .allocated := by
  rcases reachable.assembled_or_ran with assembled | ran
  · obtain ⟨n, there', _⟩ | ⟨kind, rfl⟩ := grows_after assembled.unconfigured call there
    · simp [new] at there'
    · rfl
  · obtain ⟨n, there', _⟩ := (ran.runs_after call).evolves.before there
    simp [new] at there'

/-- A discarded node stays discarded, whatever is called. -/
theorem Reachable.discarded_after (reachable : g.Reachable) (calls : List Call)
    (there : g.nodes[i]? = some n) (gone : n.life = .discarded) :
    ∃ m, (calls.foldl after g).nodes[i]? = some m ∧ m.life = .discarded := by
  induction calls generalizing g n with
  | nil => exact ⟨n, there, gone⟩
  | cons call rest ih =>
    obtain ⟨m, there', same | moved⟩ := reachable.continues call there
    · exact ih (.called call reachable) there' (same.trans gone)
    · exact absurd gone moved.ne_discarded

end Moves

end FrameFlow.Graph
