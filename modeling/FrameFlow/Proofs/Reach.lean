import FrameFlow.Proofs.Diagnosis.Plan
import FrameFlow.Proofs.Flow.Run

/-! Graphs that callers can get: what any sequence of calls makes of a new graph, also where calls
are refused. Such a graph is still being assembled, or it was configured and ran since. -/
namespace FrameFlow

/-- The calls that can change a graph. -/
inductive Call where
  | allocate (kind : String)
  | setOption (id : NodeId) (key value : String)
  | setUp (id : NodeId)
  | discard (id : NodeId)
  | link (source : NodeId) (output : Nat) (target : NodeId) (input : Nat)
  | configure
  | request (r : Request)
  | drain (id : NodeId)
deriving DecidableEq, Repr

/-- The calls that let frames flow. -/
def Call.flows : Call → Bool
  | .request _ | .drain _ => true
  | _ => false

namespace Graph

variable {σ : Type} [Filter σ]

/-- What becomes of a graph where an operation may be refused. -/
def orSame {α : Type} (g : Graph σ) (outcome : Except GraphError α) (view : α → Graph σ) : Graph σ :=
  match outcome with
  | .ok a => view a
  | .error _ => g

/-- A graph after a call, whether it is granted or not. -/
def after (g : Graph σ) : Call → Graph σ
  | .allocate kind => g.orSame (g.allocate kind) Prod.snd
  | .setOption id key value => g.orSame (g.setOption id key value) fun h => h
  | .setUp id => (g.initializeNode id).1
  | .discard id => g.orSame (g.discard id) fun h => h
  | .link source output target input => g.orSame (g.link source output target input) Prod.snd
  | .configure => g.orSame g.configure fun h => h
  | .request r => (g.serve r).1
  | .drain id => (g.drain id).1

inductive Reachable : Graph σ → Prop where
  | created {number : GraphId} {registry : Registry σ} {options : GraphOptions} {g : Graph σ} :
      create number registry options = .ok g → Reachable g
  | called {g : Graph σ} (call : Call) : Reachable g → Reachable (g.after call)

theorem Reachable.calls {g : Graph σ} (h : g.Reachable) (calls : List Call) :
    (calls.foldl Graph.after g).Reachable := by
  induction calls generalizing g with
  | nil => exact h
  | cons call rest ih => exact ih (.called call h)

/-- A graph that was configured and has run since. -/
def Ran (g : Graph σ) : Prop := ∃ (start : Graph σ) (es : List (Event σ)), start.Ready ∧ start.Runs es g

variable {g h : Graph σ}

omit [Filter σ] in
theorem orSame_induction {α : Type} {P : Graph σ → Prop} {outcome : Except GraphError α}
    {view : α → Graph σ} (same : P g) (granted : ∀ a, outcome = .ok a → P (view a)) :
    P (g.orSame outcome view) := by
  cases outcome with
  | error e => exact same
  | ok a => exact granted a rfl

theorem Ready.ran (ready : g.Ready) : g.Ran := ⟨g, [], ready, .refl g⟩

theorem Ran.runs (ran : g.Ran) {es : List (Event σ)} (run : g.Runs es h) : h.Ran := by
  obtain ⟨start, before, ready, first⟩ := ran
  exact ⟨start, before ++ es, ready, first.trans run⟩

theorem Ran.configured (ran : g.Ran) : g.configured := by
  obtain ⟨start, es, ready, run⟩ := ran
  exact run.evolves.configured ▸ ready.configured

/-- No node of a graph that ran is still to be set up. -/
theorem Ran.life_ne (ran : g.Ran) {i : Nat} {n : Node σ} (there : g.nodes[i]? = some n)
    (live : n.isLive) : n.life ≠ .allocated := by
  obtain ⟨start, es, ready, run⟩ := ran
  obtain ⟨m, there', via⟩ := run.evolves.before there
  rcases via.life with same | failed
  · have alive : m.isLive := by simpa [Node.isLive, same] using live
    simp [same, ready.initialized there' alive]
  · simp [failed]

/-- Events only happen in configured graphs. -/
theorem Runs.eq_of_unconfigured {es : List (Event σ)} (run : g.Runs es h)
    (unconfigured : g.configured = false) : h = g := by
  cases run with
  | refl => rfl
  | next event _ =>
    have configured : g.configured := by
      cases event with
      | pushed accepted =>
        obtain ⟨_, source, _⟩ := push_some_eq_ok_iff.1 accepted
        exact (running_eq_ok_iff.1 source).1
      | ended accepted =>
        obtain ⟨_, source, _⟩ := push_none_eq_ok_iff.1 accepted
        exact (running_eq_ok_iff.1 source).1
      | asked sink _ => exact (running_eq_ok_iff.1 sink).1
      | invoked configured _ _ _ => exact configured
    simp [unconfigured] at configured

/-- Before configuration no frame flows. -/
theorem after_eq_of_unconfigured (unconfigured : g.configured = false) (call : Call)
    (flows : call.flows) : g.after call = g := by
  cases call with
  | request r => exact (g.runs_serve r).eq_of_unconfigured unconfigured
  | drain id =>
    obtain ⟨es, run⟩ := g.exists_runs_drain id
    exact run.eq_of_unconfigured unconfigured
  | _ => simp [Call.flows] at flows

theorem Assembled.after (h : g.Assembled) (call : Call) :
    (g.after call).Assembled ∨ (g.after call).Ready := by
  cases call with
  | allocate kind => exact .inl (orSame_induction h fun _ ok => h.allocate ok)
  | setOption id key value => exact .inl (orSame_induction h fun _ ok => h.setOption ok)
  | setUp id => exact .inl (h.initializeNode id)
  | discard id => exact .inl (orSame_induction h fun _ ok => h.discard ok)
  | link source output target input => exact .inl (orSame_induction h fun _ ok => h.link ok)
  | configure =>
    exact orSame_induction (P := fun g => g.Assembled ∨ g.Ready) (.inl h) fun _ ok => .inr (h.ready ok)
  | request r => exact .inl ((after_eq_of_unconfigured h.unconfigured (.request r) rfl).symm ▸ h)
  | drain id => exact .inl ((after_eq_of_unconfigured h.unconfigured (.drain id) rfl).symm ▸ h)

/-- Once a graph is configured, all calls but those that let frames flow are refused. -/
theorem Ran.after_eq (ran : g.Ran) (call : Call) (still : call.flows = false) :
    g.after call = g := by
  have configured := ran.configured
  cases call with
  | allocate kind =>
    refine orSame_induction (P := fun h => h = g) rfl fun a ok => ?_
    simp [(allocate_eq_ok_iff.1 ok).1] at configured
  | setOption id key value =>
    refine orSame_induction (P := fun h => h = g) rfl fun a ok => ?_
    obtain ⟨n, _, found, set, _⟩ := setOption_eq_ok_iff.1 ok
    obtain ⟨_, there, live⟩ := find_eq_ok_iff.1 found
    exact absurd (Node.setOption_eq_ok_iff.1 set).1 (ran.life_ne there live)
  | setUp id =>
    show (g.initializeNode id).1 = g
    obtain ⟨_, _, refused⟩ | ⟨n, found, ⟨_, refused⟩ | ⟨fresh, _⟩⟩ := g.initializeNode_cases id
    · rw [refused]
    · rw [refused]
    · obtain ⟨_, there, live⟩ := find_eq_ok_iff.1 found
      exact absurd fresh (ran.life_ne there live)
  | discard id =>
    refine orSame_induction (P := fun h => h = g) rfl fun a ok => ?_
    simp [(discard_eq_ok_iff.1 ok).1] at configured
  | link source output target input =>
    refine orSame_induction (P := fun h => h = g) rfl fun a ok => ?_
    simp [(link_eq_ok_iff.1 ok).1] at configured
  | configure =>
    refine orSame_induction (P := fun h => h = g) rfl fun a ok => ?_
    simp [unconfigured_of_configure ok] at configured
  | request r => simp [Call.flows] at still
  | drain id => simp [Call.flows] at still

/-- What is called on a graph that ran is a run. -/
theorem Ran.exists_runs_after (ran : g.Ran) (call : Call) : ∃ es, g.Runs es (g.after call) := by
  cases flows : call.flows with
  | false => exact ⟨[], (ran.after_eq call flows).symm ▸ .refl g⟩
  | true =>
    cases call with
    | request r => exact ⟨_, g.runs_serve r⟩
    | drain id => exact g.exists_runs_drain id
    | _ => simp [Call.flows] at flows

theorem Ran.after (ran : g.Ran) (call : Call) : (g.after call).Ran := by
  obtain ⟨es, run⟩ := ran.exists_runs_after call
  exact ran.runs run

theorem Ran.exists_runs_calls (ran : g.Ran) (calls : List Call) :
    ∃ es, g.Runs es (calls.foldl Graph.after g) := by
  induction calls generalizing g with
  | nil => exact ⟨[], .refl g⟩
  | cons call rest ih =>
    obtain ⟨es, first⟩ := ran.exists_runs_after call
    obtain ⟨fs, later⟩ := ih (ran.after call)
    exact ⟨es ++ fs, first.trans later⟩

/-- A graph that callers can get is still being assembled or was configured and ran since. -/
theorem Reachable.assembled_or_ran (h : g.Reachable) : g.Assembled ∨ g.Ran := by
  induction h with
  | created made => exact .inl (.create made)
  | called call _ ih =>
    rcases ih with assembled | ran
    · exact (assembled.after call).imp_right Ready.ran
    · exact .inr (ran.after call)

theorem Reachable.assembled (h : g.Reachable) (unconfigured : g.configured = false) :
    g.Assembled :=
  h.assembled_or_ran.resolve_right fun ran => by simp [ran.configured] at unconfigured

theorem Reachable.ran (h : g.Reachable) (configured : g.configured) : g.Ran :=
  h.assembled_or_ran.resolve_left fun assembled => by simp [assembled.unconfigured] at configured

theorem Reachable.wired (h : g.Reachable) : g.Wired := by
  rcases h.assembled_or_ran with assembled | ⟨start, es, ready, run⟩
  · exact assembled.wired
  · exact run.evolves.wired ready.wired

end Graph
end FrameFlow
