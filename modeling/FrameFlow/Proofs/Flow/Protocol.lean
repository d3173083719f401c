import FrameFlow.Proofs.Diagnosis.Configuration
import FrameFlow.Proofs.Flow.Running

/-! The order of calls that a filter can rely on. What a node remembers of the calls that its
filter got, its marks and whether it failed, is enough to keep the order. -/
namespace FrameFlow

variable {σ : Type}

/-- What the scheduler may call next on the filter of a node, after the calls that it has made. -/
structure Admits (role : Role) (inputs : Nat) (calls : List (Invocation σ)) (c : Invocation σ) :
    Prop where
  sound : ∀ b ∈ calls, b.turn.fault = none
  unflushed : .flush ∉ calls.map Invocation.work
  frame : ∀ {pad : Nat} {f : Frame}, c.work = .frame pad f →
    if role = .source then pad = 0
    else pad < inputs ∧ .endOfInput pad ∉ calls.map Invocation.work
  endOfInput : ∀ {pad : Nat}, c.work = .endOfInput pad →
    role ≠ .source ∧ pad < inputs ∧ .endOfInput pad ∉ calls.map Invocation.work ∧
      ∀ q ∈ c.node.inputs, q.queue = .empty
  flush : c.work = .flush → role ≠ .source →
    0 < inputs ∧ ∀ pad < inputs, .endOfInput pad ∈ calls.map Invocation.work

/-- Calls in an order that each of them is admitted in, the latest call last. -/
inductive Obeys (role : Role) (inputs : Nat) : List (Invocation σ) → Prop where
  | start : Obeys role inputs []
  | next {calls : List (Invocation σ)} {c : Invocation σ} :
      Obeys role inputs calls → Admits role inputs calls c → Obeys role inputs (calls ++ [c])

/-- The call on the filter of a node that an event is, if it is one. -/
def Event.callTo (i : Nat) : Event σ → Option (Invocation σ)
  | .invoked c => if c.index = i then some c else none
  | _ => none

/-- The calls on the filter of a node, among all events. -/
def callsTo (i : Nat) (es : List (Event σ)) : List (Invocation σ) := es.filterMap (Event.callTo i)

/-- A node knows which calls its filter got. -/
structure Node.Remembers (n : Node σ) (calls : List (Invocation σ)) : Prop where
  told : ∀ {pad : Nat} {q : Inlet}, n.inputs[pad]? = some q →
    (q.told ↔ .endOfInput pad ∈ calls.map Invocation.work)
  flushed : n.flushed ↔ .flush ∈ calls.map Invocation.work
  failed : ∀ c ∈ calls, c.turn.fault ≠ none → n.life = .failed

namespace Node

variable {n m : Node σ} {work : Work} {calls : List (Invocation σ)}

theorem Remembers.receive (h : n.Remembers calls) (sent : List (Nat × Frame)) (ends : List Nat) :
    (n.receive sent ends).Remembers calls where
  told := by
    intro pad q inlet
    simp only [Node.receive, List.getElem?_map, Option.map_eq_some_iff] at inlet
    obtain ⟨p, inlet, rfl⟩ := inlet
    exact h.told (q := p) inlet
  flushed := h.flushed
  failed := h.failed

/-- A node remembers also the call that it was left by. -/
theorem Remembers.left {c : Invocation σ} (h : n.Remembers calls) (takes : n.Takes c.work c.rest) :
    c.left.Remembers (calls ++ [c]) := by
  have inputs : c.left.inputs = c.rest.inputs := by
    unfold Invocation.left
    split <;> rfl
  have flushed : c.left.flushed = c.rest.flushed := by
    unfold Invocation.left
    split <;> rfl
  constructor
  · intro pad q' inlet'
    rw [inputs] at inlet'
    have inside : pad < n.inputs.length :=
      takes.inputs_length ▸ (List.getElem?_eq_some_iff.1 inlet').1
    obtain ⟨q'', inlet'', _, _, _, told⟩ := takes.inlet (List.getElem?_eq_getElem inside)
    obtain rfl := Option.some.inj (inlet''.symm.trans inlet')
    have before := h.told (List.getElem?_eq_getElem inside)
    rw [told, Bool.or_eq_true, before, beq_iff_eq, List.map_append, List.mem_append,
      List.map_singleton, List.mem_singleton, @eq_comm _ c.work]
  · rw [flushed, takes.flushed_iff, h.flushed, List.map_append, List.mem_append,
      List.map_singleton, List.mem_singleton, @eq_comm _ c.work]
  · intro b member fault
    unfold Invocation.left
    rcases List.mem_append.1 member with member | member
    · have failed := h.failed b member fault
      split
      · exact takes.life.trans failed
      · rfl
    · obtain rfl := List.mem_singleton.1 member
      simp [fault]

end Node

theorem callsTo_append (i : Nat) (es fs : List (Event σ)) :
    callsTo i (es ++ fs) = callsTo i es ++ callsTo i fs := List.filterMap_append

namespace Graph

variable {g h : Graph σ} {e : Event σ} {i : Nat} {n : Node σ} {calls : List (Invocation σ)}

/-- Work is only given out where a call for it is admitted. -/
theorem Running.admits (running : g.Running) (there : g.nodes[i]? = some n)
    (remembers : n.Remembers calls) {c : Invocation σ} (here : c.node = n)
    (usable : n.life ≠ .failed) (takes : n.Takes c.work c.rest) :
    Admits n.role n.inputs.length calls c where
  sound := by
    intro b member
    cases fault : b.turn.fault with
    | none => rfl
    | some f => exact absurd (remembers.failed b member (by simp [fault])) usable
  unflushed := by
    intro flushed
    have marked := remembers.flushed.2 flushed
    simp [running.fresh_of_takes there takes] at marked
  frame := by
    intro pad f work
    rw [work] at takes
    generalize c.rest = rest at takes
    cases takes with
    | fed source _ => rw [if_pos source]
    | frame inner at_pad first =>
      rw [if_neg inner]
      refine ⟨(List.getElem?_eq_some_iff.1 at_pad).1, fun ended => ?_⟩
      have told := (remembers.told at_pad).2 ended
      simp [(running.told (inletAt_eq_some there at_pad) told).2] at first
  endOfInput := by
    intro pad work
    rw [work] at takes
    generalize c.rest = rest at takes
    cases takes with
    | endOfInput inner quiet at_pad _ untold =>
      refine ⟨inner, (List.getElem?_eq_some_iff.1 at_pad).1, fun ended => ?_, here ▸ quiet⟩
      have told := (remembers.told at_pad).2 ended
      simp [untold] at told
  flush := by
    intro work inner
    rw [work] at takes
    generalize c.rest = rest at takes
    cases takes with
    | feedOver source _ _ _ => exact absurd source inner
    | flush _ _ linked told _ =>
      refine ⟨List.length_pos_of_ne_nil linked, fun pad inside => ?_⟩
      have inlet := List.getElem?_eq_getElem inside
      exact (remembers.told inlet).1 (told _ (List.mem_of_getElem? inlet))

variable [Filter σ]

/-- Where an event is no call of a node, the node keeps its marks. -/
theorem Happens.remembers_other (wired : g.Wired) (event : g.Happens e h)
    (other : e.callTo i = none) (there : g.nodes[i]? = some n) (remembers : n.Remembers calls) :
    ∃ m, h.nodes[i]? = some m ∧ m.Remembers calls := by
  refine ⟨e.effect i n, by rw [event.nodes wired, there, Option.map_some], ?_⟩
  cases e with
  | invoked c =>
    have apart : i ≠ c.index := by
      rintro rfl
      simp [Event.callTo] at other
    simpa [Event.effect, apart] using remembers.receive c.sent c.ends
  | _ =>
    unfold Event.effect
    dsimp only
    split
    · exact ⟨remembers.told, remembers.flushed, remembers.failed⟩
    · exact remembers

/-- What every event keeps true of a node and the calls of its filter. -/
theorem Happens.obeys {role : Role} {inputs : Nat} (running : g.Running) (event : g.Happens e h)
    (there : g.nodes[i]? = some n) (as : n.role = role ∧ n.inputs.length = inputs)
    (remembers : n.Remembers calls) (obeys : Obeys role inputs calls) :
    ∃ m, h.nodes[i]? = some m ∧ (m.role = role ∧ m.inputs.length = inputs) ∧
      m.Remembers (calls ++ callsTo i [e]) ∧ Obeys role inputs (calls ++ callsTo i [e]) := by
  obtain ⟨m, there', via⟩ := event.evolves.nodes there
  have as' : m.role = role ∧ m.inputs.length = inputs :=
    ⟨via.role.trans as.1, via.inputs_length.trans as.2⟩
  cases call : e.callTo i with
  | none =>
    have none : calls ++ callsTo i [e] = calls := by simp [callsTo, call]
    obtain ⟨m', there'', remembers'⟩ := event.remembers_other running.wired call there remembers
    obtain rfl := Option.some.inj (there'.symm.trans there'')
    rw [none]
    exact ⟨m, there', as', remembers', obeys⟩
  | some c =>
    have one : calls ++ callsTo i [e] = calls ++ [c] := by simp [callsTo, call]
    have is_call : e = .invoked c ∧ c.index = i := by
      cases e with
      | invoked d =>
        obtain ⟨here, rfl⟩ : d.index = i ∧ d = c := by simpa [Event.callTo] using call
        exact ⟨rfl, here⟩
      | _ => simp [Event.callTo] at call
    obtain ⟨rfl, rfl⟩ := is_call
    obtain ⟨at_node, takes⟩ := event.takes
    obtain rfl := Option.some.inj (there.symm.trans at_node)
    have admits := running.admits there remembers rfl event.usable takes
    rw [as.1, as.2] at admits
    have after := event.nodes running.wired c.index
    rw [there, there', Option.map_some, Option.some.injEq] at after
    rw [one]
    refine ⟨m, there', as', ?_, obeys.next admits⟩
    rw [after]
    simpa [Event.effect] using (remembers.left takes).receive c.sent c.ends

/-- At every moment of a run, a node remembers the calls on its filter. -/
theorem Ready.remembers {es : List (Event σ)} (ready : g.Ready) (run : g.Runs es h)
    (there : h.nodes[i]? = some n) : n.Remembers (callsTo i es) := by
  obtain ⟨first, at_first, _⟩ := run.evolves.before there
  have untouched := (ready.prepared at_first).untouched
  have fresh : first.Remembers [] := by
    refine ⟨fun {pad q} inlet => ?_, by simp [untouched.flushed], by simp⟩
    simp [(untouched.inlets q (List.mem_of_getElem? inlet)).told]
  let Kept (es : List (Event σ)) (h : Graph σ) : Prop :=
    h.Running ∧ ∃ m, h.nodes[i]? = some m ∧
      (m.role = first.role ∧ m.inputs.length = first.inputs.length) ∧
      m.Remembers (callsTo i es) ∧ Obeys first.role first.inputs.length (callsTo i es)
  have kept : Kept ([] ++ es) h := by
    refine run.history (P := Kept) ?_ ⟨ready.running, first, at_first, ⟨rfl, rfl⟩, fresh, .start⟩
    rintro es g h e ⟨running, m, there, as, remembers, obeys⟩ event
    refine ⟨running.happens event, ?_⟩
    rw [callsTo_append]
    exact event.obeys running there as remembers obeys
  obtain ⟨_, m, there', _, remembers, _⟩ := kept
  exact Option.some.inj (there'.symm.trans there) ▸ remembers

/-- Whatever filters do and in whatever order frames are pushed and pulled, every filter gets its
calls in the order that it can rely on. -/
theorem Reachable.calls_in_order {before : Graph σ} (reachable : before.Reachable)
    (configured : before.configure = .ok g) (there : g.nodes[i]? = some n)
    (requests : List Request) :
    Obeys n.role n.inputs.length (callsTo i (g.serveAll requests).2) := by
  have unconfigured := unconfigured_of_configure configured
  have ready := (reachable.assembled unconfigured).ready configured
  have untouched := (ready.prepared there).untouched
  have fresh : n.Remembers [] := by
    refine ⟨fun {pad q} inlet => ?_, by simp [untouched.flushed], by simp⟩
    simp [(untouched.inlets q (List.mem_of_getElem? inlet)).told]
  let Kept (es : List (Event σ)) (h : Graph σ) : Prop :=
    h.Running ∧ ∃ m, h.nodes[i]? = some m ∧
      (m.role = n.role ∧ m.inputs.length = n.inputs.length) ∧
      m.Remembers (callsTo i es) ∧ Obeys n.role n.inputs.length (callsTo i es)
  have kept : Kept ([] ++ (g.serveAll requests).2) (g.serveAll requests).1 := by
    refine (g.runs_serveAll requests).history (P := Kept) ?_
      ⟨ready.running, n, there, ⟨rfl, rfl⟩, fresh, .start⟩
    rintro es g h e ⟨running, m, there, as, remembers, obeys⟩ event
    refine ⟨running.happens event, ?_⟩
    rw [callsTo_append]
    exact event.obeys running there as remembers obeys
  obtain ⟨_, _, _, _, _, obeys⟩ := kept
  exact obeys

/-- A sink that is fed by a source gets frames, one end and one flush, in this order. -/
theorem calls_of_sourceAndSink :
    ∃ n, sourceAndSink.nodes[1]? = some n ∧
      ∀ requests, Obeys .sink 1 (callsTo 1 (sourceAndSink.serveAll requests).2) := by
  have inside : 1 < sourceAndSink.nodes.size := by decide
  have there := Array.getElem?_eq_getElem inside
  have as : sourceAndSink.nodes[1].role = .sink ∧ sourceAndSink.nodes[1].inputs.length = 1 :=
    ⟨rfl, rfl⟩
  refine ⟨_, there, fun requests => ?_⟩
  have obeys := (reachable_blank.calls sourceToSink).calls_in_order configure_eq_sourceAndSink there
    requests
  rwa [as.1, as.2] at obeys

end Graph
end FrameFlow
