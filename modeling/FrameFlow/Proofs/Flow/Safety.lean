import FrameFlow.Proofs.Filter.Soundness
import FrameFlow.Proofs.Flow.Faultless
import FrameFlow.Proofs.Flow.Formats

/-! Graphs of built-in filters do not fail. Each node has the pads of its filter, whatever its options
are, so frames come on pads that the filter has and trays are as wide as it expects. No call is
refused then, and every pull from a sink is answered. -/
namespace FrameFlow

/-- The fault of the call that an event makes on a filter, if it makes one that fails. -/
def Event.fault {σ : Type} : Event σ → Option Fault
  | .asked _ (.error fault) => some fault
  | .invoked c => c.turn.fault
  | _ => none

/-- A node with the pads of its filter, which stands on the side of the graph where the node does. -/
structure Node.Fitted (n : Node BuiltIn) : Prop where
  role : n.filter.role = n.role
  inputs : n.inputs.length = (Filter.inputs n.filter).length
  outputs : n.outputs.length = (Filter.outputs n.filter).length

namespace Node.Fitted

variable {n m : Node BuiltIn} {work : Work}

/-- Nothing that leaves the filter in its place takes a pad from a node. -/
theorem evolves (fitted : n.Fitted) (via : n.Evolves m) (alike : n.filter.Alike m.filter) :
    m.Fitted where
  role := by rw [alike.role, via.role, fitted.role]
  inputs := by rw [alike.inputs, via.inputs_length, fitted.inputs]
  outputs := by rw [alike.outputs, via.outputs_length, fitted.outputs]

/-- The work that a node gives out goes well. -/
theorem sound_invoke (fitted : n.Fitted) (takes : n.Takes work m) :
    n.filter.Sound (m.invoke work (.start m.closedOutputs)) := by
  have wide : (Tray.start m.closedOutputs).outputs = (Filter.outputs n.filter).length := by
    rw [← fitted.outputs, ← takes.outputs]
    exact List.length_map ..
  have flushed : n.filter.Sound (m.invoke .flush (.start m.closedOutputs)) := by
    have sound : n.filter.Sound (Filter.onFlush n.filter (.start m.closedOutputs)) :=
      BuiltIn.sound_onFlush
    rw [← takes.filter] at sound ⊢
    unfold invoke
    dsimp only
    split
    · exact ⟨sound.fault, sound.alike⟩
    · exact sound
  cases takes with
  | fed source _ =>
    apply BuiltIn.sound_onFrame wide
    exact fun inner => absurd (fitted.role.trans source) inner
  | feedOver => exact flushed
  | frame _ at_pad _ =>
    apply BuiltIn.sound_onFrame wide
    intro _
    exact fitted.inputs ▸ (List.getElem?_eq_some_iff.1 at_pad).1
  | endOfInput => exact BuiltIn.sound_onEnd
  | flush => exact flushed

/-- A sink hands out what it has. -/
theorem exists_take_eq_ok (fitted : n.Fitted) (sink : n.role = .sink) :
    ∃ offer, (Filter.take n.filter).2 = .ok offer := by
  have role := fitted.role.trans sink
  cases filter : n.filter with
  | sink s => exact s.exists_take_eq_ok
  | _ => simp [filter, BuiltIn.role] at role

end Node.Fitted

namespace Graph

/-- Every node that is scheduled has the pads of its filter. -/
def Fitted (g : Graph BuiltIn) : Prop :=
  ∀ ⦃i : Nat⦄ ⦃n : Node BuiltIn⦄, i ∈ g.schedule → g.nodes[i]? = some n → n.Fitted

variable {before g h : Graph BuiltIn} {e : Event BuiltIn} {es : List (Event BuiltIn)} {i : Nat}
  {n : Node BuiltIn}

/-- The call that an event makes goes well, and it leaves the filter in its place. -/
theorem Fitted.sound (fitted : g.Fitted) (event : g.Happens e h)
    (scheduled : ∀ i, g.isLiveAt i → i ∈ g.schedule) :
    e.fault = none ∧ ∀ (i : Nat) (n : Node BuiltIn), g.nodes[i]? = some n →
      n.filter.Alike (e.effect i n).filter := by
  cases event with
  | pushed _ =>
    refine ⟨rfl, fun i n _ => ?_⟩
    unfold Event.effect
    dsimp only
    split <;> exact .refl _
  | ended _ =>
    refine ⟨rfl, fun i n _ => ?_⟩
    unfold Event.effect
    dsimp only
    split <;> exact .refl _
  | asked sink asking =>
    obtain ⟨_, _, there, _, role⟩ := running_eq_ok_iff.1 sink
    have fits := fitted (scheduled _ (isLiveAt_of_running sink)) there
    obtain ⟨offer, answers⟩ := fits.exists_take_eq_ok role
    obtain rfl := (congrArg Prod.snd asking).symm.trans answers
    refine ⟨rfl, fun i n _ => ?_⟩
    unfold Event.effect
    dsimp only
    split
    · exact BuiltIn.alike_take
    · exact .refl _
  | @invoked j k rest work _ first _ taken =>
    obtain ⟨working, there⟩ := nextToWork_eq_some_iff.1 first
    have fits := fitted (List.mem_of_find?_eq_some working) there
    have sound := fits.sound_invoke (Node.takes_of_takeWork taken)
    refine ⟨sound.fault, fun i n at_node => ?_⟩
    let c : Invocation BuiltIn := ⟨j, k, work, rest, rest.invoke work (.start rest.closedOutputs)⟩
    have left : c.left.filter = c.turn.state := by
      unfold Invocation.left
      split <;> rfl
    show n.filter.Alike (if i = j then c.left else n).filter
    split
    · next here =>
      obtain rfl := Option.some.inj ((here ▸ there).symm.trans at_node)
      exact left ▸ sound.alike
    · exact .refl _

theorem Fitted.happens (fitted : g.Fitted) (wired : g.Wired) (event : g.Happens e h)
    (scheduled : ∀ i, g.isLiveAt i → i ∈ g.schedule) : h.Fitted := by
  intro i m member there
  obtain ⟨n, at_node, via⟩ := event.evolves.before there
  rw [event.nodes wired, at_node, Option.map_some, Option.some.injEq] at there
  subst there
  have fits := fitted (event.evolves.schedule ▸ member) at_node
  exact fits.evolves via ((fitted.sound event scheduled).2 i n at_node)

/-- In a run from a graph of built-in filters no call fails. -/
theorem Fitted.runs {start : Graph BuiltIn} {past : List (Event BuiltIn)} (fitted : g.Fitted)
    (ready : start.Ready) (before : start.Runs past g) (run : g.Runs es h) :
    h.Fitted ∧ ∀ e ∈ es, e.fault = none := by
  induction run generalizing past with
  | refl => exact ⟨fitted, by simp⟩
  | @next g between h e rest event _ ih =>
    have scheduled : ∀ i, g.isLiveAt i → i ∈ g.schedule := fun i live =>
      ready.mem_schedule before live
    have wired := before.evolves.wired ready.wired
    obtain ⟨fits, later⟩ := ih (fitted.happens wired event scheduled)
      (before.trans (.single event))
    exact ⟨fits, List.forall_mem_cons.2 ⟨(fitted.sound event scheduled).1, later⟩⟩

theorem Assembled.fitted (assembled : before.Assembled) (configured : before.configure = .ok g)
    (builtIn : before.OnlyBuiltIn) : g.Fitted := by
  intro i n scheduled there
  have equipped := assembled.equipped_of_configure configured builtIn
  have live := live_of_configure assembled configured scheduled there
  have setUp := equipped.isSetUp live
  exact ⟨(equipped.made live).role_eq, setUp.inputs_length, setUp.outputs_length⟩

/-- Graphs of built-in filters never fail. With any options with which their nodes could be set up, and
after any pushes and pulls, granted or not, no call of a filter has failed, no node has failed, and
every pull from a sink brings a frame or tells that there is none yet. -/
theorem Reachable.never_fails (reachable : before.Reachable) (configured : before.configure = .ok g)
    (builtIn : before.OnlyBuiltIn) (requests : List Request) :
    let now := (g.serveAll requests).1
    (∀ e ∈ (g.serveAll requests).2, e.fault = none) ∧
    (∀ (i : Nat) (n : Node BuiltIn), now.nodes[i]? = some n → n.life ≠ .failed) ∧
    ∀ id n, now.running id .sink = .ok n →
      (now.pull id).2 = .ok none ∨ ∃ frame, (now.pull id).2 = .ok (some frame) := by
  intro now
  have assembled := reachable.assembled (unconfigured_of_configure configured)
  have ready := assembled.ready configured
  have run : g.Runs (g.serveAll requests).2 now := g.runs_serveAll requests
  obtain ⟨fitted, sound⟩ :=
    (assembled.fitted configured builtIn).runs ready (.refl g) run
  have unfailed : now.Unfailed := ready.unfailed.runs ready.wired run fun c => sound (.invoked c)
  refine ⟨sound, fun i n there failed => ?_, fun id n sink => ?_⟩
  · have fails := (hasFailed_iff there).2 failed
    simp [unfailed i] at fails
  · obtain ⟨_, later⟩ := fitted.runs ready run (now.runs_pull id)
    obtain ⟨got, answer⟩ := unfailed.exists_pull_eq_ok (run.evolves.wired ready.wired) sink
      (fun c => later (.invoked c))
      (fun fault asked => absurd (later _ asked) (Option.some_ne_none fault))
    rw [answer]
    cases got with
    | none => exact .inl rfl
    | some frame => exact .inr ⟨frame, rfl⟩

/-- The calls that mix two sources in the shortest mode and send the sum to two sinks. -/
def mixAndSplit : List Call :=
  [.allocate "buffer", .allocate "buffer", .allocate "amix", .allocate "asplit",
    .allocate "buffersink", .allocate "buffersink", .setOption ⟨⟨0⟩, 2⟩ "duration" "shortest",
    .setUp ⟨⟨0⟩, 0⟩, .setUp ⟨⟨0⟩, 1⟩, .setUp ⟨⟨0⟩, 2⟩, .setUp ⟨⟨0⟩, 3⟩, .setUp ⟨⟨0⟩, 4⟩,
    .setUp ⟨⟨0⟩, 5⟩, .link ⟨⟨0⟩, 0⟩ 0 ⟨⟨0⟩, 2⟩ 0, .link ⟨⟨0⟩, 1⟩ 0 ⟨⟨0⟩, 2⟩ 1,
    .link ⟨⟨0⟩, 2⟩ 0 ⟨⟨0⟩, 3⟩ 0, .link ⟨⟨0⟩, 3⟩ 0 ⟨⟨0⟩, 4⟩ 0, .link ⟨⟨0⟩, 3⟩ 1 ⟨⟨0⟩, 5⟩ 0]

def mixed : Graph BuiltIn := (mixAndSplit.foldl Graph.after blank).after .configure

theorem configure_eq_mixed : (mixAndSplit.foldl Graph.after blank).configure = .ok mixed := by rfl

theorem onlyBuiltIn_mixAndSplit : (mixAndSplit.foldl Graph.after blank).OnlyBuiltIn := by
  have kinds : (mixAndSplit.foldl Graph.after blank).live.map (fun p => p.2.kind) =
      [Buffer.kind.map .buffer, Buffer.kind.map .buffer, Mixer.kind.map .mixer,
        Split.kind.map .split, Sink.kind.map .sink, Sink.kind.map .sink] := by rfl
  intro i n live
  have member := List.mem_map_of_mem (f := fun p => p.2.kind) live
  rw [kinds] at member
  simp only [List.mem_cons, List.not_mem_nil, or_false] at member
  rcases member with kind | kind | kind | kind | kind | kind <;> simp [BuiltIn.kinds, kind]

/-- One source is over after a frame and a second push to it is refused; a frame of the other one waits
in the mixer. Both sinks are served. -/
theorem never_fails_mixed :
    let session := mixed.serveAll
      [.push ⟨⟨0⟩, 0⟩ (some ⟨⟨48000, 2⟩, none, .empty⟩), .push ⟨⟨0⟩, 0⟩ none,
        .push ⟨⟨0⟩, 0⟩ (some ⟨⟨48000, 2⟩, none, .empty⟩),
        .push ⟨⟨0⟩, 1⟩ (some ⟨⟨48000, 2⟩, none, .empty⟩), .pull ⟨⟨0⟩, 4⟩]
    (∀ e ∈ session.2, e.fault = none) ∧ ∃ got, (session.1.pull ⟨⟨0⟩, 5⟩).2 = .ok got := by
  intro session
  obtain ⟨m, sink⟩ : ∃ n, mixed.running ⟨⟨0⟩, 5⟩ .sink = .ok n := ⟨_, rfl⟩
  obtain ⟨n, still, _⟩ := (mixed.runs_serveAll _).evolves.running sink
  obtain ⟨sound, _, answers⟩ := (reachable_blank.calls mixAndSplit).never_fails configure_eq_mixed
    onlyBuiltIn_mixAndSplit _
  refine ⟨sound, ?_⟩
  rcases answers ⟨⟨0⟩, 5⟩ n still with nothing | ⟨frame, pulled⟩
  · exact ⟨none, nothing⟩
  · exact ⟨some frame, pulled⟩

end Graph
end FrameFlow
