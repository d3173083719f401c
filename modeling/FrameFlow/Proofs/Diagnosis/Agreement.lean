import FrameFlow.Proofs.Diagnosis.Configuration
import FrameFlow.Proofs.Filter.Negotiation
import Mathlib.Logic.Relation

/-! Which graphs of built-in filters agree on formats. Each filter has one format on all its pads, so
one format spreads over all nodes that links join, and the options of the buffers and sinks among
them decide whether there is one. -/
namespace FrameFlow.Graph

/-- Links join two nodes, whichever way they lead. -/
def Joins {σ : Type} (g : Graph σ) : Nat → Nat → Prop := Relation.EqvGen g.Feeds

/-- Buffers that are joined have the same numbers, and sinks ask the buffers that they are joined
to for no others. -/
structure Uniform (g : Graph BuiltIn) : Prop where
  buffers : ∀ {i j : Nat} {n m : Node BuiltIn}, (i, n) ∈ g.live → (j, m) ∈ g.live → g.Joins i j →
    n.kind.name = "buffer" → m.kind.name = "buffer" → n.applied.numbers = m.applied.numbers
  sinks : ∀ {i j : Nat} {n m : Node BuiltIn}, (i, n) ∈ g.live → (j, m) ∈ g.live → g.Joins i j →
    n.kind.name = "buffer" → m.kind.name = "buffersink" → Meets m.applied.numbers n.applied.numbers

/-- A format for each node that suits its filter and is the same at both ends of a link. -/
structure Spreads (g : Graph BuiltIn) (format : Nat → Format) : Prop where
  suits : ∀ {i : Nat} {n : Node BuiltIn}, (i, n) ∈ g.live → n.filter.Suits (format i)
  along : ∀ {i j : Nat}, g.Feeds i j → format i = format j

/-- Every live node is of a built-in kind. -/
def OnlyBuiltIn (g : Graph BuiltIn) : Prop :=
  ∀ ⦃i : Nat⦄ ⦃n : Node BuiltIn⦄, (i, n) ∈ g.live → n.kind ∈ BuiltIn.kinds

/-- Wired nodes of built-in kinds, all of them set up and linked. -/
structure Equipped (g : Graph BuiltIn) : Prop where
  wired : g.Wired
  prepared : ∀ {i : Nat} {n : Node BuiltIn}, g.nodes[i]? = some n → n.Prepared
  initialized : g.FullyInitialized
  linked : g.FullyLinked
  builtIn : g.OnlyBuiltIn

theorem Joins.of_leadsTo {σ : Type} {g : Graph σ} {i j : Nat} (path : g.LeadsTo i j) : g.Joins i j :=
  Relation.EqvGen.reflTransGen_le_eqvGen g.Feeds i j path

variable {g : Graph BuiltIn} {format : Nat → Format} {i j : Nat} {n : Node BuiltIn}

/-- What is the same at both ends of every link is the same at all nodes that links join. -/
theorem Spreads.eq_of_joins (spreads : g.Spreads format) (joins : g.Joins i j) :
    format i = format j := by
  induction joins with
  | rel i j feeds => exact spreads.along feeds
  | refl i => rfl
  | symm i j _ ih => exact ih.symm
  | trans i j k _ _ first second => exact first.trans second

namespace Equipped

variable (equipped : g.Equipped)

include equipped

theorem isSetUp (live : (i, n) ∈ g.live) : n.IsSetUp := by
  obtain ⟨there, alive⟩ := mem_live_iff.1 live
  exact (equipped.prepared there).isSetUp (equipped.initialized there alive)

theorem made (live : (i, n) ∈ g.live) : BuiltIn.Made n.applied n.kind n.filter :=
  (equipped.isSetUp live).made (equipped.builtIn live)

theorem answers_iff (live : (i, n) ∈ g.live) {formats : Nat → Format} : n.Answers formats ↔
    ∃ format, (∀ d pad k, n.link? d pad = some k → formats k = format) ∧ n.filter.Suits format := by
  obtain ⟨there, alive⟩ := mem_live_iff.1 live
  exact (equipped.isSetUp live).answers_iff alive (equipped.builtIn live)
    (equipped.linked there alive)

/-- Formats that suit every node spread from node to node along the links. -/
theorem exists_spreads_of_agrees {formats : Nat → Format} (agrees : g.Agrees formats) :
    ∃ format, g.Spreads format ∧
      ∀ k l, g.links[k]? = some l → formats k = format l.source.node := by
  have one : ∀ i, ∃ format, ∀ n, (i, n) ∈ g.live →
      (∀ d pad k, n.link? d pad = some k → formats k = format) ∧ n.filter.Suits format := by
    intro i
    by_cases live : ∃ n, (i, n) ∈ g.live
    · obtain ⟨n, member⟩ := live
      obtain ⟨there, alive⟩ := mem_live_iff.1 member
      obtain ⟨format, carried⟩ := (equipped.answers_iff member).1 (agrees there alive)
      refine ⟨format, fun m member' => ?_⟩
      obtain rfl := Option.some.inj (there.symm.trans (mem_live_iff.1 member').1)
      exact carried
    · exact ⟨default, fun n member => (live ⟨n, member⟩).elim⟩
  choose format carried using one
  have at_end : ∀ {k : Nat} {l : Link}, g.links[k]? = some l → ∀ d,
      formats k = format (l.endAt d).node := by
    intro k l link d
    obtain ⟨n, there, noted⟩ := equipped.wired.node_at_end link d
    have live := mem_live_iff.2 ⟨there, equipped.wired.live there noted⟩
    exact (carried _ n live).1 d _ k noted
  refine ⟨format, ⟨fun live => (carried _ _ live).2, ?_⟩, fun k l link => at_end link .output⟩
  rintro _ _ ⟨l, member, rfl, rfl⟩
  obtain ⟨k, link⟩ := Array.mem_iff_getElem?.1 member
  exact (at_end link .output).symm.trans (at_end link .input)

/-- Where links carry the formats of the nodes that they start from, every node is suited. -/
theorem agrees_of_spreads (spreads : g.Spreads format) {formats : Nat → Format}
    (same : ∀ k l, g.links[k]? = some l → formats k = format l.source.node) :
    g.Agrees formats := by
  intro i n there alive
  have live := mem_live_iff.2 ⟨there, alive⟩
  refine (equipped.answers_iff live).2 ⟨format i, fun d pad k noted => ?_, spreads.suits live⟩
  obtain ⟨l, link, ends⟩ := equipped.wired.end_of_link? there noted
  have here : (l.endAt d).node = i := congrArg Endpoint.node ends
  rw [same k l link]
  cases d with
  | output => exact congrArg format here
  | input => exact spreads.along ⟨l, Array.mem_of_getElem? link, rfl, here⟩

/-- The format of a buffer is the one that its options say. -/
theorem numbers_of_buffer (spreads : g.Spreads format) (live : (i, n) ∈ g.live)
    (buffer : n.kind.name = "buffer") : (format i).numbers = n.applied.numbers :=
  ((equipped.made live).suits_iff.1 (spreads.suits live)).1 buffer

/-- The format of a sink has the numbers that its options ask for. -/
theorem meets_of_sink (spreads : g.Spreads format) (live : (i, n) ∈ g.live)
    (sink : n.kind.name = "buffersink") : Meets n.applied.numbers (format i).numbers :=
  ((equipped.made live).suits_iff.1 (spreads.suits live)).2 sink

theorem uniform (spreads : g.Spreads format) : g.Uniform where
  buffers live live' joins buffer buffer' := by
    rw [← equipped.numbers_of_buffer spreads live buffer,
      ← equipped.numbers_of_buffer spreads live' buffer', spreads.eq_of_joins joins]
  sinks live live' joins buffer sink := by
    rw [← equipped.numbers_of_buffer spreads live buffer, spreads.eq_of_joins joins]
    exact equipped.meets_of_sink spreads live' sink

/-- Every node is joined to a buffer. -/
theorem exists_buffer_joined (acyclic : ∀ i, ¬Relation.TransGen g.Feeds i i) (live : g.isLiveAt i) :
    ∃ (j : Nat) (m : Node BuiltIn) (format : Format), (j, m) ∈ g.live ∧ m.kind.name = "buffer" ∧
      g.Joins j i ∧ format.numbers = m.applied.numbers := by
  obtain ⟨order, ordered⟩ := equipped.wired.exists_order_iff.2 acyclic
  have schedules := equipped.wired.schedules ordered
  obtain ⟨j, root, path⟩ :=
    schedules.exists_root equipped.wired equipped.initialized equipped.linked live
  obtain ⟨m, there, alive, _, unfed⟩ := mem_roots_iff.1 root
  have member := mem_live_iff.2 ⟨there, alive⟩
  have setUp := equipped.isSetUp member
  have made := equipped.made member
  have none : Filter.inputs m.filter = [] := by rw [← setUp.inputs, unfed, List.map_nil]
  obtain ⟨buffer, b, filter⟩ := made.exists_buffer setUp.permits none
  have own : m.filter.Suits b.format := by rw [filter]; rfl
  exact ⟨j, m, b.format, member, buffer, .of_leadsTo path, (made.suits_iff.1 own).1 buffer⟩

/-- A uniform graph has one format for the nodes of each of its parts: that of the buffers there. -/
theorem exists_spreads (uniform : g.Uniform) (acyclic : ∀ i, ¬Relation.TransGen g.Feeds i i) :
    ∃ format, g.Spreads format := by
  have one : ∀ i, ∃ format : Format, g.isLiveAt i → ∃ j m, (j, m) ∈ g.live ∧
      m.kind.name = "buffer" ∧ g.Joins j i ∧ format.numbers = m.applied.numbers := by
    intro i
    by_cases live : g.isLiveAt i
    · obtain ⟨j, m, format, buffer⟩ := equipped.exists_buffer_joined acyclic live
      exact ⟨format, fun _ => ⟨j, m, buffer⟩⟩
    · exact ⟨default, fun alive => (live alive).elim⟩
  choose format buffers using one
  refine ⟨format, fun {i n} live => ?_, ?_⟩
  · obtain ⟨j, m, live', buffer, joins, numbers⟩ :=
      buffers i (isLiveAt_iff.2 ⟨n, mem_live_iff.1 live⟩)
    rw [(equipped.made live).suits_iff, numbers]
    exact ⟨uniform.buffers live' live joins buffer, uniform.sinks live' live joins buffer⟩
  · rintro i j ⟨l, member, rfl, rfl⟩
    obtain ⟨k, link⟩ := Array.mem_iff_getElem?.1 member
    obtain ⟨a, m, live, buffer, joins, numbers⟩ :=
      buffers _ (equipped.wired.isLiveAt_end link .output)
    obtain ⟨b, m', live', buffer', joins', numbers'⟩ :=
      buffers _ (equipped.wired.isLiveAt_end link .input)
    have feeds : g.Joins l.source.node l.target.node := .rel _ _ ⟨l, member, rfl, rfl⟩
    have between : g.Joins a b := .trans _ _ _ (.trans _ _ _ joins feeds) (.symm _ _ joins')
    have same := uniform.buffers live live' between buffer buffer'
    exact Format.numbers_inj.1 (numbers.trans (same.trans numbers'.symm))

end Equipped

theorem Assembled.equipped (assembled : g.Assembled) (initialized : g.FullyInitialized)
    (linked : g.FullyLinked) (builtIn : g.OnlyBuiltIn) : g.Equipped :=
  ⟨assembled.wired, assembled.nodes, initialized, linked, builtIn⟩

/-- A graph of built-in filters without cycles, set up and linked, is configured just where the
options of its buffers and sinks are uniform, and then every link carries the format of the buffers
that it is joined to. -/
theorem Reachable.configure_builtIn_iff (h : g.Reachable) (unconfigured : g.configured = false)
    (initialized : g.FullyInitialized) (builtIn : g.OnlyBuiltIn) (linked : g.FullyLinked)
    (acyclic : ∀ i, ¬Relation.TransGen g.Feeds i i) :
    ((∃ after, g.configure = .ok after) ↔ g.Uniform) ∧
    (∀ after, g.configure = .ok after → ∀ l ∈ after.links,
      (∃ j m, (j, m) ∈ g.live ∧ m.kind.name = "buffer" ∧ g.Joins j l.source.node) ∧
      ∀ j m, (j, m) ∈ g.live → m.kind.name = "buffer" → g.Joins j l.source.node →
        l.format.map Format.numbers = some m.applied.numbers) ∧
    (∀ i n, (i, n) ∈ g.live → ∀ formats answer, n.negotiate formats = .ok answer →
      answer.length = n.outputs.length) ∧
    ∀ (f : BuiltIn) (formats answer : List Format), Filter.negotiate f formats = .ok answer →
      answer.length = (Filter.outputs f).length := by
  have assembled := h.assembled unconfigured
  have equipped := assembled.equipped initialized linked builtIn
  refine ⟨?_, fun after ok l member => ?_, fun i n live formats answer answered => ?_,
    fun f formats answer => BuiltIn.length_of_negotiate⟩
  · rw [exists_configure_iff assembled]
    constructor
    · intro ready
      obtain ⟨formats, suits⟩ := ready.agreement
      obtain ⟨format, spreads, _⟩ := equipped.exists_spreads_of_agrees suits
      exact equipped.uniform spreads
    · intro uniform
      obtain ⟨format, spreads⟩ := equipped.exists_spreads uniform acyclic
      let formats (k : Nat) := (g.links[k]?.map fun l => format l.source.node).getD default
      have agrees : g.Agrees formats := equipped.agrees_of_spreads spreads fun k l link => by
        simp [formats, link]
      exact ⟨initialized, linked, acyclic, formats, agrees⟩
  · obtain ⟨formats, suits, links⟩ := (configures_of_configure assembled ok).formats
    obtain ⟨format, spreads, carried⟩ := equipped.exists_spreads_of_agrees suits
    obtain ⟨k, link⟩ := Array.mem_iff_getElem?.1 member
    obtain ⟨l', link', rfl⟩ := Option.map_eq_some_iff.1 ((links k).symm.trans link)
    obtain ⟨j, m, _, live, buffer, joins, _⟩ :=
      equipped.exists_buffer_joined acyclic (assembled.wired.isLiveAt_end link' .output)
    refine ⟨⟨j, m, live, buffer, joins⟩, fun j m live buffer joins => ?_⟩
    rw [Option.map_some, Option.some.injEq, carried k l' link', ← spreads.eq_of_joins joins]
    exact equipped.numbers_of_buffer spreads live buffer
  · rw [(equipped.isSetUp live).outputs_length]
    unfold Node.negotiate at answered
    rw [if_pos (mem_live_iff.1 live).2] at answered
    exact BuiltIn.length_of_negotiate answered

theorem onlyBuiltIn_sourceToSink : (sourceToSink.foldl Graph.after blank).OnlyBuiltIn := by
  have kinds : (sourceToSink.foldl Graph.after blank).live.map (fun p => p.2.kind) =
      [Buffer.kind.map .buffer, Sink.kind.map .sink] := by rfl
  intro i n live
  have member := List.mem_map_of_mem (f := fun p => p.2.kind) live
  rw [kinds] at member
  simp only [List.mem_cons, List.not_mem_nil, or_false] at member
  rcases member with kind | kind
  · simp [BuiltIn.kinds, kind]
  · simp [BuiltIn.kinds, kind]

/-- The link from a source to a sink that asks for nothing carries the format of the source. -/
theorem uniform_sourceToSink :
    (sourceToSink.foldl Graph.after blank).Uniform ∧
      ∀ l ∈ sourceAndSink.links, l.format.map Format.numbers = some (48000, 2) := by
  have reachable := reachable_blank.calls sourceToSink
  have unconfigured : (sourceToSink.foldl Graph.after blank).configured = false := by decide
  have ready := (exists_configure_iff (reachable.assembled unconfigured)).1
    ⟨_, configure_eq_sourceAndSink⟩
  obtain ⟨uniform, carried, _⟩ := reachable.configure_builtIn_iff unconfigured ready.initialized
    onlyBuiltIn_sourceToSink ready.linked ready.acyclic
  refine ⟨uniform.1 ⟨_, configure_eq_sourceAndSink⟩, fun l member => ?_⟩
  obtain ⟨⟨j, m, live, buffer, joins⟩, same⟩ := carried _ configure_eq_sourceAndSink l member
  have numbers : (sourceToSink.foldl Graph.after blank).live.map
      (fun p => (p.2.kind.name, p.2.applied.numbers)) =
        [("buffer", 48000, 2), ("buffersink", 0, 0)] := by decide +kernel
  have own := List.mem_map_of_mem (f := fun p => (p.2.kind.name, p.2.applied.numbers)) live
  rw [numbers] at own
  have values : m.applied.numbers = (48000, 2) := by simpa [buffer] using own
  rw [same j m live buffer joins, values]

end FrameFlow.Graph
