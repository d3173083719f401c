import FrameFlow.Proofs.Graph.Operations

/-! Graphs before they are configured. Every operation leaves the wiring in order and what a node
has of a filter and of pads as its life says, and no node has done any work. -/
namespace FrameFlow

variable {σ : Type}

/-- Nothing has come over the link of an inlet. -/
structure Inlet.Untouched (p : Inlet) : Prop where
  queue : p.queue = .empty
  ended : p.ended = false
  told : p.told = false

namespace Node

structure Untouched (n : Node σ) : Prop where
  inlets : ∀ p ∈ n.inputs, p.Untouched
  outlets : ∀ p ∈ n.outputs, p.closed = false
  feed : n.feed = .empty
  feedEnded : n.feedEnded = false
  exhausted : n.exhausted = false
  flushed : n.flushed = false

/-- The filter was set up from options that were checked, and each of its pads has a place. -/
structure IsSetUp [Filter σ] (n : Node σ) : Prop where
  resolved : ∃ staged, n.kind.options.resolve staged = .ok n.applied
  filter : Filter.setUp n.kind.initial n.applied = .ok n.filter
  inputs : n.inputs.map Inlet.pad = Filter.inputs n.filter
  outputs : n.outputs.map Outlet.pad = Filter.outputs n.filter

structure Prepared [Filter σ] (n : Node σ) : Prop where
  untouched : n.Untouched
  initial : n.life = .allocated → n.filter = n.kind.initial
  isSetUp : n.life = .initialized → n.IsSetUp
  padless : n.life ≠ .initialized → n.inputs = [] ∧ n.outputs = []

theorem untouched_unlinked (pad : Pad) : (Inlet.unlinked pad).Untouched := ⟨rfl, rfl, rfl⟩

theorem link?_of_padless {n : Node σ} (padless : n.inputs = [] ∧ n.outputs = []) (d : Direction)
    (pad : Nat) : n.link? d pad = none := by
  cases d <;> simp [link?, padless.1, padless.2]

variable [Filter σ] {n m : Node σ}

theorem IsSetUp.inputs_length (setUp : n.IsSetUp) :
    n.inputs.length = (Filter.inputs n.filter).length := by
  simpa using congrArg List.length setUp.inputs

theorem IsSetUp.outputs_length (setUp : n.IsSetUp) :
    n.outputs.length = (Filter.outputs n.filter).length := by
  simpa using congrArg List.length setUp.outputs

theorem prepared_ofKind (kind : Kind σ) : (ofKind kind).Prepared where
  untouched := ⟨by simp [ofKind], by simp [ofKind], rfl, rfl, rfl, rfl⟩
  initial _ := rfl
  isSetUp := by simp [ofKind]
  padless _ := ⟨rfl, rfl⟩

theorem Prepared.setOption (h : n.Prepared) {key value : String}
    (granted : n.setOption key value = .ok m) :
    m.Prepared ∧ m.inputs = n.inputs ∧ m.outputs = n.outputs := by
  obtain ⟨fresh, rfl⟩ := setOption_eq_ok_iff.1 granted
  exact ⟨⟨⟨h.untouched.inlets, h.untouched.outlets, h.untouched.feed, h.untouched.feedEnded,
    h.untouched.exhausted, h.untouched.flushed⟩, h.initial, by simp [fresh], h.padless⟩, rfl, rfl⟩

theorem Prepared.apply (h : n.Prepared) (fresh : n.life = .allocated) (granted : n.apply = .ok m) :
    m.Prepared ∧ ∀ d pad, m.link? d pad = none := by
  obtain ⟨values, resolved, filter, setUp, rfl⟩ := apply_eq_ok_iff.1 granted
  have unlinked : ∀ pads : List Pad, ∀ p ∈ pads.map Inlet.unlinked, p.Untouched := by
    intro pads p member
    obtain ⟨pad, _, rfl⟩ := List.mem_map.1 member
    exact untouched_unlinked pad
  have opened : ∀ pads : List Pad, ∀ p ∈ pads.map Outlet.unlinked, p.closed = false := by
    intro pads p member
    obtain ⟨pad, _, rfl⟩ := List.mem_map.1 member
    rfl
  refine ⟨⟨⟨unlinked _, opened _, h.untouched.feed, h.untouched.feedEnded, h.untouched.exhausted,
    h.untouched.flushed⟩, by simp, fun _ => ⟨⟨_, resolved⟩, ?_, ?_, ?_⟩, by simp⟩, ?_⟩
  · rw [← h.initial fresh]
    exact setUp
  · simp [Function.comp_def, Inlet.unlinked]
  · simp [Function.comp_def, Outlet.unlinked]
  · intro d pad
    cases d <;>
      simp [link?, List.getElem?_map, Option.bind_map, Function.comp_def, Inlet.unlinked,
        Outlet.unlinked]

theorem Prepared.fail (h : n.Prepared) (fresh : n.life = .allocated) : n.fail.Prepared where
  untouched := ⟨h.untouched.inlets, h.untouched.outlets, h.untouched.feed, h.untouched.feedEnded,
    h.untouched.exhausted, h.untouched.flushed⟩
  initial := by simp [Node.fail]
  isSetUp := by simp [Node.fail]
  padless _ := h.padless (by simp [fresh])

theorem Prepared.discard (h : n.Prepared) (granted : n.discard = .ok m) :
    m.Prepared ∧ n.life ≠ .initialized ∧ m.life = .discarded := by
  obtain ⟨unused, rfl⟩ := discard_eq_ok_iff.1 granted
  refine ⟨⟨⟨by simp, by simp, rfl, h.untouched.feedEnded, h.untouched.exhausted,
    h.untouched.flushed⟩, by simp, by simp, fun _ => ⟨rfl, rfl⟩⟩, ?_, rfl⟩
  rcases unused with life | life <;> simp [life]

omit [Filter σ] in
theorem link?_noteLink (n : Node σ) (d d' : Direction) (pad pad' link : Nat) :
    (n.noteLink d pad link).link? d' pad' =
      if d' = d ∧ pad' = pad ∧ pad < n.padCount d then some link else n.link? d' pad' := by
  cases d <;> cases d' <;>
    simp only [noteLink, link?, padCount, List.getElem?_modify, reduceCtorEq, false_and, if_false,
      true_and]
  · by_cases same : pad = pad'
    · subst same
      by_cases inside : pad < n.inputs.length <;> simp [inside]
    · simp [same, Ne.symm same]
  · by_cases same : pad = pad'
    · subst same
      by_cases inside : pad < n.outputs.length <;> simp [inside]
    · simp [same, Ne.symm same]

omit [Filter σ] in
@[simp] theorem padCount_noteLink (n : Node σ) (d d' : Direction) (pad link : Nat) :
    (n.noteLink d pad link).padCount d' = n.padCount d' := by
  cases d <;> cases d' <;> simp [noteLink, padCount]

omit [Filter σ] in
theorem Untouched.noteLink (h : n.Untouched) (d : Direction) (pad link : Nat) :
    (n.noteLink d pad link).Untouched := by
  cases d with
  | input =>
    exact ⟨forall_mem_modify (fun p q => ⟨q.queue, q.ended, q.told⟩) h.inlets, h.outlets, h.feed,
      h.feedEnded, h.exhausted, h.flushed⟩
  | output =>
    exact ⟨h.inlets, forall_mem_modify (fun p q => q) h.outlets, h.feed, h.feedEnded, h.exhausted,
      h.flushed⟩

omit [Filter σ] in
@[simp] theorem inputs_noteLink (n : Node σ) (d : Direction) (pad link : Nat) :
    (n.noteLink d pad link).inputs.map Inlet.pad = n.inputs.map Inlet.pad := by
  cases d with
  | input => exact map_modify_eq _ _ fun _ => rfl
  | output => rfl

omit [Filter σ] in
@[simp] theorem outputs_noteLink (n : Node σ) (d : Direction) (pad link : Nat) :
    (n.noteLink d pad link).outputs.map Outlet.pad = n.outputs.map Outlet.pad := by
  cases d with
  | input => rfl
  | output => exact map_modify_eq _ _ fun _ => rfl

theorem Prepared.noteLink (h : n.Prepared) (d : Direction) (pad link : Nat) :
    (n.noteLink d pad link).Prepared := by
  have inputs := n.inputs_noteLink d pad link
  have outputs := n.outputs_noteLink d pad link
  refine ⟨h.untouched.noteLink d pad link, ?_, ?_, ?_⟩
  · cases d <;> exact h.initial
  · intro ready
    have setUp := h.isSetUp (by cases d <;> exact ready)
    cases d <;> exact ⟨setUp.resolved, setUp.filter, inputs.trans setUp.inputs,
      outputs.trans setUp.outputs⟩
  · intro other
    obtain ⟨none, none'⟩ := h.padless (by cases d <;> exact other)
    cases d <;> simp [Node.noteLink, none, none']

end Node

namespace Graph

/-- A graph as the operations before configuration leave it. -/
structure Assembled [Filter σ] (g : Graph σ) : Prop where
  unconfigured : g.configured = false
  wired : g.Wired
  nodes : ∀ {i : Nat} {n : Node σ}, g.nodes[i]? = some n → n.Prepared

section Wiring

variable {g : Graph σ} {i : Nat} {n m : Node σ}

theorem Wired.setNode (h : g.Wired) (there : g.nodes[i]? = some n)
    (links : ∀ d pad, m.link? d pad = n.link? d pad)
    (live : ∀ d pad k, m.link? d pad = some k → m.isLive) : (g.setNode i m).Wired where
  linkAt_iff := by
    intro d e k
    have same : (g.setNode i m).linkAt d e = g.linkAt d e := by
      rw [linkAt, nodes_setNode there]
      split
      · next here => simp [linkAt, ← here, there, links]
      · rfl
    rw [same]
    exact h.linkAt_iff
  live := by
    intro j k d pad l there' noted
    rw [nodes_setNode there] at there'
    split at there'
    · exact Option.some.inj there' ▸ live d pad l (Option.some.inj there' ▸ noted)
    · exact h.live there' noted

theorem Wired.push (h : g.Wired) (unlinked : ∀ d pad, n.link? d pad = none) :
    Wired { g with nodes := g.nodes.push n } := by
  have same : ∀ d e, linkAt { g with nodes := g.nodes.push n } d e = g.linkAt d e := by
    intro d e
    simp only [linkAt, Array.getElem?_push]
    split
    · next new => simp [new, unlinked]
    · rfl
  refine ⟨fun {d e k} => (same d e).symm ▸ h.linkAt_iff, fun {j k d pad l} there noted => ?_⟩
  simp only [Array.getElem?_push] at there
  split at there
  · rw [← Option.some.inj there, unlinked] at noted
    simp at noted
  · exact h.live there noted

theorem Wired.allocate (h : g.Wired) (kind : Kind σ) :
    Wired { g with nodes := g.nodes.push (.ofKind kind) } :=
  h.push (Node.link?_of_padless ⟨rfl, rfl⟩)

/-- An inlet or outlet that a node has. -/
def HasPad (g : Graph σ) (d : Direction) (e : Endpoint) : Prop :=
  ∃ n, g.nodes[e.node]? = some n ∧ e.pad < n.padCount d

theorem linkAt_attach {d : Direction} {e : Endpoint} (pad : g.HasPad d e) (k : Nat)
    (d' : Direction) (e' : Endpoint) :
    (g.attach d e k).linkAt d' e' = if d' = d ∧ e' = e then some k else g.linkAt d' e' := by
  obtain ⟨n, there, inside⟩ := pad
  rw [linkAt, nodes_attach]
  by_cases same : e.node = e'.node
  · simp only [← same, there, Option.map_some, if_true, Option.bind_some, Node.link?_noteLink,
      inside, and_true, linkAt]
    have ends : e'.pad = e.pad ↔ e' = e := by
      cases e
      cases e'
      simp_all
    simp only [ends]
  · have other : e' ≠ e := fun h => same (congrArg Endpoint.node h).symm
    simp [same, other, linkAt]

theorem hasPad_attach {d d' : Direction} {e e' : Endpoint} {k : Nat} (pad : g.HasPad d' e') :
    (g.attach d e k).HasPad d' e' := by
  obtain ⟨n, there, inside⟩ := pad
  refine ⟨_, by rw [nodes_attach, there]; rfl, ?_⟩
  split <;> simpa using inside

theorem links_joined (g : Graph σ) (l : Link) : (g.joined l).links = g.links.push l := by
  simp [joined, attach_eq]

theorem nodes_joined (g : Graph σ) (l : Link) :
    (g.joined l).nodes =
      (g.nodes.modify l.source.node fun n => n.noteLink .output l.source.pad g.links.size).modify
        l.target.node fun n => n.noteLink .input l.target.pad g.links.size := by
  simp [joined, attach_eq]

theorem linkAt_joined {l : Link} (pads : ∀ d, g.HasPad d (l.endAt d)) (d : Direction)
    (e : Endpoint) :
    (g.joined l).linkAt d e = if e = l.endAt d then some g.links.size else g.linkAt d e := by
  have output : { g with links := g.links.push l }.HasPad .output l.source := pads .output
  have input : { g with links := g.links.push l }.HasPad .input l.target := pads .input
  rw [joined, linkAt_attach (hasPad_attach input), linkAt_attach output]
  cases d <;> simp [Link.endAt] <;> rfl

theorem isLive_of_joined {l : Link} {i : Nat} {m : Node σ} (there : (g.joined l).nodes[i]? = some m)
    (live : g.isLiveAt i) : m.isLive := by
  obtain ⟨n, before, live⟩ := isLiveAt_iff.1 live
  simp only [joined, nodes_attach, before, Option.map_some, Option.some.injEq] at there
  subst there
  split <;> split <;> exact live

/-- A new link between two free pads. -/
theorem Wired.join (h : g.Wired) {l : Link} (pads : ∀ d, g.HasPad d (l.endAt d))
    (free : ∀ d, g.linkAt d (l.endAt d) = none) (live : ∀ d, g.isLiveAt (l.endAt d).node) :
    (g.joined l).Wired := by
  refine ⟨fun {d e k} => ?_, fun {j n d pad k} there at_pad => ?_⟩
  · rw [linkAt_joined pads, links_joined, Array.getElem?_push]
    constructor
    · split
      · next here =>
        rintro ⟨⟩
        exact ⟨l, by simp, here.symm⟩
      · intro old
        obtain ⟨l', link, ends⟩ := h.linkAt_iff.1 old
        have inside := (Array.getElem?_eq_some_iff.1 link).1
        exact ⟨l', by simpa [Nat.ne_of_lt inside] using link, ends⟩
    · rintro ⟨l', link, ends⟩
      split at link
      · next new =>
        obtain rfl := Option.some.inj link
        simp [ends, new]
      · have old := h.linkAt_iff.2 ⟨l', link, ends⟩
        have other : e ≠ l.endAt d := by
          rintro rfl
          rw [free] at old
          simp at old
        simp [other, old]
  · have at_end : (g.joined l).linkAt d ⟨j, pad⟩ = some k := by simp [linkAt, there, at_pad]
    rw [linkAt_joined pads] at at_end
    split at at_end
    · next here =>
      have place : j = (l.endAt d).node := congrArg Endpoint.node here
      exact isLive_of_joined there (place ▸ live d)
    · obtain ⟨l', link, ends⟩ := h.linkAt_iff.1 at_end
      have at_j := h.isLiveAt_end link d
      rw [ends] at at_j
      exact isLive_of_joined there at_j

end Wiring

namespace Assembled

variable [Filter σ] {g after : Graph σ} {i : Nat} {n m : Node σ} {id : NodeId}

theorem create {registry : Registry σ} {number : GraphId} {options : GraphOptions}
    (created : Graph.create number registry options = .ok g) : g.Assembled := by
  obtain rfl := create_eq_ok created
  exact ⟨rfl, ⟨by simp [linkAt], by simp⟩, by simp⟩

theorem setNode (h : g.Assembled) (there : g.nodes[i]? = some n)
    (links : ∀ d pad, m.link? d pad = n.link? d pad) (prepared : m.Prepared) :
    (g.setNode i m).Assembled where
  unconfigured := h.unconfigured
  wired := by
    refine h.wired.setNode there links fun d pad k noted => ?_
    by_cases ready : m.life = .initialized
    · exact Node.isLive_of_initialized ready
    · rw [Node.link?_of_padless (prepared.padless ready)] at noted
      simp at noted
  nodes := by
    intro j k there'
    rw [nodes_setNode there] at there'
    split at there'
    · exact Option.some.inj there' ▸ prepared
    · exact h.nodes there'

theorem allocate (h : g.Assembled) {kind : String} (granted : g.allocate kind = .ok (id, after)) :
    after.Assembled := by
  obtain ⟨_, k, _, _, rfl⟩ := allocate_eq_ok_iff.1 granted
  refine ⟨h.unconfigured, h.wired.allocate k, fun {j m} there => ?_⟩
  simp only [Array.getElem?_push] at there
  split at there
  · exact Option.some.inj there ▸ Node.prepared_ofKind k
  · exact h.nodes there

theorem setOption (h : g.Assembled) {key value : String}
    (granted : g.setOption id key value = .ok after) : after.Assembled := by
  obtain ⟨n, m, found, set, rfl⟩ := setOption_eq_ok_iff.1 granted
  obtain ⟨_, there, _⟩ := find_eq_ok_iff.1 found
  obtain ⟨prepared, inputs, outputs⟩ := (h.nodes there).setOption set
  refine h.setNode there (fun d pad => ?_) prepared
  cases d <;> simp [Node.link?, inputs, outputs]

theorem initializeNode (h : g.Assembled) (id : NodeId) : (g.initializeNode id).1.Assembled := by
  obtain ⟨_, _, same⟩ | ⟨n, found, ⟨_, same⟩ | ⟨fresh, setUp⟩⟩ := g.initializeNode_cases id
  · exact same ▸ h
  · exact same ▸ h
  · obtain ⟨_, there, _⟩ := find_eq_ok_iff.1 found
    have prepared := h.nodes there
    have padless := prepared.padless (by simp [fresh])
    rcases setUp with ⟨m, applied, made⟩ | ⟨_, _, made⟩
    · obtain ⟨ready, unlinked⟩ := prepared.apply fresh applied
      exact made ▸ h.setNode there
        (fun d pad => (unlinked d pad).trans (Node.link?_of_padless padless d pad).symm) ready
    · refine made ▸ h.setNode there (fun d pad => ?_) (prepared.fail fresh)
      cases d <;> rfl

theorem discard (h : g.Assembled) (granted : g.discard id = .ok after) : after.Assembled := by
  obtain ⟨_, n, m, found, gone, rfl⟩ := discard_eq_ok_iff.1 granted
  obtain ⟨_, there, _⟩ := find_eq_ok_iff.1 found
  obtain ⟨prepared, before, life⟩ := (h.nodes there).discard gone
  refine h.setNode there (fun d pad => ?_) prepared
  rw [Node.link?_of_padless ((h.nodes there).padless before),
    Node.link?_of_padless (prepared.padless (by simp [life]))]

theorem link (h : g.Assembled) {source target : NodeId} {output input number : Nat}
    (granted : g.link source output target input = .ok (number, after)) : after.Assembled := by
  obtain ⟨_, n, at_source, m, at_target, checked, _, rfl⟩ := link_eq_ok_iff.1 granted
  obtain ⟨_, there, live⟩ := find_eq_ok_iff.1 at_source
  obtain ⟨_, there', live'⟩ := find_eq_ok_iff.1 at_target
  obtain ⟨_, _, output_fits, input_fits, output_free, input_free⟩ := checkLink_eq_ok_iff.1 checked
  refine ⟨by simp [Graph.joined, attach_eq, h.unconfigured], h.wired.join ?_ ?_ ?_,
    fun {j k} at_j => ?_⟩
  · intro d
    cases d with
    | input => exact ⟨m, there', input_fits⟩
    | output => exact ⟨n, there, output_fits⟩
  · intro d
    cases d with
    | input => simpa [linkAt, Link.endAt, there'] using input_free
    | output => simpa [linkAt, Link.endAt, there] using output_free
  · intro d
    cases d with
    | input => exact isLiveAt_iff.2 ⟨m, there', live'⟩
    | output => exact isLiveAt_iff.2 ⟨n, there, live⟩
  · simp only [Graph.joined, nodes_attach, Option.map_eq_some_iff] at at_j
    obtain ⟨k', ⟨k'', at_j, rfl⟩, rfl⟩ := at_j
    have prepared := h.nodes at_j
    split <;> split
    · exact (prepared.noteLink _ _ _).noteLink _ _ _
    · exact prepared.noteLink _ _ _
    · exact prepared.noteLink _ _ _
    · exact prepared

end Assembled
end Graph
end FrameFlow
