import FrameFlow.Proofs.Reach

/-! What the numbers of nodes and links refer to. Arenas only grow, so a handle stands for one node
and a number for one link, whatever is called. The links that are listed at a node are those that its
pads note, and a discarded node has neither. -/
namespace FrameFlow

variable {σ : Type}

namespace Node

variable {n m : Node σ}

theorem kind_of_setOption {key value : String} (set : n.setOption key value = .ok m) :
    m.kind = n.kind := by
  obtain ⟨_, rfl⟩ := setOption_eq_ok_iff.1 set
  rfl

theorem kind_of_apply [Filter σ] (applied : n.apply = .ok m) : m.kind = n.kind := by
  obtain ⟨_, _, _, _, rfl⟩ := apply_eq_ok_iff.1 applied
  rfl

theorem kind_of_discard (gone : n.discard = .ok m) : m.kind = n.kind := by
  obtain ⟨_, rfl⟩ := discard_eq_ok_iff.1 gone
  rfl

end Node

namespace Graph

/-- What no call changes: a node keeps its place and its kind, a link its number and its ends. Before
configuration there is no schedule. -/
structure Extends (g h : Graph σ) : Prop where
  id : h.id = g.id
  nodes : ∀ {i : Nat} {n : Node σ}, g.nodes[i]? = some n → ∃ m, h.nodes[i]? = some m ∧ m.kind = n.kind
  links : ∀ {k : Nat} {l : Link}, g.links[k]? = some l →
    ∃ l', h.links[k]? = some l' ∧ ∀ d, l'.endAt d = l.endAt d
  unscheduled : h.configured = false → g.configured = false ∧ h.schedule = g.schedule

namespace Extends

variable {g h k : Graph σ} {i : Nat} {n m : Node σ}

theorem refl (g : Graph σ) : g.Extends g :=
  ⟨rfl, fun there => ⟨_, there, rfl⟩, fun link => ⟨_, link, fun _ => rfl⟩, fun off => ⟨off, rfl⟩⟩

theorem trans (first : g.Extends h) (second : h.Extends k) : g.Extends k where
  id := second.id.trans first.id
  nodes there := by
    obtain ⟨m, there', kind⟩ := first.nodes there
    obtain ⟨m', there'', kind'⟩ := second.nodes there'
    exact ⟨m', there'', kind'.trans kind⟩
  links link := by
    obtain ⟨l, link', ends⟩ := first.links link
    obtain ⟨l', link'', ends'⟩ := second.links link'
    exact ⟨l', link'', fun d => (ends' d).trans (ends d)⟩
  unscheduled off := by
    obtain ⟨off', same⟩ := second.unscheduled off
    obtain ⟨off'', same'⟩ := first.unscheduled off'
    exact ⟨off'', same.trans same'⟩

theorem of_evolves (e : g.Evolves h) : g.Extends h where
  id := e.id
  nodes there := by
    obtain ⟨m, there', via⟩ := e.nodes there
    exact ⟨m, there', via.kind⟩
  links link := ⟨_, e.links ▸ link, fun _ => rfl⟩
  unscheduled off := ⟨e.configured ▸ off, e.schedule⟩

theorem setNode (there : g.nodes[i]? = some n) (kind : m.kind = n.kind) :
    g.Extends (g.setNode i m) where
  id := rfl
  nodes := by
    intro j k there'
    rw [nodes_setNode there]
    split
    · next same =>
      obtain rfl := Option.some.inj (there.symm.trans (same ▸ there'))
      exact ⟨m, rfl, kind⟩
    · exact ⟨k, there', rfl⟩
  links link := ⟨_, link, fun _ => rfl⟩
  unscheduled off := ⟨off, rfl⟩

theorem push (g : Graph σ) (kind : Kind σ) : g.Extends { g with nodes := g.nodes.push (.ofKind kind) } where
  id := rfl
  nodes := by
    intro i n there
    have inside := (Array.getElem?_eq_some_iff.1 there).1
    exact ⟨n, by simpa [Array.getElem?_push, Nat.ne_of_lt inside] using there, rfl⟩
  links link := ⟨_, link, fun _ => rfl⟩
  unscheduled off := ⟨off, rfl⟩

theorem joined (g : Graph σ) (l : Link) : g.Extends (g.joined l) where
  id := by simp [Graph.joined, attach_eq]
  nodes := by
    intro i n there
    simp only [Graph.joined, nodes_attach, there, Option.map_some]
    refine ⟨_, rfl, ?_⟩
    split <;> split <;> rfl
  links := by
    intro k l' link
    have inside := (Array.getElem?_eq_some_iff.1 link).1
    refine ⟨l', ?_, fun _ => rfl⟩
    rw [links_joined]
    simpa [Array.getElem?_push, Nat.ne_of_lt inside] using link
  unscheduled off := by
    have same : (g.joined l).configured = g.configured ∧ (g.joined l).schedule = g.schedule := by
      simp [Graph.joined, attach_eq]
    exact ⟨same.1.symm.trans off, same.2⟩

end Extends

theorem allocate_eq_ok {g h : Graph σ} {kind : String} {id : NodeId}
    (ok : g.allocate kind = .ok (id, h)) :
    id = g.handle g.nodes.size ∧ ∃ k, h = { g with nodes := g.nodes.push (.ofKind k) } := by
  obtain ⟨_, k, _, number, made⟩ := allocate_eq_ok_iff.1 ok
  exact ⟨number, k, made⟩

theorem link_eq_ok {g h : Graph σ} {source target : NodeId} {output input number : Nat}
    (ok : g.link source output target input = .ok (number, h)) :
    number = g.links.size ∧ h = g.joined ⟨⟨source.index, output⟩, ⟨target.index, input⟩, none⟩ := by
  obtain ⟨_, _, _, _, _, _, number, made⟩ := link_eq_ok_iff.1 ok
  exact ⟨number.symm, made.symm⟩

section Calls

variable [Filter σ] {g : Graph σ} {i : Nat} {n m : Node σ}

theorem extends_initializeNode (g : Graph σ) (id : NodeId) : g.Extends (g.initializeNode id).1 := by
  obtain ⟨_, _, same⟩ | ⟨n, found, ⟨_, same⟩ | ⟨_, setUp⟩⟩ := g.initializeNode_cases id
  · exact same ▸ .refl g
  · exact same ▸ .refl g
  · obtain ⟨_, there, _⟩ := find_eq_ok_iff.1 found
    rcases setUp with ⟨m, applied, made⟩ | ⟨_, _, made⟩
    · exact made ▸ .setNode there (Node.kind_of_apply applied)
    · exact made ▸ .setNode there rfl

theorem Reachable.extends_after (reachable : g.Reachable) (call : Call) : g.Extends (g.after call) := by
  cases call with
  | allocate kind =>
    refine orSame_induction (.refl g) fun (_, h) ok => ?_
    obtain ⟨_, k, rfl⟩ := allocate_eq_ok ok
    exact .push g k
  | setOption id key value =>
    refine orSame_induction (.refl g) fun h ok => ?_
    obtain ⟨n, m, found, set, rfl⟩ := setOption_eq_ok_iff.1 ok
    obtain ⟨_, there, _⟩ := find_eq_ok_iff.1 found
    exact .setNode there (Node.kind_of_setOption set)
  | setUp id => exact g.extends_initializeNode id
  | discard id =>
    refine orSame_induction (.refl g) fun h ok => ?_
    obtain ⟨_, n, m, found, gone, rfl⟩ := discard_eq_ok_iff.1 ok
    obtain ⟨_, there, _⟩ := find_eq_ok_iff.1 found
    exact .setNode there (Node.kind_of_discard gone)
  | link source output target input =>
    refine orSame_induction (.refl g) fun (_, h) ok => ?_
    obtain ⟨_, rfl⟩ := link_eq_ok ok
    exact .joined g _
  | configure =>
    refine orSame_induction (.refl g) fun h ok => ?_
    have assembled := reachable.assembled (unconfigured_of_configure ok)
    obtain ⟨id, nodes, configured, _, formats, _, links⟩ := configures_of_configure assembled ok
    refine ⟨id, fun there => ⟨_, nodes ▸ there, rfl⟩, fun {k l} link => ?_, fun off => ?_⟩
    · refine ⟨{ l with format := some (formats k) }, by rw [links, link]; rfl, fun d => ?_⟩
      cases d <;> rfl
    · simp [configured] at off
  | request r => exact .of_evolves (g.runs_serve r).evolves
  | drain id =>
    obtain ⟨es, run⟩ := g.exists_runs_drain id
    exact .of_evolves run.evolves

theorem Reachable.extends_calls (reachable : g.Reachable) (calls : List Call) :
    g.Extends (calls.foldl Graph.after g) := by
  induction calls generalizing g with
  | nil => exact .refl g
  | cons call rest ih => exact (reachable.extends_after call).trans (ih (.called call reachable))

theorem Reachable.schedule_eq_nil (reachable : g.Reachable) (unconfigured : g.configured = false) :
    g.schedule = [] := by
  induction reachable with
  | created made => exact create_eq_ok made ▸ rfl
  | called call reachable ih =>
    obtain ⟨before, same⟩ := (reachable.extends_after call).unscheduled unconfigured
    rw [same, ih before]

/-- Scheduled nodes are nodes of the graph. -/
theorem Reachable.lt_size_of_mem_schedule (reachable : g.Reachable) (member : i ∈ g.schedule) :
    i < g.nodes.size := by
  cases configured : g.configured with
  | false => simp [reachable.schedule_eq_nil configured] at member
  | true =>
    obtain ⟨start, es, ready, run⟩ := reachable.ran configured
    rw [run.evolves.schedule, ready.schedules.mem_iff] at member
    obtain ⟨n, there, _⟩ := isLiveAt_iff.1 member
    exact run.evolves.size ▸ (Array.getElem?_eq_some_iff.1 there).1

/-- Discarding a node takes its pads away. -/
theorem Reachable.padless (reachable : g.Reachable) (there : g.nodes[i]? = some n)
    (gone : n.life = .discarded) : n.inputs = [] ∧ n.outputs = [] := by
  rcases reachable.assembled_or_ran with assembled | ⟨start, es, ready, run⟩
  · exact (assembled.nodes there).padless (by simp [gone])
  · obtain ⟨m, before, via⟩ := run.evolves.before there
    have life : m.life = .discarded := (via.life.resolve_right (by simp [gone])).symm.trans gone
    obtain ⟨inputs, outputs⟩ := (ready.prepared before).padless (by simp [life])
    have none : n.inputs.length = 0 ∧ n.outputs.length = 0 := by
      simp [via.inputs_length, via.outputs_length, inputs, outputs]
    exact ⟨List.length_eq_zero_iff.1 none.1, List.length_eq_zero_iff.1 none.2⟩

end Calls

section Listing

variable {g : Graph σ} {i k : Nat} {n : Node σ} {l : Link} {d : Direction} {id : NodeId}

/-- The links that are listed on one side of a node, with their numbers. -/
def linksOn (g : Graph σ) (d : Direction) (id : NodeId) : List (Nat × Link) :=
  match d with
  | .input => g.linksTo id
  | .output => g.linksFrom id

theorem mem_linksOn_iff : (k, l) ∈ g.linksOn d id ↔
    id.graph = g.id ∧ g.links[k]? = some l ∧ (l.endAt d).node = id.index := by
  by_cases own : id.graph = g.id <;> cases d <;>
    simp [linksOn, linksTo, linksFrom, own, Link.endAt, List.mem_zipIdx_iff_getElem?]

/-- Links are listed in the order of their numbers, each once. -/
theorem pairwise_linksOn (g : Graph σ) (d : Direction) (id : NodeId) :
    (g.linksOn d id).Pairwise fun a b => a.1 < b.1 := by
  have part : ∀ keep : Link × Nat → Bool,
      ((g.links.toList.zipIdx.filter keep).map Prod.swap).Pairwise fun a b => a.1 < b.1 := by
    intro keep
    rw [List.pairwise_map]
    refine List.Pairwise.filter _ ?_
    have numbers : (g.links.toList.zipIdx.map Prod.snd).Pairwise (· < ·) := by
      rw [List.zipIdx_map_snd]
      exact List.pairwise_lt_range'
    exact List.pairwise_map.1 numbers
  cases d with
  | input =>
    show (g.linksTo id).Pairwise _
    unfold linksTo
    split
    · exact part _
    · exact .nil
  | output =>
    show (g.linksFrom id).Pairwise _
    unfold linksFrom
    split
    · exact part _
    · exact .nil

theorem Wired.mem_linksOn_handle_iff (wired : g.Wired) (there : g.nodes[i]? = some n) :
    (k, l) ∈ g.linksOn d (g.handle i) ↔
      g.links[k]? = some l ∧ ∃ pad, n.link? d pad = some k := by
  rw [mem_linksOn_iff]
  constructor
  · rintro ⟨_, link, here⟩
    obtain ⟨m, there', noted⟩ := wired.node_at_end link d
    obtain rfl := Option.some.inj (there.symm.trans (here ▸ there'))
    exact ⟨link, _, noted⟩
  · rintro ⟨link, pad, noted⟩
    obtain ⟨l', link', ends⟩ := wired.end_of_link? there noted
    obtain rfl := Option.some.inj (link.symm.trans link')
    exact ⟨rfl, link, congrArg Endpoint.node ends⟩

theorem lt_padCount_of_link? {pad : Nat} (noted : n.link? d pad = some k) : pad < n.padCount d := by
  cases d <;>
  · obtain ⟨p, at_pad, _⟩ := Option.bind_eq_some_iff.1 noted
    exact (List.getElem?_eq_some_iff.1 at_pad).1

end Listing

end Graph
end FrameFlow
