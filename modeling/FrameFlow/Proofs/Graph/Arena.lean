import FrameFlow.Flow.Pull
import FrameFlow.Graph.Topology
import FrameFlow.Proofs.Graph.Shape

/-! Nodes and links of a graph refer to each other: a pad notes a link just where that link has
the pad as its end. So the links alone tell which node feeds which. -/
namespace FrameFlow

/-- A change at one place that does not show in a view. -/
theorem map_modify_eq {α β : Type} {view : α → β} {f : α → α} (all : List α) (place : Nat)
    (keeps : ∀ a, view (f a) = view a) : (all.modify place f).map view = all.map view := by
  refine List.ext_getElem? fun i => ?_
  simp only [List.getElem?_map, List.getElem?_modify]
  cases all[i]? with
  | none => rfl
  | some a =>
    by_cases same : place = i <;> simp [same, keeps]

theorem forall_mem_modify {α : Type} {P : α → Prop} {f : α → α} {all : List α} {place : Nat}
    (keeps : ∀ a, P a → P (f a)) (every : ∀ a ∈ all, P a) : ∀ a ∈ all.modify place f, P a := by
  intro a member
  obtain ⟨i, at_i⟩ := List.mem_iff_getElem?.1 member
  rw [List.getElem?_modify] at at_i
  cases there : all[i]? with
  | none => simp [there] at at_i
  | some b =>
    have good := every b (List.mem_of_getElem? there)
    by_cases same : place = i
    · simp only [there, same, if_true, Option.map_eq_map, Option.map_some,
        Option.some.injEq] at at_i
      exact at_i ▸ keeps b good
    · simp only [there, same, if_false, Option.map_eq_map, Option.map_some,
        Option.some.injEq] at at_i
      exact at_i ▸ good

def Link.endAt (l : Link) : Direction → Endpoint
  | .input => l.target
  | .output => l.source

theorem Node.isLive_of_initialized {σ : Type} {n : Node σ} (ready : n.life = .initialized) :
    n.isLive := by
  simp [isLive, ready]

namespace Graph

variable {σ : Type}

/-- The link that is noted at a pad. -/
def linkAt (g : Graph σ) (d : Direction) (e : Endpoint) : Option Nat :=
  g.nodes[e.node]?.bind fun n => n.link? d e.pad

/-- Pads note the links that end there, and only nodes that were not discarded have such pads. -/
structure Wired (g : Graph σ) : Prop where
  linkAt_iff : ∀ {d : Direction} {e : Endpoint} {k : Nat},
    g.linkAt d e = some k ↔ ∃ l, g.links[k]? = some l ∧ l.endAt d = e
  live : ∀ {i : Nat} {n : Node σ} {d : Direction} {pad k : Nat},
    g.nodes[i]? = some n → n.link? d pad = some k → n.isLive

/-- A link leads from one node to another. -/
def Feeds (g : Graph σ) (i j : Nat) : Prop :=
  ∃ l ∈ g.links, l.source.node = i ∧ l.target.node = j

/-- Frames can get from one node to another. -/
def LeadsTo (g : Graph σ) : Nat → Nat → Prop := Relation.ReflTransGen g.Feeds

section Live

variable {g : Graph σ} {i : Nat} {n : Node σ}

theorem mem_live_iff : (i, n) ∈ g.live ↔ g.nodes[i]? = some n ∧ n.isLive := by
  simp only [live, List.mem_filterMap, Prod.exists, List.mem_zipIdx_iff_getElem?,
    Array.getElem?_toList]
  constructor
  · rintro ⟨m, j, there, found⟩
    by_cases alive : m.isLive
    · simp only [alive, if_true, Option.some.injEq, Prod.mk.injEq] at found
      obtain ⟨rfl, rfl⟩ := found
      exact ⟨there, alive⟩
    · simp [alive] at found
  · rintro ⟨there, alive⟩
    exact ⟨n, i, there, by simp [alive]⟩

theorem isLiveAt_iff : g.isLiveAt i ↔ ∃ n, g.nodes[i]? = some n ∧ n.isLive := by
  simp [isLiveAt, Option.any_eq_true]

theorem mem_liveIndices_iff : i ∈ g.liveIndices ↔ g.isLiveAt i := by
  simp [liveIndices, mem_live_iff, isLiveAt_iff]

/-- Live nodes are listed in the order of the arena. -/
theorem pairwise_live (g : Graph σ) : g.live.Pairwise fun a b => a.1 < b.1 := by
  have numbers : g.nodes.toList.zipIdx.Pairwise fun a b => a.2 < b.2 := by
    rw [← List.pairwise_map, List.zipIdx_map_snd]
    exact List.pairwise_lt_range'
  refine numbers.filterMap _ fun p q lt a here b there => ?_
  obtain rfl := Option.some.inj (Option.ite_none_right_eq_some.1 here).2
  obtain rfl := Option.some.inj (Option.ite_none_right_eq_some.1 there).2
  exact lt

theorem pairwise_liveIndices (g : Graph σ) : g.liveIndices.Pairwise (· < ·) :=
  List.pairwise_map.2 g.pairwise_live

end Live

namespace Wired

variable {g : Graph σ} {d : Direction} {e : Endpoint} {i j k m pad : Nat} {n : Node σ} {l : Link}

theorem end_of_link? (h : g.Wired) (there : g.nodes[i]? = some n) (at_pad : n.link? d pad = some k) :
    ∃ l, g.links[k]? = some l ∧ l.endAt d = ⟨i, pad⟩ :=
  h.linkAt_iff.1 (by simp [linkAt, there, at_pad])

theorem node_at_end (h : g.Wired) (link : g.links[k]? = some l) (d : Direction) :
    ∃ n, g.nodes[(l.endAt d).node]? = some n ∧ n.link? d (l.endAt d).pad = some k :=
  Option.bind_eq_some_iff.1 (h.linkAt_iff.2 ⟨l, link, rfl⟩)

/-- No two links share an end. -/
theorem eq_of_end_eq (h : g.Wired) {l' : Link} (link : g.links[k]? = some l)
    (other : g.links[m]? = some l') (same : l.endAt d = l'.endAt d) : k = m :=
  Option.some.inj ((h.linkAt_iff.2 ⟨l, link, same⟩).symm.trans (h.linkAt_iff.2 ⟨l', other, rfl⟩))

theorem isLiveAt_end (h : g.Wired) (link : g.links[k]? = some l) (d : Direction) :
    g.isLiveAt (l.endAt d).node := by
  obtain ⟨n, there, at_pad⟩ := h.node_at_end link d
  exact isLiveAt_iff.2 ⟨n, there, h.live there at_pad⟩

/-- A link joins live nodes. -/
theorem isLiveAt_of_feeds (h : g.Wired) (feeds : g.Feeds i j) : g.isLiveAt i ∧ g.isLiveAt j := by
  obtain ⟨l, link, rfl, rfl⟩ := feeds
  obtain ⟨k, at_k⟩ := Array.mem_iff_getElem?.1 link
  exact ⟨h.isLiveAt_end at_k .output, h.isLiveAt_end at_k .input⟩

theorem mem_edges_iff (h : g.Wired) : (i, j) ∈ g.shape.edges ↔ g.Feeds i j := by
  simp only [shape, List.mem_map, List.mem_filter, Bool.and_eq_true, Array.mem_toList_iff,
    Prod.mk.injEq, Feeds]
  constructor
  · rintro ⟨l, ⟨link, _⟩, ends⟩
    exact ⟨l, link, ends⟩
  · rintro ⟨l, link, ends⟩
    exact ⟨l, ⟨link, h.isLiveAt_of_feeds ⟨l, link, rfl, rfl⟩⟩, ends⟩

theorem shape_wellFormed (h : g.Wired) : g.shape.WellFormed where
  nodup := g.pairwise_liveIndices.imp Nat.ne_of_lt
  within := by
    rintro ⟨i, j⟩ edge
    obtain ⟨source, target⟩ := h.isLiveAt_of_feeds (h.mem_edges_iff.1 edge)
    exact ⟨mem_liveIndices_iff.2 source, mem_liveIndices_iff.2 target⟩

theorem successors_eq_feeds (h : g.Wired) :
    (fun i j => j ∈ g.shape.successors i) = g.Feeds := by
  funext i j
  simp [Shape.mem_successors, h.mem_edges_iff]

theorem leads_successors_iff (h : g.Wired) : Leads g.shape.successors i j ↔ g.LeadsTo i j := by
  rw [Leads, h.successors_eq_feeds]
  rfl

theorem leadsOn_successors_iff (h : g.Wired) :
    LeadsOn g.shape.successors i j ↔ Relation.TransGen g.Feeds i j := by
  rw [LeadsOn, h.successors_eq_feeds]

theorem acyclic_iff (h : g.Wired) :
    g.shape.Acyclic ↔ ∀ i, ¬Relation.TransGen g.Feeds i i := by
  simp only [Shape.Acyclic, h.leadsOn_successors_iff]

theorem mem_feeders_iff (h : g.Wired) : j ∈ g.feeders i ↔ g.Feeds j i := by
  unfold feeders
  split
  · next outside =>
    simp only [List.not_mem_nil, false_iff]
    rintro ⟨l, link, rfl, rfl⟩
    obtain ⟨k, at_k⟩ := Array.mem_iff_getElem?.1 link
    obtain ⟨n, there, _⟩ := h.node_at_end at_k .input
    exact absurd there (by simp [Link.endAt, outside])
  · next n there =>
    simp only [List.mem_filterMap, List.mem_reverse, Option.map_eq_some_iff]
    constructor
    · rintro ⟨k, ⟨p, inlet, noted⟩, l, link, rfl⟩
      obtain ⟨pad, at_pad⟩ := List.mem_iff_getElem?.1 inlet
      have seen : n.link? .input pad = some k := by simp [Node.link?, at_pad, noted]
      obtain ⟨l', link', ends⟩ := h.end_of_link? there seen
      obtain rfl := Option.some.inj (link.symm.trans link')
      exact ⟨l, Array.mem_of_getElem? link, rfl, congrArg Endpoint.node ends⟩
    · rintro ⟨l, link, rfl, rfl⟩
      obtain ⟨k, at_k⟩ := Array.mem_iff_getElem?.1 link
      obtain ⟨m, there', noted⟩ := h.node_at_end at_k .input
      obtain rfl := Option.some.inj (there.symm.trans there')
      obtain ⟨p, at_pad, noted⟩ := Option.bind_eq_some_iff.1 noted
      exact ⟨k, ⟨p, List.mem_of_getElem? at_pad, noted⟩, l, at_k, rfl⟩

theorem lt_size_of_feeds (h : g.Wired) (feeds : g.Feeds i j) : i < g.nodes.size := by
  obtain ⟨l, link, rfl, rfl⟩ := feeds
  obtain ⟨k, at_k⟩ := Array.mem_iff_getElem?.1 link
  obtain ⟨n, there, _⟩ := h.node_at_end at_k .output
  exact (Array.getElem?_eq_some_iff.1 there).1

/-- The first failed node that a pull finds is the node itself or feeds it, over however many
links. -/
theorem mem_reachedFrom_feeders_iff (h : g.Wired) (inside : i < g.nodes.size) :
    j ∈ reachedFrom g.feeders g.nodes.size i ↔ g.LeadsTo j i := by
  have closed : Closed g.feeders (List.range g.nodes.size) := fun i _ j step =>
    List.mem_range.2 (h.lt_size_of_feeds (h.mem_feeders_iff.1 step))
  rw [mem_reachedFrom_iff closed (List.mem_range.2 inside) (by simp)]
  have turned : (fun i j => j ∈ g.feeders i) = Function.swap g.Feeds := by
    funext i j
    simp [Function.swap, h.mem_feeders_iff]
  rw [Leads, turned, Relation.reflTransGen_swap]
  rfl

end Wired
end Graph
end FrameFlow
