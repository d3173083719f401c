import FrameFlow.Proofs.Graph.Arena
import FrameFlow.Proofs.Outcome

/-! What a configured graph keeps while frames flow: its nodes with their kinds, options, pads and
links, the formats of its links and its schedule. Only queues, marks and filters change, and a
node may fail. -/
namespace FrameFlow

variable {σ : Type}

/-- A pad with its link. -/
def Inlet.end? (p : Inlet) : Pad × Option Nat := (p.pad, p.link)

def Outlet.end? (p : Outlet) : Pad × Option Nat := (p.pad, p.link)

structure Node.Evolves (n m : Node σ) : Prop where
  kind : m.kind = n.kind
  staged : m.staged = n.staged
  applied : m.applied = n.applied
  inputs : m.inputs.map Inlet.end? = n.inputs.map Inlet.end?
  outputs : m.outputs.map Outlet.end? = n.outputs.map Outlet.end?
  life : m.life = n.life ∨ m.life = .failed

namespace Node.Evolves

variable {n m k : Node σ}

theorem refl (n : Node σ) : n.Evolves n := ⟨rfl, rfl, rfl, rfl, rfl, .inl rfl⟩

theorem trans (first : n.Evolves m) (second : m.Evolves k) : n.Evolves k where
  kind := second.kind.trans first.kind
  staged := second.staged.trans first.staged
  applied := second.applied.trans first.applied
  inputs := second.inputs.trans first.inputs
  outputs := second.outputs.trans first.outputs
  life := by
    rcases second.life with same | failed
    · exact first.life.imp same.trans same.trans
    · exact .inr failed

theorem role (h : n.Evolves m) : m.role = n.role := congrArg Kind.role h.kind

theorem isLive (h : n.Evolves m) (live : n.isLive) : m.isLive := by
  rcases h.life with same | failed
  · simpa [Node.isLive, same] using live
  · simp [Node.isLive, failed]

theorem inputs_length (h : n.Evolves m) : m.inputs.length = n.inputs.length := by
  simpa using congrArg List.length h.inputs

theorem outputs_length (h : n.Evolves m) : m.outputs.length = n.outputs.length := by
  simpa using congrArg List.length h.outputs

theorem link?_eq (h : n.Evolves m) (d : Direction) (pad : Nat) : m.link? d pad = n.link? d pad := by
  cases d with
  | input =>
    have := congrArg (fun ends => (ends[pad]?).bind Prod.snd) h.inputs
    simpa [Node.link?, List.getElem?_map, Option.bind_map, Function.comp_def, Inlet.end?] using this
  | output =>
    have := congrArg (fun ends => (ends[pad]?).bind Prod.snd) h.outputs
    simpa [Node.link?, List.getElem?_map, Option.bind_map, Function.comp_def, Outlet.end?] using this

theorem exists_inlet (h : n.Evolves m) {q : Inlet} (member : q ∈ m.inputs) :
    ∃ p ∈ n.inputs, p.link = q.link := by
  have there : q.end? ∈ n.inputs.map Inlet.end? := h.inputs ▸ List.mem_map_of_mem member
  obtain ⟨p, before, same⟩ := List.mem_map.1 there
  exact ⟨p, before, congrArg Prod.snd same⟩

end Node.Evolves

namespace Inlet

theorem ends_takeFrame {inlets after : List Inlet} {pad : Nat} {frame : Frame}
    (h : takeFrame inlets = some (pad, frame, after)) :
    after.map Inlet.end? = inlets.map Inlet.end? := by
  induction inlets generalizing pad frame after with
  | nil => simp [takeFrame] at h
  | cons p rest ih =>
    unfold takeFrame at h
    split at h
    · simp only [Option.some.injEq, Prod.mk.injEq] at h
      obtain ⟨_, _, rfl⟩ := h
      rfl
    · simp only [Option.map_eq_some_iff, Prod.exists, Prod.mk.injEq] at h
      obtain ⟨_, _, later, found, _, _, rfl⟩ := h
      rw [List.map_cons, List.map_cons, ih found]

theorem ends_takeEnd {inlets after : List Inlet} {pad : Nat}
    (h : takeEnd inlets = some (pad, after)) : after.map Inlet.end? = inlets.map Inlet.end? := by
  induction inlets generalizing pad after with
  | nil => simp [takeEnd] at h
  | cons p rest ih =>
    unfold takeEnd at h
    split at h
    · simp only [Option.some.injEq, Prod.mk.injEq] at h
      obtain ⟨_, rfl⟩ := h
      rfl
    · simp only [Option.map_eq_some_iff, Prod.exists, Prod.mk.injEq] at h
      obtain ⟨_, later, found, _, rfl⟩ := h
      rw [List.map_cons, List.map_cons, ih found]

end Inlet

namespace Node

variable {n m : Node σ} {work : Work}

theorem evolves_takeSourceWork (h : n.takeSourceWork = some (work, m)) : n.Evolves m := by
  unfold takeSourceWork at h
  split at h
  · obtain ⟨_, rfl⟩ := Prod.mk.inj (Option.some.inj h)
    exact ⟨rfl, rfl, rfl, rfl, rfl, .inl rfl⟩
  · split at h
    · obtain ⟨_, rfl⟩ := Prod.mk.inj (Option.some.inj h)
      exact ⟨rfl, rfl, rfl, rfl, rfl, .inl rfl⟩
    · simp at h

theorem evolves_takeInputWork (h : n.takeInputWork = some (work, m)) : n.Evolves m := by
  unfold takeInputWork at h
  split at h
  · next found =>
    obtain ⟨_, rfl⟩ := Prod.mk.inj (Option.some.inj h)
    exact ⟨rfl, rfl, rfl, Inlet.ends_takeFrame found, rfl, .inl rfl⟩
  · split at h
    · next found =>
      obtain ⟨_, rfl⟩ := Prod.mk.inj (Option.some.inj h)
      exact ⟨rfl, rfl, rfl, Inlet.ends_takeEnd found, rfl, .inl rfl⟩
    · split at h
      · obtain ⟨_, rfl⟩ := Prod.mk.inj (Option.some.inj h)
        exact ⟨rfl, rfl, rfl, rfl, rfl, .inl rfl⟩
      · simp at h

theorem evolves_takeWork (h : n.takeWork = some (work, m)) : n.Evolves m := by
  unfold takeWork at h
  split at h
  · exact evolves_takeSourceWork h
  · exact evolves_takeInputWork h

theorem ends_closeOutputs (n : Node σ) (closed : List Bool) :
    (n.closeOutputs closed).outputs.map Outlet.end? = n.outputs.map Outlet.end? := by
  refine List.ext_getElem? fun pad => ?_
  simp only [closeOutputs, List.getElem?_map, List.getElem?_zipIdx, Option.map_map]
  cases n.outputs[pad]? <;> rfl

theorem evolves_closeOutputs (n : Node σ) (closed : List Bool) : n.Evolves (n.closeOutputs closed) :=
  ⟨rfl, rfl, rfl, rfl, n.ends_closeOutputs closed, .inl rfl⟩

end Node

namespace Graph

/-- What stays of a graph while frames flow. -/
structure Evolves (g h : Graph σ) : Prop where
  id : h.id = g.id
  registry : h.registry = g.registry
  options : h.options = g.options
  links : h.links = g.links
  configured : h.configured = g.configured
  schedule : h.schedule = g.schedule
  size : h.nodes.size = g.nodes.size
  nodes : ∀ {i : Nat} {n : Node σ}, g.nodes[i]? = some n →
    ∃ m, h.nodes[i]? = some m ∧ n.Evolves m

namespace Evolves

variable {g h k : Graph σ} {i : Nat} {m : Node σ}

theorem refl (g : Graph σ) : g.Evolves g :=
  ⟨rfl, rfl, rfl, rfl, rfl, rfl, rfl, fun there => ⟨_, there, .refl _⟩⟩

theorem trans (first : g.Evolves h) (second : h.Evolves k) : g.Evolves k where
  id := second.id.trans first.id
  registry := second.registry.trans first.registry
  options := second.options.trans first.options
  links := second.links.trans first.links
  configured := second.configured.trans first.configured
  schedule := second.schedule.trans first.schedule
  size := second.size.trans first.size
  nodes there := by
    obtain ⟨m, there', via⟩ := first.nodes there
    obtain ⟨l, there'', on⟩ := second.nodes there'
    exact ⟨l, there'', via.trans on⟩

theorem before (e : g.Evolves h) (there : h.nodes[i]? = some m) :
    ∃ n, g.nodes[i]? = some n ∧ n.Evolves m := by
  have inside : i < g.nodes.size := e.size ▸ (Array.getElem?_eq_some_iff.1 there).1
  obtain ⟨l, there', via⟩ := e.nodes (Array.getElem?_eq_getElem inside)
  obtain rfl := Option.some.inj (there.symm.trans there')
  exact ⟨_, Array.getElem?_eq_getElem inside, via⟩

theorem linkAt (e : g.Evolves h) (d : Direction) (a : Endpoint) : h.linkAt d a = g.linkAt d a := by
  unfold Graph.linkAt
  cases there : g.nodes[a.node]? with
  | none =>
    have outside : h.nodes[a.node]? = none := by
      rw [Array.getElem?_eq_none_iff] at there ⊢
      exact e.size ▸ there
    rw [outside]
  | some n =>
    obtain ⟨m, there', via⟩ := e.nodes there
    rw [there']
    exact via.link?_eq d a.pad

theorem feeds (e : g.Evolves h) : h.Feeds = g.Feeds := by
  unfold Feeds
  rw [e.links]

theorem wired (e : g.Evolves h) (wired : g.Wired) : h.Wired where
  linkAt_iff := by
    intro d a k
    rw [e.linkAt, e.links]
    exact wired.linkAt_iff
  live := by
    intro j m d pad k there noted
    obtain ⟨n, there', via⟩ := e.before there
    exact via.isLive (wired.live there' (via.link?_eq d pad ▸ noted))

end Evolves

variable {g : Graph σ} {i : Nat} {n m : Node σ}

theorem evolves_setNode (there : g.nodes[i]? = some n) (via : n.Evolves m) :
    g.Evolves (g.setNode i m) where
  id := rfl
  registry := rfl
  options := rfl
  links := rfl
  configured := rfl
  schedule := rfl
  size := Array.size_setIfInBounds
  nodes := by
    intro j k there'
    simp only [setNode, Array.getElem?_setIfInBounds]
    split
    · next same =>
      subst same
      obtain rfl := Option.some.inj (there.symm.trans there')
      have inside := (Array.getElem?_eq_some_iff.1 there).1
      exact ⟨m, by simp [inside], via⟩
    · exact ⟨k, there', .refl k⟩

theorem evolves_atTarget (g : Graph σ) (link : Nat) {f : Inlet → Inlet}
    (keeps : ∀ p, (f p).end? = p.end?) : g.Evolves (g.atTarget link f) := by
  unfold atTarget
  split
  · next l _ =>
    refine ⟨rfl, rfl, rfl, rfl, rfl, rfl, Array.size_modify, fun {j k} there => ?_⟩
    simp only [Array.getElem?_modify, there]
    split
    · exact ⟨_, rfl, rfl, rfl, rfl, map_modify_eq _ _ keeps, rfl, .inl rfl⟩
    · exact ⟨k, rfl, .refl k⟩
  · exact .refl g

theorem evolves_deliver (g : Graph σ) (link : Nat) (frame : Frame) :
    g.Evolves (g.deliver link frame) := g.evolves_atTarget link fun _ => rfl

theorem evolves_endLink (g : Graph σ) (link : Nat) : g.Evolves (g.endLink link) :=
  g.evolves_atTarget link fun _ => rfl

theorem evolves_foldl {α : Type} {step : Graph σ → α → Graph σ}
    (one : ∀ (g : Graph σ) a, g.Evolves (step g a)) (all : List α) (g : Graph σ) :
    g.Evolves (all.foldl step g) := by
  induction all generalizing g with
  | nil => exact .refl g
  | cons a rest ih => exact (one g a).trans (ih (step g a))

theorem evolves_route [Filter σ] (g : Graph σ) (outputs : List Outlet) (tray : Tray) :
    g.Evolves (g.route outputs tray) :=
  (evolves_foldl (fun g (sent : Nat × Frame) => g.evolves_deliver sent.1 sent.2) _ g).trans
    (evolves_foldl evolves_endLink _ _)

theorem evolves_stats (g : Graph σ) (stats : Stats) : g.Evolves { g with stats := stats } :=
  ⟨rfl, rfl, rfl, rfl, rfl, rfl, rfl, fun there => ⟨_, there, .refl _⟩⟩

theorem evolves_countStep [Filter σ] (g : Graph σ) (dropped : Nat) : g.Evolves (g.countStep dropped) :=
  evolves_stats _ _

variable [Filter σ] {h : Graph σ} {work : Work}

omit [Filter σ] in
/-- A node that worked off a unit of work, before what it sent arrives. -/
theorem evolves_done (there : g.nodes[i]? = some n) (taken : n.takeWork = some (work, m)) (state : σ)
    (closed : List Bool) (dropped : Nat) :
    g.Evolves ((g.setNode i ({ m with filter := state }.closeOutputs closed)).countStep dropped) := by
  refine (evolves_setNode there ?_).trans (evolves_stats _ _)
  have called : m.Evolves { m with filter := state } := ⟨rfl, rfl, rfl, rfl, rfl, .inl rfl⟩
  exact (Node.evolves_takeWork taken).trans (called.trans (Node.evolves_closeOutputs _ _))

theorem evolves_handleWork (there : g.nodes[i]? = some n) (taken : n.takeWork = some (work, m)) :
    g.Evolves (g.handleWork i m work).1 := by
  unfold handleWork
  dsimp only
  split
  · refine (evolves_setNode there ?_).trans (evolves_stats _ _)
    exact (Node.evolves_takeWork taken).trans ⟨rfl, rfl, rfl, rfl, rfl, .inr rfl⟩
  · exact (evolves_done there taken _ _ _).trans (evolves_route _ _ _)

theorem evolves_askSink {offer : Except Fault Offer} (there : g.nodes[i]? = some n)
    (asking : g.askSink i n = (h, offer)) : g.Evolves h := by
  obtain ⟨rfl, _⟩ := Prod.mk.inj asking
  exact evolves_setNode there ⟨rfl, rfl, rfl, rfl, rfl, .inl rfl⟩

end Graph
end FrameFlow
