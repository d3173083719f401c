import FrameFlow.Proofs.Diagnosis.Examination
import FrameFlow.Proofs.Diagnosis.Negotiation
import FrameFlow.Proofs.Graph.Assembly
import FrameFlow.Proofs.Graph.Cycles

/-! When a graph has a plan. The stages find nothing beyond nodes that are not set up, pads without
a link and cycles: no two links share a pad anyway, and without cycles every node comes after a
node without inputs. -/
namespace FrameFlow

variable {σ : Type}

namespace Graph

variable {g : Graph σ}

/-- Every live node is set up. -/
def FullyInitialized (g : Graph σ) : Prop :=
  ∀ ⦃i : Nat⦄ ⦃n : Node σ⦄, g.nodes[i]? = some n → n.isLive → n.life = .initialized

/-- A stage finds no defect. -/
def Passes (g : Graph σ) (stage : Stage σ) : Prop := ∃ ws, stage.examine g = .ok ws

theorem isValid_examine_all_iff :
    (g.examine Stage.all).isValid ↔
      g.Passes .initialization ∧ g.Passes .linkage ∧ g.Passes .topology := by
  have real : ∀ stage ∈ (Stage.all : List (Stage σ)), stage.examine g ≠ .error [] := by
    intro stage member
    simp only [Stage.all, List.mem_cons, List.not_mem_nil, or_false] at member
    rcases member with rfl | rfl | rfl
    · exact verdict_ne_error_nil
    · simp only [Stage.linkage]
      split
      · simp
      · exact verdict_ne_error_nil
    · simp only [Stage.topology]
      split
      · simp
      · exact verdict_ne_error_nil
  have passes : ∀ stage ∈ (Stage.all : List (Stage σ)), stage.found g = [] ↔ g.Passes stage :=
    fun stage member => Stage.found_eq_nil_iff (real stage member)
  rw [isValid_examine_iff, forall₂_congr passes]
  simp [Stage.all]

theorem passes_initialization_iff :
    g.Passes .initialization ↔ g.FullyInitialized := by
  simp [FullyInitialized, Passes, Stage.initialization, verdict_eq_ok_iff, initializationDefects,
    mem_live_iff, Node.isInitialized]

theorem danglingPads_eq_nil_iff {n : Node σ} {d : Direction} :
    danglingPads n d = [] ↔ ∀ pad, pad < n.padCount d → (n.link? d pad).isSome := by
  simp [danglingPads, List.filter_eq_nil_iff, Option.isSome_iff_ne_none]

theorem danglingDefects_eq_nil_iff
    (initialized : g.FullyInitialized) : g.danglingDefects = [] ↔ g.FullyLinked := by
  simp only [danglingDefects, List.flatMap_eq_nil_iff, List.mem_filter, Prod.forall, mem_live_iff,
    List.append_eq_nil_iff, List.map_eq_nil_iff, danglingPads_eq_nil_iff, Node.isInitialized,
    beq_iff_eq]
  constructor
  · intro h i n there live d
    obtain ⟨inputs, outputs⟩ := h i n ⟨⟨there, live⟩, initialized there live⟩
    cases d
    · exact inputs
    · exact outputs
  · rintro h i n ⟨⟨there, live⟩, _⟩
    exact ⟨h there live .input, h there live .output⟩

theorem sharedEnds_of_nodup {before ends : List (Direction × Endpoint)} (nodup : ends.Nodup) :
    sharedEnds before ends = [] := by
  induction ends generalizing before with
  | nil => rfl
  | cons e later ih =>
    rw [List.nodup_cons] at nodup
    simp [sharedEnds, nodup.1, ih nodup.2]

theorem Wired.nodup_linkEnds (h : g.Wired) : g.linkEnds.Nodup := by
  refine List.nodup_flatMap.2 ⟨fun l _ => by simp, ?_⟩
  refine List.pairwise_iff_getElem.2 fun a b a_in b_in lt => ?_
  have apart : ∀ d, (g.links.toList[a].endAt d) ≠ (g.links.toList[b].endAt d) := by
    intro d same
    have first : g.links[a]? = some g.links.toList[a] := by simp
    have second : g.links[b]? = some g.links.toList[b] := by simp
    exact Nat.ne_of_lt lt (h.eq_of_end_eq first second same)
  have sources : g.links[b].source ≠ g.links[a].source := fun same =>
    apart .output (by simpa [Link.endAt] using same.symm)
  have targets : g.links[b].target ≠ g.links[a].target := fun same =>
    apart .input (by simpa [Link.endAt] using same.symm)
  simp [Function.onFun, sources, targets]

/-- Links never share a pad. -/
theorem Wired.duplicateDefects (h : g.Wired) : g.duplicateDefects = [] := by
  simp [Graph.duplicateDefects, sharedEnds_of_nodup h.nodup_linkEnds]

theorem mem_roots_iff {i : Nat} :
    i ∈ g.roots ↔ ∃ n, g.nodes[i]? = some n ∧ n.isLive ∧ n.life = .initialized ∧ n.inputs = [] := by
  simp [roots, mem_live_iff, Node.isInitialized, and_assoc]

/-- A node that is set up and has no inputs. -/
def IsRoot (g : Graph σ) (i : Nat) : Prop :=
  ∃ n, g.nodes[i]? = some n ∧ n.life = .initialized ∧ n.inputs = []

theorem mem_roots_iff_isRoot {i : Nat} : i ∈ g.roots ↔ g.IsRoot i := by
  rw [mem_roots_iff]
  constructor
  · rintro ⟨n, there, _, root⟩
    exact ⟨n, there, root⟩
  · rintro ⟨n, there, initialized, unfed⟩
    exact ⟨n, there, Node.isLive_of_initialized initialized, initialized, unfed⟩

/-- The nodes that are set up but that no root leads to. -/
theorem Wired.mem_unreachable_iff (h : g.Wired) {i : Nat} : i ∈ g.unreachable ↔
    (∃ n, g.nodes[i]? = some n ∧ n.life = .initialized) ∧
      ∀ root, g.IsRoot root → ¬g.LeadsTo root i := by
  have inside : ∀ i ∈ g.roots, i ∈ g.shape.nodes := by
    intro i root
    obtain ⟨n, there, live, _⟩ := mem_roots_iff.1 root
    exact mem_liveIndices_iff.2 (isLiveAt_iff.2 ⟨n, there, live⟩)
  have reached : (g.shape.reached g.roots).contains i = false ↔
      ∀ root, g.IsRoot root → ¬g.LeadsTo root i := by
    rw [← Bool.not_eq_true, Trail.contains_iff, Shape.mem_reached_iff h.shape_wellFormed inside]
    simp [mem_roots_iff_isRoot, h.leads_successors_iff]
  simp only [unreachable, List.mem_map, List.mem_filter, Prod.exists, exists_and_right, exists_eq_right,
    mem_live_iff, Bool.and_eq_true, Bool.not_eq_true', reached, Node.isInitialized, beq_iff_eq]
  constructor
  · rintro ⟨n, ⟨there, _⟩, initialized, apart⟩
    exact ⟨⟨n, there, initialized⟩, apart⟩
  · rintro ⟨⟨n, there, initialized⟩, apart⟩
    exact ⟨n, ⟨there, Node.isLive_of_initialized initialized⟩, initialized, apart⟩

theorem pairwise_unreachable (g : Graph σ) : g.unreachable.Pairwise (· < ·) :=
  List.pairwise_map.2 (g.pairwise_live.sublist List.filter_sublist)

theorem Wired.schedules (h : g.Wired) {order : List Nat} (found : g.topologicalOrder = .ok order) :
    g.Schedules order := by
  obtain ⟨nodup, mem_iff, ordered⟩ := Shape.topologicalOrder_spec h.shape_wellFormed found
  refine ⟨nodup, fun i => (mem_iff i).trans mem_liveIndices_iff, fun l link => ?_⟩
  exact ordered (l.source.node, l.target.node) (h.mem_edges_iff.2 ⟨l, link, rfl, rfl⟩)

/-- Following links upstream from a node ends at a root. The induction is on the place of the node
in a schedule. -/
theorem Schedules.exists_root {order : List Nat} (schedules : g.Schedules order) (h : g.Wired)
    (initialized : g.FullyInitialized) (linked : g.FullyLinked) {i : Nat} (live : g.isLiveAt i) :
    ∃ root ∈ g.roots, g.LeadsTo root i := by
  induction place : order.idxOf i using Nat.strongRecOn generalizing i with
  | ind place ih =>
    obtain ⟨n, there, live⟩ := isLiveAt_iff.1 live
    cases inputs : n.inputs with
    | nil => exact ⟨i, mem_roots_iff.2 ⟨n, there, live, initialized there live, inputs⟩, .refl⟩
    | cons p rest =>
      obtain ⟨k, noted⟩ := Option.isSome_iff_exists.1
        (linked there live .input 0 (by simp [Node.padCount, inputs]))
      obtain ⟨l, link, ends⟩ := h.end_of_link? there noted
      have target : l.target.node = i := congrArg Endpoint.node ends
      have member := Array.mem_of_getElem? link
      have earlier : Earlier order l.source.node i := target ▸ schedules.ordered l member
      obtain ⟨root, there', path⟩ :=
        ih _ (place ▸ earlier) (h.isLiveAt_end link .output) rfl
      exact ⟨root, there', path.tail ⟨l, member, rfl, target⟩⟩

/-- What it takes to configure a graph. -/
structure Configurable [Filter σ] (g : Graph σ) : Prop where
  initialized : g.FullyInitialized
  linked : g.FullyLinked
  acyclic : ∀ i, ¬Relation.TransGen g.Feeds i i
  agreement : ∃ formats, g.Agrees formats

theorem isEmpty_iff : g.isEmpty ↔ ∀ i, ¬g.isLiveAt i := by
  rw [isEmpty, List.isEmpty_iff]
  constructor
  · intro none i live
    obtain ⟨n, there, alive⟩ := isLiveAt_iff.1 live
    have member := mem_live_iff.2 ⟨there, alive⟩
    simp [none] at member
  · intro none
    refine List.eq_nil_iff_forall_not_mem.2 fun (i, n) member => ?_
    exact none i (isLiveAt_iff.2 ⟨n, mem_live_iff.1 member⟩)

theorem Schedules.acyclic {order : List Nat} (schedules : g.Schedules order) (i : Nat) :
    ¬Relation.TransGen g.Feeds i i := by
  have earlier : ∀ {i j}, Relation.TransGen g.Feeds i j → Earlier order i j := by
    intro i j path
    have step : ∀ {i j}, g.Feeds i j → Earlier order i j := by
      rintro i j ⟨l, link, rfl, rfl⟩
      exact schedules.ordered l link
    induction path with
    | single first => exact step first
    | tail _ last ih => exact ih.trans (step last)
  exact fun cycle => Earlier.irrefl (earlier cycle)

theorem Wired.passes_linkage_iff (h : g.Wired) (initialized : g.FullyInitialized) :
    g.Passes .linkage ↔ g.FullyLinked := by
  by_cases empty : g.isEmpty
  · have none := isEmpty_iff.1 empty
    have linked : g.FullyLinked := fun {i n} there live =>
      (none i (isLiveAt_iff.2 ⟨n, there, live⟩)).elim
    simp only [linked, iff_true]
    exact ⟨_, by simp only [Stage.linkage, empty, if_true]; rfl⟩
  · rw [← danglingDefects_eq_nil_iff initialized]
    simp [Passes, Stage.linkage, empty, verdict_eq_ok_iff, h.duplicateDefects]

/-- Where the stages find no defect, nodes are set up and their pads linked. -/
theorem Wired.linked_of_isValid (h : g.Wired) (valid : (g.examine Stage.all).isValid) :
    g.FullyInitialized ∧ g.FullyLinked := by
  obtain ⟨initialized, linked, _⟩ := isValid_examine_all_iff.1 valid
  have initialized := passes_initialization_iff.1 initialized
  exact ⟨initialized, (h.passes_linkage_iff initialized).1 linked⟩

section Reach

variable {order : List Nat} (h : g.Wired) (schedules : g.Schedules order)
  (initialized : g.FullyInitialized) (linked : g.FullyLinked)

include h schedules initialized linked

/-- Without cycles every node can be reached from a root. -/
theorem unreachable_eq_nil : g.unreachable = [] := by
  refine List.eq_nil_iff_forall_not_mem.2 fun i there => ?_
  obtain ⟨⟨n, at_i, ready⟩, apart⟩ := h.mem_unreachable_iff.1 there
  have live : g.isLiveAt i := isLiveAt_iff.2 ⟨n, at_i, Node.isLive_of_initialized ready⟩
  obtain ⟨root, member, path⟩ := schedules.exists_root h initialized linked live
  exact apart root (mem_roots_iff_isRoot.1 member) path

theorem roots_ne_nil (some_live : g.isEmpty = false) : g.roots ≠ [] := by
  intro none
  have empty : g.isEmpty := isEmpty_iff.2 fun i live => by
    obtain ⟨root, there, _⟩ := schedules.exists_root h initialized linked live
    simp [none] at there
  simp [empty] at some_live

theorem passes_topology : g.Passes .topology := by
  by_cases empty : g.isEmpty
  · exact ⟨[], by simp [Stage.topology, empty]⟩
  · have acyclic := h.acyclic_iff.2 schedules.acyclic
    have roots := roots_ne_nil h schedules initialized linked (by simpa using empty)
    have reachable := unreachable_eq_nil h schedules initialized linked
    have none : g.cycleDefects ++ g.reachDefects = [] := by
      simp [cycleDefects, cycles, (Shape.cycles_eq_nil_iff h.shape_wellFormed).2 acyclic, reachDefects,
        roots, reachable]
    refine ⟨g.rootWarnings ++ g.partWarnings, ?_⟩
    simp only [Stage.topology, empty, Bool.false_eq_true, if_false]
    exact verdict_eq_ok_iff.2 ⟨none, rfl⟩

end Reach

theorem Wired.exists_order_iff (h : g.Wired) :
    (∃ order, g.topologicalOrder = .ok order) ↔ ∀ i, ¬Relation.TransGen g.Feeds i i :=
  (Shape.topologicalOrder_isOk_iff h.shape_wellFormed).trans h.acyclic_iff

variable [Filter σ]

theorem plan_eq_ok_iff {stages : List (Stage σ)} {p : Plan} :
    g.plan stages = .ok p ↔ (g.examine stages).isValid ∧ g.topologicalOrder = .ok p.order ∧
      g.negotiate p.order = .ok p.formats ∧ g.examine stages = p.report := by
  constructor
  · intro planned
    unfold plan at planned
    dsimp only at planned
    split at planned
    · simp at planned
    · next valid =>
      split at planned
      · simp at planned
      · next order ordered =>
        split at planned
        · simp at planned
        · next formats negotiated =>
          obtain rfl := Except.ok.inj planned
          exact ⟨by simpa using valid, ordered, negotiated, rfl⟩
  · obtain ⟨order, formats, report⟩ := p
    rintro ⟨valid, ordered, negotiated, rfl⟩
    simp only at ordered negotiated
    simp [plan, valid, ordered, negotiated]

/-- A graph has a plan just where its nodes are set up and linked, no cycle runs through them and
some formats suit them all. -/
theorem exists_plan_iff (h : g.Wired) :
    (∃ p, g.plan Stage.all = .ok p) ↔ g.Configurable := by
  constructor
  · rintro ⟨p, planned⟩
    obtain ⟨valid, ordered, negotiated, _⟩ := plan_eq_ok_iff.1 planned
    obtain ⟨initialized, linked⟩ := h.linked_of_isValid valid
    have schedules := h.schedules ordered
    obtain ⟨formats, agrees, _⟩ := (negotiate_eq_ok_iff h schedules linked).1 negotiated
    exact ⟨initialized, linked, h.exists_order_iff.1 ⟨_, ordered⟩, formats, agrees⟩
  · intro ready
    obtain ⟨order, ordered⟩ := h.exists_order_iff.2 ready.acyclic
    obtain ⟨formats, agrees⟩ := ready.agreement
    have schedules := h.schedules ordered
    have negotiated := (negotiate_eq_ok_iff h schedules ready.linked).2 ⟨formats, agrees, rfl⟩
    have valid : (g.examine Stage.all).isValid := isValid_examine_all_iff.2
      ⟨passes_initialization_iff.2 ready.initialized,
        (h.passes_linkage_iff ready.initialized).2 ready.linked,
        passes_topology h schedules ready.initialized ready.linked⟩
    exact ⟨⟨order, _, _⟩, plan_eq_ok_iff.2 ⟨valid, ordered, negotiated, rfl⟩⟩

/-- What configuration makes of a graph: it fixes a schedule and a format for every link. -/
structure Configures (g after : Graph σ) : Prop where
  id : after.id = g.id
  nodes : after.nodes = g.nodes
  configured : after.configured
  schedules : g.Schedules after.schedule
  formats : ∃ formats, g.Agrees formats ∧
    ∀ k, after.links[k]? = g.links[k]?.map fun l : Link => { l with format := some (formats k) }

theorem configure_eq_ok_iff (h : g.Assembled) {after : Graph σ} :
    g.configure = .ok after ↔ ∃ p, g.plan Stage.all = .ok p ∧ g.adopt p = after := by
  unfold configure
  rw [if_neg (by simp [h.unconfigured])]
  cases planned : g.plan Stage.all with
  | error report => simp
  | ok p => simp

theorem unconfigured_of_configure {after : Graph σ} (ok : g.configure = .ok after) :
    g.configured = false := by
  cases set : g.configured with
  | false => rfl
  | true => simp [configure, set] at ok

theorem exists_configure_iff (h : g.Assembled) :
    (∃ after, g.configure = .ok after) ↔ g.Configurable := by
  rw [← exists_plan_iff h.wired]
  constructor
  · rintro ⟨after, ok⟩
    obtain ⟨p, planned, _⟩ := (configure_eq_ok_iff h).1 ok
    exact ⟨p, planned⟩
  · rintro ⟨p, planned⟩
    exact ⟨_, (configure_eq_ok_iff h).2 ⟨p, planned, rfl⟩⟩

theorem configures_of_configure (h : g.Assembled) {after : Graph σ}
    (ok : g.configure = .ok after) : g.Configures after := by
  have ready := (exists_configure_iff h).1 ⟨after, ok⟩
  obtain ⟨p, planned, rfl⟩ := (configure_eq_ok_iff h).1 ok
  obtain ⟨_, ordered, negotiated, _⟩ := plan_eq_ok_iff.1 planned
  have schedules := h.wired.schedules ordered
  obtain ⟨formats, agrees, found⟩ := (negotiate_eq_ok_iff h.wired schedules ready.linked).1 negotiated
  refine ⟨rfl, rfl, rfl, schedules, formats, agrees, fun k => ?_⟩
  simp only [adopt, found, Array.getElem?_zipWith, List.getElem?_toArray, List.getElem?_map]
  cases link : g.links[k]? with
  | none => rfl
  | some l =>
    have inside := (Array.getElem?_eq_some_iff.1 link).1
    simp [List.getElem?_range inside]

/-- A graph that was just configured. -/
structure Ready (g : Graph σ) : Prop where
  configured : g.configured
  wired : g.Wired
  schedules : g.Schedules g.schedule
  initialized : g.FullyInitialized
  linked : g.FullyLinked
  prepared : ∀ {i : Nat} {n : Node σ}, g.nodes[i]? = some n → n.Prepared

theorem Ready.isSetUp (ready : g.Ready) {i : Nat} {n : Node σ} (there : g.nodes[i]? = some n)
    (live : n.isLive) : n.IsSetUp :=
  (ready.prepared there).isSetUp (ready.initialized there live)

theorem Assembled.ready (h : g.Assembled) {after : Graph σ} (ok : g.configure = .ok after) :
    after.Ready := by
  have configurable := (exists_configure_iff h).1 ⟨after, ok⟩
  obtain ⟨_, nodes, configured, schedules, formats, _, links⟩ := configures_of_configure h ok
  have ends : ∀ (d : Direction) (e : Endpoint) (k : Nat),
      (∃ l, after.links[k]? = some l ∧ l.endAt d = e) ↔ ∃ l, g.links[k]? = some l ∧ l.endAt d = e := by
    intro d e k
    rw [links]
    cases g.links[k]? with
    | none => simp
    | some l => cases d <;> simp [Link.endAt]
  have at_node : ∀ i, after.isLiveAt i = g.isLiveAt i := fun i => by simp [isLiveAt, nodes]
  refine ⟨configured, ⟨fun {d e k} => ?_, ?_⟩,
    ⟨schedules.nodup, fun i => ?_, fun l link => ?_⟩, ?_, ?_, ?_⟩
  · rw [ends, ← h.wired.linkAt_iff]
    simp [linkAt, nodes]
  · exact nodes ▸ h.wired.live
  · rw [at_node]
    exact schedules.mem_iff i
  · obtain ⟨k, at_k⟩ := Array.mem_iff_getElem?.1 link
    obtain ⟨l', link', source⟩ := (ends .output l.source k).1 ⟨l, at_k, rfl⟩
    obtain ⟨l'', link'', target⟩ := (ends .input l.target k).1 ⟨l, at_k, rfl⟩
    obtain rfl := Option.some.inj (link'.symm.trans link'')
    have := schedules.ordered l' (Array.mem_of_getElem? link')
    simp only [Link.endAt] at source target
    rwa [source, target] at this
  · exact fun i n there => configurable.initialized (nodes ▸ there)
  · exact fun i n there => configurable.linked (nodes ▸ there)
  · exact nodes ▸ h.nodes

end Graph
end FrameFlow
