import FrameFlow.Proofs.Blueprint.Described
import FrameFlow.Proofs.Filter.Options
import Mathlib.Data.List.Forall2

/-! The nodes of a blueprint. Each is allocated, given its options and set up, which comes to one new
node at the end of the graph, unless its name was used before, its kind is unknown or its options
are refused. -/
namespace FrameFlow

variable {σ : Type}

namespace Graph

variable {g : Graph σ} {m n : Node σ}

/-- A graph with one more node. -/
def grown (g : Graph σ) (n : Node σ) : Graph σ := { g with nodes := g.nodes.push n }

theorem find_grown (live : n.isLive) : (g.grown n).find (g.handle g.nodes.size) = .ok n :=
  find_eq_ok_iff.2 ⟨rfl, by simp [grown, handle], live⟩

theorem setNode_grown : (g.grown n).setNode g.nodes.size m = g.grown m := by
  simp only [setNode, grown, mk.injEq, true_and, and_true]
  refine Array.ext_getElem? fun i => ?_
  rw [Array.getElem?_setIfInBounds, Array.getElem?_push, Array.getElem?_push]
  split <;> split <;> simp_all

end Graph

namespace Blueprint

open FrameFlow.Graph

variable {g : Graph σ} {m n : FrameFlow.Node σ}

theorem setOption_grown (fresh : n.life = .allocated) (key value : String) :
    (g.grown n).setOption (g.handle g.nodes.size) key value =
      .ok (g.grown { n with staged := n.staged.put key value }) := by
  have live : n.isLive := by simp [FrameFlow.Node.isLive, fresh]
  exact setOption_eq_ok_iff.2 ⟨n, _, find_grown live,
    FrameFlow.Node.setOption_eq_ok_iff.2 ⟨fresh, rfl⟩, setNode_grown⟩

theorem stageOptions_grown (fresh : n.life = .allocated) (options : Table Literal) :
    stageOptions (g.grown n) (g.handle g.nodes.size) options = .ok (g.grown { n with
      staged := options.entries.foldl (fun t (key, value) => t.put key value.render) n.staged }) := by
  unfold stageOptions
  induction options.entries generalizing n with
  | nil => rfl
  | cons entry rest ih =>
    obtain ⟨key, value⟩ := entry
    simp only [List.foldlM_cons, setOption_grown fresh, ok_bind, List.foldl_cons]
    exact ih fresh

/-- A node of a kind with the options that were given for it. -/
def Node.fresh (n : Node) (k : Kind σ) : FrameFlow.Node σ :=
  { FrameFlow.Node.ofKind k with staged := n.texts }

theorem stageOptions_ofKind (g : Graph σ) (n : Node) (k : Kind σ) :
    stageOptions (g.grown (.ofKind k)) (g.handle g.nodes.size) n.options =
      .ok (g.grown (n.fresh k)) := by
  have texts : n.options.entries.foldl (fun t (key, value) => t.put key value.render) .empty =
      n.texts := by
    rw [← Table.ofList_entries n.texts, Table.ofList, Node.texts, Table.map, List.foldl_map]
  have staged := stageOptions_grown (g := g) (n := .ofKind k) rfl n.options
  rwa [show (FrameFlow.Node.ofKind k).staged = .empty from rfl, texts] at staged

variable [Filter σ]

theorem initializeNode_grown (fresh : n.life = .allocated) :
    (g.grown n).initializeNode (g.handle g.nodes.size) = match n.apply with
      | .ok m => (g.grown m, .ok ())
      | .error fault =>
        (g.grown n.fail, .error (.initialization (g.handle g.nodes.size) n.kind.name fault)) := by
  have live : n.isLive := by simp [FrameFlow.Node.isLive, fresh]
  have place : (g.handle g.nodes.size).index = g.nodes.size := rfl
  cases applied : n.apply <;>
    simp only [initializeNode, find_grown live, fresh, if_true, place, setNode_grown, applied]

/-- A node with a name that is free and a kind that is known comes to be as it is set up. -/
theorem addTo_eq {b : Built σ} {n : Node} {k : Kind σ} (unconfigured : b.graph.configured = false)
    (free : b.names.contains n.name = false) (registered : b.graph.registry.get? n.kind = some k) :
    addTo b n = match (n.fresh k).apply with
      | .ok m => .ok ⟨b.graph.grown m, b.names.put n.name (b.graph.handle b.graph.nodes.size)⟩
      | .error fault => .error (.initialization (b.graph.handle b.graph.nodes.size) k.name fault) := by
  have allocated : b.graph.allocate n.kind =
      .ok (b.graph.handle b.graph.nodes.size, b.graph.grown (.ofKind k)) :=
    allocate_eq_ok_iff.2 ⟨unconfigured, k, registered, rfl, rfl⟩
  have setUp := initializeNode_grown (g := b.graph) (n := n.fresh k) rfl
  simp only [addTo, free, Bool.false_eq_true, if_false, allocated, ok_bind, stageOptions_ofKind,
    setUp]
  cases (n.fresh k).apply <;> rfl

/-- A blueprint of some nodes alone. -/
def ofNodes (options : GraphOptions) (nodes : List Node) : Blueprint := ⟨options, nodes, []⟩

variable {start : Graph σ} {options : GraphOptions} {nodes : List Node} {n : Node} {b : Built σ}
  {k : Kind σ} {m : FrameFlow.Node σ} {e : GraphError}

theorem prepared_fresh (n : Node) (k : Kind σ) : (n.fresh k).Prepared where
  untouched := ⟨by simp [Node.fresh, FrameFlow.Node.ofKind],
    by simp [Node.fresh, FrameFlow.Node.ofKind], rfl, rfl, rfl, rfl⟩
  initial _ := rfl
  isSetUp := by simp [Node.fresh, FrameFlow.Node.ofKind]
  padless _ := ⟨rfl, rfl⟩

theorem describes_of_apply (registered : start.registry.get? n.kind = some k)
    (applied : (n.fresh k).apply = .ok m) :
    n.Describes start.registry m ∧ ∀ d pad, m.link? d pad = none := by
  obtain ⟨prepared, unlinked⟩ := (prepared_fresh n k).apply rfl applied
  obtain ⟨values, resolved, f, setUp, rfl⟩ := FrameFlow.Node.apply_eq_ok_iff.1 applied
  have isSetUp := prepared.isSetUp rfl
  refine ⟨?_, unlinked⟩
  exact {
    kind := registered
    life := rfl
    resolved := resolved
    applied := Setting.Schema.get?_of_resolve resolved
    filter := setUp
    inputs := isSetUp.inputs
    outputs := isSetUp.outputs
    staged := rfl
    untouched := prepared.untouched }

theorem apply_eq_error_iff {fault : Fault} :
    (n.fresh k).apply = .error fault ↔ k.options.resolve n.texts = .error fault ∨
      ∃ values, k.options.resolve n.texts = .ok values ∧
        Filter.setUp k.initial values = .error fault := by
  simp only [FrameFlow.Node.apply, bind_eq_error_iff, pure, Except.pure, reduceCtorEq, and_false,
    exists_false, or_false]
  rfl

theorem Realizes.place_eq (made : Realizes start (ofNodes options nodes) b) :
    b.graph.handle b.graph.nodes.size = start.handle nodes.length := by
  rw [made.size_eq, made.rest]
  rfl

theorem Realizes.grown (made : Realizes start (ofNodes options nodes) b)
    (free : n.name ∉ nodes.map Node.name) (describes : n.Describes start.registry m)
    (unlinked : ∀ d pad, m.link? d pad = none) :
    Realizes start (ofNodes options (nodes ++ [n]))
      ⟨b.graph.grown m, b.names.put n.name (b.graph.handle b.graph.nodes.size)⟩ where
  unconfigured := made.unconfigured
  nodes := by
    simpa [Graph.grown, ofNodes] using List.rel_append made.nodes (.cons describes .nil)
  links := made.links
  wired := made.wired.push unlinked
  names := by
    have new : n.name ∉ b.names.keys := made.keys_eq ▸ free
    have put := putEntry_of_fresh (b.graph.handle b.graph.nodes.size) new
    rw [show (b.names.put ..).entries = putEntry .. from rfl, put, made.names, made.place_eq]
    simp [ofNodes, List.zipIdx_append]
  rest := by
    rw [made.rest]
    rfl

omit [Filter σ] in
theorem names_append (options : GraphOptions) (nodes : List Node) (n : Node) :
    (ofNodes options (nodes ++ [n])).names = (ofNodes options nodes).names ++ [n.name] :=
  List.map_append

theorem Buildable.of_append {registry : Registry σ}
    (sound : Buildable registry (ofNodes options (nodes ++ [n]))) :
    Buildable registry (ofNodes options nodes) where
  names := (List.nodup_append.1 (names_append .. ▸ sound.names)).1
  nodes := fun n mem => sound.nodes n (List.mem_append_left _ mem)
  links := by simp [ofNodes]
  apart := by simp [ofNodes]

theorem Buildable.append {registry : Registry σ} {f : σ}
    (sound : Buildable registry (ofNodes options nodes)) (free : n.name ∉ nodes.map Node.name)
    (filter : n.GetsFilter registry f) : Buildable registry (ofNodes options (nodes ++ [n])) where
  names := by
    rw [names_append]
    refine List.nodup_append.2 ⟨sound.names, by simp, fun name mem name' new same => ?_⟩
    exact free (List.mem_singleton.1 new ▸ same ▸ mem)
  nodes := by
    intro n' mem
    rcases List.mem_append.1 mem with mem | new
    · exact sound.nodes n' mem
    · exact List.mem_singleton.1 new ▸ ⟨f, filter⟩
  links := by simp [ofNodes]
  apart := by simp [ofNodes]

theorem addTo_of_taken (taken : b.names.contains n.name) :
    addTo b n = .error (.description (.repeatedName n.name)) := by
  simp only [addTo, taken, if_true]
  rfl

theorem addTo_of_unregistered (unconfigured : b.graph.configured = false)
    (free : b.names.contains n.name = false) (unregistered : b.graph.registry.get? n.kind = none) :
    addTo b n = .error (.unknownKind n.kind) := by
  simp only [addTo, free, Bool.false_eq_true, if_false, Graph.allocate, unconfigured, unregistered]
  rfl

namespace BuiltAs

/-- What comes of a node with a name that is free and a kind that is known. -/
theorem addTo_eq_of_free (built : BuiltAs start (ofNodes options nodes) b)
    (free : n.name ∉ nodes.map Node.name) (registered : start.registry.get? n.kind = some k) :
    addTo b n = match (n.fresh k).apply with
      | .ok m => .ok ⟨b.graph.grown m, b.names.put n.name (b.graph.handle b.graph.nodes.size)⟩
      | .error fault => .error (.initialization ⟨start.id, nodes.length⟩ k.name fault) := by
  have same : b.graph.registry = start.registry := by rw [built.made.rest]
  have unknown : b.names.contains n.name = false :=
    Bool.eq_false_iff.2 fun known => free (built.made.contains_iff.1 known)
  have place : b.graph.handle b.graph.nodes.size = ⟨start.id, nodes.length⟩ := built.made.place_eq
  rw [addTo_eq built.made.unconfigured unknown (same ▸ registered), place]

/-- A node with which something is wrong cannot be added, and what is wrong with it is told. -/
theorem addTo_of_offence (built : BuiltAs start (ofNodes options nodes) b)
    (offence : NodeOffence start.id start.registry nodes n e) : addTo b n = .error e := by
  cases offence with
  | repeated taken => exact addTo_of_taken (built.made.contains_iff.2 taken)
  | unknown free unregistered =>
    have same : b.graph.registry = start.registry := by rw [built.made.rest]
    exact addTo_of_unregistered built.made.unconfigured
      (Bool.eq_false_iff.2 fun known => free (built.made.contains_iff.1 known)) (same ▸ unregistered)
  | unset free registered refused =>
    rw [built.addTo_eq_of_free free registered, apply_eq_error_iff.2 refused]

/-- Either something is wrong with a further node, or it is added. -/
theorem addTo_cases (built : BuiltAs start (ofNodes options nodes) b) (n : Node) :
    (∃ e, NodeOffence start.id start.registry nodes n e) ∨
      ∃ c, addTo b n = .ok c ∧ BuiltAs start (ofNodes options (nodes ++ [n])) c := by
  by_cases taken : n.name ∈ nodes.map Node.name
  · exact .inl ⟨_, .repeated taken⟩
  · cases registered : start.registry.get? n.kind with
    | none => exact .inl ⟨_, .unknown taken registered⟩
    | some k =>
      have outcome := built.addTo_eq_of_free taken registered
      cases applied : (n.fresh k).apply with
      | error fault => exact .inl ⟨_, .unset taken registered (apply_eq_error_iff.1 applied)⟩
      | ok m =>
        rw [applied] at outcome
        obtain ⟨describes, unlinked⟩ := describes_of_apply registered applied
        have filter : n.GetsFilter start.registry m.filter :=
          ⟨m.kind, m.applied, describes.kind, describes.resolved, describes.filter⟩
        exact .inr ⟨_, outcome, built.sound.append taken filter,
          built.made.grown taken describes unlinked⟩

end BuiltAs

/-- Nothing is wrong with a node of a blueprint that can be built. -/
theorem Buildable.no_nodeOffence {registry : Registry σ} {number : GraphId}
    (sound : Buildable registry (ofNodes options (nodes ++ [n]))) :
    ¬ NodeOffence number registry nodes n e := by
  obtain ⟨f, k, values, registered, resolved, setUp⟩ := sound.nodes n (by simp [ofNodes])
  intro offence
  cases offence with
  | repeated taken =>
    have apart := (List.nodup_append.1 (names_append .. ▸ sound.names)).2.2
    exact apart n.name taken n.name (by simp) rfl
  | unknown _ unregistered => simp [registered] at unregistered
  | unset _ registered' refused =>
    obtain rfl := Option.some.inj (registered.symm.trans registered')
    obtain refused | ⟨values', resolved', refused⟩ := refused
    · simp [resolved] at refused
    · obtain rfl := Except.ok.inj (resolved.symm.trans resolved')
      simp [setUp] at refused

theorem checks_nodes (start : Graph σ) (options : GraphOptions) :
    Checks addTo (fun nodes => Buildable start.registry (ofNodes options nodes))
      (fun nodes => BuiltAs start (ofNodes options nodes)) (NodeOffence start.id start.registry) where
  earlier := Buildable.of_append
  sound := Buildable.no_nodeOffence
  good := BuiltAs.sound
  refuses := BuiltAs.addTo_of_offence
  outcome := BuiltAs.addTo_cases

end Blueprint
end FrameFlow
