import FrameFlow.Blueprint.Build
import FrameFlow.Proofs.Graph.Assembly

/-! What blueprints describe. A blueprint can be built when each of its nodes can be set up and its
links join pads that exist and are free. The graph that is built has the described nodes and links
and no others, and otherwise the error names the first thing that is wrong. -/
namespace FrameFlow

variable {σ : Type} [Filter σ]

namespace Blueprint

/-- How many pads a filter has on one side. -/
def padsOn (f : σ) : Direction → Nat
  | .input => (Filter.inputs f).length
  | .output => (Filter.outputs f).length

/-- The options in the form in which they are given to a filter. -/
def Node.texts (n : Node) : Table String := n.options.map Literal.render

/-- A filter is set up for the node. -/
def Node.GetsFilter (registry : Registry σ) (n : Node) (f : σ) : Prop :=
  ∃ k values, registry.get? n.kind = some k ∧ k.options.resolve n.texts = .ok values ∧
    Filter.setUp k.initial values = .ok f

/-- The node that a link names at one of its ends, and the pad there. -/
def Link.endAt (l : Link) : Direction → String × Nat
  | .input => (l.target, l.input)
  | .output => (l.source, l.output)

def names (b : Blueprint) : List String := b.nodes.map Node.name

/-- The place of the node with a name. -/
def place (b : Blueprint) (name : String) : Nat := b.names.idxOf name

/-- The filter of the node with a name has so many pads on one side. -/
def HasPads (registry : Registry σ) (b : Blueprint) (d : Direction) (name : String) (count : Nat) :
    Prop :=
  ∃ n ∈ b.nodes, n.name = name ∧ ∃ f : σ, n.GetsFilter registry f ∧ padsOn f d = count

def HasPad (registry : Registry σ) (b : Blueprint) (d : Direction) (e : String × Nat) : Prop :=
  ∃ count, b.HasPads registry d e.1 count ∧ e.2 < count

/-- Names tell the nodes apart, each node gets a filter, and the links join pads, each pad once. -/
structure Buildable (registry : Registry σ) (b : Blueprint) : Prop where
  names : b.names.Nodup
  nodes : ∀ n ∈ b.nodes, ∃ f, n.GetsFilter registry f
  links : ∀ l ∈ b.links, ∀ d, b.HasPad registry d (l.endAt d)
  apart : ∀ d, (b.links.map (·.endAt d)).Nodup

/-- A node of a graph is as described: of its kind, set up with its options over the defaults, and not
used yet. -/
structure Node.Describes (registry : Registry σ) (n : Node) (m : FrameFlow.Node σ) : Prop where
  kind : registry.get? n.kind = some m.kind
  life : m.life = .initialized
  resolved : m.kind.options.resolve n.texts = .ok m.applied
  applied : ∀ name, m.applied.get? name = (m.kind.options.find? name).bind fun d =>
    (n.texts.get? name).elim (some d.default) fun raw => (d.read raw).toOption
  filter : Filter.setUp m.kind.initial m.applied = .ok m.filter
  inputs : m.inputs.map Inlet.pad = Filter.inputs m.filter
  outputs : m.outputs.map Outlet.pad = Filter.outputs m.filter
  staged : m.staged = .empty
  untouched : m.Untouched

/-- The link of a graph that a link describes. -/
def linkOf (b : Blueprint) (l : Link) : FrameFlow.Link :=
  ⟨⟨b.place l.source, l.output⟩, ⟨b.place l.target, l.input⟩, none⟩

/-- What was built on a new graph is as described, and nothing else has changed. -/
structure Realizes (start : Graph σ) (b : Blueprint) (built : Built σ) : Prop where
  unconfigured : built.graph.configured = false
  nodes : List.Forall₂ (Node.Describes start.registry) b.nodes built.graph.nodes.toList
  links : built.graph.links.toList = b.links.map b.linkOf
  wired : built.graph.Wired
  names : built.names.entries = b.nodes.zipIdx.map fun (n, i) => (n.name, start.handle i)
  rest : built.graph = { start with nodes := built.graph.nodes, links := built.graph.links }

/-- The blueprint can be built, and was. -/
structure BuiltAs (start : Graph σ) (b : Blueprint) (built : Built σ) : Prop where
  sound : Buildable start.registry b
  made : Realizes start b built

/-- What is wrong with a node, given those before it. -/
inductive NodeOffence (number : GraphId) (registry : Registry σ) (earlier : List Node) (n : Node) :
    GraphError → Prop where
  | repeated (taken : n.name ∈ earlier.map Node.name) :
      NodeOffence number registry earlier n (.description (.repeatedName n.name))
  | unknown (free : n.name ∉ earlier.map Node.name) (unregistered : registry.get? n.kind = none) :
      NodeOffence number registry earlier n (.unknownKind n.kind)
  | unset {k : Kind σ} {fault : Fault} (free : n.name ∉ earlier.map Node.name)
      (registered : registry.get? n.kind = some k)
      (refused : k.options.resolve n.texts = .error fault ∨
        ∃ values, k.options.resolve n.texts = .ok values ∧
          Filter.setUp k.initial values = .error fault) :
      NodeOffence number registry earlier n
        (.initialization ⟨number, earlier.length⟩ k.name fault)

/-- What is wrong with a link, given the nodes and the links before it. -/
inductive LinkOffence (number : GraphId) (registry : Registry σ) (b : Blueprint) (l : Link) :
    GraphError → Prop where
  | source (unnamed : l.source ∉ b.names) :
      LinkOffence number registry b l (.description (.unknownName l.source))
  | target (named : l.source ∈ b.names) (unnamed : l.target ∉ b.names) :
      LinkOffence number registry b l (.description (.unknownName l.target))
  | outputRange {count : Nat} (pads : b.HasPads registry .output l.source count)
      (named : l.target ∈ b.names) (outside : count ≤ l.output) :
      LinkOffence number registry b l
        (.link (.padOutOfRange ⟨number, b.place l.source⟩ .output l.output count))
  | inputRange {count : Nat} (output : b.HasPad registry .output (l.source, l.output))
      (pads : b.HasPads registry .input l.target count) (outside : count ≤ l.input) :
      LinkOffence number registry b l
        (.link (.padOutOfRange ⟨number, b.place l.target⟩ .input l.input count))
  | outputTaken (output : b.HasPad registry .output (l.source, l.output))
      (input : b.HasPad registry .input (l.target, l.input))
      (taken : (l.source, l.output) ∈ b.links.map (·.endAt .output)) :
      LinkOffence number registry b l
        (.link (.padOccupied ⟨number, b.place l.source⟩ .output l.output))
  | inputTaken (output : b.HasPad registry .output (l.source, l.output))
      (input : b.HasPad registry .input (l.target, l.input))
      (free : (l.source, l.output) ∉ b.links.map (·.endAt .output))
      (taken : (l.target, l.input) ∈ b.links.map (·.endAt .input)) :
      LinkOffence number registry b l
        (.link (.padOccupied ⟨number, b.place l.target⟩ .input l.input))

/-- What is wrong with the first node or link with which anything is wrong. Nodes come before links. -/
inductive FirstOffence (number : GraphId) (registry : Registry σ) (b : Blueprint) :
    GraphError → Prop where
  | node {earlier later : List Node} {n : Node} {e : GraphError}
      (split : b.nodes = earlier ++ n :: later)
      (sound : Buildable registry ⟨b.options, earlier, []⟩)
      (offence : NodeOffence number registry earlier n e) : FirstOffence number registry b e
  | link {earlier later : List Link} {l : Link} {e : GraphError}
      (split : b.links = earlier ++ l :: later)
      (sound : Buildable registry ⟨b.options, b.nodes, earlier⟩)
      (offence : LinkOffence number registry ⟨b.options, b.nodes, earlier⟩ l e) :
      FirstOffence number registry b e

namespace Realizes

variable {start : Graph σ} {b : Blueprint} {built : Built σ}

theorem size_eq (made : Realizes start b built) : built.graph.nodes.size = b.nodes.length := by
  simpa using made.nodes.length_eq.symm

theorem keys_eq (made : Realizes start b built) : built.names.keys = b.names := by
  have views : Prod.fst ∘ (fun (n, i) => (n.name, start.handle i)) = Node.name ∘ Prod.fst := rfl
  rw [Table.keys, made.names, List.map_map, views, ← List.map_map, List.zipIdx_map_fst]
  rfl

theorem contains_iff (made : Realizes start b built) {name : String} :
    built.names.contains name ↔ name ∈ b.names := by
  rw [Table.contains_iff, made.keys_eq]

end Realizes
end Blueprint
end FrameFlow
