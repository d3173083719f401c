import FrameFlow.Proofs.Graph.Arena
import FrameFlow.Proofs.Outcome

/-! What the operations that assemble a graph do, each said once: when one is granted, and what it
makes of the graph. -/
namespace FrameFlow

variable {σ : Type}

namespace Node

variable {n m : Node σ}

theorem setOption_eq_ok_iff {key value : String} :
    n.setOption key value = .ok m ↔
      n.life = .allocated ∧ { n with staged := n.staged.put key value } = m := by
  unfold setOption
  by_cases fresh : n.life = .allocated
  · simp [fresh]
  · simp [fresh]

theorem apply_eq_ok_iff [Filter σ] :
    n.apply = .ok m ↔ ∃ values, n.kind.options.resolve n.staged = .ok values ∧
      ∃ filter, Filter.setUp n.filter values = .ok filter ∧ { n with
        filter, life := .initialized, staged := .empty, applied := values
        inputs := (Filter.inputs filter).map .unlinked
        outputs := (Filter.outputs filter).map .unlinked } = m := by
  simp only [apply, bind_eq_ok_iff, pure_eq_ok_iff]

theorem discard_eq_ok_iff :
    n.discard = .ok m ↔ (n.life = .allocated ∨ n.life = .failed) ∧ { n with
      life := .discarded, staged := .empty, applied := .empty, inputs := [], outputs := []
      feed := .empty, hasSlot := false } = m := by
  unfold discard
  cases n.life <;> simp

/-- The link noted at one pad. -/
def noteLink (n : Node σ) (d : Direction) (pad link : Nat) : Node σ :=
  match d with
  | .input => { n with inputs := n.inputs.modify pad fun p => { p with link := some link } }
  | .output => { n with outputs := n.outputs.modify pad fun p => { p with link := some link } }

end Node

namespace Graph

variable {g h : Graph σ} {i : Nat} {n m : Node σ} {id : NodeId}

theorem find_eq_ok_iff {g : Graph σ} {id : NodeId} {n : Node σ} :
    g.find id = .ok n ↔ id.graph = g.id ∧ g.nodes[id.index]? = some n ∧ n.isLive := by
  unfold find node?
  by_cases same : id.graph = g.id
  · cases there : g.nodes[id.index]? with
    | none => simp [same]
    | some m =>
      by_cases live : m.isLive <;> simp only [same, if_true, Option.filter_some, live]
      · simp only [Except.ok.injEq, Option.some.injEq, true_and]
        exact ⟨fun h => ⟨h, h ▸ live⟩, fun h => h.1⟩
      · simp only [Bool.false_eq_true, if_false, reduceCtorEq, Option.some.injEq, true_and,
          false_iff, not_and]
        rintro rfl
        exact live
  · simp [same]

theorem nodes_setNode (there : g.nodes[i]? = some n) (j : Nat) :
    (g.setNode i m).nodes[j]? = if i = j then some m else g.nodes[j]? := by
  have inside := (Array.getElem?_eq_some_iff.1 there).1
  simp only [setNode, Array.getElem?_setIfInBounds]
  split
  · simp
  · rfl

theorem create_eq_ok {number : GraphId} {registry : Registry σ} {options : GraphOptions}
    (created : create number registry options = .ok g) :
    g = ⟨number, registry, options, #[], #[], false, [], ⟨0, 0, 0, 0⟩⟩ := by
  unfold create at created
  dsimp only at created
  split at created
  · simp at created
  · split at created
    · simp at created
    · exact (Except.ok.inj created).symm

theorem allocate_eq_ok_iff {kind : String} :
    g.allocate kind = .ok (id, h) ↔ g.configured = false ∧ ∃ k, g.registry.get? kind = some k ∧
      id = g.handle g.nodes.size ∧ h = { g with nodes := g.nodes.push (.ofKind k) } := by
  unfold allocate
  cases g.configured with
  | true => simp
  | false => cases g.registry.get? kind <;> simp [eq_comm]

/-- A node is found, and what is made of it takes its place. -/
theorem change_eq_ok_iff {change : Node σ → Except Misuse (Node σ)} :
    (do
      let n ← g.find id
      match change n with
      | .ok m => pure (g.setNode id.index m)
      | .error misuse => throw (.invalidOperation id misuse) : Except GraphError (Graph σ)) = .ok h ↔
      ∃ n m, g.find id = .ok n ∧ change n = .ok m ∧ g.setNode id.index m = h := by
  rw [bind_eq_ok_iff]
  constructor
  · rintro ⟨n, found, made⟩
    split at made
    · next m changed => exact ⟨n, m, found, changed, pure_eq_ok_iff.1 made⟩
    · simp at made
  · rintro ⟨n, m, found, changed, made⟩
    exact ⟨n, found, by rw [changed, ← made]; rfl⟩

theorem setOption_eq_ok_iff {key value : String} :
    g.setOption id key value = .ok h ↔ ∃ n m, g.find id = .ok n ∧ n.setOption key value = .ok m ∧
      g.setNode id.index m = h :=
  change_eq_ok_iff

theorem discard_eq_ok_iff :
    g.discard id = .ok h ↔ g.configured = false ∧ ∃ n m, g.find id = .ok n ∧ n.discard = .ok m ∧
      g.setNode id.index m = h := by
  unfold discard
  dsimp only
  rw [check_eq_ok_iff, Bool.not_eq_true]
  exact and_congr_right fun _ => change_eq_ok_iff

theorem attach_eq (g : Graph σ) (d : Direction) (e : Endpoint) (k : Nat) :
    g.attach d e k = { g with nodes := g.nodes.modify e.node fun n => n.noteLink d e.pad k } := by
  cases d <;> rfl

theorem nodes_attach (g : Graph σ) (d : Direction) (e : Endpoint) (k j : Nat) :
    (g.attach d e k).nodes[j]? =
      g.nodes[j]?.map fun n => if e.node = j then n.noteLink d e.pad k else n := by
  rw [attach_eq, Array.getElem?_modify]
  split
  · rfl
  · simp

/-- A graph with one more link. -/
def joined (g : Graph σ) (l : Link) : Graph σ :=
  ({ g with links := g.links.push l }.attach .output l.source g.links.size).attach .input l.target
    g.links.size

theorem checkLink_eq_ok_iff {source target : Node σ} {sourceId targetId : NodeId}
    {output input : Nat} {u : Unit} :
    checkLink source target sourceId output targetId input = .ok u ↔
      source.life = .initialized ∧ target.life = .initialized ∧
      output < source.padCount .output ∧ input < target.padCount .input ∧
      source.link? .output output = none ∧ target.link? .input input = none := by
  simp [checkLink, checkInitialized, checkRange, checkFree, bind_eq_ok_iff, Node.isInitialized]

/-- What stands against a link between nodes that are set up. -/
theorem checkLink_eq_error_iff {source target : Node σ} {sourceId targetId : NodeId}
    {output input : Nat} {e : LinkError} (ready : source.life = .initialized)
    (ready' : target.life = .initialized) :
    checkLink source target sourceId output targetId input = .error e ↔
      (source.padCount .output ≤ output ∧
        .padOutOfRange sourceId .output output (source.padCount .output) = e) ∨
      output < source.padCount .output ∧ ((target.padCount .input ≤ input ∧
        .padOutOfRange targetId .input input (target.padCount .input) = e) ∨
      input < target.padCount .input ∧ ((source.link? .output output ≠ none ∧
        .padOccupied sourceId .output output = e) ∨
      source.link? .output output = none ∧ target.link? .input input ≠ none ∧
        .padOccupied targetId .input input = e)) := by
  simp [checkLink, checkInitialized, checkRange, checkFree, bind_eq_error_iff, guard_eq_error_iff,
    Node.isInitialized, ready, ready']

/-- A link between nodes that are found is made unless something stands against it. -/
theorem link_eq_of_found {source target : NodeId} {output input : Nat}
    (unconfigured : g.configured = false) (found : g.find source = .ok n)
    (found' : g.find target = .ok m) :
    g.link source output target input = match checkLink n m source output target input with
      | .ok () =>
        .ok (g.links.size, g.joined ⟨⟨source.index, output⟩, ⟨target.index, input⟩, none⟩)
      | .error e => .error (.link e) := by
  have on : ¬ g.configured := by simp [unconfigured]
  unfold link
  dsimp only
  rw [if_neg on, found, ok_bind, found', ok_bind]
  cases checkLink n m source output target input <;> rfl

theorem link_eq_ok_iff {source target : NodeId} {output input number : Nat} :
    g.link source output target input = .ok (number, h) ↔ g.configured = false ∧
      ∃ n, g.find source = .ok n ∧ ∃ m, g.find target = .ok m ∧
        checkLink n m source output target input = .ok () ∧ g.links.size = number ∧
        g.joined ⟨⟨source.index, output⟩, ⟨target.index, input⟩, none⟩ = h := by
  unfold link
  dsimp only
  simp only [check_eq_ok_iff, bind_eq_ok_iff, mapError_eq_ok_iff, pure_eq_ok_iff, Prod.mk.injEq,
    Bool.not_eq_true, Unique.exists_iff]
  rfl

/-- A node is set up once, if at all, and where that fails it is left failed. -/
theorem initializeNode_cases [Filter σ] (g : Graph σ) (id : NodeId) :
    (∃ e, g.find id = .error e ∧ g.initializeNode id = (g, .error e)) ∨
    ∃ n, g.find id = .ok n ∧
      ((n.life ≠ .allocated ∧ g.initializeNode id =
          (g, .error (.invalidOperation id (.initialization n.life)))) ∨
        (n.life = .allocated ∧
          ((∃ m, n.apply = .ok m ∧ g.initializeNode id = (g.setNode id.index m, .ok ())) ∨
            ∃ fault, n.apply = .error fault ∧ g.initializeNode id =
              (g.setNode id.index n.fail, .error (.initialization id n.kind.name fault))))) := by
  unfold initializeNode
  cases g.find id with
  | error e => exact .inl ⟨e, rfl, rfl⟩
  | ok n =>
    refine .inr ⟨n, rfl, ?_⟩
    by_cases fresh : n.life = .allocated
    · refine .inr ⟨fresh, ?_⟩
      simp only [if_pos fresh]
      cases n.apply with
      | ok m => exact .inl ⟨m, rfl, rfl⟩
      | error fault => exact .inr ⟨fault, rfl, rfl⟩
    · exact .inl ⟨fresh, if_neg fresh⟩

end Graph
end FrameFlow
