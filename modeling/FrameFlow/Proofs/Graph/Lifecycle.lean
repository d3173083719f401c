import FrameFlow.Proofs.Reach

/-! What calls make of the nodes of a graph. Before configuration a node is given options, set up,
linked or given up, and only in these ways does it change; afterwards it may only fail. -/
namespace FrameFlow

open Relation (ReflTransGen)

variable {σ : Type} [Filter σ]

/-- What a call makes of a node that it changes before configuration. -/
inductive Node.Assembles (n : Node σ) : Node σ → Prop where
  | staged {key value : String} {m : Node σ} (set : n.setOption key value = .ok m) : Assembles n m
  | setUp {m : Node σ} (fresh : n.life = .allocated) (applied : n.apply = .ok m) : Assembles n m
  | failed {fault : Fault} (fresh : n.life = .allocated) (refused : n.apply = .error fault) :
      Assembles n n.fail
  | discarded {m : Node σ} (gone : n.discard = .ok m) : Assembles n m
  | linked (ready : n.life = .initialized) (d : Direction) (pad link : Nat) :
      Assembles n (n.noteLink d pad link)

namespace Node

variable {n m : Node σ}

omit [Filter σ] in
theorem life_noteLink (n : Node σ) (d : Direction) (pad link : Nat) :
    (n.noteLink d pad link).life = n.life := by
  cases d <;> rfl

/-- A link is noted at a node only where the node is one of its ends. -/
theorem assembles_noteLink {ends : Prop} [Decidable ends] (ready : ends → n.life = .initialized)
    (d : Direction) (pad link : Nat) :
    ReflTransGen Node.Assembles n (if ends then n.noteLink d pad link else n) := by
  split
  · next here => exact .single (.linked (ready here) d pad link)
  · exact .refl

end Node

namespace Graph

variable {g h : Graph σ} {i : Nat} {n m : Node σ} {id : NodeId}

/-- A graph whose nodes are new or were assembled further. -/
def Grows (g h : Graph σ) : Prop := ∀ ⦃i : Nat⦄ ⦃m : Node σ⦄, h.nodes[i]? = some m →
  (∃ n, g.nodes[i]? = some n ∧ ReflTransGen Node.Assembles n m) ∨ ∃ kind, m = .ofKind kind

theorem Grows.refl (g : Graph σ) : g.Grows g := fun _ m there => .inl ⟨m, there, .refl⟩

theorem grows_setNode (there : g.nodes[i]? = some n) (one : n.Assembles m) :
    g.Grows (g.setNode i m) := by
  intro j k there'
  rw [nodes_setNode there] at there'
  split at there'
  · next here =>
    obtain rfl := Option.some.inj there'
    exact .inl ⟨n, here ▸ there, .single one⟩
  · exact .inl ⟨k, there', .refl⟩

theorem grows_allocate {kind : String} {number : NodeId} (granted : g.allocate kind = .ok (number, h)) :
    g.Grows h := by
  obtain ⟨_, k, _, _, rfl⟩ := allocate_eq_ok_iff.1 granted
  intro j m there
  simp only [Array.getElem?_push] at there
  split at there
  · exact .inr ⟨k, (Option.some.inj there).symm⟩
  · exact .inl ⟨m, there, .refl⟩

theorem grows_setOption {key value : String} (granted : g.setOption id key value = .ok h) :
    g.Grows h := by
  obtain ⟨n, m, found, set, rfl⟩ := setOption_eq_ok_iff.1 granted
  exact grows_setNode (find_eq_ok_iff.1 found).2.1 (.staged set)

theorem grows_initializeNode (g : Graph σ) (id : NodeId) : g.Grows (g.initializeNode id).1 := by
  obtain ⟨_, _, same⟩ | ⟨n, found, ⟨_, same⟩ | ⟨fresh, setUp⟩⟩ := g.initializeNode_cases id
  · exact same ▸ .refl g
  · exact same ▸ .refl g
  · obtain ⟨_, there, _⟩ := find_eq_ok_iff.1 found
    rcases setUp with ⟨m, applied, made⟩ | ⟨_, refused, made⟩
    · exact made ▸ grows_setNode there (.setUp fresh applied)
    · exact made ▸ grows_setNode there (.failed fresh refused)

theorem grows_discard (granted : g.discard id = .ok h) : g.Grows h := by
  obtain ⟨_, n, m, found, gone, rfl⟩ := discard_eq_ok_iff.1 granted
  exact grows_setNode (find_eq_ok_iff.1 found).2.1 (.discarded gone)

theorem grows_link {source target : NodeId} {output input number : Nat}
    (granted : g.link source output target input = .ok (number, h)) : g.Grows h := by
  obtain ⟨_, n, at_source, m, at_target, checked, _, rfl⟩ := link_eq_ok_iff.1 granted
  obtain ⟨_, there, _⟩ := find_eq_ok_iff.1 at_source
  obtain ⟨_, there', _⟩ := find_eq_ok_iff.1 at_target
  obtain ⟨ready, ready', _⟩ := checkLink_eq_ok_iff.1 checked
  intro j k at_j
  simp only [joined, nodes_attach, Option.map_eq_some_iff] at at_j
  obtain ⟨_, ⟨k, at_j, rfl⟩, rfl⟩ := at_j
  have at_source : source.index = j → k.life = .initialized := by
    rintro rfl
    exact Option.some.inj (there.symm.trans at_j) ▸ ready
  have at_target : target.index = j → k.life = .initialized := by
    rintro rfl
    exact Option.some.inj (there'.symm.trans at_j) ▸ ready'
  refine .inl ⟨k, at_j, (Node.assembles_noteLink at_source .output output g.links.size).trans ?_⟩
  refine Node.assembles_noteLink (fun here => ?_) .input input g.links.size
  split
  · exact (k.life_noteLink ..).trans (at_target here)
  · exact at_target here

/-- Whatever is called, a graph grows until it is configured. -/
theorem grows_after (unconfigured : g.configured = false) (call : Call) : g.Grows (g.after call) := by
  cases call with
  | allocate kind => exact orSame_induction (.refl g) fun _ ok => grows_allocate ok
  | setOption id key value => exact orSame_induction (.refl g) fun _ ok => grows_setOption ok
  | setUp id => exact g.grows_initializeNode id
  | discard id => exact orSame_induction (.refl g) fun _ ok => grows_discard ok
  | link source output target input => exact orSame_induction (.refl g) fun _ ok => grows_link ok
  | configure =>
    refine orSame_induction (.refl g) fun after ok => ?_
    unfold configure at ok
    rw [if_neg (by simp [unconfigured])] at ok
    split at ok
    · simp at ok
    · exact Except.ok.inj ok ▸ .refl g
  | request r => exact (after_eq_of_unconfigured unconfigured (.request r) rfl).symm ▸ .refl g
  | drain id => exact (after_eq_of_unconfigured unconfigured (.drain id) rfl).symm ▸ .refl g

/-- What holds of new nodes and is kept while they are assembled holds of every node until the graph is
configured. -/
theorem Reachable.node_induction {P : Node σ → Prop} (created : ∀ kind, P (.ofKind kind))
    (step : ∀ {n m : Node σ}, P n → n.Assembles m → P m) (reachable : g.Reachable)
    (unconfigured : g.configured = false) :
    ∀ (i : Nat) (n : Node σ), g.nodes[i]? = some n → P n := by
  induction reachable with
  | created made =>
    intro i n there
    obtain rfl := create_eq_ok made
    simp at there
  | @called g call reachable ih =>
    have before : g.configured = false := by
      rw [Bool.eq_false_iff]
      intro configured
      simp [((reachable.ran configured).after call).configured] at unconfigured
    intro i m there
    obtain ⟨n, at_node, path⟩ | ⟨kind, rfl⟩ := grows_after before call there
    · have kept := ih before i n at_node
      clear at_node there
      induction path with
      | refl => exact kept
      | tail _ one held => exact step held one
    · exact created kind

end Graph

/-- Options wait at a node until it is set up, and only a node that was set up has applied any. -/
structure Node.OptionsFit (n : Node σ) : Prop where
  staged : n.life ≠ .allocated → n.staged = .empty
  applied : n.life ≠ .initialized → n.applied = .empty

omit [Filter σ] in
theorem Node.optionsFit_ofKind (kind : Kind σ) : (Node.ofKind kind).OptionsFit :=
  ⟨fun other => absurd rfl other, fun _ => rfl⟩

theorem Node.OptionsFit.assembles {n m : Node σ} (fits : n.OptionsFit) (one : n.Assembles m) :
    m.OptionsFit := by
  cases one with
  | staged set =>
    obtain ⟨fresh, rfl⟩ := setOption_eq_ok_iff.1 set
    exact ⟨fun other => absurd fresh other, fits.applied⟩
  | setUp _ applied =>
    obtain ⟨_, _, _, _, rfl⟩ := apply_eq_ok_iff.1 applied
    exact ⟨fun _ => rfl, fun other => absurd rfl other⟩
  | failed fresh _ =>
    have applied : n.applied = .empty := fits.applied (by simp [fresh])
    exact ⟨fun _ => rfl, fun _ => applied⟩
  | discarded gone =>
    obtain ⟨_, rfl⟩ := discard_eq_ok_iff.1 gone
    exact ⟨fun _ => rfl, fun _ => rfl⟩
  | linked _ d pad link =>
    cases d with
    | input => exact ⟨fits.staged, fits.applied⟩
    | output => exact ⟨fits.staged, fits.applied⟩

/-- A node that is still to be set up has no options applied and no pads. -/
theorem Graph.Reachable.bare_of_allocated {g : Graph σ} {i : Nat} {n : Node σ}
    (reachable : g.Reachable) (there : g.nodes[i]? = some n) (fresh : n.life = .allocated) :
    n.applied = .empty ∧ n.inputs = [] ∧ n.outputs = [] := by
  cases configured : g.configured with
  | true =>
    have live : n.isLive := by simp [Node.isLive, fresh]
    exact absurd fresh ((reachable.ran configured).life_ne there live)
  | false =>
    have fits := reachable.node_induction Node.optionsFit_ofKind Node.OptionsFit.assembles
      configured i n there
    have prepared := (reachable.assembled configured).nodes there
    exact ⟨fits.applied (by simp [fresh]), prepared.padless (by simp [fresh])⟩

end FrameFlow
