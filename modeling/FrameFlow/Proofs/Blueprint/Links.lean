import FrameFlow.Proofs.Blueprint.Described
import FrameFlow.Proofs.Graph.References
import Mathlib.Data.List.Forall2

/-! The links of a blueprint. A link joins the pads that it names, unless one of its nodes is unknown, it
has no such pad, or an earlier link has the pad. -/
namespace FrameFlow

variable {σ : Type}

theorem forall₂_modify {α β : Type} {R : α → β → Prop} {f : β → β} {all : List α} {made : List β}
    (same : List.Forall₂ R all made) (keeps : ∀ a b, R a b → R a (f b)) (place : Nat) :
    List.Forall₂ R all (made.modify place f) := by
  induction same generalizing place with
  | nil => simp
  | cons first rest ih =>
    cases place with
    | zero => exact .cons (keeps _ _ first) rest
    | succ place => exact .cons first (ih place)

theorem exists_of_forall₂ {α β : Type} {R : α → β → Prop} {all : List α} {made : List β}
    (same : List.Forall₂ R all made) {i : Nat} {a : α} (there : all[i]? = some a) :
    ∃ b, made[i]? = some b ∧ R a b := by
  induction same generalizing i with
  | nil => simp at there
  | cons first rest ih =>
    cases i with
    | zero => exact ⟨_, rfl, Option.some.inj there ▸ first⟩
    | succ i => exact ih there

namespace Blueprint

open FrameFlow.Graph

theorem Node.Describes.padCount_eq [Filter σ] {registry : Registry σ} {n : Node}
    {m : FrameFlow.Node σ} (describes : n.Describes registry m) (d : Direction) :
    m.padCount d = padsOn m.filter d := by
  cases d with
  | input => simpa [FrameFlow.Node.padCount, padsOn] using congrArg List.length describes.inputs
  | output => simpa [FrameFlow.Node.padCount, padsOn] using congrArg List.length describes.outputs

theorem Node.Describes.noteLink [Filter σ] {registry : Registry σ} {n : Node}
    {m : FrameFlow.Node σ} (describes : n.Describes registry m) (d : Direction) (pad link : Nat) :
    n.Describes registry (m.noteLink d pad link) := by
  have untouched := describes.untouched.noteLink d pad link
  have inputs := (m.inputs_noteLink d pad link).trans describes.inputs
  have outputs := (m.outputs_noteLink d pad link).trans describes.outputs
  cases d <;> exact { describes with inputs, outputs, untouched }

theorem Node.Describes.getsFilter_iff [Filter σ] {registry : Registry σ} {n : Node}
    {m : FrameFlow.Node σ} (describes : n.Describes registry m) {f : σ} :
    n.GetsFilter registry f ↔ f = m.filter := by
  constructor
  · rintro ⟨k, values, registered, resolved, setUp⟩
    obtain rfl := Option.some.inj (registered.symm.trans describes.kind)
    obtain rfl := Except.ok.inj (resolved.symm.trans describes.resolved)
    exact Except.ok.inj (setUp.symm.trans describes.filter)
  · rintro rfl
    exact ⟨m.kind, m.applied, describes.kind, describes.resolved, describes.filter⟩

section Places

variable {b : Blueprint} {name : String}

theorem exists_at_place (named : name ∈ b.names) :
    ∃ n, b.nodes[b.place name]? = some n ∧ n.name = name := by
  have at_place : b.names[b.place name]? = some name :=
    List.getElem?_eq_some_iff.2 ⟨List.idxOf_lt_length_iff.2 named, List.getElem_idxOf _⟩
  rwa [names, List.getElem?_map, Option.map_eq_some_iff] at at_place

theorem place_inj {other : String} (named : name ∈ b.names) :
    b.place name = b.place other ↔ name = other :=
  List.idxOf_inj named

end Places

variable [Filter σ] {start : Graph σ} {b : Blueprint} {built : Built σ} {name : String}
  {m : FrameFlow.Node σ} {d : Direction} {pad : Nat}

theorem lookUp_of_named (made : Realizes start b built) (named : name ∈ b.names) :
    lookUp built.names name = .ok (start.handle (b.place name)) := by
  obtain ⟨n, there, rfl⟩ := exists_at_place named
  have entry : (n.name, start.handle (b.place n.name)) ∈ built.names.entries := by
    rw [made.names]
    exact List.mem_map.2 ⟨(n, b.place n.name), List.mem_zipIdx_iff_getElem?.2 there, rfl⟩
  rw [lookUp, Table.get?_eq_some_iff.2 entry]

theorem lookUp_of_unnamed (made : Realizes start b built) (unnamed : name ∉ b.names) :
    lookUp built.names name = .error (.description (.unknownName name)) := by
  have unknown : built.names.get? name = none := by
    rw [← Option.not_isSome_iff_eq_none]
    exact fun known => unnamed (made.contains_iff.1 known)
  rw [lookUp, unknown]

/-- The node with a name is there, set up as described. -/
theorem Realizes.exists_node (made : Realizes start b built) (named : name ∈ b.names) :
    ∃ n m, n ∈ b.nodes ∧ n.name = name ∧ n.Describes start.registry m ∧
      built.graph.nodes[b.place name]? = some m ∧
      built.graph.find (start.handle (b.place name)) = .ok m := by
  obtain ⟨n, there, rfl⟩ := exists_at_place named
  obtain ⟨m, there', describes⟩ := exists_of_forall₂ made.nodes there
  rw [Array.getElem?_toList] at there'
  have own : start.id = built.graph.id := by rw [made.rest]
  have live : m.isLive := by simp [FrameFlow.Node.isLive, describes.life]
  exact ⟨n, m, List.mem_of_getElem? there, rfl, describes, there',
    find_eq_ok_iff.2 ⟨own, there', live⟩⟩

/-- What a blueprint says of the pads of a node is so of the node in the graph. -/
theorem BuiltAs.hasPads_iff (as : BuiltAs start b built) (named : name ∈ b.names)
    (there : built.graph.nodes[b.place name]? = some m) {count : Nat} :
    b.HasPads start.registry d name count ↔ m.padCount d = count := by
  obtain ⟨n, m', mem, rfl, describes, there', -⟩ := as.made.exists_node named
  obtain rfl := Option.some.inj (there.symm.trans there')
  constructor
  · rintro ⟨n', mem', same, f, filter, rfl⟩
    obtain rfl := List.inj_on_of_nodup_map as.sound.names mem' mem same
    rw [describes.padCount_eq, describes.getsFilter_iff.1 filter]
  · intro counted
    exact ⟨n, mem, rfl, m.filter, describes.getsFilter_iff.2 rfl,
      (describes.padCount_eq d).symm.trans counted⟩

theorem BuiltAs.hasPad_iff (as : BuiltAs start b built) (named : name ∈ b.names)
    (there : built.graph.nodes[b.place name]? = some m) :
    b.HasPad start.registry d (name, pad) ↔ pad < m.padCount d := by
  simp [HasPad, as.hasPads_iff named there]

theorem HasPads.named {registry : Registry σ} {count : Nat}
    (has : b.HasPads registry d name count) : name ∈ b.names := by
  obtain ⟨n, mem, named, _⟩ := has
  exact named ▸ List.mem_map_of_mem mem

theorem HasPad.named {registry : Registry σ} {e : String × Nat} (has : b.HasPad registry d e) :
    e.1 ∈ b.names := by
  obtain ⟨_, pads, _⟩ := has
  exact pads.named

theorem endAt_linkOf (b : Blueprint) (l : Link) (d : Direction) :
    (b.linkOf l).endAt d = ⟨b.place (l.endAt d).1, (l.endAt d).2⟩ := by
  cases d <;> rfl

/-- A pad is free in the graph just where no link of the blueprint has it. -/
theorem BuiltAs.link?_eq_none_iff (as : BuiltAs start b built)
    (there : built.graph.nodes[b.place name]? = some m) :
    m.link? d pad = none ↔ (name, pad) ∉ b.links.map (·.endAt d) := by
  have noted : built.graph.linkAt d ⟨b.place name, pad⟩ = m.link? d pad := by
    simp [linkAt, there]
  rw [← not_iff_not, not_not, ← noted, ← ne_eq, Option.ne_none_iff_exists']
  constructor
  · rintro ⟨k, at_pad⟩
    obtain ⟨link, there_k, ends⟩ := as.made.wired.linkAt_iff.1 at_pad
    rw [← Array.getElem?_toList, as.made.links, List.getElem?_map] at there_k
    obtain ⟨l, there_l, rfl⟩ := Option.map_eq_some_iff.1 there_k
    have mem := List.mem_of_getElem? there_l
    rw [endAt_linkOf] at ends
    obtain ⟨same, same'⟩ := Endpoint.mk.inj ends
    have same_name := (place_inj (as.sound.links l mem d).named).1 same
    exact List.mem_map.2 ⟨l, mem, Prod.ext same_name same'⟩
  · intro taken
    obtain ⟨l, mem, ends⟩ := List.mem_map.1 taken
    obtain ⟨k, there_k⟩ := List.mem_iff_getElem?.1 mem
    refine ⟨k, as.made.wired.linkAt_iff.2 ⟨b.linkOf l, ?_, ?_⟩⟩
    · rw [← Array.getElem?_toList, as.made.links, List.getElem?_map, there_k, Option.map_some]
    · rw [endAt_linkOf, ends]

section Linking

variable {l : Link} {n : FrameFlow.Node σ} {e : GraphError}

theorem linkIn_eq (made : Realizes start b built) (named : l.source ∈ b.names)
    (named' : l.target ∈ b.names)
    (found : built.graph.find (start.handle (b.place l.source)) = .ok n)
    (found' : built.graph.find (start.handle (b.place l.target)) = .ok m) :
    linkIn built l = match checkLink n m (start.handle (b.place l.source)) l.output
        (start.handle (b.place l.target)) l.input with
      | .ok () => .ok { built with graph := built.graph.joined (b.linkOf l) }
      | .error e => .error (.link e) := by
  simp only [linkIn, lookUp_of_named made named, lookUp_of_named made named', ok_bind,
    link_eq_of_found made.unconfigured found found']
  cases checkLink n m (start.handle (b.place l.source)) l.output
    (start.handle (b.place l.target)) l.input <;> rfl

theorem linkIn_of_unknown_source (made : Realizes start b built) (unnamed : l.source ∉ b.names) :
    linkIn built l = .error (.description (.unknownName l.source)) := by
  rw [linkIn, lookUp_of_unnamed made unnamed]
  rfl

theorem linkIn_of_unknown_target (made : Realizes start b built) (named : l.source ∈ b.names)
    (unnamed : l.target ∉ b.names) :
    linkIn built l = .error (.description (.unknownName l.target)) := by
  rw [linkIn, lookUp_of_named made named, lookUp_of_unnamed made unnamed]
  rfl

/-- What is wrong with a link between known nodes is what stands against it in the graph. -/
theorem BuiltAs.linkOffence_iff (as : BuiltAs start b built) (named : l.source ∈ b.names)
    (named' : l.target ∈ b.names) (there : built.graph.nodes[b.place l.source]? = some n)
    (there' : built.graph.nodes[b.place l.target]? = some m) (ready : n.life = .initialized)
    (ready' : m.life = .initialized) :
    LinkOffence start.id start.registry b l e ↔ ∃ e', .link e' = e ∧
      checkLink n m (start.handle (b.place l.source)) l.output (start.handle (b.place l.target))
        l.input = .error e' := by
  have output : b.HasPad start.registry .output (l.source, l.output) ↔ l.output < n.padCount .output :=
    as.hasPad_iff named there
  have input : b.HasPad start.registry .input (l.target, l.input) ↔ l.input < m.padCount .input :=
    as.hasPad_iff named' there'
  have outputs {count : Nat} :
      b.HasPads start.registry .output l.source count ↔ n.padCount .output = count :=
    as.hasPads_iff named there
  have inputs {count : Nat} :
      b.HasPads start.registry .input l.target count ↔ m.padCount .input = count :=
    as.hasPads_iff named' there'
  have output_free : n.link? .output l.output = none ↔
      (l.source, l.output) ∉ b.links.map (·.endAt .output) := as.link?_eq_none_iff there
  have input_free : m.link? .input l.input = none ↔
      (l.target, l.input) ∉ b.links.map (·.endAt .input) := as.link?_eq_none_iff there'
  simp only [checkLink_eq_error_iff ready ready']
  constructor
  · intro offence
    cases offence with
    | source unnamed => exact absurd named unnamed
    | target _ unnamed => exact absurd named' unnamed
    | outputRange pads _ outside =>
      exact ⟨_, rfl, .inl ⟨(outputs.1 pads).symm ▸ outside, by rw [outputs.1 pads]; rfl⟩⟩
    | inputRange has pads outside =>
      exact ⟨_, rfl, .inr ⟨output.1 has, .inl ⟨(inputs.1 pads).symm ▸ outside,
        by rw [inputs.1 pads]; rfl⟩⟩⟩
    | outputTaken has has' taken =>
      exact ⟨_, rfl, .inr ⟨output.1 has, .inr ⟨input.1 has',
        .inl ⟨fun free => output_free.1 free taken, rfl⟩⟩⟩⟩
    | inputTaken has has' free taken =>
      exact ⟨_, rfl, .inr ⟨output.1 has, .inr ⟨input.1 has',
        .inr ⟨output_free.2 free, fun free' => input_free.1 free' taken, rfl⟩⟩⟩⟩
  · rintro ⟨_, rfl, ⟨outside, rfl⟩ | ⟨inside, ⟨outside, rfl⟩ | ⟨inside', ⟨taken, rfl⟩ |
      ⟨free, taken, rfl⟩⟩⟩⟩
    · exact .outputRange (outputs.2 rfl) named' outside
    · exact .inputRange (output.2 inside) (inputs.2 rfl) outside
    · exact .outputTaken (output.2 inside) (input.2 inside')
        (Classical.not_not.1 fun free => taken (output_free.2 free))
    · exact .inputTaken (output.2 inside) (input.2 inside') (output_free.1 free)
        (Classical.not_not.1 fun free' => taken (input_free.2 free'))

/-- A blueprint with one more link. -/
def withLink (b : Blueprint) (l : Link) : Blueprint := { b with links := b.links ++ [l] }

theorem Buildable.withLink {registry : Registry σ} (sound : Buildable registry b)
    (has : ∀ d, b.HasPad registry d (l.endAt d)) (free : ∀ d, l.endAt d ∉ b.links.map (·.endAt d)) :
    Buildable registry (b.withLink l) where
  names := sound.names
  nodes := sound.nodes
  links := by
    intro l' mem
    rcases List.mem_append.1 mem with mem | new
    · exact sound.links l' mem
    · exact List.mem_singleton.1 new ▸ has
  apart d := by
    rw [Blueprint.withLink, List.map_append]
    refine List.nodup_append.2 ⟨sound.apart d, by simp, fun e mem e' new same => ?_⟩
    obtain rfl : e = l.endAt d := same.trans (List.mem_singleton.1 new)
    exact free d mem

theorem Buildable.of_withLink {registry : Registry σ} (sound : Buildable registry (b.withLink l)) :
    Buildable registry b where
  names := sound.names
  nodes := sound.nodes
  links := fun l' mem => sound.links l' (List.mem_append_left _ mem)
  apart d := (List.nodup_append.1 (List.map_append ▸ sound.apart d)).1

theorem HasPads.unique {registry : Registry σ} {count count' : Nat} (distinct : b.names.Nodup)
    (has : b.HasPads registry d name count) (has' : b.HasPads registry d name count') :
    count = count' := by
  obtain ⟨n, mem, rfl, f, ⟨k, values, registered, resolved, setUp⟩, rfl⟩ := has
  obtain ⟨n', mem', same, f', ⟨k', values', registered', resolved', setUp'⟩, rfl⟩ := has'
  obtain rfl := List.inj_on_of_nodup_map distinct mem' mem same
  obtain rfl := Option.some.inj (registered.symm.trans registered')
  obtain rfl := Except.ok.inj (resolved.symm.trans resolved')
  obtain rfl := Except.ok.inj (setUp.symm.trans setUp')
  rfl

/-- Nothing is wrong with a link of a blueprint that can be built. -/
theorem Buildable.no_linkOffence {registry : Registry σ} {number : GraphId}
    (sound : Buildable registry (b.withLink l)) : ¬ LinkOffence number registry b l e := by
  have has d : b.HasPad registry d (l.endAt d) := sound.links l (by simp [Blueprint.withLink]) d
  have free d : l.endAt d ∉ b.links.map (·.endAt d) := fun mem =>
    (List.nodup_append.1 (List.map_append ▸ sound.apart d)).2.2 _ mem _ (by simp) rfl
  have inside {d : Direction} {count : Nat} (pads : b.HasPads registry d (l.endAt d).1 count) :
      (l.endAt d).2 < count := by
    obtain ⟨count', pads', inside⟩ := has d
    exact pads.unique sound.names pads' ▸ inside
  intro offence
  cases offence with
  | source unnamed => exact unnamed (has .output).named
  | target _ unnamed => exact unnamed (has .input).named
  | outputRange pads _ outside => exact absurd (inside (d := .output) pads) (Nat.not_lt.2 outside)
  | inputRange _ pads outside => exact absurd (inside (d := .input) pads) (Nat.not_lt.2 outside)
  | outputTaken _ _ taken => exact free .output taken
  | inputTaken _ _ _ taken => exact free .input taken

theorem BuiltAs.joined (as : BuiltAs start b built) (has : ∀ d, b.HasPad start.registry d (l.endAt d))
    (free : ∀ d, l.endAt d ∉ b.links.map (·.endAt d)) :
    BuiltAs start (b.withLink l) { built with graph := built.graph.joined (b.linkOf l) } := by
  have ends d : ∃ m, built.graph.nodes[((b.linkOf l).endAt d).node]? = some m ∧ m.isLive ∧
      ((b.linkOf l).endAt d).pad < m.padCount d ∧ m.link? d ((b.linkOf l).endAt d).pad = none := by
    obtain ⟨n, m, -, -, describes, there, -⟩ := as.made.exists_node (has d).named
    rw [endAt_linkOf]
    exact ⟨m, there, by simp [FrameFlow.Node.isLive, describes.life],
      (as.hasPad_iff (has d).named there).1 (has d), (as.link?_eq_none_iff there).2 (free d)⟩
  refine ⟨as.sound.withLink has free, as.made.unconfigured, ?_, ?_, ?_, as.made.names, ?_⟩
  · rw [nodes_joined, Array.toList_modify, Array.toList_modify]
    have keeps d pad link (n : Node) m (describes : n.Describes start.registry m) :=
      describes.noteLink d pad link
    exact forall₂_modify (forall₂_modify as.made.nodes (keeps _ _ _) _) (keeps _ _ _) _
  · have all : (b.links ++ [l]).map b.linkOf = b.links.map b.linkOf ++ [b.linkOf l] :=
      List.map_append
    rw [links_joined, Array.toList_push, as.made.links]
    exact all.symm
  · refine as.made.wired.join (fun d => ?_) (fun d => ?_) fun d => ?_
    · obtain ⟨m, there, _, inside, _⟩ := ends d
      exact ⟨m, there, inside⟩
    · obtain ⟨m, there, _, _, unlinked⟩ := ends d
      simpa [linkAt, there] using unlinked
    · obtain ⟨m, there, live, _⟩ := ends d
      exact isLiveAt_iff.2 ⟨m, there, live⟩
  · rw [as.made.rest]
    rfl

/-- Either something is wrong with a further link, or it is made. -/
theorem BuiltAs.linkIn_cases (as : BuiltAs start b built) (l : Link) :
    (∃ e, LinkOffence start.id start.registry b l e) ∨
      ∃ c, linkIn built l = .ok c ∧ BuiltAs start (b.withLink l) c := by
  by_cases named : l.source ∈ b.names
  · by_cases named' : l.target ∈ b.names
    · obtain ⟨_, n, -, -, describes, there, found⟩ := as.made.exists_node named
      obtain ⟨_, m, -, -, describes', there', found'⟩ := as.made.exists_node named'
      have outcome := linkIn_eq as.made named named' found found'
      cases checked : checkLink n m (start.handle (b.place l.source)) l.output
          (start.handle (b.place l.target)) l.input with
      | error e =>
        exact .inl ⟨.link e, (as.linkOffence_iff named named' there there' describes.life
          describes'.life).2 ⟨e, rfl, checked⟩⟩
      | ok u =>
        rw [checked] at outcome
        obtain ⟨_, _, inside, inside', unlinked, unlinked'⟩ := checkLink_eq_ok_iff.1 checked
        refine .inr ⟨_, outcome, as.joined (fun d => ?_) fun d => ?_⟩
        · cases d with
          | input => exact (as.hasPad_iff named' there').2 inside'
          | output => exact (as.hasPad_iff named there).2 inside
        · cases d with
          | input => exact (as.link?_eq_none_iff there').1 unlinked'
          | output => exact (as.link?_eq_none_iff there).1 unlinked
    · exact .inl ⟨_, .target named named'⟩
  · exact .inl ⟨_, .source named⟩

/-- A link with which something is wrong cannot be made, and what is wrong with it is told. -/
theorem BuiltAs.linkIn_of_offence (as : BuiltAs start b built)
    (offence : LinkOffence start.id start.registry b l e) : linkIn built l = .error e := by
  by_cases named : l.source ∈ b.names
  · by_cases named' : l.target ∈ b.names
    · obtain ⟨_, n, -, -, describes, there, found⟩ := as.made.exists_node named
      obtain ⟨_, m, -, -, describes', there', found'⟩ := as.made.exists_node named'
      obtain ⟨e, rfl, refused⟩ := (as.linkOffence_iff named named' there there' describes.life
        describes'.life).1 offence
      rw [linkIn_eq as.made named named' found found', refused]
    · cases offence with
      | target _ _ => exact linkIn_of_unknown_target as.made named named'
      | source unnamed => exact absurd named unnamed
      | outputRange _ known _ => exact absurd known named'
      | inputRange _ pads _ => exact absurd pads.named named'
      | outputTaken _ has _ => exact absurd has.named named'
      | inputTaken _ has _ _ => exact absurd has.named named'
  · cases offence with
    | source _ => exact linkIn_of_unknown_source as.made named
    | target known _ => exact absurd known named
    | outputRange pads _ _ => exact absurd pads.named named
    | inputRange has _ _ => exact absurd has.named named
    | outputTaken has _ _ => exact absurd has.named named
    | inputTaken has _ _ _ => exact absurd has.named named

theorem checks_links (start : Graph σ) (b : Blueprint) :
    Checks linkIn (fun links => Buildable start.registry { b with links })
      (fun links => BuiltAs start { b with links })
      (fun links => LinkOffence start.id start.registry { b with links }) where
  earlier {links l} sound := Buildable.of_withLink (b := { b with links }) (l := l) sound
  sound {links l _} sound := Buildable.no_linkOffence (b := { b with links }) (l := l) sound
  good := BuiltAs.sound
  refuses := BuiltAs.linkIn_of_offence
  outcome := BuiltAs.linkIn_cases

end Linking
end Blueprint
end FrameFlow
