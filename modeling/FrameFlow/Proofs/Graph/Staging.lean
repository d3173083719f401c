import FrameFlow.Proofs.Filter.Resolution
import FrameFlow.Proofs.Life

/-! Options that wait at a node. Whatever is called, a node that is neither set up nor discarded keeps the
last text that each of its options was given. Setting it up uses the texts up: its options get just what
they say, or the node fails. -/
namespace FrameFlow

open Setting (Definition)

/-- The text that a call gives an option of a node, where it gives one. -/
def Call.textFor (id : NodeId) (name : String) : Call → Option String
  | .setOption other key text => if other = id ∧ key = name then some text else none
  | _ => none

/-- The last text that calls give an option of a node. -/
def lastText (id : NodeId) (calls : List Call) (name : String) : Option String :=
  (calls.filterMap (Call.textFor id name)).getLast?

theorem lastText_concat (id : NodeId) (calls : List Call) (call : Call) (name : String) :
    lastText id (calls ++ [call]) name = (call.textFor id name).or (lastText id calls name) := by
  unfold lastText
  rw [List.filterMap_append]
  cases text : call.textFor id name <;> simp [text]

/-- The texts that wait at a node after a call. -/
def Call.stage (id : NodeId) (texts : Table String) : Call → Table String
  | .setOption other key text => if other = id then texts.put key text else texts
  | _ => texts

theorem get?_stage (id : NodeId) (texts : Table String) (call : Call) (name : String) :
    (call.stage id texts).get? name = (call.textFor id name).or (texts.get? name) := by
  cases call with
  | setOption other key text =>
    by_cases here : other = id
    · by_cases same : name = key
      · simp [Call.stage, Call.textFor, here, same, Table.get?_put]
      · simp [Call.stage, Call.textFor, here, same, Ne.symm same, Table.get?_put]
    · simp [Call.stage, Call.textFor, here]
  | _ => rfl

/-- A node still to be set up, and the texts that wait at it. -/
structure Node.Waits {σ : Type} (n : Node σ) (kind : Kind σ) (text : String → Option String) : Prop where
  life : n.life = .allocated
  ofKind : n.kind = kind
  filter : n.filter = kind.initial
  staged : n.staged.get? = text

namespace Graph

variable {σ : Type} [Filter σ] {g start : Graph σ} {n : Node σ} {id : NodeId} {kind : Kind σ}

omit [Filter σ] in
theorem index_ne_of_find {other : NodeId} {k : Node σ} (found : g.find id = .ok n)
    (found' : g.find other = .ok k) (apart : other ≠ id) : other.index ≠ id.index := by
  intro same
  have own := (find_eq_ok_iff.1 found).1
  have own' := (find_eq_ok_iff.1 found').1
  obtain ⟨graph, index⟩ := id
  obtain ⟨graph', index'⟩ := other
  exact apart (NodeId.mk.injEq .. ▸ ⟨own'.trans own.symm, same⟩)

omit [Filter σ] in
theorem nodes_setNode_elsewhere {other : NodeId} {k m : Node σ} (found : g.find id = .ok n)
    (found' : g.find other = .ok k) (apart : other ≠ id) :
    (g.setNode other.index m).nodes[id.index]? = some n := by
  obtain ⟨_, there, _⟩ := find_eq_ok_iff.1 found
  obtain ⟨_, there', _⟩ := find_eq_ok_iff.1 found'
  rw [nodes_setNode there', if_neg (index_ne_of_find found found' apart), there]

/-- A node that waits is changed by nothing but its options until it is set up or discarded. -/
theorem Reachable.nodes_after (reachable : g.Reachable) (found : g.find id = .ok n)
    (fresh : n.life = .allocated) {call : Call} (kept : call ≠ .setUp id ∧ call ≠ .discard id) :
    (g.after call).nodes[id.index]? = some { n with staged := call.stage id n.staged } := by
  obtain ⟨own, there, live⟩ := find_eq_ok_iff.1 found
  have assembled := reachable.assembled_or_ran.resolve_right fun ran => ran.life_ne there live fresh
  have off := assembled.unconfigured
  cases call with
  | allocate kind =>
    refine orSame_induction (P := fun h => h.nodes[id.index]? = some n) there ?_
    rintro ⟨_, h⟩ ok
    obtain ⟨_, k, rfl⟩ := allocate_eq_ok ok
    have inside := (Array.getElem?_eq_some_iff.1 there).1
    simpa [Array.getElem?_push, Nat.ne_of_lt inside] using there
  | setOption other key text =>
    by_cases here : other = id
    · subst here
      have set : n.setOption key text = .ok { n with staged := n.staged.put key text } :=
        Node.setOption_eq_ok_iff.2 ⟨fresh, rfl⟩
      have granted := setOption_eq_ok_iff.2 ⟨n, _, found, set, rfl⟩
      simp only [Graph.after, granted, orSame, nodes_setNode there, Call.stage, if_true]
    · simp only [Call.stage, if_neg here]
      refine orSame_induction (P := fun h => h.nodes[id.index]? = some n) there fun h ok => ?_
      obtain ⟨k, m, found', _, rfl⟩ := setOption_eq_ok_iff.1 ok
      exact nodes_setNode_elsewhere found found' here
  | setUp other =>
    have apart : other ≠ id := fun same => kept.1 (same ▸ rfl)
    show (g.initializeNode other).1.nodes[id.index]? = some n
    obtain ⟨_, _, same⟩ | ⟨k, found', ⟨_, same⟩ | ⟨_, ⟨m, _, made⟩ | ⟨_, _, made⟩⟩⟩ :=
      g.initializeNode_cases other
    · rw [same, there]
    · rw [same, there]
    · rw [made, nodes_setNode_elsewhere found found' apart]
    · rw [made, nodes_setNode_elsewhere found found' apart]
  | discard other =>
    have apart : other ≠ id := fun same => kept.2 (same ▸ rfl)
    refine orSame_induction (P := fun h => h.nodes[id.index]? = some n) there fun h ok => ?_
    obtain ⟨_, k, m, found', _, rfl⟩ := discard_eq_ok_iff.1 ok
    exact nodes_setNode_elsewhere found found' apart
  | link source output target input =>
    refine orSame_induction (P := fun h => h.nodes[id.index]? = some n) there ?_
    rintro ⟨_, h⟩ ok
    obtain ⟨_, k, at_source, k', at_target, checked, _, rfl⟩ := link_eq_ok_iff.1 ok
    obtain ⟨ready, ready', _⟩ := checkLink_eq_ok_iff.1 checked
    have apart : ∀ {other : NodeId} {k : Node σ}, g.find other = .ok k → k.life = .initialized →
        other.index ≠ id.index := by
      intro other k found' ready same
      obtain rfl := Option.some.inj ((same ▸ (find_eq_ok_iff.1 found').2.1).symm.trans there)
      simp [fresh] at ready
    simp only [joined, nodes_attach, there, Option.map_some, if_neg (apart at_source ready),
      if_neg (apart at_target ready')]
  | configure =>
    refine orSame_induction (P := fun h => h.nodes[id.index]? = some n) there fun h ok => ?_
    obtain ⟨_, nodes, _⟩ := configures_of_configure assembled ok
    rw [nodes, there]
  | request r => exact (after_eq_of_unconfigured off (.request r) rfl).symm ▸ there
  | drain other => exact (after_eq_of_unconfigured off (.drain other) rfl).symm ▸ there

theorem Reachable.waits_after {calls : List Call} {call : Call} (reachable : g.Reachable)
    (found : g.find id = .ok n) (waits : n.Waits kind (lastText id calls))
    (kept : call ≠ .setUp id ∧ call ≠ .discard id) :
    ∃ m, (g.after call).find id = .ok m ∧ m.Waits kind (lastText id (calls ++ [call])) := by
  have own := (find_eq_ok_iff.1 found).1.trans (reachable.extends_after call).id.symm
  have there := reachable.nodes_after found waits.life kept
  refine ⟨_, find_of_live own there (by simp [waits.life]), waits.life, waits.ofKind, waits.filter, ?_⟩
  funext name
  rw [get?_stage, waits.staged, lastText_concat]

/-- The texts of a new node are those that it was given last, however many calls came in between. -/
theorem Reachable.waits_of_calls (reachable : start.Reachable) (found : start.find id = .ok (.ofKind kind))
    {calls : List Call} (kept : ∀ call ∈ calls, call ≠ .setUp id ∧ call ≠ .discard id) :
    ∃ n, (calls.foldl after start).find id = .ok n ∧ n.Waits kind (lastText id calls) := by
  induction calls using List.reverseRecOn with
  | nil => exact ⟨_, found, rfl, rfl, rfl, rfl⟩
  | append_singleton calls call ih =>
    obtain ⟨n, found', waits⟩ := ih fun call member => kept call (List.mem_append_left _ member)
    rw [List.foldl_concat]
    exact (reachable.calls calls).waits_after found' waits (kept call (by simp))

/-- What comes of setting up a node at which texts wait. -/
structure SetsUpWith (g : Graph σ) (id : NodeId) (n : Node σ) (text : String → Option String) : Prop where
  resolves : (∃ values, n.kind.options.resolve n.staged = .ok values) ↔ n.kind.options.Accepts text
  succeeds : (g.initializeNode id).2 = .ok () ↔ ∃ values, n.kind.options.resolve n.staged = .ok values ∧
    ∃ filter, Filter.setUp n.kind.initial values = .ok filter
  applied : ∃ m, (g.initializeNode id).1.find id = .ok m ∧ m.staged = .empty ∧
    ((g.initializeNode id).2 = .ok () ∧ m.life = .initialized ∧ n.kind.options.Assigns text m.applied ∨
      (g.initializeNode id).2 ≠ .ok () ∧ m.life = .failed)

theorem initializeNode_of_fresh (found : g.find id = .ok n) (fresh : n.life = .allocated) :
    (∃ m, n.apply = .ok m ∧ g.initializeNode id = (g.setNode id.index m, .ok ())) ∨
      ∃ fault, n.apply = .error fault ∧ g.initializeNode id =
        (g.setNode id.index n.fail, .error (.initialization id n.kind.name fault)) := by
  obtain ⟨_, unknown, _⟩ | ⟨_, found', rest⟩ := g.initializeNode_cases id
  · cases found.symm.trans unknown
  · obtain rfl := Except.ok.inj (found.symm.trans found')
    exact (rest.resolve_left fun older => older.1 fresh).2

omit [Filter σ] in
theorem find_setNode {m : Node σ} (found : g.find id = .ok n) (kept : m.life ≠ .discarded) :
    (g.setNode id.index m).find id = .ok m := by
  obtain ⟨own, there, _⟩ := find_eq_ok_iff.1 found
  exact find_of_live own ((nodes_setNode there _).trans (if_pos rfl)) kept

theorem setsUpWith_of_waits {text : String → Option String} (found : g.find id = .ok n)
    (waits : n.Waits kind text) (distinct : (kind.options.map Definition.name).Nodup) :
    g.SetsUpWith id n text := by
  have initial : n.filter = n.kind.initial := waits.ofKind ▸ waits.filter
  rw [← waits.ofKind] at distinct
  have resolves : (∃ values, n.kind.options.resolve n.staged = .ok values) ↔
      n.kind.options.Accepts n.staged.get? := Setting.Schema.exists_resolve_iff distinct
  rw [waits.staged] at resolves
  have applies : (∃ m, n.apply = .ok m) ↔ ∃ values, n.kind.options.resolve n.staged = .ok values ∧
      ∃ filter, Filter.setUp n.kind.initial values = .ok filter := by
    rw [← initial]
    constructor
    · rintro ⟨m, applied⟩
      obtain ⟨values, resolved, filter, set, _⟩ := Node.apply_eq_ok_iff.1 applied
      exact ⟨values, resolved, filter, set⟩
    · rintro ⟨values, resolved, filter, set⟩
      exact ⟨_, Node.apply_eq_ok_iff.2 ⟨values, resolved, filter, set, rfl⟩⟩
  refine ⟨resolves, ?_, ?_⟩
  · rw [← applies]
    obtain ⟨m, applied, made⟩ | ⟨fault, refused, made⟩ := initializeNode_of_fresh found waits.life
    · simp [made, applied]
    · simp [made, refused]
  · obtain ⟨m, applied, made⟩ | ⟨fault, _, made⟩ := initializeNode_of_fresh found waits.life
    · obtain ⟨values, resolved, filter, _, rfl⟩ := Node.apply_eq_ok_iff.1 applied
      have assigns := Setting.Schema.assigns_of_resolve distinct resolved
      rw [waits.staged] at assigns
      rw [made]
      exact ⟨_, find_setNode found (by simp), rfl, .inl ⟨rfl, rfl, assigns⟩⟩
    · rw [made]
      exact ⟨_, find_setNode found (by simp [Node.fail]), rfl, .inr ⟨by simp, rfl⟩⟩

/-- A graph with a split that is still to be set up. -/
def splitAllocated : Graph BuiltIn := blank.after (.allocate "asplit")

/-- Calls that name the outputs of the split twice, the first time by a text that is no number, and use
another node in between. -/
def splitCalls : List Call :=
  [.setOption ⟨⟨0⟩, 0⟩ "outputs" "many", .allocate "anull", .setUp ⟨⟨0⟩, 1⟩,
    .setOption ⟨⟨0⟩, 0⟩ "outputs" " +16 "]

end Graph
end FrameFlow
