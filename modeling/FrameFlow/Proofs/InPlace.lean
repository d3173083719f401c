import FrameFlow.Proofs.Graph.Lifecycle

/-! The operations as programs that write to a graph as they go. What such a program has written stays
also where it is given up. Each of them makes of a graph what the operation makes of it. -/
namespace FrameFlow

variable {σ α β : Type}

/-- Programs that read and write a graph and may be given up. -/
abbrev InPlace (σ : Type) := ExceptT GraphError (StateM (Graph σ))

namespace InPlace

/-- The outcome of a program, and the graph that it leaves. -/
def on (p : InPlace σ α) (g : Graph σ) : Except GraphError α × Graph σ := p.run.run g

theorem on_get_bind (next : Graph σ → InPlace σ β) (g : Graph σ) :
    (get >>= next).on g = (next g).on g := rfl

theorem on_modify_bind (f : Graph σ → Graph σ) (next : Unit → InPlace σ β) (g : Graph σ) :
    (modify f >>= next).on g = (next ()).on (f g) := rfl

/-- What follows a program goes on from the graph that it leaves. -/
theorem on_bind (p : InPlace σ α) (next : α → InPlace σ β) (g : Graph σ) :
    (p >>= next).on g = match p.on g with
      | (.ok a, h) => (next a).on h
      | (.error e, h) => (.error e, h) := by
  show StateT.run (ExceptT.bindCont next (p.on g).1) (p.on g).2 = _
  rcases p.on g with ⟨_ | a, h⟩ <;> rfl

/-- A program without its result. -/
def quiet (p : InPlace σ α) : InPlace σ Unit := do
  let _ ← p

theorem on_quiet (p : InPlace σ α) (g : Graph σ) :
    (quiet p).on g = ((p.on g).1.map fun _ => (), (p.on g).2) := by
  unfold quiet
  rw [on_bind]
  rcases p.on g with ⟨_ | a, h⟩ <;> rfl

/-- What a check says of the graph. It writes nothing. -/
def check (f : Graph σ → Except GraphError α) : InPlace σ α := do
  match f (← get) with
  | .ok a => pure a
  | .error e => throw e

/-- Writes to one node. -/
def change (i : Nat) (f : Node σ → Node σ) : InPlace σ Unit :=
  modify fun g => { g with nodes := g.nodes.modify i f }

def allocate (kind : String) : InPlace σ NodeId := do
  let g ← get
  if g.configured then throw .alreadyConfigured
  match g.registry.get? kind with
  | none => throw (.unknownKind kind)
  | some k =>
    modify fun g => { g with nodes := g.nodes.push (.ofKind k) }
    pure (g.handle g.nodes.size)

def setOption (id : NodeId) (key value : String) : InPlace σ Unit := do
  let n ← check (·.find id)
  if n.life ≠ .allocated then throw (.invalidOperation id (.setOption n.life))
  change id.index fun n => { n with staged := n.staged.put key value }

/-- The staged options are taken before it is known whether the filter accepts them. -/
def setUp [Filter σ] (id : NodeId) : InPlace σ Unit := do
  let n ← check (·.find id)
  if n.life ≠ .allocated then throw (.invalidOperation id (.initialization n.life))
  change id.index fun n => { n with staged := .empty }
  let read := do
    let values ← n.kind.options.resolve n.staged
    pure (values, ← Filter.setUp n.filter values)
  match read with
  | .ok (values, filter) =>
    change id.index fun n => { n with filter }
    change id.index fun n => { n with inputs := (Filter.inputs filter).map .unlinked }
    change id.index fun n => { n with outputs := (Filter.outputs filter).map .unlinked }
    change id.index fun n => { n with applied := values }
    change id.index fun n => { n with life := .initialized }
  | .error fault =>
    change id.index fun n => { n with life := .failed }
    throw (.initialization id n.kind.name fault)

def discard (id : NodeId) : InPlace σ Unit := do
  if (← get).configured then throw .alreadyConfigured
  let n ← check (·.find id)
  if n.life = .initialized ∨ n.life = .discarded then
    throw (.invalidOperation id (.discard n.life))
  change id.index fun n => { n with life := .discarded }
  change id.index fun n => { n with staged := .empty, applied := .empty }
  change id.index fun n => { n with inputs := [], outputs := [] }
  change id.index fun n => { n with feed := .empty, hasSlot := false }

def link (sourceId : NodeId) (output : Nat) (targetId : NodeId) (input : Nat) :
    InPlace σ Nat := do
  if (← get).configured then throw .alreadyConfigured
  let source ← check (·.find sourceId)
  let target ← check (·.find targetId)
  check fun _ => (Graph.checkLink source target sourceId output targetId input).mapError .link
  let number := (← get).links.size
  modify fun g => { g with links := g.links.push ⟨⟨sourceId.index, output⟩, ⟨targetId.index, input⟩, none⟩ }
  change sourceId.index fun n => n.noteLink .output output number
  change targetId.index fun n => n.noteLink .input input number
  pure number

def configure [Filter σ] : InPlace σ Unit := do
  if (← get).configured then throw .alreadyConfigured
  let plan ← check fun g => (g.plan Stage.all).mapError .configuration
  modify fun g => { g with
    links := g.links.zipWith (fun l f => { l with format := some f }) plan.formats.toArray }
  modify fun g => { g with schedule := plan.order }
  modify fun g => { g with configured := true }

def push (id : NodeId) (frame : Option Frame) : InPlace σ Unit := do
  let n ← check (·.running id .source)
  if n.feedEnded then throw (.push id .ended)
  match frame with
  | none => change id.index fun n => { n with feedEnded := true }
  | some frame =>
    check fun g => (g.checkFeed n frame).mapError (.push id)
    change id.index fun n => { n with feed := n.feed.push frame }
    modify fun g => { g with stats := { g.stats with pushed := g.stats.pushed + 1 } }

/-- One step, or false where no node has work. The work is taken from its node before the filter is
called, and the call has filled its tray before it is known whether it failed. -/
def step [Filter σ] : InPlace σ Bool := do
  let g ← get
  match g.nextToWork with
  | none => pure false
  | some (i, n) =>
    if n.life = .failed then throw (.invalidOperation (g.handle i) .failedEarlier)
    else match n.takeWork with
      | none => pure false
      | some (work, rest) =>
        change i fun _ => rest
        let turn := rest.invoke work (.start rest.closedOutputs)
        change i fun n => { n with filter := turn.state }
        modify (·.countStep 0)
        match turn.fault with
        | some fault =>
          change i fun n => { n with life := .failed }
          throw (.pull (g.handle i) fault)
        | none =>
          let dropped := Graph.droppedCount rest.outputs turn.tray.frames.toList
          modify fun g => { g with stats := { g.stats with dropped := g.stats.dropped + dropped } }
          change i (·.closeOutputs turn.tray.closed)
          modify (·.route rest.outputs turn.tray)
          pure true

variable {g h : Graph σ} {i : Nat} {n : Node σ}

theorem on_check_bind (f : Graph σ → Except GraphError α) (next : α → InPlace σ β)
    (g : Graph σ) : (check f >>= next).on g = match f g with
      | .ok a => (next a).on g
      | .error e => (.error e, g) := by
  rw [on_bind]
  unfold check
  rw [on_get_bind]
  cases f g <;> rfl

theorem modify_eq_setNode (there : g.nodes[i]? = some n) (f : Node σ → Node σ) :
    { g with nodes := g.nodes.modify i f } = g.setNode i (f n) := by
  unfold Graph.setNode
  congr 1
  apply Array.ext_getElem?
  intro j
  rw [Array.getElem?_modify, Array.getElem?_setIfInBounds]
  split
  · next here =>
    obtain ⟨inside, _⟩ := Array.getElem?_eq_some_iff.1 there
    rw [← here, there, if_pos inside]
    rfl
  · rfl

theorem on_change (there : g.nodes[i]? = some n) (f : Node σ → Node σ) :
    (change i f).on g = (.ok (), g.setNode i (f n)) :=
  congrArg (Prod.mk _) (modify_eq_setNode there f)

theorem on_change_bind (there : g.nodes[i]? = some n) (f : Node σ → Node σ)
    (next : Unit → InPlace σ β) :
    (change i f >>= next).on g = (next ()).on (g.setNode i (f n)) :=
  congrArg (next ()).on (modify_eq_setNode there f)

theorem modify_setNode (g : Graph σ) (i : Nat) (m : Node σ) (f : Node σ → Node σ) :
    { g.setNode i m with nodes := (g.setNode i m).nodes.modify i f } = g.setNode i (f m) := by
  have nodes : (g.nodes.setIfInBounds i m).modify i f = g.nodes.setIfInBounds i (f m) := by
    apply Array.ext_getElem?
    intro j
    simp only [Array.getElem?_modify, Array.getElem?_setIfInBounds]
    split
    · split <;> rfl
    · rfl
  exact congrArg (fun nodes => { g with nodes }) nodes

/-- A node that was written to is written to again. -/
theorem on_change_setNode (g : Graph σ) (i : Nat) (m : Node σ) (f : Node σ → Node σ) :
    (change i f).on (g.setNode i m) = (.ok (), g.setNode i (f m)) :=
  congrArg (Prod.mk _) (modify_setNode g i m f)

theorem on_change_setNode_bind (g : Graph σ) (i : Nat) (m : Node σ) (f : Node σ → Node σ)
    (next : Unit → InPlace σ β) :
    (change i f >>= next).on (g.setNode i m) = (next ()).on (g.setNode i (f m)) :=
  congrArg (next ()).on (modify_setNode g i m f)

/-- What a caller has after an operation that gives a new graph or is refused. -/
def settle (g : Graph σ) : Except GraphError (α × Graph σ) → Except GraphError α × Graph σ
  | .ok (a, h) => (.ok a, h)
  | .error e => (.error e, g)

theorem on_allocate (g : Graph σ) (kind : String) :
    (allocate kind).on g = settle g (g.allocate kind) := by
  unfold allocate Graph.allocate
  rw [on_get_bind]
  by_cases configured : g.configured
  · rw [if_pos configured, if_pos configured]
    rfl
  · rw [if_neg configured, if_neg configured]
    cases g.registry.get? kind with
    | none => rfl
    | some k => rfl

theorem on_setOption (g : Graph σ) (id : NodeId) (key value : String) :
    (setOption id key value).on g = settle g ((g.setOption id key value).map ((), ·)) := by
  unfold setOption Graph.setOption
  rw [on_check_bind]
  cases found : g.find id with
  | error e => rfl
  | ok n =>
    obtain ⟨_, there, _⟩ := Graph.find_eq_ok_iff.1 found
    by_cases fresh : n.life = .allocated
    · have set : n.setOption key value = .ok { n with staged := n.staged.put key value } :=
        if_pos fresh
      simp only [ok_bind, set, if_neg (not_not.2 fresh)]
      exact on_change there _
    · have refused : n.setOption key value = .error (.setOption n.life) := if_neg fresh
      simp only [ok_bind, refused, if_pos fresh]
      rfl

theorem on_discard (g : Graph σ) (id : NodeId) :
    (discard id).on g = settle g ((g.discard id).map ((), ·)) := by
  unfold discard Graph.discard
  rw [on_get_bind]
  by_cases configured : g.configured
  · simp only [if_pos configured]
    rfl
  · simp only [if_neg configured, on_check_bind]
    cases found : g.find id with
    | error e => rfl
    | ok n =>
      obtain ⟨_, there, _⟩ := Graph.find_eq_ok_iff.1 found
      by_cases kept : n.life = .initialized ∨ n.life = .discarded
      · have refused : n.discard = .error (.discard n.life) := by
          unfold Node.discard
          rcases kept with life | life <;> rw [life]
        simp only [ok_bind, refused, if_pos kept]
        rfl
      · have gone : n.discard = .ok { n with
            life := .discarded, staged := .empty, applied := .empty, inputs := [], outputs := [],
            feed := .empty, hasSlot := false } := by
          unfold Node.discard
          cases life : n.life <;> simp_all
        simp only [ok_bind, gone, if_neg kept, on_change_bind there, on_change_setNode_bind,
          on_change_setNode]
        rfl

theorem on_link (g : Graph σ) (sourceId : NodeId) (output : Nat) (targetId : NodeId) (input : Nat) :
    (link sourceId output targetId input).on g =
      settle g (g.link sourceId output targetId input) := by
  unfold link Graph.link
  rw [on_get_bind]
  by_cases configured : g.configured
  · simp only [if_pos configured]
    rfl
  · simp only [if_neg configured, on_check_bind]
    cases g.find sourceId with
    | error e => rfl
    | ok source =>
      simp only [ok_bind]
      cases g.find targetId with
      | error e => rfl
      | ok target =>
        simp only [ok_bind]
        cases Graph.checkLink source target sourceId output targetId input with
        | error e => rfl
        | ok _ => rfl

theorem on_configure [Filter σ] (g : Graph σ) :
    (configure : InPlace σ Unit).on g = settle g (g.configure.map ((), ·)) := by
  unfold configure Graph.configure
  rw [on_get_bind]
  by_cases configured : g.configured
  · simp only [if_pos configured]
    rfl
  · simp only [if_neg configured, on_check_bind]
    cases g.plan Stage.all with
    | error report => rfl
    | ok plan => rfl

theorem on_push (g : Graph σ) (id : NodeId) (frame : Option Frame) :
    (push id frame).on g = settle g ((g.push id frame).map ((), ·)) := by
  unfold push Graph.push
  rw [on_check_bind]
  cases source : g.running id .source with
  | error e => rfl
  | ok n =>
    obtain ⟨_, _, there, _⟩ := Graph.running_eq_ok_iff.1 source
    simp only [ok_bind]
    by_cases ended : n.feedEnded
    · simp only [if_pos ended]
      rfl
    · simp only [if_neg ended]
      cases frame with
      | none => exact on_change there _
      | some frame =>
        simp only [on_check_bind]
        cases g.checkFeed n frame with
        | error refusal => rfl
        | ok _ =>
          rw [on_change_bind there]
          rfl

theorem on_setUp [Filter σ] (g : Graph σ) (id : NodeId) :
    (setUp id).on g = ((g.initializeNode id).2, (g.initializeNode id).1) := by
  unfold setUp Graph.initializeNode
  rw [on_check_bind]
  cases found : g.find id with
  | error e => rfl
  | ok n =>
    obtain ⟨_, there, _⟩ := Graph.find_eq_ok_iff.1 found
    by_cases fresh : n.life = .allocated
    · simp only [if_neg (not_not.2 fresh), if_pos fresh, on_change_bind there, Node.apply]
      cases n.kind.options.resolve n.staged with
      | error fault => exact on_change_setNode_bind ..
      | ok values =>
        simp only [ok_bind]
        cases Filter.setUp n.filter values with
        | error fault => exact on_change_setNode_bind ..
        | ok filter =>
          simp only [ok_bind, pure, Except.pure, on_change_setNode_bind, on_change_setNode]
    · simp only [if_pos fresh, if_neg fresh]
      rfl

theorem on_step [Filter σ] (g : Graph σ) : (step : InPlace σ Bool).on g = match g.step with
    | none => (.ok false, g)
    | some (h, .ok ()) => (.ok true, h)
    | some (h, .error e) => (.error e, h) := by
  unfold step Graph.step
  rw [on_get_bind]
  cases next : g.nextToWork with
  | none => rfl
  | some first =>
    obtain ⟨i, n⟩ := first
    obtain ⟨_, there⟩ := Graph.nextToWork_eq_some_iff.1 next
    by_cases failed : n.life = .failed
    · simp only [if_pos failed]
      rfl
    · simp only [if_neg failed]
      cases n.takeWork with
      | none => rfl
      | some taken =>
        obtain ⟨work, rest⟩ := taken
        simp only [on_change_bind there, on_change_setNode_bind, on_modify_bind]
        unfold Graph.handleWork
        dsimp only
        cases fault : (rest.invoke work (.start rest.closedOutputs)).fault with
        | some fault =>
          simp only
          exact on_change_setNode_bind (g.countStep 0) ..
        | none =>
          simp only [on_modify_bind]
          exact on_change_setNode_bind (g.countStep _) ..

/-- A pull gives a graph also where it fails. -/
def pull [Filter σ] (id : NodeId) : InPlace σ (Option Frame) :=
  ExceptT.mk (modifyGet fun g => ((g.pull id).2, (g.pull id).1))

def drain [Filter σ] (id : NodeId) : InPlace σ (List Frame) :=
  ExceptT.mk (modifyGet fun g => ((g.drain id).2, (g.drain id).1))

/-- Carries out a call. -/
def perform [Filter σ] : Call → InPlace σ Unit
  | .allocate kind => quiet (allocate kind)
  | .setOption id key value => setOption id key value
  | .setUp id => setUp id
  | .discard id => discard id
  | .link source output target input => quiet (link source output target input)
  | .configure => configure
  | .request (.push id frame) => push id frame
  | .request (.pull id) => quiet (pull id)
  | .drain id => quiet (drain id)

end InPlace

/-- Whether a call is granted, or the error that it is refused with. -/
def Graph.verdict [Filter σ] (g : Graph σ) : Call → Except GraphError Unit
  | .allocate kind => (g.allocate kind).map fun _ => ()
  | .setOption id key value => (g.setOption id key value).map fun _ => ()
  | .setUp id => (g.initializeNode id).2
  | .discard id => (g.discard id).map fun _ => ()
  | .link source output target input => (g.link source output target input).map fun _ => ()
  | .configure => g.configure.map fun _ => ()
  | .request (.push id frame) => (g.push id frame).map fun _ => ()
  | .request (.pull id) => (g.pull id).2.map fun _ => ()
  | .drain id => (g.drain id).2.map fun _ => ()

theorem Graph.after_push [Filter σ] (g : Graph σ) (id : NodeId) (frame : Option Frame) :
    g.after (.request (.push id frame)) = g.orSame (g.push id frame) fun h => h := by
  cases frame with
  | none =>
    simp only [after, serve]
    cases g.push id none <;> rfl
  | some frame =>
    simp only [after, serve]
    cases g.push id (some frame) <;> rfl

namespace InPlace

theorem settle_map (g : Graph σ) (outcome : Except GraphError (Graph σ)) :
    settle g (outcome.map ((), ·)) = (outcome.map fun _ => (), g.orSame outcome fun h => h) := by
  cases outcome <;> rfl

theorem on_quiet_of_settle {p : InPlace σ α} {outcome : Except GraphError (α × Graph σ)}
    (settled : p.on g = settle g outcome) :
    (quiet p).on g = (outcome.map fun _ => (), g.orSame outcome Prod.snd) := by
  rw [on_quiet, settled]
  cases outcome <;> rfl

/-- Each program is granted or refused as the call is, and leaves the graph that the call leaves. -/
theorem on_perform [Filter σ] (g : Graph σ) (call : Call) :
    (perform call).on g = (g.verdict call, g.after call) := by
  cases call with
  | allocate kind => exact on_quiet_of_settle (on_allocate g kind)
  | setOption id key value => exact (on_setOption g id key value).trans (settle_map ..)
  | setUp id => exact on_setUp g id
  | discard id => exact (on_discard g id).trans (settle_map ..)
  | link source output target input =>
    exact on_quiet_of_settle (on_link g source output target input)
  | configure => exact (on_configure g).trans (settle_map ..)
  | request r =>
    cases r with
    | push id frame =>
      rw [Graph.after_push]
      exact (on_push g id frame).trans (settle_map ..)
    | pull id => exact on_quiet (pull id) g
  | drain id => exact on_quiet (drain id) g

end InPlace

/-- The calls that are carried out as a whole or not at all. -/
def Call.isAtomic : Call → Bool
  | .setUp _ | .request (.pull _) | .drain _ => false
  | _ => true

namespace Graph

theorem orSame_of_error {g : Graph σ} {outcome : Except GraphError α} {view : α → Graph σ}
    {e : GraphError} (refused : (outcome.map fun _ => ()) = .error e) :
    g.orSame outcome view = g := by
  cases outcome with
  | ok a => simp [Except.map] at refused
  | error e' => rfl

/-- A call of these kinds that is refused leaves the graph as it was. -/
theorem after_of_error [Filter σ] {g : Graph σ} {call : Call} {e : GraphError}
    (atomic : call.isAtomic) (refused : g.verdict call = .error e) : g.after call = g := by
  cases call with
  | allocate kind => exact orSame_of_error refused
  | setOption id key value => exact orSame_of_error refused
  | discard id => exact orSame_of_error refused
  | link source output target input => exact orSame_of_error refused
  | configure => exact orSame_of_error refused
  | request r =>
    cases r with
    | push id frame =>
      rw [after_push]
      exact orSame_of_error refused
    | pull id => simp [Call.isAtomic] at atomic
  | setUp id => simp [Call.isAtomic] at atomic
  | drain id => simp [Call.isAtomic] at atomic

end Graph
end FrameFlow
