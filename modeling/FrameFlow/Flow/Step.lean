import FrameFlow.Flow.Load
import FrameFlow.Flow.Work
import FrameFlow.Graph.Basic

/-! One step of the scheduler. The first node in the schedule that has work handles one unit of
it; the frames it emitted go over the links of its output pads, and then the ends of the pads
it closed. -/
namespace FrameFlow

variable {σ : Type} [Filter σ]

/-- Calls the filter of a node. A flush that goes well closes all outputs. -/
def Node.invoke (n : Node σ) (work : Work) (tray : Tray) : Turn σ :=
  match work with
  | .frame pad frame => Filter.onFrame n.filter pad frame tray
  | .endOfInput pad => Filter.onEnd n.filter pad tray
  | .flush =>
    let turn := Filter.onFlush n.filter tray
    if turn.fault.isNone then { turn with tray := turn.tray.closeAll } else turn

def Node.closedOutputs (n : Node σ) : List Bool := n.outputs.map Outlet.closed

/-- Closes outlets; a closed one stays closed. -/
def Node.closeOutputs (n : Node σ) (closed : List Bool) : Node σ :=
  { n with outputs := n.outputs.zipIdx.map fun (p, pad) =>
      { p with closed := p.closed || closed.getD pad false } }

namespace Graph

/-- Changes the inlet at the end of a link. -/
def atTarget (g : Graph σ) (link : Nat) (f : Inlet → Inlet) : Graph σ :=
  match g.links[link]? with
  | some l => { g with nodes := g.nodes.modify l.target.node fun n =>
      { n with inputs := n.inputs.modify l.target.pad f } }
  | none => g

def deliver (g : Graph σ) (link : Nat) (frame : Frame) : Graph σ :=
  g.atTarget link fun p => { p with queue := p.queue.push frame }

def endLink (g : Graph σ) (link : Nat) : Graph σ :=
  g.atTarget link fun p => { p with ended := true }

/-- The link at an outlet. -/
def outLink (outputs : List Outlet) (pad : Nat) : Option Nat := outputs[pad]?.bind Outlet.link

/-- Frames emitted on pads that were open before the call, with the links they go over. -/
def deliveries (outputs : List Outlet) (frames : List (Nat × Frame)) : List (Nat × Frame) :=
  frames.filterMap fun (pad, frame) =>
    match outputs[pad]? with
    | some p => if p.closed then none else p.link.map (·, frame)
    | none => none

/-- How many frames were emitted on pads that were closed before the call. -/
def droppedCount (outputs : List Outlet) (frames : List (Nat × Frame)) : Nat :=
  frames.countP fun (pad, _) => (outputs[pad]?.map Outlet.closed).getD false

/-- Links of the pads that a call has closed. -/
def endings (outputs : List Outlet) (closed : List Bool) : List Nat :=
  outputs.zipIdx.filterMap fun (p, pad) =>
    if !p.closed && closed.getD pad false then p.link else none

/-- Sends what a call left on its tray over the links of outlets. -/
def route (g : Graph σ) (outputs : List Outlet) (tray : Tray) : Graph σ :=
  let delivered := (deliveries outputs tray.frames.toList).foldl
    (fun g (link, frame) => g.deliver link frame) g
  (endings outputs tray.closed).foldl endLink delivered

def countStep (g : Graph σ) (dropped : Nat) : Graph σ :=
  { g with stats := { g.stats with
      steps := g.stats.steps + 1, dropped := g.stats.dropped + dropped } }

/-- Lets a node handle a unit of work that was taken from it. A call that fails leaves the node
failed, and nothing of it is routed. -/
def handleWork (g : Graph σ) (i : Nat) (n : Node σ) (work : Work) :
    Graph σ × Except GraphError Unit :=
  let turn := n.invoke work (.start n.closedOutputs)
  let after := { n with filter := turn.state }
  match turn.fault with
  | some fault =>
    ((g.setNode i { after with life := .failed }).countStep 0,
      .error (.pull (g.handle i) fault))
  | none =>
    let done := (g.setNode i (after.closeOutputs turn.tray.closed)).countStep
      (droppedCount n.outputs turn.tray.frames.toList)
    (done.route n.outputs turn.tray, .ok ())

def hasWorkAt (g : Graph σ) (i : Nat) : Bool :=
  match g.nodes[i]? with
  | some n => n.hasWork
  | none => false

/-- The first node in the schedule that has work. -/
def nextToWork (g : Graph σ) : Option (Nat × Node σ) := do
  let i ← g.schedule.find? g.hasWorkAt
  let n ← g.nodes[i]?
  some (i, n)

/-- One step, or `none` where no node has work. -/
def step (g : Graph σ) : Option (Graph σ × Except GraphError Unit) :=
  match g.nextToWork with
  | none => none
  | some (i, n) =>
    if n.life = .failed then
      some (g, .error (.invalidOperation (g.handle i) .failedEarlier))
    else match n.takeWork with
      | none => none
      | some (work, n) => some (g.handleWork i n work)

/-- The work that waits at a node. -/
def pendingAt (g : Graph σ) (i : Nat) : Nat := (g.nodes[i]?.map Node.pending).getD 0

/-- The work that waits at each place of the schedule. -/
def load (g : Graph σ) : List Nat := g.schedule.map g.pendingAt

/-- Whether as much work waits at a place as before. -/
def samePendingAt (g before : Graph σ) (i : Nat) : Bool :=
  match g.nodes[i]?, before.nodes[i]? with
  | some n, some m => n.samePending m
  | _, _ => g.pendingAt i == before.pendingAt i

/-- Whether a step has lowered the load of the schedule. -/
def hasLowered (g before : Graph σ) : Bool :=
  Load.lowers (g.samePendingAt before) (fun i => g.pendingAt i < before.pendingAt i)
    before.schedule

omit [Filter σ] in
theorem pendingAt_eq_of_samePendingAt {g before : Graph σ} {i : Nat}
    (h : g.samePendingAt before i) : g.pendingAt i = before.pendingAt i := by
  unfold samePendingAt at h
  split at h
  · next there there' => simp [pendingAt, there, there', Node.samePending_iff.1 h]
  · exact beq_iff_eq.1 h

omit [Filter σ] in
theorem less_of_hasLowered {g before : Graph σ} (same : g.schedule = before.schedule)
    (h : g.hasLowered before) : Load.Less g.load before.load := by
  rw [load, same]
  exact Load.less_of_lowers (fun _ => pendingAt_eq_of_samePendingAt)
    (fun _ lower => of_decide_eq_true lower) h

omit [Filter σ] in
@[simp] theorem schedule_atTarget (g : Graph σ) (link : Nat) (f : Inlet → Inlet) :
    (g.atTarget link f).schedule = g.schedule := by
  unfold atTarget
  split <;> rfl

omit [Filter σ] in
@[simp] theorem schedule_route (g : Graph σ) (outputs : List Outlet) (tray : Tray) :
    (g.route outputs tray).schedule = g.schedule := by
  have ends : ∀ (links : List Nat) (g : Graph σ),
      (links.foldl endLink g).schedule = g.schedule := by
    intro links
    induction links with
    | nil => exact fun _ => rfl
    | cons l rest ih =>
      intro g
      rw [List.foldl_cons, ih]
      exact schedule_atTarget g l _
  have frames : ∀ (sent : List (Nat × Frame)) (g : Graph σ),
      (sent.foldl (fun g (link, frame) => g.deliver link frame) g).schedule = g.schedule := by
    intro sent
    induction sent with
    | nil => exact fun _ => rfl
    | cons p rest ih =>
      intro g
      rw [List.foldl_cons, ih]
      exact schedule_atTarget g p.1 _
  simp only [route, ends, frames]

@[simp] theorem schedule_handleWork (g : Graph σ) (i : Nat) (n : Node σ) (work : Work) :
    (g.handleWork i n work).1.schedule = g.schedule := by
  unfold handleWork
  dsimp only
  split
  · rfl
  · rw [schedule_route]
    rfl

theorem schedule_step {g after : Graph σ} {outcome : Except GraphError Unit}
    (h : g.step = some (after, outcome)) : after.schedule = g.schedule := by
  unfold step at h
  split at h
  · simp at h
  · split at h
    · obtain ⟨rfl, _⟩ := Prod.mk.inj (Option.some.inj h)
      rfl
    · split at h
      · simp at h
      · have same := congrArg (fun p => p.1.schedule) (Option.some.inj h)
        exact same.symm.trans (schedule_handleWork ..)

end Graph
end FrameFlow
