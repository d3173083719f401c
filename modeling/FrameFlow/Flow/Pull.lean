import FrameFlow.Flow.Push
import FrameFlow.Flow.Step
import FrameFlow.Graph.Walk

/-! Frames leave a configured graph at its sinks. A pull runs the scheduler until the sink has a
frame, has ended, or no node has work. Every step lowers the load of the schedule at the place
of the node that works, and raises it at later places only. -/
namespace FrameFlow.Graph

variable {σ : Type}

/-- The nodes that feed the inputs of a node, the last input first. -/
def feeders (g : Graph σ) (i : Nat) : List Nat :=
  match g.nodes[i]? with
  | none => []
  | some n => (n.inputs.reverse.filterMap Inlet.link).filterMap fun l =>
      g.links[l]?.map fun l => l.source.node

def hasFailed (g : Graph σ) (i : Nat) : Bool :=
  match g.nodes[i]? with
  | some n => n.life == .failed
  | none => false

/-- The first failed node among a node and everything that feeds it. -/
def failedFeeder (g : Graph σ) (i : Nat) : Option Nat :=
  (reachedFrom g.feeders g.nodes.size i).find? g.hasFailed

variable [Filter σ]

/-- Asks a sink for a frame and takes over the state in which that leaves it. -/
def askSink (g : Graph σ) (i : Nat) (n : Node σ) : Graph σ × Except Fault Offer :=
  let (filter, offer) := Filter.take n.filter
  let exhausted := n.exhausted || offer matches .ok .ended
  (g.setNode i { n with filter, hasSlot := true, exhausted }, offer)

theorem schedule_askSink {g asked : Graph σ} {i : Nat} {n : Node σ} {offer : Except Fault Offer}
    (h : g.askSink i n = (asked, offer)) : asked.schedule = g.schedule := by
  exact (congrArg (fun p => p.1.schedule) h).symm

/-- Asks a sink and runs the scheduler in turn, until there is an answer. -/
def pullFrom (g : Graph σ) (i : Nat) : Graph σ × Except GraphError (Option Frame) :=
  match g.nodes[i]? with
  | none => (g, .ok none)
  | some n =>
    match _asking : g.askSink i n with
    | (asked, .error fault) => (asked, .error (.pull (g.handle i) fault))
    | (asked, .ok (.ready frame)) =>
      ({ asked with stats := { asked.stats with pulled := asked.stats.pulled + 1 } },
        .ok (some frame))
    | (asked, .ok .ended) => (asked, .ok none)
    | (asked, .ok .again) =>
      match _stepping : asked.step with
      | none => (asked, .ok none)
      | some (after, .error e) => (after, .error e)
      | some (after, .ok ()) =>
        if _lower : after.hasLowered g then after.pullFrom i else (after, .ok none)
termination_by Load.Measure.mk g.load
decreasing_by
  exact less_of_hasLowered ((schedule_step _stepping).trans (schedule_askSink _asking)) _lower

/-- Pulls the next frame out of a sink; none where more input is needed or the stream is over. -/
def pull (g : Graph σ) (id : NodeId) : Graph σ × Except GraphError (Option Frame) :=
  match g.running id .sink with
  | .error e => (g, .error e)
  | .ok _ =>
    match g.failedFeeder id.index with
    | some i => (g, .error (.invalidOperation id (.failedFeeder (g.handle i))))
    | none => g.pullFrom id.index

/-- The frames that a sink holds. -/
def heldAt (g : Graph σ) (i : Nat) : Nat := (g.nodes[i]?.map fun n => Filter.held n.filter).getD 0

/-- The load of the schedule, and then the frames that a sink holds. -/
def sinkLoad (g : Graph σ) (i : Nat) : List Nat := g.load ++ [g.heldAt i]

/-- Asking a sink leaves all work where it is. -/
theorem load_askSink {g asked : Graph σ} {i : Nat} {n : Node σ} {offer : Except Fault Offer}
    (there : g.nodes[i]? = some n) (h : g.askSink i n = (asked, offer)) : asked.load = g.load := by
  obtain ⟨rfl, _⟩ := Prod.mk.inj h
  refine List.map_congr_left fun j _ => ?_
  simp only [pendingAt, setNode, Array.getElem?_setIfInBounds]
  split
  · next same =>
    subst same
    split
    · simp only [there, Option.map_some, Option.getD_some]
      rfl
    · next outside => simp [Array.getElem?_eq_none (Nat.le_of_not_lt outside)]
  · rfl

/-- A sink that hands out a frame holds fewer than before. -/
theorem heldAt_askSink {g asked : Graph σ} {i : Nat} {n : Node σ} {frame : Frame}
    (there : g.nodes[i]? = some n) (h : g.askSink i n = (asked, .ok (.ready frame))) :
    asked.heldAt i < g.heldAt i := by
  obtain ⟨rfl, ready⟩ := Prod.mk.inj h
  have inside : i < g.nodes.size := (Array.getElem?_eq_some_iff.1 there).1
  simp only [heldAt, setNode, Array.getElem?_setIfInBounds_self_of_lt inside, there,
    Option.map_some, Option.getD_some]
  exact Filter.held_take (Prod.ext rfl ready)

theorem sinkLoad_pullFrom {g after : Graph σ} {i : Nat} {frame : Frame}
    (h : g.pullFrom i = (after, .ok (some frame))) :
    Load.Less (after.sinkLoad i) (g.sinkLoad i) := by
  fun_induction pullFrom g i with
  | case1 => simp at h
  | case2 => simp at h
  | case3 g n there asked frame' asking =>
    obtain ⟨rfl, _⟩ := Prod.mk.inj h
    show Load.Less (asked.load ++ [asked.heldAt i]) (g.load ++ [g.heldAt i])
    rw [load_askSink there asking]
    exact Load.append_of_lt _ (heldAt_askSink there asking)
  | case4 => simp at h
  | case5 => simp at h
  | case6 => simp at h
  | case7 g n there asked asking between stepping lower ih =>
    have same := (schedule_step stepping).trans (schedule_askSink asking)
    exact Load.trans (ih h) (Load.append_of_less (less_of_hasLowered same lower) _ _)
  | case8 => simp at h

theorem sinkLoad_pull {g after : Graph σ} {id : NodeId} {frame : Frame}
    (h : g.pull id = (after, .ok (some frame))) :
    Load.Less (after.sinkLoad id.index) (g.sinkLoad id.index) := by
  unfold pull at h
  split at h
  · simp at h
  · split at h
    · simp at h
    · exact sinkLoad_pullFrom h

/-- Pulls until there is no frame. The frames go to those that came out before, the newest
first. -/
def drainOnto (frames : List Frame) (g : Graph σ) (id : NodeId) :
    Graph σ × Except GraphError (List Frame) :=
  match _pulling : g.pull id with
  | (after, .error e) => (after, .error e)
  | (after, .ok none) => (after, .ok frames)
  | (after, .ok (some frame)) => drainOnto (frame :: frames) after id
termination_by Load.Measure.mk (g.sinkLoad id.index)
decreasing_by exact sinkLoad_pull _pulling

/-- Pulls until there is no frame and collects the frames, oldest first. -/
def drain (g : Graph σ) (id : NodeId) : Graph σ × Except GraphError (List Frame) :=
  let (after, frames) := drainOnto [] g id
  (after, frames.map List.reverse)

/-- Whether a sink has handed out its last frame. -/
def isExhausted (g : Graph σ) (id : NodeId) : Except GraphError Bool :=
  (g.running id .sink).map Node.exhausted

end FrameFlow.Graph
