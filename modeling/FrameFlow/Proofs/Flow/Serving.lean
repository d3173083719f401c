import FrameFlow.Proofs.Flow.Counts
import FrameFlow.Proofs.Flow.Draining

/-! Graphs that are served one request after the other. A drain is a session of pulls from one sink, a
source takes frames until its end has come, and a sink that is over stays over. -/
namespace FrameFlow.Graph

variable {σ : Type} [Filter σ] {g h k start : Graph σ} {e : Event σ} {es fs : List (Event σ)}
  {id : NodeId} {i : Nat} {n m : Node σ} {frames : List Frame}

/-- Some requests take a graph to another one and bring about these events. -/
def Serves (g : Graph σ) (es : List (Event σ)) (h : Graph σ) : Prop :=
  ∃ requests, g.serveAll requests = (h, es)

namespace Serves

theorem refl (g : Graph σ) : g.Serves [] g := ⟨[], rfl⟩

theorem single (r : Request) : g.Serves (g.serve r).2 (g.serve r).1 := ⟨[r], g.serveAll_singleton r⟩

theorem trans (first : g.Serves es h) (second : h.Serves fs k) : g.Serves (es ++ fs) k := by
  obtain ⟨requests, served⟩ := first
  obtain ⟨more, served'⟩ := second
  exact ⟨requests ++ more, by rw [serveAll_append, served, served']⟩

theorem runs (serves : g.Serves es h) : g.Runs es h := by
  obtain ⟨requests, served⟩ := serves
  have run := g.runs_serveAll requests
  rwa [served] at run

theorem push {frame : Frame} (accepted : g.push id (some frame) = .ok h) :
    g.Serves [.pushed id.index frame] h := by
  have one := Serves.single (g := g) (.push id (some frame))
  simpa only [serve, accepted] using one

theorem ended (accepted : g.push id none = .ok h) : g.Serves [.ended id.index] h := by
  have one := Serves.single (g := g) (.push id none)
  simpa only [serve, accepted] using one

end Serves

/-- Pulls from one sink, which hand out what they bring and nothing elsewhere. -/
structure Draws (id : NodeId) (g : Graph σ) (frames : List Frame) (es : List (Event σ)) (h : Graph σ) :
    Prop where
  serves : g.Serves es h
  unfed : ∀ e ∈ es, e.fedAt = none
  here : handedOut id.index es = frames
  elsewhere : ∀ j, j ≠ id.index → handedOut j es = []

namespace Draws

theorem refl (id : NodeId) (g : Graph σ) : Draws id g [] [] g :=
  ⟨.refl g, by simp, rfl, fun _ _ => rfl⟩

theorem trans {more : List Frame} (first : Draws id g frames es h) (second : Draws id h more fs k) :
    Draws id g (frames ++ more) (es ++ fs) k where
  serves := first.serves.trans second.serves
  unfed := List.forall_mem_append.2 ⟨first.unfed, second.unfed⟩
  here := by rw [handedOut_append, first.here, second.here]
  elsewhere j other := by
    rw [handedOut_append, first.elsewhere j other, second.elsewhere j other, List.append_nil]

/-- One pull that is answered. -/
theorem pull {got : Option Frame} (answer : (g.pull id).2 = .ok got) :
    Draws id g got.toList (g.pullEvents id) (g.pull id).1 := by
  obtain ⟨⟨e, refused⟩, _⟩ | ⟨n, _, _, pulls⟩ := g.pull_cases id
  · simp [refused] at answer
  · refine ⟨.single (.pull id), fun e member => ?_, ?_,
      fun j other => pulls.handedOut_other (Ne.symm other)⟩
    · obtain ⟨offer, rfl⟩ | ⟨c, rfl⟩ := pulls.events e member <;> rfl
    · rw [pulls.handedOut_eq, answer]
      cases got <;> rfl

end Draws

theorem Brings.exists_draws (brings : Brings id g frames h) : ∃ es, Draws id g frames es h := by
  induction brings with
  | none g => exact ⟨[], .refl id g⟩
  | @next g h last frame frames pulling _ ih =>
    obtain ⟨es, later⟩ := ih
    have first : Draws id g [frame] (g.pullEvents id) h := by
      have one := Draws.pull (congrArg Prod.snd pulling)
      rwa [pulling] at one
    exact ⟨_, first.trans later⟩

/-- Once a feed has ended it takes no more, and it ends where a source is told so. -/
theorem Happens.feedEnded_eq (wired : g.Wired) (event : g.Happens e h) (there : g.nodes[i]? = some n)
    (there' : h.nodes[i]? = some m) : m.feedEnded = (n.feedEnded || e.endsFeed i) := by
  rw [event.nodes wired, there, Option.map_some, Option.some.injEq] at there'
  subst there'
  cases e with
  | pushed j frame =>
    by_cases here : i = j <;> simp [Event.effect, Event.endsFeed, here]
  | ended j =>
    by_cases here : i = j
    · simp [Event.effect, Event.endsFeed, here]
    · simp [Event.effect, Event.endsFeed, here, Ne.symm here]
  | asked j offer =>
    by_cases here : i = j <;> simp [Event.effect, Event.endsFeed, here, Node.asked]
  | invoked c =>
    show (if i = c.index then c.left else n).feedEnded = (n.feedEnded || false)
    rw [Bool.or_false]
    split
    · next here =>
      obtain ⟨at_node, takes⟩ := event.takes
      obtain rfl := Option.some.inj (there.symm.trans (here ▸ at_node))
      have left : c.left.feedEnded = c.rest.feedEnded := by
        unfold Invocation.left
        split <;> rfl
      rw [left, takes.feedEnded]
    · rfl

/-- A source that still takes frames. -/
def Going (g : Graph σ) (id : NodeId) : Prop := ∃ n, g.running id .source = .ok n ∧ n.feedEnded = false

theorem Going.runs (going : g.Going id) (wired : g.Wired) (run : g.Runs es h)
    (on : ∀ e ∈ es, e.endsFeed id.index = false) : h.Going id := by
  induction run with
  | refl => exact going
  | @next g h k e rest event _ ih =>
    obtain ⟨n, source, still⟩ := going
    obtain ⟨m, source', _⟩ := event.evolves.running source
    have kept := event.feedEnded_eq wired (running_eq_ok_iff.1 source).2.2.1
      (running_eq_ok_iff.1 source').2.2.1
    refine ih ⟨m, source', ?_⟩ (event.evolves.wired wired) fun e member =>
      on e (List.mem_cons_of_mem _ member)
    rw [kept, still, on e List.mem_cons_self, Bool.or_false]

theorem Going.push {source : NodeId} {frame : Frame} (going : g.Going id) (wired : g.Wired)
    (accepted : g.push source (some frame) = .ok h) : h.Going id :=
  going.runs wired (Serves.push accepted).runs (by simp [Event.endsFeed])

/-- Nodes that run go on in their roles. -/
theorem Runs.running {ids : List NodeId} {role : Role} (run : g.Runs es h)
    (running : ∀ id ∈ ids, ∃ n, g.running id role = .ok n) :
    ∀ id ∈ ids, ∃ n, h.running id role = .ok n := fun id member => by
  obtain ⟨n, before⟩ := running id member
  obtain ⟨m, after, _⟩ := run.evolves.running before
  exact ⟨m, after⟩

/-- A sink that is over stays so. -/
theorem Runs.isExhausted (run : g.Runs es h) (wired : g.Wired) (spent : g.isExhausted id = .ok true) :
    h.isExhausted id = .ok true := by
  obtain ⟨n, sink, exhausted⟩ := map_eq_ok_iff.1 spent
  induction run generalizing n with
  | refl => exact spent
  | @next g h k e rest event _ ih =>
    obtain ⟨m, sink', _⟩ := event.evolves.running sink
    have still := event.exhausted wired (running_eq_ok_iff.1 sink).2.2.1
      (running_eq_ok_iff.1 sink').2.2.1 exhausted
    exact ih (event.evolves.wired wired) (map_eq_ok_iff.2 ⟨m, sink', still⟩) m sink' still

/-- A pull that brings no frame leaves its sink over or no node with work. -/
theorem Ready.over_or_idle (ready : start.Ready) (run : start.Runs es g)
    (answer : (g.pull id).2 = .ok none) :
    (g.pull id).1.isExhausted id = .ok true ∨ (g.pull id).1.Idle := by
  obtain ⟨⟨e, refused⟩, _⟩ | ⟨n, sink, _, pulls⟩ := g.pull_cases id
  · simp [refused] at answer
  · obtain ⟨k, offer, there, _, rfl | ⟨_, idle⟩⟩ := pulls.last_offer ready run.evolves answer
    · obtain ⟨m, sink', _⟩ := (g.runs_pull id).evolves.running sink
      obtain rfl := Option.some.inj ((running_eq_ok_iff.1 sink').2.2.1.symm.trans there)
      exact .inl (map_eq_ok_iff.2 ⟨_, sink', by simp [Node.asked]⟩)
    · exact .inr idle

end FrameFlow.Graph
