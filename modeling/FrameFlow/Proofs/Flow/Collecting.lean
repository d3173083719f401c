import FrameFlow.Proofs.Flow.Failure

/-! What a drain collects. It returns the frames of one pull after the other, up to the pull that brings
none. Where that pull fails, the frames that came before it are lost: they count as pulled, and nobody
gets them. -/
namespace FrameFlow.Graph

variable {σ : Type}

section Counts

theorem stats_atTarget (g : Graph σ) (link : Nat) (f : Inlet → Inlet) :
    (g.atTarget link f).stats = g.stats := by
  unfold atTarget
  split <;> rfl

theorem stats_route (g : Graph σ) (outputs : List Outlet) (tray : Tray) :
    (g.route outputs tray).stats = g.stats := by
  have delivered : ((deliveries outputs tray.frames.toList).foldl
      (fun g sent => g.deliver sent.1 sent.2) g).stats = g.stats := by
    refine List.foldlRecOn (motive := fun h : Graph σ => h.stats = g.stats) _ _ rfl ?_
    exact fun h same _ _ => (stats_atTarget h _ _).trans same
  refine List.foldlRecOn (motive := fun h : Graph σ => h.stats = g.stats) _ _ delivered ?_
  exact fun h same _ _ => (stats_atTarget h _ _).trans same

variable [Filter σ] {g h after : Graph σ} {i : Nat}

theorem stats_handleWork (g : Graph σ) (i : Nat) (n : Node σ) (work : Work) :
    (g.handleWork i n work).1.stats.pushed = g.stats.pushed ∧
      (g.handleWork i n work).1.stats.pulled = g.stats.pulled := by
  unfold handleWork
  dsimp only
  split
  · exact ⟨rfl, rfl⟩
  · rw [stats_route]
    exact ⟨rfl, rfl⟩

/-- A step does not count as a pull. -/
theorem pulled_step {outcome : Except GraphError Unit} (stepping : g.step = some (after, outcome)) :
    after.stats.pulled = g.stats.pulled := by
  unfold step at stepping
  split at stepping
  · simp at stepping
  · split at stepping
    · obtain ⟨rfl, _⟩ := Prod.mk.inj (Option.some.inj stepping)
      rfl
    · split at stepping
      · simp at stepping
      · next n work rest _ =>
        have same := congrArg (fun p => p.1.stats.pulled) (Option.some.inj stepping)
        exact same.symm.trans (stats_handleWork ..).2

/-- The frame, if any, that a pull gives. -/
def broughtBy : Except GraphError (Option Frame) → List Frame
  | .ok (some frame) => [frame]
  | _ => []

theorem stats_askSink {asked : Graph σ} {n : Node σ} {offer : Except Fault Offer}
    (asking : g.askSink i n = (asked, offer)) : asked.stats = g.stats :=
  (congrArg (fun p => p.1.stats) asking).symm

/-- A pull counts the frame that it brings. -/
theorem pulled_pullFrom (g : Graph σ) (i : Nat) :
    (g.pullFrom i).1.stats.pulled = g.stats.pulled + (broughtBy (g.pullFrom i).2).length := by
  fun_induction pullFrom g i with
  | case1 => rfl
  | case2 g n there asked fault asking => exact congrArg Stats.pulled (stats_askSink asking)
  | case3 g n there asked frame asking =>
    exact congrArg (fun stats => stats.pulled + 1) (stats_askSink asking)
  | case4 g n there asked asking => exact congrArg Stats.pulled (stats_askSink asking)
  | case5 g n there asked asking quiet => exact congrArg Stats.pulled (stats_askSink asking)
  | case6 g n there asked asking between e stepping =>
    exact (pulled_step stepping).trans (congrArg Stats.pulled (stats_askSink asking))
  | case7 g n there asked asking between stepping lower ih =>
    rw [ih, pulled_step stepping, stats_askSink asking]
  | case8 g n there asked asking between stepping higher =>
    exact (pulled_step stepping).trans (congrArg Stats.pulled (stats_askSink asking))

theorem pulled_pull (g : Graph σ) (id : NodeId) :
    (g.pull id).1.stats.pulled = g.stats.pulled + (broughtBy (g.pull id).2).length := by
  unfold pull
  split
  · rfl
  · split
    · rfl
    · exact g.pulled_pullFrom id.index

end Counts

variable [Filter σ] {g h last last' : Graph σ} {id : NodeId} {frames frames' : List Frame}

/-- Pulls from a sink that each bring a frame, one after the other. -/
inductive Brings (id : NodeId) : Graph σ → List Frame → Graph σ → Prop where
  | none (g : Graph σ) : Brings id g [] g
  | next {g h last : Graph σ} {frame : Frame} {frames : List Frame}
      (pulling : g.pull id = (h, .ok (some frame))) (later : Brings id h frames last) :
      Brings id g (frame :: frames) last

namespace Brings

theorem pulled (brings : Brings id g frames last) :
    last.stats.pulled = g.stats.pulled + frames.length := by
  induction brings with
  | none => rfl
  | @next g h _ frame _ pulling _ ih =>
    have one := g.pulled_pull id
    rw [pulling] at one
    rw [ih, one, List.length_cons, broughtBy, List.length_singleton]
    omega

/-- There is no choice in how many frames come before a pull that brings none. -/
theorem unique (brings : Brings id g frames last) (ends : broughtBy (last.pull id).2 = [])
    (brings' : Brings id g frames' last') (ends' : broughtBy (last'.pull id).2 = []) :
    frames' = frames ∧ last' = last := by
  induction brings generalizing frames' with
  | none g =>
    cases brings' with
    | none => exact ⟨rfl, rfl⟩
    | next pulling _ => simp [pulling, broughtBy] at ends
  | next pulling _ ih =>
    cases brings' with
    | none => simp [pulling, broughtBy] at ends'
    | next pulling' later' =>
      obtain ⟨rfl, same⟩ := Prod.mk.inj (pulling.symm.trans pulling')
      obtain rfl := Option.some.inj (Except.ok.inj same)
      obtain ⟨rfl, rfl⟩ := ih ends later'
      exact ⟨rfl, rfl⟩

end Brings

/-- Sooner or later a pull brings no frame, and there a drain ends. It returns the frames that came before
unless that pull fails. -/
theorem exists_drainOnto_eq (earlier : List Frame) (g : Graph σ) (id : NodeId) :
    ∃ frames last, Brings id g frames last ∧ broughtBy (last.pull id).2 = [] ∧
      drainOnto earlier g id =
        ((last.pull id).1, (last.pull id).2.map fun _ => frames.reverse ++ earlier) := by
  fun_induction drainOnto earlier g id with
  | case1 earlier g after e pulling =>
    exact ⟨[], g, .none g, by rw [pulling]; rfl, by rw [pulling]; rfl⟩
  | case2 earlier g after pulling =>
    exact ⟨[], g, .none g, by rw [pulling]; rfl, by rw [pulling]; rfl⟩
  | case3 earlier g after frame pulling ih =>
    obtain ⟨frames, last, later, ends, drained⟩ := ih
    refine ⟨frame :: frames, last, .next pulling later, ends, ?_⟩
    rw [drained, List.reverse_cons, List.append_assoc, List.singleton_append]

theorem Brings.drain_eq (brings : Brings id g frames last) (ends : broughtBy (last.pull id).2 = []) :
    g.drain id = ((last.pull id).1, (last.pull id).2.map fun _ => frames) := by
  obtain ⟨_, _, brings', ends', drained⟩ := exists_drainOnto_eq [] g id
  obtain ⟨rfl, rfl⟩ := brings'.unique ends' brings ends
  unfold drain
  rw [drained]
  dsimp only
  cases (last.pull id).2 with
  | error e => rfl
  | ok got => simp [Except.map]

/-- A drain makes one pull after the other, up to the first that brings no frame, and there is only one
way to do so. It returns the frames that came before, in order, or the error of the last pull; all of them
count as pulled. So a drain that fails hands out no frame just if its first pull fails. -/
theorem drain_collects (g : Graph σ) (id : NodeId) :
    ∃ frames last, Brings id g frames last ∧ broughtBy (last.pull id).2 = [] ∧
      (∀ frames' last', Brings id g frames' last' → broughtBy (last'.pull id).2 = [] →
        frames' = frames ∧ last' = last) ∧
      g.drain id = ((last.pull id).1, (last.pull id).2.map fun _ => frames) ∧
      (g.drain id).1.stats.pulled = g.stats.pulled + frames.length ∧
      ∀ e, (g.drain id).2 = .error e →
        ((g.drain id).1.stats.pulled = g.stats.pulled ↔ (g.pull id).2 = .error e) := by
  obtain ⟨frames, last, brings, ends, _⟩ := exists_drainOnto_eq [] g id
  have drained := brings.drain_eq ends
  have counted : (g.drain id).1.stats.pulled = g.stats.pulled + frames.length := by
    rw [drained, pulled_pull, ends, brings.pulled]
    rfl
  refine ⟨frames, last, brings, ends, fun _ _ => brings.unique ends, drained, counted, fun e failed => ?_⟩
  rw [counted]
  cases brings with
  | none =>
    refine iff_of_true rfl ?_
    rw [drained] at failed
    cases pulled : (g.pull id).2 with
    | error e' => simpa [pulled, Except.map] using failed
    | ok got => simp [pulled, Except.map] at failed
  | next pulling _ => simp [pulling]

/-- The other source of the two pipelines has got a frame too. -/
def fedBoth : Graph (BuiltIn ⊕ Script) :=
  fedBroken.after (.request (.push ⟨⟨0⟩, 2⟩ (some ⟨⟨48000, 2⟩, none, .empty⟩)))

/-- A drain of one sink gets its frame, comes upon the broken source of the other sink and fails. The frame
is gone. -/
theorem drain_loses_frame :
    fedBoth.Reachable ∧ fedBoth.stats.pulled = 0 ∧
      (fedBoth.drain ⟨⟨0⟩, 3⟩).2 = .error (.pull ⟨⟨0⟩, 0⟩ (.failed "broken")) ∧
      (fedBoth.drain ⟨⟨0⟩, 3⟩).1.stats.pulled = 1 := by
  have worked : ((traceWithin 5 fedBoth ⟨⟨0⟩, 3⟩).bind fun first =>
      (traceWithin 5 first.1.1 ⟨⟨0⟩, 3⟩).map fun second => (first.1.2, second.1.2)) =
        some (.ok (some ⟨⟨48000, 2⟩, some 0, .empty⟩), .error (.pull ⟨⟨0⟩, 0⟩ (.failed "broken"))) := by
    decide +kernel
  obtain ⟨⟨⟨between, answer⟩, es⟩, first, rest⟩ := Option.bind_eq_some_iff.1 worked
  obtain ⟨⟨⟨after, answer'⟩, es'⟩, second, answers⟩ := Option.map_eq_some_iff.1 rest
  obtain ⟨rfl, rfl⟩ := Prod.mk.inj answers
  have failing := (pull_eq_of_traceWithin second).1
  have brings := Brings.next (pull_eq_of_traceWithin first).1 (.none between)
  have ends : broughtBy (between.pull ⟨⟨0⟩, 3⟩).2 = [] := by
    rw [failing]
    rfl
  have drained := brings.drain_eq ends
  have counted := between.pulled_pull ⟨⟨0⟩, 3⟩
  have unpulled : fedBoth.stats.pulled = 0 := by decide +kernel
  refine ⟨.called _ reachable_fedBroken, unpulled, ?_, ?_⟩
  · rw [drained, failing]
    rfl
  · rw [drained, counted, ends, brings.pulled, unpulled]
    rfl

end FrameFlow.Graph
