import FrameFlow.Proofs.Flow.Evolution
import FrameFlow.Proofs.Graph.Assembly

/-! What happens in a configured graph, one event at a time: a source takes a frame or its end, a
sink is asked, a filter is called by the scheduler. Pushes and pulls are runs of such events, and
each tells which events it brings about. -/
namespace FrameFlow

/-- A call that the scheduler makes on the filter of a node. -/
structure Invocation (σ : Type) where
  index : Nat
  /-- The node before the work was taken from it. -/
  node : Node σ
  work : Work
  /-- The node without the work. -/
  rest : Node σ
  /-- What the call leaves behind. -/
  turn : Turn σ

inductive Event (σ : Type) where
  | pushed (index : Nat) (frame : Frame)
  | ended (index : Nat)
  | asked (index : Nat) (offer : Except Fault Offer)
  | invoked (call : Invocation σ)

/-- What a caller asks of a configured graph. Pushing nothing ends the stream. -/
inductive Request where
  | push (id : NodeId) (frame : Option Frame)
  | pull (id : NodeId)
deriving DecidableEq, Repr

namespace Graph

variable {σ : Type}

theorem running_eq_ok_iff {g : Graph σ} {id : NodeId} {role : Role} {n : Node σ} :
    g.running id role = .ok n ↔
      g.configured ∧ id.graph = g.id ∧ g.nodes[id.index]? = some n ∧ n.isLive ∧ n.role = role := by
  unfold running
  dsimp only
  simp only [check_eq_ok_iff, bind_eq_ok_iff, find_eq_ok_iff, pure_eq_ok_iff]
  constructor
  · rintro ⟨configured, m, ⟨same, there, live⟩, as, rfl⟩
    exact ⟨by simpa using configured, same, there, live, by simpa using as⟩
  · rintro ⟨configured, same, there, live, as⟩
    exact ⟨by simp [configured], n, ⟨same, there, live⟩, by simp [as], rfl⟩

theorem isLiveAt_of_running {g : Graph σ} {id : NodeId} {role : Role} {n : Node σ}
    (running : g.running id role = .ok n) : g.isLiveAt id.index := by
  obtain ⟨_, _, there, live, _⟩ := running_eq_ok_iff.1 running
  exact isLiveAt_iff.2 ⟨n, there, live⟩

theorem push_none_eq_ok_iff {g h : Graph σ} {id : NodeId} :
    g.push id none = .ok h ↔ ∃ n, g.running id .source = .ok n ∧ n.feedEnded = false ∧
      g.setNode id.index { n with feedEnded := true } = h := by
  unfold push
  dsimp only
  simp only [bind_eq_ok_iff, check_eq_ok_iff, pure_eq_ok_iff, Bool.not_eq_true]

theorem push_some_eq_ok_iff {g h : Graph σ} {id : NodeId} {frame : Frame} :
    g.push id (some frame) = .ok h ↔ ∃ n, g.running id .source = .ok n ∧ n.feedEnded = false ∧
      g.checkFeed n frame = .ok () ∧
      { g.setNode id.index { n with feed := n.feed.push frame } with
        stats := { g.stats with pushed := g.stats.pushed + 1 } } = h := by
  unfold push
  dsimp only
  simp only [bind_eq_ok_iff, check_eq_ok_iff, pure_eq_ok_iff, mapError_eq_ok_iff,
    Bool.not_eq_true]
  constructor
  · rintro ⟨n, source, still, _, fits, rfl⟩
    exact ⟨n, source, still, fits, rfl⟩
  · rintro ⟨n, source, still, fits, rfl⟩
    exact ⟨n, source, still, (), fits, rfl⟩

theorem Evolves.running {g h : Graph σ} {id : NodeId} {role : Role} {n : Node σ} (e : g.Evolves h)
    (running : g.running id role = .ok n) :
    ∃ m, h.running id role = .ok m ∧ n.Evolves m := by
  obtain ⟨configured, same, there, live, as⟩ := running_eq_ok_iff.1 running
  obtain ⟨m, there', via⟩ := e.nodes there
  exact ⟨m, running_eq_ok_iff.2 ⟨e.configured ▸ configured, e.id ▸ same, there', via.isLive live,
    via.role.trans as⟩, via⟩

variable [Filter σ]

omit [Filter σ] in
theorem nextToWork_eq_some_iff {g : Graph σ} {i : Nat} {n : Node σ} :
    g.nextToWork = some (i, n) ↔ g.schedule.find? g.hasWorkAt = some i ∧ g.nodes[i]? = some n := by
  unfold nextToWork
  cases g.schedule.find? g.hasWorkAt with
  | none => simp
  | some j =>
    simp only [Option.bind_eq_bind, Option.bind_some, Option.bind_eq_some_iff, Option.some.injEq,
      Prod.mk.injEq]
    constructor
    · rintro ⟨m, there, rfl, rfl⟩
      exact ⟨rfl, there⟩
    · rintro ⟨rfl, there⟩
      exact ⟨n, there, rfl, rfl⟩

/-- Counts a frame that a sink has handed out. -/
def countOffer (g : Graph σ) : Except Fault Offer → Graph σ
  | .ok (.ready _) => { g with stats := { g.stats with pulled := g.stats.pulled + 1 } }
  | _ => g

omit [Filter σ] in
theorem evolves_countOffer (g : Graph σ) (offer : Except Fault Offer) :
    g.Evolves (g.countOffer offer) := by
  unfold countOffer
  split
  · exact evolves_stats _ _
  · exact .refl g

/-- One event, in a configured graph. A step calls the filter of the first node with work unless
the node has failed. -/
inductive Happens (g : Graph σ) : Event σ → Graph σ → Prop where
  | pushed {id : NodeId} {frame : Frame} {h : Graph σ} (accepted : g.push id (some frame) = .ok h) :
      Happens g (.pushed id.index frame) h
  | ended {id : NodeId} {h : Graph σ} (accepted : g.push id none = .ok h) :
      Happens g (.ended id.index) h
  | asked {id : NodeId} {n : Node σ} {h : Graph σ} {offer : Except Fault Offer}
      (sink : g.running id .sink = .ok n) (asking : g.askSink id.index n = (h, offer)) :
      Happens g (.asked id.index offer) (h.countOffer offer)
  | invoked {i : Nat} {n m : Node σ} {work : Work} (configured : g.configured)
      (first : g.nextToWork = some (i, n)) (usable : n.life ≠ .failed)
      (taken : n.takeWork = some (work, m)) :
      Happens g (.invoked ⟨i, n, work, m, m.invoke work (.start m.closedOutputs)⟩)
        (g.handleWork i m work).1

/-- Events that follow each other. -/
inductive Runs : Graph σ → List (Event σ) → Graph σ → Prop where
  | refl (g : Graph σ) : Runs g [] g
  | next {g h k : Graph σ} {e : Event σ} {rest : List (Event σ)} :
      Happens g e h → Runs h rest k → Runs g (e :: rest) k

/-- What an event leaves as it was. -/
theorem Happens.evolves {g h : Graph σ} {e : Event σ} (event : g.Happens e h) : g.Evolves h := by
  cases event with
  | @pushed id frame _ accepted =>
    obtain ⟨n, source, _, _, rfl⟩ := push_some_eq_ok_iff.1 accepted
    obtain ⟨_, _, there, _⟩ := running_eq_ok_iff.1 source
    have fed : n.Evolves { n with feed := n.feed.push frame } :=
      ⟨rfl, rfl, rfl, rfl, rfl, .inl rfl⟩
    exact (evolves_setNode there fed).trans (evolves_stats _ _)
  | ended accepted =>
    obtain ⟨n, source, _, rfl⟩ := push_none_eq_ok_iff.1 accepted
    obtain ⟨_, _, there, _⟩ := running_eq_ok_iff.1 source
    exact evolves_setNode there ⟨rfl, rfl, rfl, rfl, rfl, .inl rfl⟩
  | asked sink asking =>
    obtain ⟨_, _, there, _⟩ := running_eq_ok_iff.1 sink
    exact (evolves_askSink there asking).trans (evolves_countOffer _ _)
  | invoked _ first _ taken =>
    exact evolves_handleWork (nextToWork_eq_some_iff.1 first).2 taken

namespace Runs

variable {g h k : Graph σ} {es fs : List (Event σ)}

theorem single {e : Event σ} (event : g.Happens e h) : g.Runs [e] h := .next event (.refl h)

theorem trans (first : g.Runs es h) (second : h.Runs fs k) : g.Runs (es ++ fs) k := by
  induction first with
  | refl => exact second
  | next event _ ih => exact .next event (ih second)

theorem split (run : g.Runs (es ++ fs) k) : ∃ h, g.Runs es h ∧ h.Runs fs k := by
  induction es generalizing g with
  | nil => exact ⟨g, .refl g, run⟩
  | cons e rest ih =>
    cases run with
    | next event run =>
      obtain ⟨h, before, after⟩ := ih run
      exact ⟨h, .next event before, after⟩

theorem evolves (run : g.Runs es h) : g.Evolves h := by
  induction run with
  | refl => exact .refl _
  | next event _ ih => exact event.evolves.trans ih

/-- What holds of a graph together with the events up to it. -/
theorem history {P : List (Event σ) → Graph σ → Prop} (run : g.Runs es h)
    (preserves : ∀ {before : List (Event σ)} {g h : Graph σ} {e},
      P before g → g.Happens e h → P (before ++ [e]) h) (start : P fs g) : P (fs ++ es) h := by
  induction run generalizing fs with
  | refl => simpa using start
  | next event _ ih => simpa using ih (preserves start event)

end Runs

/-- The call that a step makes. -/
def stepEvents (g : Graph σ) : List (Event σ) :=
  match g.nextToWork with
  | none => []
  | some (i, n) =>
    if n.life = .failed then []
    else match n.takeWork with
      | none => []
      | some (work, m) => [.invoked ⟨i, n, work, m, m.invoke work (.start m.closedOutputs)⟩]

/-- The call of a step goes to the first node with work, with the work that is taken from it. -/
theorem invoked_of_stepEvents {g : Graph σ} {c : Invocation σ} (one : g.stepEvents = [.invoked c]) :
    g.nextToWork = some (c.index, c.node) ∧ c.node.takeWork = some (c.work, c.rest) ∧
      c.turn = c.rest.invoke c.work (.start c.rest.closedOutputs) := by
  unfold stepEvents at one
  split at one
  · simp at one
  · next i n first =>
    split at one
    · simp at one
    · split at one
      · simp at one
      · next work m taken =>
        obtain rfl := Event.invoked.inj (List.cons.inj one).1
        exact ⟨first, taken, rfl⟩

/-- The events that `pullFrom` brings about. -/
def pullFromEvents (g : Graph σ) (i : Nat) : List (Event σ) :=
  match g.nodes[i]? with
  | none => []
  | some n =>
    match _asking : g.askSink i n with
    | (asked, .ok .again) =>
      .asked i (.ok .again) ::
        match _stepping : asked.step with
        | some (after, .ok ()) =>
          asked.stepEvents ++ if _lower : after.hasLowered g then after.pullFromEvents i else []
        | _ => asked.stepEvents
    | (_, offer) => [.asked i offer]
termination_by Load.Measure.mk g.load
decreasing_by
  exact less_of_hasLowered ((schedule_step _stepping).trans (schedule_askSink _asking)) _lower

/-- What a caller is told where a sink does not ask for more. -/
def answerOf (g : Graph σ) (i : Nat) : Except Fault Offer → Except GraphError (Option Frame)
  | .error fault => .error (.pull (g.handle i) fault)
  | .ok (.ready frame) => .ok (some frame)
  | .ok _ => .ok none

/-- A pull, round by round: the sink is asked, and where it has nothing yet a step is taken. -/
inductive Pulls (i : Nat) : Graph σ → List (Event σ) → Graph σ →
    Except GraphError (Option Frame) → Prop where
  | answered {g asked : Graph σ} {n : Node σ} {offer : Except Fault Offer}
      (there : g.nodes[i]? = some n) (asking : g.askSink i n = (asked, offer))
      (final : offer ≠ .ok .again) :
      Pulls i g [.asked i offer] (asked.countOffer offer) (g.answerOf i offer)
  | idle {g asked : Graph σ} {n : Node σ} (there : g.nodes[i]? = some n)
      (asking : g.askSink i n = (asked, .ok .again)) (quiet : asked.step = none) :
      Pulls i g [.asked i (.ok .again)] asked (.ok none)
  | stuck {g asked after : Graph σ} {n : Node σ} {e : GraphError} (there : g.nodes[i]? = some n)
      (asking : g.askSink i n = (asked, .ok .again))
      (stepping : asked.step = some (after, .error e)) :
      Pulls i g (.asked i (.ok .again) :: asked.stepEvents) after (.error e)
  | halted {g asked after : Graph σ} {n : Node σ} (there : g.nodes[i]? = some n)
      (asking : g.askSink i n = (asked, .ok .again))
      (stepping : asked.step = some (after, .ok ())) (higher : ¬after.hasLowered g) :
      Pulls i g (.asked i (.ok .again) :: asked.stepEvents) after (.ok none)
  | onward {g asked after last : Graph σ} {n : Node σ} {es : List (Event σ)}
      {answer : Except GraphError (Option Frame)} (there : g.nodes[i]? = some n)
      (asking : g.askSink i n = (asked, .ok .again))
      (stepping : asked.step = some (after, .ok ())) (lower : after.hasLowered g)
      (later : Pulls i after es last answer) :
      Pulls i g (.asked i (.ok .again) :: asked.stepEvents ++ es) last answer

def pullEvents (g : Graph σ) (id : NodeId) : List (Event σ) :=
  match g.running id .sink with
  | .error _ => []
  | .ok _ => if (g.failedFeeder id.index).isSome then [] else g.pullFromEvents id.index

/-- Carries out a request, whether it is granted or not, and lists the events of it. -/
def serve (g : Graph σ) : Request → Graph σ × List (Event σ)
  | .push id (some frame) =>
    match g.push id (some frame) with
    | .ok h => (h, [.pushed id.index frame])
    | .error _ => (g, [])
  | .push id none =>
    match g.push id none with
    | .ok h => (h, [.ended id.index])
    | .error _ => (g, [])
  | .pull id => ((g.pull id).1, g.pullEvents id)

def serveAll (g : Graph σ) : List Request → Graph σ × List (Event σ)
  | [] => (g, [])
  | r :: rest =>
    let (h, first) := g.serve r
    let (k, later) := h.serveAll rest
    (k, first ++ later)

section Requests

variable {g after : Graph σ} {id : NodeId} {n : Node σ}

/-- A step finds the first node with work failed, or calls its filter. -/
theorem step_cases {outcome : Except GraphError Unit} (stepping : g.step = some (after, outcome)) :
    ∃ i n, g.nextToWork = some (i, n) ∧
      ((n.life = .failed ∧ after = g ∧ g.stepEvents = [] ∧
          outcome = .error (.invalidOperation (g.handle i) .failedEarlier)) ∨
        (n.life ≠ .failed ∧ ∃ work m, n.takeWork = some (work, m) ∧
          g.handleWork i m work = (after, outcome) ∧
          g.stepEvents = [.invoked ⟨i, n, work, m, m.invoke work (.start m.closedOutputs)⟩])) := by
  unfold step at stepping
  unfold stepEvents
  cases first : g.nextToWork with
  | none => simp [first] at stepping
  | some found =>
    obtain ⟨i, n⟩ := found
    simp only [first] at stepping
    refine ⟨i, n, rfl, ?_⟩
    dsimp only
    by_cases failed : n.life = .failed
    · rw [if_pos failed] at stepping
      obtain ⟨rfl, rfl⟩ := Prod.mk.inj (Option.some.inj stepping)
      exact .inl ⟨failed, rfl, if_pos failed, rfl⟩
    · rw [if_neg failed] at stepping ⊢
      cases taken : n.takeWork with
      | none => simp [taken] at stepping
      | some unit =>
        obtain ⟨work, m⟩ := unit
        simp only [taken] at stepping
        exact .inr ⟨failed, work, m, rfl, Option.some.inj stepping, rfl⟩

theorem runs_step {outcome : Except GraphError Unit} (configured : g.configured)
    (stepping : g.step = some (after, outcome)) : g.Runs g.stepEvents after := by
  obtain ⟨i, n, first, ⟨_, rfl, none, _⟩ | ⟨usable, work, m, taken, handled, events⟩⟩ :=
    step_cases stepping
  · exact none ▸ .refl after
  · have := Happens.invoked configured first usable taken
    rw [handled] at this
    exact events ▸ .single this

theorem outcome_handleWork (g : Graph σ) (i : Nat) (n : Node σ) (work : Work) :
    (g.handleWork i n work).2 = match (n.invoke work (.start n.closedOutputs)).fault with
      | some fault => .error (.pull (g.handle i) fault)
      | none => .ok () := by
  unfold handleWork
  cases fault : (n.invoke work (.start n.closedOutputs)).fault <;> simp only [fault]

/-- A step that goes well is one call. -/
theorem step_ok (configured : g.configured) (stepping : g.step = some (after, .ok ())) :
    ∃ c, g.stepEvents = [.invoked c] ∧ c.turn.fault = none ∧ g.Happens (.invoked c) after := by
  obtain ⟨i, n, first, ⟨_, _, _, failed⟩ | ⟨usable, work, m, taken, handled, events⟩⟩ :=
    step_cases stepping
  · simp at failed
  · have event := Happens.invoked configured first usable taken
    have outcome := outcome_handleWork g i m work
    rw [handled] at event outcome
    refine ⟨_, events, ?_, event⟩
    split at outcome
    · simp at outcome
    · next sound => exact sound

/-- A step that does not go well is a call that fails, or none where the first node with work had
failed before. -/
theorem step_error {e : GraphError} (configured : g.configured)
    (stepping : g.step = some (after, .error e)) :
    (∃ i n, g.nextToWork = some (i, n) ∧ n.life = .failed ∧ after = g ∧ g.stepEvents = [] ∧
        e = .invalidOperation (g.handle i) .failedEarlier) ∨
      ∃ c fault, g.stepEvents = [.invoked c] ∧ c.turn.fault = some fault ∧
        g.Happens (.invoked c) after ∧ e = .pull (g.handle c.index) fault := by
  obtain ⟨i, n, first, ⟨failed, same, none, outcome⟩ | ⟨usable, work, m, taken, handled, events⟩⟩ :=
    step_cases stepping
  · exact .inl ⟨i, n, first, failed, same, none, Except.error.inj outcome⟩
  · have event := Happens.invoked configured first usable taken
    have outcome := outcome_handleWork g i m work
    rw [handled] at event outcome
    split at outcome
    · next fault found => exact .inr ⟨_, fault, events, found, event, Except.error.inj outcome⟩
    · simp at outcome

theorem stepEvents_eq_nil (quiet : g.step = none) : g.stepEvents = [] := by
  unfold step at quiet
  unfold stepEvents
  cases first : g.nextToWork with
  | none => rfl
  | some found =>
    obtain ⟨i, n⟩ := found
    simp only [first] at quiet
    by_cases failed : n.life = .failed
    · exact if_pos failed
    · rw [if_neg failed] at quiet
      cases taken : n.takeWork with
      | none => exact (if_neg failed).trans (by rw [taken])
      | some unit => simp [taken] at quiet

theorem evolves_step {outcome : Except GraphError Unit} (stepping : g.step = some (after, outcome)) :
    g.Evolves after := by
  obtain ⟨i, n, first, ⟨_, rfl, _⟩ | ⟨_, work, m, taken, handled, _⟩⟩ := step_cases stepping
  · exact .refl after
  · have := evolves_handleWork (nextToWork_eq_some_iff.1 first).2 taken
    rwa [handled] at this

theorem pullFrom_of_final {i : Nat} {offer : Except Fault Offer} {asked : Graph σ}
    (there : g.nodes[i]? = some n) (asking : g.askSink i n = (asked, offer))
    (final : offer ≠ .ok .again) : g.pullFrom i = (asked.countOffer offer, g.answerOf i offer) := by
  rw [pullFrom]
  simp only [there]
  split
  · next asking' =>
    obtain ⟨rfl, rfl⟩ := Prod.mk.inj (asking.symm.trans asking')
    rfl
  · next asking' =>
    obtain ⟨rfl, rfl⟩ := Prod.mk.inj (asking.symm.trans asking')
    rfl
  · next asking' =>
    obtain ⟨rfl, rfl⟩ := Prod.mk.inj (asking.symm.trans asking')
    rfl
  · next asking' => exact absurd (Prod.mk.inj (asking.symm.trans asking')).2 final

theorem pullFrom_of_again {i : Nat} {asked : Graph σ} (there : g.nodes[i]? = some n)
    (asking : g.askSink i n = (asked, .ok .again)) :
    g.pullFrom i = match asked.step with
      | none => (asked, .ok none)
      | some (after, .error e) => (after, .error e)
      | some (after, .ok ()) => if after.hasLowered g then after.pullFrom i else (after, .ok none) := by
  rw [pullFrom]
  simp only [there]
  split
  · next asking' => simp [asking] at asking'
  · next asking' => simp [asking] at asking'
  · next asking' => simp [asking] at asking'
  · next asking' =>
    obtain ⟨rfl, _⟩ := Prod.mk.inj (asking.symm.trans asking')
    split
    · next quiet => simp only [quiet]
    · next stepping => simp only [stepping]
    · next stepping =>
      simp only [stepping]
      split <;> rfl

theorem pullFromEvents_of_final {i : Nat} {offer : Except Fault Offer} {asked : Graph σ}
    (there : g.nodes[i]? = some n) (asking : g.askSink i n = (asked, offer))
    (final : offer ≠ .ok .again) : g.pullFromEvents i = [.asked i offer] := by
  rw [pullFromEvents]
  simp only [there]
  split
  · next asking' =>
    rw [asking] at asking'
    exact absurd (Prod.mk.inj asking').2 final
  · next asking' =>
    rw [asking] at asking'
    rw [(Prod.mk.inj asking').2]

theorem pullFromEvents_of_again {i : Nat} {asked : Graph σ} (there : g.nodes[i]? = some n)
    (asking : g.askSink i n = (asked, .ok .again)) :
    g.pullFromEvents i = .asked i (.ok .again) :: asked.stepEvents ++
      match asked.step with
      | some (after, .ok ()) => if after.hasLowered g then after.pullFromEvents i else []
      | _ => [] := by
  rw [pullFromEvents]
  simp only [there]
  split
  · next asking' =>
    obtain ⟨rfl, _⟩ := Prod.mk.inj (asking.symm.trans asking')
    split
    · next stepping => simp [stepping]
    · next other =>
      cases stepping : asked.step with
      | none => simp
      | some p =>
        obtain ⟨after, outcome⟩ := p
        cases outcome with
        | error e => simp
        | ok u => exact (other after stepping).elim
  · next other asking' =>
    rw [asking] at asking'
    exact (other (Prod.mk.inj asking').2.symm).elim

theorem pulls_pullFrom {i : Nat} (there : g.nodes[i]? = some n) :
    Pulls i g (g.pullFromEvents i) (g.pullFrom i).1 (g.pullFrom i).2 := by
  fun_induction pullFrom g i generalizing n with
  | case1 g none => simp [none] at there
  | case2 g m there' asked fault asking =>
    rw [pullFromEvents_of_final there' asking (by simp)]
    exact .answered there' asking (by simp)
  | case3 g m there' asked frame asking =>
    rw [pullFromEvents_of_final there' asking (by simp)]
    exact .answered there' asking (by simp)
  | case4 g m there' asked asking =>
    rw [pullFromEvents_of_final there' asking (by simp)]
    exact .answered there' asking (by simp)
  | case5 g m there' asked asking quiet =>
    rw [pullFromEvents_of_again there' asking, quiet, stepEvents_eq_nil quiet]
    exact .idle there' asking quiet
  | case6 g m there' asked asking after e stepping =>
    rw [pullFromEvents_of_again there' asking, stepping]
    simpa using Pulls.stuck there' asking stepping
  | case7 g m there' asked asking after stepping lower ih =>
    rw [pullFromEvents_of_again there' asking, stepping]
    simp only [lower, if_true]
    obtain ⟨k, still, _⟩ := ((evolves_askSink there' asking).trans (evolves_step stepping)).nodes there'
    exact .onward there' asking stepping lower (ih still)
  | case8 g m there' asked asking after stepping higher =>
    rw [pullFromEvents_of_again there' asking, stepping]
    simpa [higher] using Pulls.halted there' asking stepping higher

/-- A pull that is given up where the sink has no answer after some rounds. It can be worked out. -/
def pullWithin (i : Nat) : Nat → Graph σ → Option (Graph σ × Except GraphError (Option Frame))
  | 0, _ => none
  | rounds + 1, g =>
    match g.nodes[i]? with
    | none => none
    | some n =>
      match g.askSink i n with
      | (asked, .ok .again) =>
        match asked.step with
        | none => some (asked, .ok none)
        | some (after, .error e) => some (after, .error e)
        | some (after, .ok ()) =>
          if after.hasLowered g then pullWithin i rounds after else some (after, .ok none)
      | (asked, offer) => some (asked.countOffer offer, g.answerOf i offer)

theorem pullFrom_eq_of_pullWithin {i rounds : Nat}
    {result : Graph σ × Except GraphError (Option Frame)}
    (within : pullWithin i rounds g = some result) : g.pullFrom i = result := by
  induction rounds generalizing g with
  | zero => simp [pullWithin] at within
  | succ rounds ih =>
    unfold pullWithin at within
    split at within
    · simp at within
    · next n there =>
      split at within
      · next asked asking =>
        rw [pullFrom_of_again there asking]
        split at within
        · exact Option.some.inj within
        · exact Option.some.inj within
        · split at within
          · next lower =>
            rw [if_pos lower]
            exact ih within
          · next higher =>
            rw [if_neg higher]
            exact Option.some.inj within
      · next asked offer final asking =>
        rw [pullFrom_of_final there asking final]
        exact Option.some.inj within

theorem pull_eq_of_pullWithin {rounds : Nat} {result : Graph σ × Except GraphError (Option Frame)}
    (sink : g.running id .sink = .ok n) (fed : g.failedFeeder id.index = none)
    (within : pullWithin id.index rounds g = some result) : g.pull id = result := by
  rw [← pullFrom_eq_of_pullWithin within]
  unfold pull
  simp only [sink, fed]

/-- A round in which the sink asks for more. -/
theorem runs_round {asked : Graph σ} {outcome : Except GraphError Unit}
    (sink : g.running id .sink = .ok n) (asking : g.askSink id.index n = (asked, .ok .again))
    (stepping : asked.step = some (after, outcome)) :
    g.Runs (.asked id.index (.ok .again) :: asked.stepEvents) after := by
  have configured := (running_eq_ok_iff.1 sink).1
  have kept := (evolves_askSink (running_eq_ok_iff.1 sink).2.2.1 asking).configured
  exact .next (.asked sink asking) (runs_step (kept ▸ configured) stepping)

/-- A pull from a sink is a run. -/
theorem Pulls.runs {es : List (Event σ)} {answer : Except GraphError (Option Frame)}
    (pulls : Pulls id.index g es after answer) (sink : g.running id .sink = .ok n) :
    g.Runs es after := by
  generalize place : id.index = i at pulls
  have same : ∀ {g : Graph σ} {n m : Node σ}, g.running id .sink = .ok n →
      g.nodes[i]? = some m → n = m := fun sink there =>
    Option.some.inj ((place ▸ (running_eq_ok_iff.1 sink).2.2.1).symm.trans there)
  induction pulls generalizing n with
  | answered there asking _ =>
    obtain rfl := same sink there
    exact place ▸ .single (.asked sink (place ▸ asking))
  | idle there asking _ =>
    obtain rfl := same sink there
    exact place ▸ .single (.asked sink (place ▸ asking))
  | stuck there asking stepping =>
    obtain rfl := same sink there
    exact place ▸ runs_round sink (place ▸ asking) stepping
  | halted there asking stepping _ =>
    obtain rfl := same sink there
    exact place ▸ runs_round sink (place ▸ asking) stepping
  | onward there asking stepping _ _ ih =>
    obtain rfl := same sink there
    have round := runs_round sink (place ▸ asking) stepping
    obtain ⟨m, still, _⟩ := round.evolves.running sink
    exact place ▸ round.trans (ih still)

theorem pulls_pull (sink : g.running id .sink = .ok n) (fed : g.failedFeeder id.index = none) :
    Pulls id.index g (g.pullEvents id) (g.pull id).1 (g.pull id).2 := by
  obtain ⟨_, _, there, _⟩ := running_eq_ok_iff.1 sink
  unfold pull pullEvents
  simpa [sink, fed] using pulls_pullFrom there

/-- A pull is refused and changes nothing, or runs from a sink that no failed node feeds. -/
theorem pull_cases (g : Graph σ) (id : NodeId) :
    ((∃ e, g.pull id = (g, .error e)) ∧ g.pullEvents id = []) ∨
      ∃ n, g.running id .sink = .ok n ∧ g.failedFeeder id.index = none ∧
        Pulls id.index g (g.pullEvents id) (g.pull id).1 (g.pull id).2 := by
  cases sink : g.running id .sink with
  | error e =>
    refine .inl ⟨⟨e, ?_⟩, ?_⟩
    · simp only [pull, sink]
    · simp only [pullEvents, sink]
  | ok n =>
    cases fed : g.failedFeeder id.index with
    | some i =>
      refine .inl ⟨⟨.invalidOperation id (.failedFeeder (g.handle i)), ?_⟩, ?_⟩
      · simp only [pull, sink, fed]
      · simp [pullEvents, sink, fed]
    | none => exact .inr ⟨n, rfl, rfl, pulls_pull sink fed⟩

theorem runs_pull (g : Graph σ) (id : NodeId) : g.Runs (g.pullEvents id) (g.pull id).1 := by
  obtain ⟨⟨e, refused⟩, none⟩ | ⟨n, sink, _, pulls⟩ := g.pull_cases id
  · rw [refused, none]
    exact .refl g
  · exact pulls.runs sink

theorem runs_serve (g : Graph σ) (r : Request) : g.Runs (g.serve r).2 (g.serve r).1 := by
  cases r with
  | pull id => exact g.runs_pull id
  | push id frame =>
    cases frame with
    | none =>
      simp only [serve]
      cases accepted : g.push id none with
      | error e => exact .refl g
      | ok h => exact .single (.ended accepted)
    | some frame =>
      simp only [serve]
      cases accepted : g.push id (some frame) with
      | error e => exact .refl g
      | ok h => exact .single (.pushed accepted)

theorem runs_serveAll (g : Graph σ) (rs : List Request) :
    g.Runs (g.serveAll rs).2 (g.serveAll rs).1 := by
  induction rs generalizing g with
  | nil => exact .refl g
  | cons r rest ih => exact (g.runs_serve r).trans (ih _)

/-- A drain is a run of pulls. -/
theorem exists_runs_drain (g : Graph σ) (id : NodeId) : ∃ es, g.Runs es (g.drain id).1 := by
  have onto : ∀ frames, ∃ es, g.Runs es (drainOnto frames g id).1 := by
    intro frames
    fun_induction drainOnto frames g id with
    | case1 frames g after e pulling =>
      have := g.runs_pull id
      rw [pulling] at this
      exact ⟨_, this⟩
    | case2 frames g after pulling =>
      have := g.runs_pull id
      rw [pulling] at this
      exact ⟨_, this⟩
    | case3 frames g after frame pulling ih =>
      have := g.runs_pull id
      rw [pulling] at this
      obtain ⟨es, later⟩ := ih
      exact ⟨_, this.trans later⟩
  exact onto []

end Requests
end Graph
end FrameFlow
