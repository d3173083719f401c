import FrameFlow.Proofs.Flow.Run

/-! Sessions of requests, and which events they can bring about. A session with a bound on the
rounds of each pull can be worked out, and where it comes to its end it is the session without. -/
namespace FrameFlow.Graph

variable {σ : Type} [Filter σ]

theorem serveAll_append (g : Graph σ) (requests more : List Request) :
    g.serveAll (requests ++ more) = (((g.serveAll requests).1.serveAll more).1,
      (g.serveAll requests).2 ++ ((g.serveAll requests).1.serveAll more).2) := by
  induction requests generalizing g with
  | nil => rfl
  | cons r rest ih => simp only [List.cons_append, serveAll, ih, List.append_assoc]

theorem serveAll_singleton (g : Graph σ) (r : Request) : g.serveAll [r] = g.serve r := by
  simp only [serveAll, List.append_nil]

/-- The events of a pull that is given up where the sink has no answer after some rounds. -/
def pullEventsWithin (i : Nat) : Nat → Graph σ → Option (List (Event σ))
  | 0, _ => none
  | rounds + 1, g =>
    match g.nodes[i]? with
    | none => none
    | some n =>
      match g.askSink i n with
      | (asked, .ok .again) =>
        match asked.step with
        | some (after, .ok ()) =>
          if after.hasLowered g then
            (pullEventsWithin i rounds after).map (.asked i (.ok .again) :: asked.stepEvents ++ ·)
          else some (.asked i (.ok .again) :: asked.stepEvents)
        | _ => some (.asked i (.ok .again) :: asked.stepEvents)
      | (_, offer) => some [.asked i offer]

theorem pullFromEvents_eq_of_within {g : Graph σ} {i rounds : Nat} {es : List (Event σ)}
    (within : pullEventsWithin i rounds g = some es) : g.pullFromEvents i = es := by
  induction rounds generalizing g es with
  | zero => simp [pullEventsWithin] at within
  | succ rounds ih =>
    unfold pullEventsWithin at within
    split at within
    · simp at within
    · next n there =>
      split at within
      · next asked asking =>
        rw [pullFromEvents_of_again there asking]
        obtain quiet | ⟨⟨after, outcome⟩, stepping⟩ := asked.step.eq_none_or_eq_some
        · simp only [quiet, Option.some.injEq] at within ⊢
          rw [List.append_nil, within]
        · cases outcome with
          | error e =>
            simp only [stepping, Option.some.injEq] at within ⊢
            rw [List.append_nil, within]
          | ok _ =>
            simp only [stepping] at within ⊢
            split at within
            · next lower =>
              obtain ⟨later, found, rfl⟩ := Option.map_eq_some_iff.1 within
              rw [if_pos lower, ih found]
            · next higher =>
              rw [if_neg higher, List.append_nil]
              exact Option.some.inj within
      · next asked offer final asking =>
        rw [pullFromEvents_of_final there asking final]
        exact Option.some.inj within

/-- A pull with a bound on its rounds, and its events. -/
def traceWithin (rounds : Nat) (g : Graph σ) (id : NodeId) :
    Option ((Graph σ × Except GraphError (Option Frame)) × List (Event σ)) :=
  match g.running id .sink with
  | .error e => some ((g, .error e), [])
  | .ok _ =>
    match g.failedFeeder id.index with
    | some i => some ((g, .error (.invalidOperation id (.failedFeeder (g.handle i)))), [])
    | none => do
      let result ← pullWithin id.index rounds g
      let es ← pullEventsWithin id.index rounds g
      some (result, es)

theorem pull_eq_of_traceWithin {g : Graph σ} {rounds : Nat} {id : NodeId}
    {result : Graph σ × Except GraphError (Option Frame)} {es : List (Event σ)}
    (within : traceWithin rounds g id = some (result, es)) :
    g.pull id = result ∧ g.pullEvents id = es := by
  unfold pull pullEvents
  cases sink : g.running id .sink with
  | error e =>
    simp only [traceWithin, sink, Option.some.injEq, Prod.mk.injEq] at within
    exact within
  | ok n =>
    cases fed : g.failedFeeder id.index with
    | some i =>
      simp only [traceWithin, sink, fed, Option.some.injEq, Prod.mk.injEq] at within
      exact within
    | none =>
      simp only [traceWithin, sink, fed, Option.bind_eq_bind, Option.bind_eq_some_iff,
        Option.some.injEq, Prod.mk.injEq] at within
      obtain ⟨_, pulled, _, events, rfl, rfl⟩ := within
      exact ⟨pullFrom_eq_of_pullWithin pulled, pullFromEvents_eq_of_within events⟩

def serveWithin (rounds : Nat) (g : Graph σ) : Request → Option (Graph σ × List (Event σ))
  | .push id frame => some (g.serve (.push id frame))
  | .pull id => (traceWithin rounds g id).map fun t => (t.1.1, t.2)

theorem serve_eq_of_within {g : Graph σ} {rounds : Nat} {r : Request}
    {result : Graph σ × List (Event σ)} (within : serveWithin rounds g r = some result) :
    g.serve r = result := by
  cases r with
  | push id frame => exact Option.some.inj within
  | pull id =>
    obtain ⟨⟨answer, es⟩, traced, rfl⟩ := Option.map_eq_some_iff.1 within
    obtain ⟨pulled, events⟩ := pull_eq_of_traceWithin traced
    simp only [serve, pulled, events]

def serveAllWithin (rounds : Nat) (g : Graph σ) : List Request → Option (Graph σ × List (Event σ))
  | [] => some (g, [])
  | r :: rest => do
    let (h, first) ← serveWithin rounds g r
    let (k, later) ← serveAllWithin rounds h rest
    some (k, first ++ later)

theorem serveAll_eq_of_within {g : Graph σ} {rounds : Nat} {requests : List Request}
    {result : Graph σ × List (Event σ)} (within : serveAllWithin rounds g requests = some result) :
    g.serveAll requests = result := by
  induction requests generalizing g result with
  | nil => exact Option.some.inj within
  | cons r rest ih =>
    simp only [serveAllWithin, Option.bind_eq_bind, Option.bind_eq_some_iff, Prod.exists] at within
    obtain ⟨h, first, served, k, later, onward, done⟩ := within
    obtain rfl := Option.some.inj done
    simp only [serveAll, serve_eq_of_within served, ih onward]

end FrameFlow.Graph
