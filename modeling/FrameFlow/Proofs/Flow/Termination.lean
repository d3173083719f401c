import FrameFlow.Proofs.Flow.Progress
import FrameFlow.Proofs.Reach
import FrameFlow.Proofs.Stream.Pulling

/-! Pulls and drains come to an end by themselves. Each round of a pull asks the sink and takes one
step, and each step lowers the load of the schedule, so the rounds run out whatever the filters emit
and whatever the sink answers. No check at run time is what stops a pull. -/
namespace FrameFlow.Graph

variable {σ : Type}

/-- Asks a sink for a frame, where `take` is what its filter does when it is asked. -/
def askBy (take : σ → σ × Except Fault Offer) (g : Graph σ) (i : Nat) (n : Node σ) :
    Graph σ × Except Fault Offer :=
  let (filter, offer) := take n.filter
  let exhausted := n.exhausted || offer matches .ok .ended
  (g.setNode i { n with filter, hasSlot := true, exhausted }, offer)

variable [Filter σ]

/-- One round of a pull: the sink is asked, and where it asks for more a step is taken. There is no
answer where another round follows. -/
def round (take : σ → σ × Except Fault Offer) (i : Nat) (g : Graph σ) :
    Graph σ × Option (Except GraphError (Option Frame)) :=
  match g.nodes[i]? with
  | none => (g, some (.ok none))
  | some n =>
    match g.askBy take i n with
    | (asked, .ok .again) =>
      match asked.step with
      | none => (asked, some (.ok none))
      | some (after, .error e) => (after, some (.error e))
      | some (after, .ok ()) => (after, none)
    | (asked, offer) => (asked.countOffer offer, some (g.answerOf i offer))

/-- Rounds until there is an answer, and how many. Nothing else ends them. -/
inductive Rounds (take : σ → σ × Except Fault Offer) (i : Nat) :
    Graph σ → Nat → Graph σ → Except GraphError (Option Frame) → Prop where
  | last {g after : Graph σ} {answer : Except GraphError (Option Frame)}
      (answered : g.round take i = (after, some answer)) : Rounds take i g 1 after answer
  | next {g between after : Graph σ} {count : Nat} {answer : Except GraphError (Option Frame)}
      (onward : g.round take i = (between, none)) (later : Rounds take i between count after answer) :
      Rounds take i g (count + 1) after answer

/-- A pull that comes to an end: it is refused, or it ends after some rounds. -/
inductive PullEnds (take : σ → σ × Except Fault Offer) (id : NodeId) (g : Graph σ) :
    Nat → Graph σ → Except GraphError (Option Frame) → Prop where
  | refused {e : GraphError} (none : g.running id .sink = .error e) :
      PullEnds take id g 0 g (.error e)
  | unfed {n : Node σ} {j : Nat} (sink : g.running id .sink = .ok n)
      (failed : g.failedFeeder id.index = some j) :
      PullEnds take id g 0 g (.error (.invalidOperation id (.failedFeeder (g.handle j))))
  | rounds {n : Node σ} {after : Graph σ} {count : Nat} {answer : Except GraphError (Option Frame)}
      (sink : g.running id .sink = .ok n) (fed : g.failedFeeder id.index = none)
      (rounds : Rounds take id.index g count after answer) : PullEnds take id g count after answer

/-- A drain that comes to an end: pulls with a frame each, and one without that ends it. -/
inductive DrainEnds (id : NodeId) : Graph σ → Nat → Graph σ → Except GraphError (List Frame) → Prop where
  | failed {g after : Graph σ} {count : Nat} {e : GraphError}
      (pull : g.PullEnds Filter.take id count after (.error e)) : DrainEnds id g 1 after (.error e)
  | last {g after : Graph σ} {count : Nat} (pull : g.PullEnds Filter.take id count after (.ok none)) :
      DrainEnds id g 1 after (.ok [])
  | next {g between after : Graph σ} {count pulls : Nat} {frame : Frame}
      {frames : Except GraphError (List Frame)}
      (pull : g.PullEnds Filter.take id count between (.ok (some frame)))
      (later : DrainEnds id between pulls after frames) :
      DrainEnds id g (pulls + 1) after (frames.map (frame :: ·))

variable {start g after : Graph σ} {take : σ → σ × Except Fault Offer} {i : Nat} {id : NodeId}

omit [Filter σ] in
theorem evolves_askBy {n : Node σ} {asked : Graph σ} {offer : Except Fault Offer}
    (there : g.nodes[i]? = some n) (asking : g.askBy take i n = (asked, offer)) :
    g.Evolves asked := by
  obtain ⟨rfl, _⟩ := Prod.mk.inj asking
  exact evolves_setNode there ⟨rfl, rfl, rfl, rfl, rfl, .inl rfl⟩

omit [Filter σ] in
/-- Asking a sink leaves all work where it is. -/
theorem load_askBy {n : Node σ} {asked : Graph σ} {offer : Except Fault Offer}
    (there : g.nodes[i]? = some n) (asking : g.askBy take i n = (asked, offer)) :
    asked.load = g.load := by
  obtain ⟨rfl, _⟩ := Prod.mk.inj asking
  refine List.map_congr_left fun j _ => ?_
  unfold pendingAt
  rw [nodes_setNode there]
  split
  · next here => rw [← here, there]; rfl
  · rfl

/-- A step calls the first node with work, and that uses up a unit of it, or it finds that this node
failed before. -/
theorem step_spends (ready : start.Ready) (evolves : start.Evolves g)
    {outcome : Except GraphError Unit} (stepping : g.step = some (after, outcome)) :
    ∃ j, g.schedule.find? g.hasWorkAt = some j ∧
      ((g.hasFailed j ∧ after = g ∧
          outcome = .error (.invalidOperation (g.handle j) .failedEarlier)) ∨
        (g.Spends after j ∧ Load.Less after.load g.load)) := by
  obtain ⟨j, n, first, working⟩ := step_cases stepping
  obtain ⟨found, there⟩ := nextToWork_eq_some_iff.1 first
  refine ⟨j, found, ?_⟩
  rcases working with ⟨failed, same, _, outcome⟩ | ⟨usable, work, m, taken, handled, _⟩
  · exact .inl ⟨(hasFailed_iff there).2 failed, same, outcome⟩
  · have event := Happens.invoked (evolves.configured ▸ ready.configured) first usable taken
    rw [handled] at event
    have spends := event.spends ready evolves
    exact .inr ⟨spends, spends.less event.evolves.schedule⟩

/-- A round that another one follows has lowered the load. -/
theorem less_of_round (ready : start.Ready) (evolves : start.Evolves g)
    (onward : g.round take i = (after, none)) :
    start.Evolves after ∧ Load.Less after.load g.load := by
  unfold round at onward
  split at onward
  · simp at onward
  · next n there =>
    split at onward
    · next asked asking =>
      have onto := evolves.trans (evolves_askBy there asking)
      split at onward
      · simp at onward
      · simp at onward
      · next between stepping =>
        obtain rfl := (Prod.mk.inj onward).1
        obtain ⟨j, _, ⟨_, _, refused⟩ | ⟨_, less⟩⟩ := step_spends ready onto stepping
        · simp at refused
        · exact ⟨onto.trans (evolves_step stepping), load_askBy there asking ▸ less⟩
    · simp at onward

/-- The rounds of a pull run out, whatever the sink does. -/
theorem exists_rounds (ready : start.Ready) (evolves : start.Evolves g)
    (take : σ → σ × Except Fault Offer) (i : Nat) :
    ∃ count after answer, Rounds take i g count after answer := by
  generalize measure : g.load = load
  induction load using Load.wellFounded.induction generalizing g with
  | _ load ih =>
    rcases one : g.round take i with ⟨between, _ | answer⟩
    · obtain ⟨onto, less⟩ := less_of_round ready evolves one
      obtain ⟨count, after, answer, later⟩ := ih between.load (measure ▸ less) onto rfl
      exact ⟨count + 1, after, answer, .next one later⟩
    · exact ⟨1, between, answer, .last one⟩

/-- A pull as it is worked out goes on from round to round. -/
theorem pullFrom_of_round (ready : start.Ready) (evolves : start.Evolves g)
    {answer : Option (Except GraphError (Option Frame))}
    (one : g.round Filter.take i = (after, answer)) :
    g.pullFrom i = answer.elim (after.pullFrom i) fun answer => (after, answer) := by
  unfold round at one
  split at one
  · next none =>
    obtain ⟨rfl, rfl⟩ := Prod.mk.inj one
    rw [pullFrom]
    simp only [none, Option.elim_some]
  · next n there =>
    split at one
    · next asked asking =>
      rw [pullFrom_of_again there asking]
      rcases stepping : asked.step with _ | ⟨between, e | ⟨⟩⟩
      · simp only [stepping] at one
        obtain ⟨rfl, rfl⟩ := Prod.mk.inj one
        rfl
      · simp only [stepping] at one
        obtain ⟨rfl, rfl⟩ := Prod.mk.inj one
        rfl
      · simp only [stepping] at one
        obtain ⟨rfl, rfl⟩ := Prod.mk.inj one
        exact if_pos (round_lowers ready evolves there asking stepping)
    · next asked offer waits asking =>
      obtain ⟨rfl, rfl⟩ := Prod.mk.inj one
      exact pullFrom_of_final there asking waits

theorem Rounds.pullFrom_eq {count : Nat} {answer : Except GraphError (Option Frame)}
    (rounds : Rounds Filter.take i g count after answer) (ready : start.Ready)
    (evolves : start.Evolves g) : g.pullFrom i = (after, answer) := by
  induction rounds with
  | last answered => exact pullFrom_of_round ready evolves answered
  | next onward _ ih =>
    rw [pullFrom_of_round ready evolves onward]
    exact ih (less_of_round ready evolves onward).1

/-- Every pull comes to an end, whatever the sink does. -/
theorem exists_pullEnds (ready : start.Ready) (evolves : start.Evolves g)
    (take : σ → σ × Except Fault Offer) (id : NodeId) :
    ∃ count after answer, g.PullEnds take id count after answer := by
  cases sink : g.running id .sink with
  | error e => exact ⟨0, g, _, .refused sink⟩
  | ok n =>
    cases fed : g.failedFeeder id.index with
    | some j => exact ⟨0, g, _, .unfed sink fed⟩
    | none =>
      obtain ⟨count, after, answer, rounds⟩ := exists_rounds ready evolves take id.index
      exact ⟨count, after, answer, .rounds sink fed rounds⟩

/-- It ends with what the pull gives. -/
theorem PullEnds.pull_eq {count : Nat} {answer : Except GraphError (Option Frame)}
    (ends : g.PullEnds Filter.take id count after answer) (ready : start.Ready)
    (evolves : start.Evolves g) : g.pull id = (after, answer) := by
  unfold pull
  cases ends with
  | refused none => simp only [none]
  | unfed sink failed => simp only [sink, failed]
  | rounds sink fed rounds =>
    simp only [sink, fed]
    exact rounds.pullFrom_eq ready evolves

theorem pullEnds_pull (ready : start.Ready) (evolves : start.Evolves g) (id : NodeId) :
    ∃ count, g.PullEnds Filter.take id count (g.pull id).1 (g.pull id).2 := by
  obtain ⟨count, after, answer, ends⟩ := exists_pullEnds ready evolves Filter.take id
  rw [ends.pull_eq ready evolves]
  exact ⟨count, ends⟩

theorem drainEnds_drainOnto (ready : start.Ready) (evolves : start.Evolves g) (id : NodeId)
    (frames : List Frame) :
    ∃ pulls got, g.DrainEnds id pulls (drainOnto frames g id).1 got ∧
      (drainOnto frames g id).2 = got.map (·.reverse ++ frames) := by
  fun_induction drainOnto frames g id with
  | case1 frames g after e pulling =>
    obtain ⟨count, ends⟩ := pullEnds_pull ready evolves id
    rw [pulling] at ends
    exact ⟨1, .error e, .failed ends, rfl⟩
  | case2 frames g after pulling =>
    obtain ⟨count, ends⟩ := pullEnds_pull ready evolves id
    rw [pulling] at ends
    exact ⟨1, .ok [], .last ends, rfl⟩
  | case3 frames g between frame pulling ih =>
    obtain ⟨count, ends⟩ := pullEnds_pull ready evolves id
    have onto := (g.runs_pull id).evolves
    rw [pulling] at ends onto
    obtain ⟨pulls, got, later, same⟩ := ih (evolves.trans onto)
    refine ⟨pulls + 1, got.map (frame :: ·), .next ends later, ?_⟩
    rw [same]
    cases got with
    | error e => rfl
    | ok got => simp [Except.map]

theorem drainEnds_drain (ready : start.Ready) (evolves : start.Evolves g) (id : NodeId) :
    ∃ pulls, g.DrainEnds id pulls (g.drain id).1 (g.drain id).2 := by
  obtain ⟨pulls, got, ends, same⟩ := drainEnds_drainOnto ready evolves id []
  have frames : (g.drain id).2 = got := by
    show (drainOnto [] g id).2.map List.reverse = got
    rw [same]
    cases got with
    | error e => rfl
    | ok got => simp [Except.map]
  exact ⟨pulls, frames ▸ ends⟩

end FrameFlow.Graph
