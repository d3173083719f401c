import FrameFlow.Filter.Script
import FrameFlow.Filter.Sum
import FrameFlow.Proofs.Flow.Running

/-! What failed nodes mean for sinks that they do not feed. A pull fails by a call that it makes,
or it comes upon a node that failed before and still has work. -/
namespace FrameFlow.Graph

variable {σ : Type} {g h : Graph σ} {i j : Nat}

/-- Neither the node nor anything that feeds it has failed. -/
def Healthy (g : Graph σ) (i : Nat) : Prop := ∀ ⦃j⦄, g.LeadsTo j i → g.hasFailed j = false

theorem failedFeeder_eq_none_iff (wired : g.Wired) (inside : i < g.nodes.size) :
    g.failedFeeder i = none ↔ g.Healthy i := by
  simp only [failedFeeder, List.find?_eq_none, wired.mem_reachedFrom_feeders_iff inside,
    Bool.not_eq_true]
  rfl

theorem hasFailed_iff {n : Node σ} (there : g.nodes[i]? = some n) :
    g.hasFailed i ↔ n.life = .failed := by
  simp [hasFailed, there]

theorem Healthy.usable (healthy : g.Healthy i) {n : Node σ} (there : g.nodes[i]? = some n) :
    n.life ≠ .failed := by
  intro failed
  have fails := (hasFailed_iff there).2 failed
  simp [healthy .refl] at fails

theorem hasFailed_of_life (same : h.nodes[j]?.map Node.life = g.nodes[j]?.map Node.life) :
    h.hasFailed j = g.hasFailed j := by
  have view : ∀ g : Graph σ, g.hasFailed j = (g.nodes[j]?.map Node.life == some .failed) := by
    intro g
    unfold hasFailed
    split
    · next there => rw [there, Option.map_some, Option.some_beq_some]
    · next none => rw [none]; rfl
  rw [view, view, same]

variable [Filter σ]

/-- Only a call that fails makes a node fail. -/
theorem Happens.hasFailed_eq {e : Event σ} (wired : g.Wired) (event : g.Happens e h)
    (sound : ∀ c, e = .invoked c → c.turn.fault = none) : h.hasFailed j = g.hasFailed j := by
  refine hasFailed_of_life ?_
  rw [event.nodes wired, Option.map_map]
  cases there : g.nodes[j]? with
  | none => rfl
  | some n =>
    simp only [Option.map_some, Function.comp_apply, Option.some.injEq]
    unfold Event.effect
    split
    · split <;> rfl
    · split <;> rfl
    · split <;> rfl
    · next c =>
      show (if j = c.index then c.left else n).life = n.life
      split
      · next here =>
        obtain ⟨at_node, takes⟩ := event.takes
        obtain rfl := Option.some.inj (there.symm.trans (here ▸ at_node))
        simp [Invocation.left, sound c rfl, Node.closeOutputs, takes.life]
      · rfl

theorem hasWorkAt_askSink {n : Node σ} {asked : Graph σ} {offer : Except Fault Offer}
    (there : g.nodes[i]? = some n) (asking : g.askSink i n = (asked, offer)) :
    asked.hasWorkAt j = g.hasWorkAt j := by
  unfold hasWorkAt
  rw [nodes_askSink there asking]
  cases g.nodes[j]? with
  | none => rfl
  | some m =>
    simp only [Option.map_some]
    split <;> rfl

theorem hasFailed_askSink {n : Node σ} {asked : Graph σ} {offer : Except Fault Offer}
    (there : g.nodes[i]? = some n) (asking : g.askSink i n = (asked, offer)) :
    asked.hasFailed j = g.hasFailed j := by
  refine hasFailed_of_life ?_
  rw [nodes_askSink there asking, Option.map_map]
  congr 1
  funext m
  simp only [Function.comp_apply]
  split <;> rfl

section Pull

variable {after : Graph σ} {es : List (Event σ)} {answer : Except GraphError (Option Frame)}

/-- The sink has nothing yet, and the first node with work is one that had failed before. -/
structure HeldUp (g : Graph σ) (i : Nat) (es : List (Event σ)) (after : Graph σ) (j : Nat) :
    Prop where
  waiting : ∃ earlier, es = earlier ++ [.asked i (.ok .again)]
  first : ∃ m, after.nextToWork = some (j, m)
  failed : g.hasFailed j

omit [Filter σ] in
theorem HeldUp.last_eq (held : HeldUp g i es after j) {e : Event σ} (last : es.getLast? = some e) :
    e = .asked i (.ok .again) := by
  obtain ⟨earlier, rfl⟩ := held.waiting
  rw [List.getLast?_concat] at last
  exact (Option.some.inj last).symm

omit [Filter σ] in
/-- Whether a pull is held up is told by its last events. -/
theorem heldUp_append_iff {earlier : List (Event σ)} (some_event : es ≠ [])
    (same : h.hasFailed j = g.hasFailed j) :
    HeldUp g i (earlier ++ es) after j ↔ HeldUp h i es after j := by
  constructor
  · intro held
    obtain ⟨before, e, rfl⟩ := (List.eq_nil_or_concat' es).resolve_left some_event
    obtain rfl := held.last_eq (e := e) (by simp)
    exact ⟨⟨before, rfl⟩, held.first, same ▸ held.failed⟩
  · rintro ⟨⟨before, rfl⟩, first, failed⟩
    exact ⟨⟨earlier ++ before, (List.append_assoc _ _ _).symm⟩, first, same ▸ failed⟩

/-- A round that goes well makes one call, of a node with work. It fails no node, and only nodes
that the called one feeds get work. -/
theorem round_ok {n : Node σ} {asked : Graph σ} (wired : g.Wired) (configured : g.configured)
    (there : g.nodes[i]? = some n) (asking : g.askSink i n = (asked, .ok .again))
    (stepping : asked.step = some (after, .ok ())) :
    ∃ c, asked.stepEvents = [.invoked c] ∧ g.Evolves after ∧
      (∀ j, after.hasFailed j = g.hasFailed j) ∧ g.hasWorkAt c.index ∧
      ∀ j, j ≠ c.index → ¬g.Feeds c.index j → after.hasWorkAt j = g.hasWorkAt j := by
  have evolves := evolves_askSink there asking
  have wired' := evolves.wired wired
  obtain ⟨c, events, sound, event⟩ := step_ok (evolves.configured ▸ configured) stepping
  refine ⟨c, events, evolves.trans event.evolves, fun j => ?_, ?_, fun j other unfed => ?_⟩
  · rw [event.hasFailed_eq wired' fun d same => by cases same; exact sound,
      hasFailed_askSink there asking]
  · rw [← hasWorkAt_askSink there asking]
    exact List.find?_some event.first
  · have same := event.nodes_of_unfed wired' other (by rwa [evolves.feeds])
    rw [← hasWorkAt_askSink there asking]
    simp only [hasWorkAt, same]

/-- A pull that fails tells of a call that it made, or of a node that failed before. -/
theorem Pulls.error_cases (wired : g.Wired) (configured : g.configured)
    (pulls : Pulls i g es after answer) {e : GraphError} (failed : answer = .error e) :
    (∃ fault, .asked i (.error fault) ∈ es ∧ e = .pull (g.handle i) fault) ∨
      (∃ c fault, .invoked c ∈ es ∧ c.turn.fault = some fault ∧
        e = .pull (g.handle c.index) fault) ∨
      ∃ j, e = .invalidOperation (g.handle j) .failedEarlier := by
  induction pulls with
  | @answered g asked n offer there asking final =>
    left
    cases offer with
    | error fault => exact ⟨fault, List.mem_singleton_self _, (Except.error.inj failed).symm⟩
    | ok offer => cases offer <;> simp [answerOf] at failed
  | idle => simp at failed
  | @stuck g asked after n e' there asking stepping =>
    right
    obtain rfl := Except.error.inj failed
    have evolves := evolves_askSink there asking
    have same : ∀ j, asked.handle j = g.handle j := fun j => by simp [handle, evolves.id]
    obtain ⟨j, m, _, _, _, _, rfl⟩ | ⟨c, fault, events, found, _, rfl⟩ :=
      step_error (evolves.configured ▸ configured) stepping
    · exact .inr ⟨j, by rw [same]⟩
    · exact .inl ⟨c, fault, by simp [events], found, by rw [same]⟩
  | halted => simp at failed
  | @onward g asked after last n es answer there asking stepping _ later ih =>
    obtain ⟨c, events, evolves, _⟩ := round_ok wired configured there asking stepping
    have same : ∀ j, after.handle j = g.handle j := fun j => by simp [handle, evolves.id]
    obtain ⟨fault, asks, rfl⟩ | ⟨d, fault, called, found, rfl⟩ | ⟨j, rfl⟩ :=
      ih (evolves.wired wired) (evolves.configured ▸ configured) failed
    · exact .inl ⟨fault, List.mem_append_right _ asks, by rw [same]⟩
    · exact .inr (.inl ⟨d, fault, List.mem_append_right _ called, found, by rw [same]⟩)
    · exact .inr (.inr ⟨j, by rw [same]⟩)

/-- A pull blames an earlier failure just where it is held up. -/
theorem Pulls.heldUp_iff (wired : g.Wired) (configured : g.configured)
    (pulls : Pulls i g es after answer) :
    answer = .error (.invalidOperation (g.handle j) .failedEarlier) ↔ HeldUp g i es after j := by
  induction pulls with
  | @answered g asked n offer there asking final =>
    constructor
    · intro blames
      cases offer with
      | error fault => simp [answerOf] at blames
      | ok offer => cases offer <;> simp [answerOf] at blames
    · intro held
      have last := held.last_eq rfl
      exact absurd (Event.asked.inj last).2 final
  | @idle g asked n there asking quiet =>
    constructor
    · simp
    · rintro ⟨_, ⟨m, first⟩, failed⟩
      rw [← hasFailed_askSink there asking,
        hasFailed_iff (nextToWork_eq_some_iff.1 first).2] at failed
      simp [step, first, failed] at quiet
  | @stuck g asked after n e there asking stepping =>
    have evolves := evolves_askSink there asking
    have same : ∀ j, asked.handle j = g.handle j := fun j => by simp [handle, evolves.id]
    obtain ⟨k, m, first, failed, rfl, none, rfl⟩ | ⟨c, fault, events, _, _, rfl⟩ :=
      step_error (evolves.configured ▸ configured) stepping
    · have at_node := (nextToWork_eq_some_iff.1 first).2
      rw [none, same]
      constructor
      · intro blames
        simp only [Except.error.injEq, GraphError.invalidOperation.injEq, handle, NodeId.mk.injEq,
          true_and, and_true] at blames
        subst blames
        refine ⟨⟨[], rfl⟩, ⟨m, first⟩, ?_⟩
        rw [← hasFailed_askSink there asking, hasFailed_iff at_node]
        exact failed
      · rintro ⟨_, ⟨m', first'⟩, _⟩
        obtain ⟨rfl, _⟩ := Prod.mk.inj (Option.some.inj (first.symm.trans first'))
        rfl
    · constructor
      · simp
      · intro held
        rw [events] at held
        cases held.last_eq rfl
  | @halted g asked after n there asking stepping _ =>
    obtain ⟨c, events, _⟩ := round_ok wired configured there asking stepping
    constructor
    · simp
    · intro held
      rw [events] at held
      cases held.last_eq rfl
  | @onward g asked after last n es answer there asking stepping _ later ih =>
    obtain ⟨c, events, evolves, failures, _⟩ := round_ok wired configured there asking stepping
    have same : g.handle j = after.handle j := by simp [handle, evolves.id]
    have some_event : es ≠ [] := by cases later <;> simp
    rw [same, ih (evolves.wired wired) (evolves.configured ▸ configured),
      heldUp_append_iff some_event (failures j)]

/-- A failed node without work, which no node with work leads to, holds up no pull. -/
theorem Pulls.not_heldUp (wired : g.Wired) (configured : g.configured)
    (pulls : Pulls i g es after answer)
    (settled : ∀ j, g.hasFailed j → ∀ k, g.LeadsTo k j → g.hasWorkAt k = false) :
    ¬HeldUp g i es after j := by
  rw [← pulls.heldUp_iff wired configured]
  induction pulls with
  | @answered g asked n offer there asking final =>
    cases offer with
    | error fault => simp [answerOf]
    | ok offer => cases offer <;> simp [answerOf]
  | idle => simp
  | @stuck g asked after n e there asking stepping =>
    have evolves := evolves_askSink there asking
    obtain ⟨k, m, first, failed, rfl, _⟩ | ⟨c, fault, _, _, _, rfl⟩ :=
      step_error (evolves.configured ▸ configured) stepping
    · obtain ⟨found, at_node⟩ := nextToWork_eq_some_iff.1 first
      have works := List.find?_some found
      rw [hasWorkAt_askSink there asking] at works
      rw [← hasFailed_iff at_node, hasFailed_askSink there asking] at failed
      simp [settled k failed k .refl] at works
    · simp
  | halted => simp
  | @onward g asked after last n es answer there asking stepping _ later ih =>
    obtain ⟨c, _, evolves, failures, busy, others⟩ :=
      round_ok wired configured there asking stepping
    have same : g.handle j = after.handle j := by simp [handle, evolves.id]
    rw [same]
    refine ih (evolves.wired wired) (evolves.configured ▸ configured) fun j failed k leads => ?_
    rw [failures] at failed
    rw [LeadsTo, evolves.feeds] at leads
    rw [others k]
    · exact settled j failed k leads
    · rintro rfl
      simp [settled j failed c.index leads] at busy
    · intro fed
      simp [settled j failed c.index (.head fed leads)] at busy

/-- A pull whose first round fails. -/
theorem pull_eq_of_stuck {id : NodeId} {n : Node σ} {e : GraphError}
    (sink : g.running id .sink = .ok n) (fed : g.failedFeeder id.index = none)
    (waiting : (g.askSink id.index n).2 = .ok .again)
    (stepping : (g.askSink id.index n).1.step = some (after, .error e)) :
    g.pull id = (after, .error e) ∧
      g.pullEvents id = .asked id.index (.ok .again) :: (g.askSink id.index n).1.stepEvents := by
  have there := (running_eq_ok_iff.1 sink).2.2.1
  have asking : g.askSink id.index n = ((g.askSink id.index n).1, .ok .again) :=
    Prod.ext rfl waiting
  constructor
  · unfold pull
    simp only [sink, fed, pullFrom_of_again there asking, stepping]
  · unfold pullEvents
    simp only [sink, fed, pullFromEvents_of_again there asking, stepping]
    simp

end Pull

/-- A source that fails at its first frame. -/
def broken : Kind (BuiltIn ⊕ Script) where
  name := "broken"
  description := ""
  role := .source
  inputs := []
  outputs := [.named "default"]
  options := []
  dynamicInputs := false
  dynamicOutputs := false
  initial := .inr ⟨[], [.named "default"], none, .formats [⟨48000, 2⟩], [[.fail "broken"]], [], [],
    .unsupported, .empty, false⟩

/-- A graph of built-in filters and one that is broken, without any nodes. -/
def blankOrBroken : Graph (BuiltIn ⊕ Script) :=
  ⟨⟨0⟩, .assemble (BuiltIn.kinds.map (Kind.map .inl)) [broken], .default, #[], #[], false, [],
    ⟨0, 0, 0, 0⟩⟩

/-- The calls that link a broken source to one sink and a sound source to another, and push two
frames into the broken source. -/
def twoPipelines : List Call :=
  [.allocate "broken", .allocate "buffersink", .allocate "buffer", .allocate "buffersink",
    .setUp ⟨⟨0⟩, 0⟩, .setUp ⟨⟨0⟩, 1⟩, .setUp ⟨⟨0⟩, 2⟩, .setUp ⟨⟨0⟩, 3⟩,
    .link ⟨⟨0⟩, 0⟩ 0 ⟨⟨0⟩, 1⟩ 0, .link ⟨⟨0⟩, 2⟩ 0 ⟨⟨0⟩, 3⟩ 0, .configure,
    .request (.push ⟨⟨0⟩, 0⟩ (some ⟨⟨48000, 2⟩, none, .empty⟩)),
    .request (.push ⟨⟨0⟩, 0⟩ (some ⟨⟨48000, 2⟩, none, .empty⟩))]

def fedBroken : Graph (BuiltIn ⊕ Script) := twoPipelines.foldl Graph.after blankOrBroken

theorem size_fedBroken : 3 < fedBroken.nodes.size := by decide +kernel

/-- What the first pull from the other sink leaves: the broken source has failed with a frame
left. -/
def failedBroken : Graph (BuiltIn ⊕ Script) :=
  let asked := (fedBroken.askSink 3 (getElem fedBroken.nodes 3 size_fedBroken)).1
  (asked.step.getD (asked, .ok ())).1

theorem pull_fedBroken : fedBroken.after (.request (.pull ⟨⟨0⟩, 3⟩)) = failedBroken := by
  have sink : fedBroken.running ⟨⟨0⟩, 3⟩ .sink = .ok (getElem fedBroken.nodes 3 size_fedBroken) :=
    running_eq_ok_iff.2 ⟨by decide +kernel, by decide +kernel, Array.getElem?_eq_getElem _,
      by decide +kernel, by decide +kernel⟩
  have waiting : (fedBroken.askSink 3 (getElem fedBroken.nodes 3 size_fedBroken)).2 = .ok .again := by
    decide +kernel
  have outcome : (fedBroken.askSink 3 (getElem fedBroken.nodes 3 size_fedBroken)).1.step.map Prod.snd =
      some (.error (.pull ⟨⟨0⟩, 0⟩ (.failed "broken"))) := by decide +kernel
  obtain ⟨⟨after, answer⟩, stepping, rfl⟩ := Option.map_eq_some_iff.1 outcome
  have pulled := pull_eq_of_stuck sink (by decide +kernel) waiting stepping
  show (fedBroken.pull ⟨⟨0⟩, 3⟩).1 = failedBroken
  rw [pulled.1, failedBroken]
  simp only [stepping, Option.getD_some]

theorem size_failedBroken : 3 < failedBroken.nodes.size := by decide +kernel

theorem reachable_failedBroken : failedBroken.Reachable := by
  have created : Graph.create ⟨0⟩ blankOrBroken.registry .default = .ok blankOrBroken := by rfl
  rw [← pull_fedBroken]
  exact .called _ ((Reachable.created created).calls twoPipelines)

theorem running_failedBroken :
    failedBroken.running ⟨⟨0⟩, 3⟩ .sink = .ok (getElem failedBroken.nodes 3 size_failedBroken) :=
  running_eq_ok_iff.2 ⟨by decide +kernel, by decide +kernel, Array.getElem?_eq_getElem _,
    by decide +kernel, by decide +kernel⟩

theorem healthy_failedBroken : failedBroken.Healthy 3 :=
  (failedFeeder_eq_none_iff reachable_failedBroken.wired size_failedBroken).1 (by decide +kernel)

theorem pull_failedBroken :
    (failedBroken.pull ⟨⟨0⟩, 3⟩).2 = .error (.invalidOperation ⟨⟨0⟩, 0⟩ .failedEarlier) ∧
      failedBroken.pullEvents ⟨⟨0⟩, 3⟩ = [.asked 3 (.ok .again)] := by
  have waiting : (failedBroken.askSink 3 (getElem failedBroken.nodes 3 size_failedBroken)).2 =
      .ok .again := by decide +kernel
  have outcome : (failedBroken.askSink 3 (getElem failedBroken.nodes 3 size_failedBroken)).1.step.map
      Prod.snd = some (.error (.invalidOperation ⟨⟨0⟩, 0⟩ .failedEarlier)) := by decide +kernel
  have uncalled : (failedBroken.askSink 3
      (getElem failedBroken.nodes 3 size_failedBroken)).1.stepEvents.length = 0 := by decide +kernel
  obtain ⟨⟨after, answer⟩, stepping, rfl⟩ := Option.map_eq_some_iff.1 outcome
  have pulled := pull_eq_of_stuck running_failedBroken (by decide +kernel) waiting stepping
  rw [List.length_eq_zero_iff.1 uncalled] at pulled
  exact ⟨congrArg Prod.snd pulled.1, pulled.2⟩

end FrameFlow.Graph
