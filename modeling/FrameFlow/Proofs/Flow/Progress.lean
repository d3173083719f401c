import FrameFlow.Proofs.Flow.Isolation
import Mathlib.Algebra.GroupWithZero.Nat

/-! Pulls run on until their sink has an answer or no node has work. A call takes work from the
node called and gives work to later nodes of the schedule only, so every step lowers the load. -/
namespace FrameFlow

variable {σ : Type}

theorem sum_map_set {α : Type} {l : List α} {i : Nat} {a b : α} (f : α → Nat) (there : l[i]? = some a) :
    ((l.set i b).map f).sum + f a = (l.map f).sum + f b := by
  induction l generalizing i with
  | nil => simp at there
  | cons c rest ih =>
    cases i with
    | zero =>
      obtain rfl : c = a := by simpa using there
      simp only [List.set_cons_zero, List.map_cons, List.sum_cons]
      omega
    | succ i =>
      have := ih (i := i) (by simpa using there)
      simp only [List.set_cons_succ, List.map_cons, List.sum_cons]
      omega

namespace Load

theorem lowers_iff_less {same lower : Nat → Bool} {after before : Nat → Nat} {places : List Nat}
    (same_iff : ∀ i, same i ↔ after i = before i) (lower_iff : ∀ i, lower i ↔ after i < before i) :
    lowers same lower places ↔ Less (places.map after) (places.map before) := by
  refine ⟨less_of_lowers (fun i => (same_iff i).1) (fun i => (lower_iff i).1), fun less => ?_⟩
  induction places with
  | nil => exact less.elim
  | cons i later ih =>
    unfold lowers
    rcases less with ⟨lower, _⟩ | ⟨equal, less⟩
    · have differs : ¬same i := fun equal => Nat.ne_of_lt lower ((same_iff i).1 equal)
      rw [if_neg differs]
      exact (lower_iff i).2 lower
    · rw [if_pos ((same_iff i).2 equal)]
      exact ih less

theorem less_of_split {after before : Nat → Nat} {i : Nat} {first later : List Nat}
    (same : ∀ j ∈ first, after j = before j) (lower : after i < before i) :
    Less ((first ++ i :: later).map after) ((first ++ i :: later).map before) := by
  induction first with
  | nil => exact .inl ⟨lower, by simp⟩
  | cons j rest ih =>
    exact .inr ⟨same j List.mem_cons_self, ih fun k member => same k (List.mem_cons_of_mem _ member)⟩

end Load

/-- The work that waits at one inlet. -/
def Inlet.pending (p : Inlet) : Nat := p.queue.size + if p.told then 0 else 1

namespace Node

variable {n m : Node σ} {work : Work}

theorem pending_eq (n : Node σ) :
    n.pending = n.feed.size + (n.inputs.map Inlet.pending).sum + if n.flushed then 0 else 1 := by
  have inlets : ∀ l : List Inlet, l.foldr (fun p total => p.queue.size + total) 0 +
      l.countP (!·.told) = (l.map Inlet.pending).sum := by
    intro l
    induction l with
    | nil => rfl
    | cons p rest ih =>
      simp only [List.foldr_cons, List.countP_cons, List.map_cons, List.sum_cons, ← ih,
        Inlet.pending]
      cases p.told <;> simp <;> omega
  simp only [pending, queued, ← inlets]
  omega

/-- Every unit of work that is taken leaves one less, however the work at an inlet is counted, if only
frames and ends that were not told of count there. -/
theorem Takes.total_succ {count : Inlet → Nat}
    (of_frame : ∀ (p : Inlet) {frame : Frame} {queue : Queue Frame},
      p.queue.toList = frame :: queue.toList → count { p with queue } + 1 = count p)
    (of_end : ∀ p : Inlet, p.ended → p.told = false → count { p with told := true } + 1 = count p)
    (takes : n.Takes work m) :
    m.feed.size + (m.inputs.map count).sum + (if m.flushed then 0 else 1) + 1 =
      n.feed.size + (n.inputs.map count).sum + if n.flushed then 0 else 1 := by
  cases takes with
  | @fed frame feed _ first =>
    have shorter : n.feed.size = feed.size + 1 := by simp [Queue.size_eq_length, first]
    dsimp only
    omega
  | feedOver _ _ _ fresh =>
    simp only [fresh, Bool.false_eq_true, if_true, if_false]
  | @frame pad p frame queue _ at_pad first =>
    have moved := sum_map_set (b := { p with queue }) count at_pad
    have fewer := of_frame p first
    dsimp only
    omega
  | @endOfInput pad p _ _ at_pad ended untold =>
    have moved := sum_map_set (b := { p with told := true }) count at_pad
    have fewer := of_end p ended untold
    dsimp only
    omega
  | flush _ _ _ _ fresh =>
    simp only [fresh, Bool.false_eq_true, if_true, if_false]

theorem Takes.pending_succ (takes : n.Takes work m) : m.pending + 1 = n.pending := by
  rw [pending_eq, pending_eq]
  refine takes.total_succ (fun p frame queue first => ?_) fun p _ untold => ?_
  · have shorter : p.queue.size = queue.size + 1 := by simp [Queue.size_eq_length, first]
    simp only [Inlet.pending, shorter]
    omega
  · simp [Inlet.pending, untold]

/-- What arrives at a node only adds work. -/
theorem pending_le_receive (n : Node σ) (sent : List (Nat × Frame)) (ends : List Nat) :
    n.pending ≤ (n.receive sent ends).pending := by
  have inlets : (n.inputs.map Inlet.pending).sum ≤
      ((n.receive sent ends).inputs.map Inlet.pending).sum := by
    show _ ≤ ((n.inputs.map (Inlet.receive sent ends)).map Inlet.pending).sum
    induction n.inputs with
    | nil => exact Nat.le_refl _
    | cons p rest ih =>
      have here : p.pending ≤ (p.receive sent ends).pending := by
        simp only [Inlet.pending, Queue.size_eq_length, Inlet.toList_queue_receive,
          List.length_append]
        exact Nat.add_le_add_right (Nat.le_add_right _ _) _
      exact Nat.add_le_add here ih
  simp only [pending_eq]
  exact Nat.add_le_add_right (Nat.add_le_add_left inlets _) _

end Node

namespace Graph

variable {g h start : Graph σ} {i j : Nat}

theorem samePendingAt_iff {before : Graph σ} :
    g.samePendingAt before i ↔ g.pendingAt i = before.pendingAt i := by
  refine ⟨pendingAt_eq_of_samePendingAt, fun same => ?_⟩
  unfold samePendingAt
  split
  · next there there' =>
    rw [Node.samePending_iff]
    simpa [pendingAt, there, there'] using same
  · exact beq_iff_eq.2 same

theorem hasLowered_iff_less {before : Graph σ} (same : g.schedule = before.schedule) :
    g.hasLowered before ↔ Load.Less g.load before.load := by
  unfold hasLowered load
  rw [same]
  apply Load.lowers_iff_less
  · exact fun i => samePendingAt_iff
  · exact fun i => decide_eq_true_iff

/-- Nodes come after all that feed them. -/
theorem Schedules.split {order : List Nat} (schedules : g.Schedules order) (member : i ∈ order) :
    ∃ first later, order = first ++ i :: later ∧ ∀ j ∈ first, j ≠ i ∧ ¬g.Feeds i j := by
  obtain ⟨first, later, rfl⟩ := List.append_of_mem member
  have absent := not_mem_of_nodup schedules.nodup
  refine ⟨first, later, rfl, fun j early => ⟨?_, ?_⟩⟩
  · rintro rfl
    exact absent early
  · rintro ⟨l, link, rfl, rfl⟩
    have ordered := schedules.ordered l link
    have place := List.idxOf_lt_length_of_mem early
    rw [Earlier, List.idxOf_append_of_notMem absent, List.idxOf_append_of_mem early] at ordered
    omega

theorem Schedules.not_feeds_self {order : List Nat} (schedules : g.Schedules order) :
    ¬g.Feeds i i := by
  rintro ⟨l, link, source, target⟩
  have ordered := schedules.ordered l link
  rw [source, target] at ordered
  exact Earlier.irrefl ordered

variable [Filter σ]

/-- A unit of work at one place of the schedule is used up. The nodes before it are as they were, and
only those after it may have got more. -/
structure Spends (g after : Graph σ) (i : Nat) : Prop where
  unit : after.pendingAt i + 1 = g.pendingAt i
  later : ∃ before behind, g.schedule = before ++ i :: behind ∧
    (∀ j ∈ before, after.nodes[j]? = g.nodes[j]?) ∧
    ∀ j ∈ behind, g.pendingAt j ≤ after.pendingAt j

omit [Filter σ] in
theorem Spends.less {after : Graph σ} (spends : g.Spends after i)
    (same : after.schedule = g.schedule) : Load.Less after.load g.load := by
  obtain ⟨before, behind, order, unchanged, _⟩ := spends.later
  have unit := spends.unit
  unfold load
  rw [same, order]
  refine Load.less_of_split (fun j early => ?_) (by omega)
  simp only [pendingAt, unchanged j early]

/-- The node that is called has one unit of work less afterwards. -/
theorem Happens.pendingAt_succ {c : Invocation σ} (wired : g.Wired)
    (event : g.Happens (.invoked c) h) (alone : ¬g.Feeds c.index c.index) :
    h.pendingAt c.index + 1 = g.pendingAt c.index := by
  obtain ⟨there, takes⟩ := event.takes
  have left := Invocation.receive_of_unfed wired there takes.outputs there
    (takes.evolves.trans c.evolves_left) alone
  unfold pendingAt
  rw [event.nodes wired, there]
  simp only [Option.map_some, Option.getD_some, Event.effect, if_true, left]
  have same : c.left.pending = c.rest.pending := by
    unfold Invocation.left
    split <;> rfl
  rw [same]
  exact takes.pending_succ

/-- The other nodes have no less work than before. -/
theorem Happens.pendingAt_le {c : Invocation σ} (wired : g.Wired)
    (event : g.Happens (.invoked c) h) (other : j ≠ c.index) : g.pendingAt j ≤ h.pendingAt j := by
  unfold pendingAt
  rw [event.nodes wired]
  cases g.nodes[j]? with
  | none => exact Nat.le_refl _
  | some n =>
    simp only [Option.map_some, Option.getD_some, Event.effect, if_neg other]
    exact n.pending_le_receive _ _

/-- A call uses up a unit of work of the node called, and what it sends goes to later nodes. -/
theorem Happens.spends {c : Invocation σ} (ready : start.Ready) (evolves : start.Evolves g)
    (event : g.Happens (.invoked c) h) : g.Spends h c.index := by
  have wired := evolves.wired ready.wired
  have scheduled := List.mem_of_find?_eq_some event.first
  rw [evolves.schedule] at scheduled
  obtain ⟨before, behind, order, unfed⟩ := ready.schedules.split scheduled
  have alone := ready.schedules.not_feeds_self (i := c.index)
  rw [← evolves.feeds] at unfed alone
  refine ⟨event.pendingAt_succ wired alone, before, behind, evolves.schedule.trans order,
    fun j early => event.nodes_of_unfed wired (unfed j early).1 (unfed j early).2,
    fun j late => event.pendingAt_le wired ?_⟩
  rintro rfl
  have once := ready.schedules.nodup
  rw [order, List.nodup_append, List.nodup_cons] at once
  exact once.2.1.1 late

/-- Every step of a pull lowers the load, so no pull is given up. -/
theorem round_lowers (ready : start.Ready) (evolves : start.Evolves g) {n : Node σ}
    {asked after : Graph σ} (there : g.nodes[i]? = some n)
    (asking : g.askSink i n = (asked, .ok .again))
    (stepping : asked.step = some (after, .ok ())) : after.hasLowered g := by
  have onto := evolves.trans (evolves_askSink there asking)
  have schedule := (schedule_step stepping).trans (schedule_askSink asking)
  obtain ⟨c, _, _, event⟩ := step_ok (onto.configured ▸ ready.configured) stepping
  rw [hasLowered_iff_less schedule, ← load_askSink there asking]
  exact (event.spends ready onto).less event.evolves.schedule

omit [Filter σ] in
theorem hasWorkAt_iff {n : Node σ} (there : g.nodes[i]? = some n) : g.hasWorkAt i ↔ n.hasWork := by
  simp [hasWorkAt, there]

/-- Where no step can be taken, no node of the schedule has work. -/
theorem idle_of_step (quiet : g.step = none) : ∀ i ∈ g.schedule, g.hasWorkAt i = false := by
  have found_none : g.schedule.find? g.hasWorkAt = none := by
    cases found : g.schedule.find? g.hasWorkAt with
    | none => rfl
    | some i =>
      have works := List.find?_some found
      obtain none | ⟨n, there⟩ := g.nodes[i]?.eq_none_or_eq_some
      · simp [hasWorkAt, none] at works
      · have next := nextToWork_eq_some_iff.2 ⟨found, there⟩
        have gives := Node.takeWork_ne_none ((hasWorkAt_iff there).1 works)
        obtain ⟨⟨work, m⟩, taken⟩ := Option.ne_none_iff_exists'.1 gives
        simp only [step, next, taken] at quiet
        split at quiet <;> simp at quiet
  intro i member
  simpa using List.find?_eq_none.1 found_none i member

/-- A pull without a frame ends where the sink is over, or it waits and no node has work. -/
theorem Pulls.last_offer (ready : start.Ready) (evolves : start.Evolves g) {after : Graph σ}
    {es : List (Event σ)} {answer : Except GraphError (Option Frame)}
    (pulls : Pulls i g es after answer) (empty : answer = .ok none) :
    ∃ (n : Node σ) (offer : Except Fault Offer), after.nodes[i]? = some (n.asked offer) ∧
      (Filter.take n.filter).2 = offer ∧ (offer = .ok .ended ∨
        offer = .ok .again ∧ ∀ j ∈ after.schedule, after.hasWorkAt j = false) := by
  have taken : ∀ {g asked : Graph σ} {n : Node σ} {offer : Except Fault Offer},
      g.nodes[i]? = some n → g.askSink i n = (asked, offer) →
      asked.nodes[i]? = some (n.asked offer) ∧ (Filter.take n.filter).2 = offer := by
    intro g asked n offer there asking
    refine ⟨?_, congrArg Prod.snd asking⟩
    rw [nodes_askSink there asking, there, Option.map_some, if_pos rfl]
  induction pulls with
  | @answered g asked n offer there asking final =>
    obtain ⟨at_sink, same⟩ := taken there asking
    cases offer with
    | error fault => simp [answerOf] at empty
    | ok offer =>
      cases offer with
      | ready frame => simp [answerOf] at empty
      | again => exact absurd rfl final
      | ended => exact ⟨n, .ok .ended, at_sink, same, .inl rfl⟩
  | @idle g asked n there asking quiet =>
    obtain ⟨at_sink, same⟩ := taken there asking
    exact ⟨n, .ok .again, at_sink, same, .inr ⟨rfl, idle_of_step quiet⟩⟩
  | stuck => simp at empty
  | halted there asking stepping higher =>
    exact absurd (round_lowers ready evolves there asking stepping) higher
  | onward there asking stepping _ _ ih =>
    exact ih (evolves.trans ((evolves_askSink there asking).trans (evolves_step stepping))) empty

end Graph
end FrameFlow
