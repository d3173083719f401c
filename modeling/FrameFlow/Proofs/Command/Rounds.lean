import FrameFlow.Proofs.Command.Feeding

/-! Rounds of feeding. A source can only be without room where all sinks were over after the round before,
or where feeds hold nothing at all: a sink that is not over is drained until no node has work, and then
every feed is empty. -/
namespace FrameFlow.Command

open FrameFlow.Graph

variable {start g h before : Graph BuiltIn} {format : Nat → Format} {fs : List (Event BuiltIn)}
  {sources sinks : List NodeId} {index rounds : Nat} {count : NodeId → Nat}
  {counts counts' : List (NodeId × Nat)}

theorem isPush_of_unfed {e : Event BuiltIn} (unfed : e.fedAt = none) : e.isPush = false := by
  cases e <;> simp_all [Event.fedAt, Event.isPush]

theorem endsFeed_of_unfed {e : Event BuiltIn} (unfed : e.fedAt = none) (i : Nat) :
    e.endsFeed i = false := by
  cases e <;> simp_all [Event.fedAt, Event.endsFeed]

theorem endsFeed_of_isPush {e : Event BuiltIn} (push : e.isPush) (i : Nat) : e.endsFeed i = false := by
  cases e <;> simp_all [Event.isPush, Event.endsFeed]

theorem handedOut_of_pushes (pushes : ∀ e ∈ fs, e.isPush) (i : Nat) : handedOut i fs = [] := by
  refine List.flatMap_eq_nil_iff.2 fun e member => ?_
  have push := pushes e member
  cases e <;> simp_all [Event.isPush, Event.handsOut]

/-- A running graph with sources that still take frames and sinks to be drained. -/
structure Feedable (start : Graph BuiltIn) (format : Nat → Format) (sources sinks : List NodeId)
    (g : Graph BuiltIn) : Prop extends Underway start format g where
  going : ∀ s ∈ sources, g.Going s
  running : ∀ s ∈ sinks, ∃ n, g.running s .sink = .ok n
  sources_distinct : (sources.map NodeId.index).Nodup
  sinks_distinct : (sinks.map NodeId.index).Nodup

/-- There is room for a frame in the feed of every source. -/
def Roomy (sources : List NodeId) (g : Graph BuiltIn) : Prop :=
  0 < g.options.feedCapacity ∧ ∀ s ∈ sources, ∀ n, g.nodes[s.index]? = some n → n.feed = .empty

/-- Some sink is not over. -/
def SomeOpen (sinks : List NodeId) (g : Graph BuiltIn) : Prop :=
  ∃ s ∈ sinks, g.isExhausted s = .ok false

/-- What a round comes to. Feeding stops where a source has no room, or all frames are taken and the sinks
drained. -/
inductive Round (sources sinks : List NodeId) (index : Nat) (count : NodeId → Nat) (g : Graph BuiltIn)
    (es : List (Event BuiltIn)) (h : Graph BuiltIn) : Prop where
  | stopped (few : es.countP Event.isPush ≤ sources.length) (full : ¬Roomy sources g)
      (last : ∀ rounds, feedRounds sources (rounds + 1) index (tally sinks count) g =
        .ok (tally sinks (adding count es), h))
  | fed (all : es.countP Event.isPush = sources.length)
      (settled : ∀ s ∈ sinks, h.isExhausted s = .ok true ∨ h.Idle)
      (next : ∀ rounds, feedRounds sources (rounds + 1) index (tally sinks count) g =
        feedRounds sources rounds (index + 1) (tally sinks (adding count es)) h)

namespace Feedable

theorem runs (feedable : Feedable start format sources sinks g) (run : g.Runs fs h)
    (on : ∀ e ∈ fs, ∀ i, e.endsFeed i = false) : Feedable start format sources sinks h where
  toUnderway := feedable.toUnderway.runs run
  going s member := (feedable.going s member).runs feedable.formats.wired run fun e there =>
    on e there s.index
  running := run.running feedable.running
  sources_distinct := feedable.sources_distinct
  sinks_distinct := feedable.sinks_distinct

theorem exists_round (feedable : Feedable start format sources sinks g) (index : Nat)
    (count : NodeId → Nat) :
    ∃ fs h, g.Serves fs h ∧ (∀ e ∈ fs, ∀ i, e.endsFeed i = false) ∧
      Round sources sinks index count g fs h := by
  obtain ⟨all, fs, mid, fed, serves, pushes, few, whole⟩ :=
    feedable.exists_feedSources_eq_ok feedable.going index
  have counted : fs.countP Event.isPush = fs.length := List.countP_eq_length.2 pushes
  have on : ∀ e ∈ fs, ∀ i, e.endsFeed i = false := fun e member =>
    endsFeed_of_isPush (pushes e member)
  cases all with
  | false =>
    refine ⟨fs, mid, serves, on, .stopped (counted ▸ few) (fun ⟨room, empty⟩ => ?_) fun rounds => ?_⟩
    · obtain ⟨last, fed'⟩ := feedable.exists_feedSources_eq_true feedable.going
        feedable.sources_distinct room empty index
      simp [fed] at fed'
    · rw [adding_of_silent count (handedOut_of_pushes pushes)]
      simp [feedRounds, fed, bind, Except.bind]
  | true =>
    have after := feedable.runs serves.runs on
    obtain ⟨gs, last, drained, serves', unfed, _, settled⟩ := after.exists_drainSinks_eq_ok after.running
      after.sinks_distinct count
    have unpushed : gs.countP Event.isPush = 0 :=
      List.countP_eq_zero.2 fun e member => by simp [isPush_of_unfed (unfed e member)]
    refine ⟨fs ++ gs, last, serves.trans serves',
      List.forall_mem_append.2 ⟨on, fun e member => endsFeed_of_unfed (unfed e member)⟩,
      .fed ?_ settled fun rounds => ?_⟩
    · rw [List.countP_append, counted, unpushed, Nat.add_zero, whole rfl]
    · rw [← adding_append, adding_of_silent count (handedOut_of_pushes pushes)]
      simp [feedRounds, fed, drained, bind, Except.bind]

/-- Whether all rounds are made or not, feeding goes well. -/
theorem exists_feedRounds_eq_ok (feedable : Feedable start format sources sinks g) (rounds index : Nat)
    (count : NodeId → Nat) :
    ∃ fs h, feedRounds sources rounds index (tally sinks count) g =
        .ok (tally sinks (adding count fs), h) ∧ g.Serves fs h ∧ (∀ e ∈ fs, ∀ i, e.endsFeed i = false) ∧
      fs.countP Event.isPush ≤ rounds * sources.length := by
  induction rounds generalizing g index count with
  | zero =>
    refine ⟨[], g, ?_, .refl g, by simp, Nat.zero_le _⟩
    rw [feedRounds, adding_of_silent count fun _ => rfl]
  | succ rounds ih =>
    obtain ⟨fs, h, serves, on, round⟩ := feedable.exists_round index count
    cases round with
    | stopped few _ last =>
      exact ⟨fs, h, last rounds, serves, on,
        Nat.le_trans few (Nat.le_mul_of_pos_left _ (Nat.succ_pos rounds))⟩
    | fed all _ next =>
      obtain ⟨gs, last, later, serves', on', few⟩ :=
        ih (feedable.runs serves.runs on) (index + 1) (adding count fs)
      refine ⟨fs ++ gs, last, ?_, serves.trans serves', List.forall_mem_append.2 ⟨on, on'⟩, ?_⟩
      · rw [next, later, adding_append]
      · rw [List.countP_append, all, Nat.succ_mul]
        omega

/-- At the end every source is ended and every sink is drained, and no source takes anything more. -/
theorem exists_closing_eq_ok (feedable : Feedable start format sources sinks g) (count : NodeId → Nat) :
    ∃ fs h, (endSources sources g >>= drainSinks (tally sinks count)) =
        .ok (tally sinks (adding count fs), h) ∧ g.Serves fs h ∧ fs.countP Event.isPush = 0 ∧
      ∀ s ∈ sources, (accepted s.index fs).ended := by
  let ends : List (Event BuiltIn) := sources.map fun s => .ended s.index
  obtain ⟨mid, ended, serves⟩ :=
    feedable.exists_endSources_eq_ok feedable.going feedable.sources_distinct
  obtain ⟨fs, h, drained, serves', unfed, _⟩ :=
    (feedable.toUnderway.runs serves.runs).exists_drainSinks_eq_ok
      (serves.runs.running feedable.running) feedable.sinks_distinct count
  have silent (i : Nat) : handedOut i ends = [] := by
    simp [ends, handedOut, List.flatMap_map, Event.handsOut]
  refine ⟨ends ++ fs, h, ?_, serves.trans serves', ?_, fun s member => ?_⟩
  · rw [← adding_append, adding_of_silent count silent, ended, ok_bind, drained]
  · refine List.countP_eq_zero.2 fun e member => ?_
    rcases List.mem_append.1 member with ending | pulling
    · obtain ⟨s, _, rfl⟩ := List.mem_map.1 ending
      simp [Event.isPush]
    · simp [isPush_of_unfed (unfed e pulling)]
  · have told : (.ended s.index : Event BuiltIn) ∈ ends ++ fs :=
      List.mem_append_left _ (List.mem_map.2 ⟨s, member, rfl⟩)
    exact List.any_eq_true.2 ⟨_, told, beq_self_eq_true _⟩

theorem someOpen_or_over (feedable : Feedable start format sources sinks g) :
    SomeOpen sinks g ∨ ∀ s ∈ sinks, g.isExhausted s = .ok true := by
  by_cases still : SomeOpen sinks g
  · exact .inl still
  · refine .inr fun s member => ?_
    obtain ⟨n, sink⟩ := feedable.running s member
    cases exhausted : n.exhausted with
    | true => exact map_eq_ok_iff.2 ⟨n, sink, exhausted⟩
    | false => exact absurd ⟨s, member, map_eq_ok_iff.2 ⟨n, sink, exhausted⟩⟩ still

/-- A sink that is still open was open before. -/
theorem someOpen_of_runs (feedable : Feedable start format sources sinks g) (run : g.Runs fs h)
    (still : SomeOpen sinks h) : SomeOpen sinks g := by
  refine feedable.someOpen_or_over.resolve_right fun spent => ?_
  obtain ⟨s, member, unexhausted⟩ := still
  have stays := run.isExhausted feedable.formats.wired (spent s member)
  simp [stays] at unexhausted

/-- With a sink that is still open, a round leaves every feed empty. -/
theorem roomy_of_settled (feedable : Feedable start format sources sinks g)
    (settled : ∀ s ∈ sinks, g.isExhausted s = .ok true ∨ g.Idle) (room : 0 < g.options.feedCapacity)
    (still : SomeOpen sinks g) : Roomy sources g := by
  obtain ⟨s, member, unexhausted⟩ := still
  have idle : g.Idle := (settled s member).resolve_left fun exhausted => by
    simp [exhausted] at unexhausted
  refine ⟨room, fun t there n at_t => ?_⟩
  obtain ⟨m, source, _⟩ := feedable.going t there
  obtain rfl := Option.some.inj ((running_eq_ok_iff.1 source).2.2.1.symm.trans at_t)
  exact feedable.feed_eq_empty_of_idle idle source

/-- With room in all feeds, no source stops a round. -/
theorem exists_whole_round (feedable : Feedable start format sources sinks g) (roomy : Roomy sources g)
    (index : Nat) (count : NodeId → Nat) :
    ∃ fs h, Feedable start format sources sinks h ∧ h.options = g.options ∧
      h.stats.pushed = g.stats.pushed + sources.length ∧
      (∀ s ∈ sinks, h.isExhausted s = .ok true ∨ h.Idle) ∧
      ∀ rounds, feedRounds sources (rounds + 1) index (tally sinks count) g =
        feedRounds sources rounds (index + 1) (tally sinks (adding count fs)) h := by
  obtain ⟨fs, h, serves, on, round⟩ := feedable.exists_round index count
  have run := serves.runs
  cases round with
  | stopped _ full => exact absurd roomy full
  | fed whole settled next =>
    exact ⟨fs, h, feedable.runs run on, run.evolves.options, whole ▸ run.pushed_eq, settled, next⟩

theorem someOpen_of_feedRounds (feedable : Feedable start format sources sinks g)
    (earlier : feedRounds sources rounds index (tally sinks count) g = .ok (counts, before))
    (still : SomeOpen sinks before) : SomeOpen sinks g := by
  obtain ⟨_, last, fed, serves, _⟩ := feedable.exists_feedRounds_eq_ok rounds index count
  obtain ⟨_, rfl⟩ := Prod.mk.inj (Except.ok.inj (earlier.symm.trans fed))
  exact feedable.someOpen_of_runs serves.runs still

/-- Where some sink is still open before the last round, every source takes a frame in each round. -/
theorem pushed_of_someOpen (feedable : Feedable start format sources sinks g)
    (roomy : SomeOpen sinks g → Roomy sources g) (room : 0 < g.options.feedCapacity)
    (earlier : feedRounds sources rounds index (tally sinks count) g = .ok (counts, before))
    (still : SomeOpen sinks before)
    (all : feedRounds sources (rounds + 1) index (tally sinks count) g = .ok (counts', h)) :
    h.stats.pushed = g.stats.pushed + (rounds + 1) * sources.length := by
  induction rounds generalizing g index count with
  | zero =>
    have open_now := feedable.someOpen_of_feedRounds earlier still
    obtain ⟨_, mid, _, _, pushed, _, next⟩ := feedable.exists_whole_round (roomy open_now) index count
    rw [next] at all
    obtain ⟨_, rfl⟩ := Prod.mk.inj (Except.ok.inj all)
    rw [pushed, Nat.zero_add, Nat.one_mul]
  | succ rounds ih =>
    have open_now := feedable.someOpen_of_feedRounds earlier still
    obtain ⟨_, mid, feedable', options, pushed, settled, next⟩ :=
      feedable.exists_whole_round (roomy open_now) index count
    rw [next] at earlier all
    have room' : 0 < mid.options.feedCapacity := options ▸ room
    have later := ih feedable' (feedable'.roomy_of_settled settled room') room' earlier all
    rw [later, pushed, Nat.succ_mul (rounds + 1)]
    omega

end Feedable
end FrameFlow.Command
