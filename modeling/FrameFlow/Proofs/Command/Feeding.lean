import FrameFlow.Command.Feed
import FrameFlow.Proofs.Flow.Safety
import FrameFlow.Proofs.Flow.Serving
import FrameFlow.Proofs.Graph.References

/-! Feeding and draining graphs of built-in filters. Nothing fails there, so all that can go wrong is a
feed without room. -/
namespace FrameFlow.Command

open FrameFlow.Graph

variable {start g h : Graph BuiltIn} {format : Nat → Format} {fs : List (Event BuiltIn)} {id : NodeId}
  {i : Nat} {n : Node BuiltIn}

/-- What was counted for some sinks. -/
def tally (sinks : List NodeId) (count : NodeId → Nat) : List (NodeId × Nat) :=
  sinks.map fun s => (s, count s)

/-- Counts to which the frames are added that were handed out since. -/
def adding (count : NodeId → Nat) (es : List (Event BuiltIn)) (s : NodeId) : Nat :=
  count s + (handedOut s.index es).length

theorem adding_append (count : NodeId → Nat) (es fs : List (Event BuiltIn)) :
    adding (adding count es) fs = adding count (es ++ fs) := by
  funext s
  rw [adding, adding, adding, handedOut_append, List.length_append, Nat.add_assoc]

theorem adding_of_silent (count : NodeId → Nat) (silent : ∀ i, handedOut i fs = []) :
    adding count fs = count := by
  funext s
  rw [adding, silent, List.length_nil, Nat.add_zero]

/-- A graph of built-in filters that runs, and the formats of its nodes. -/
structure Underway (start : Graph BuiltIn) (format : Nat → Format) (g : Graph BuiltIn) : Prop where
  ready : start.Ready
  ran : ∃ es, start.Runs es g
  fitted : g.Fitted
  unfailed : g.Unfailed
  formats : g.HasFormats format

namespace Underway

theorem runs (on : Underway start format g) (run : g.Runs fs h) : Underway start format h := by
  obtain ⟨es, before⟩ := on.ran
  obtain ⟨fitted, sound⟩ := on.fitted.runs on.ready before run
  exact ⟨on.ready, ⟨_, before.trans run⟩, fitted,
    on.unfailed.runs on.formats.wired run fun c => sound (.invoked c), on.formats.runs run⟩

theorem scheduled (on : Underway start format g) (live : g.isLiveAt i) : i ∈ g.schedule := by
  obtain ⟨es, before⟩ := on.ran
  exact on.ready.mem_schedule before live

/-- Every pull from a sink is answered. -/
theorem exists_pull_eq_ok (on : Underway start format g) (sink : g.running id .sink = .ok n) :
    ∃ got, (g.pull id).2 = .ok got := by
  obtain ⟨es, before⟩ := on.ran
  obtain ⟨_, sound⟩ := on.fitted.runs on.ready before (g.runs_pull id)
  exact on.unfailed.exists_pull_eq_ok on.formats.wired sink (fun c => sound (.invoked c))
    fun fault asked => absurd (sound _ asked) (Option.some_ne_none fault)

/-- A drain hands out what it returns. It ends where the sink is over or no node has work. -/
theorem exists_drain_eq_ok (on : Underway start format g) (sink : g.running id .sink = .ok n) :
    ∃ frames es h, g.drain id = (h, .ok frames) ∧ Draws id g frames es h ∧
      (h.isExhausted id = .ok true ∨ h.Idle) := by
  obtain ⟨frames, last, brings, ends, _⟩ := exists_drainOnto_eq [] g id
  obtain ⟨es, draws⟩ := brings.exists_draws
  have run := draws.serves.runs
  obtain ⟨m, sink', _⟩ := run.evolves.running sink
  obtain ⟨got, answer⟩ := (on.runs run).exists_pull_eq_ok sink'
  have nothing : got = none := by
    cases got with
    | none => rfl
    | some frame => simp [answer, broughtBy] at ends
  subst nothing
  obtain ⟨past, before⟩ := on.ran
  have whole := draws.trans (.pull answer)
  rw [Option.toList_none, List.append_nil] at whole
  refine ⟨frames, _, _, ?_, whole, on.ready.over_or_idle (before.trans run) answer⟩
  rw [brings.drain_eq ends, answer]
  rfl

/-- The first link of a source carries the format of its node. -/
theorem sourceFormat_eq (on : Underway start format g) (source : g.running id .source = .ok n) :
    sourceFormat g id = .ok (format id.index) := by
  obtain ⟨_, own, there, _, role⟩ := running_eq_ok_iff.1 source
  have scheduled := on.scheduled (isLiveAt_of_running source)
  have opens := List.length_pos_iff.2 (on.formats.opens scheduled there role)
  obtain ⟨k, noted⟩ := Option.isSome_iff_exists.1 (on.formats.linked scheduled there .output 0 opens)
  obtain ⟨l, link, ends⟩ := on.formats.wired.end_of_link? there noted
  have member : (k, l) ∈ g.linksOn .output id :=
    mem_linksOn_iff.2 ⟨own, link, congrArg Endpoint.node ends⟩
  obtain ⟨⟨j, first⟩, rest, links⟩ := List.exists_cons_of_ne_nil (List.ne_nil_of_mem member)
  obtain ⟨_, link, leaves⟩ := mem_linksOn_iff.1 (links ▸ List.mem_cons_self)
  have listed : g.linksFrom id = (j, first) :: rest := links
  have carried := on.formats.links link .output
  simp [sourceFormat, listed, carried, leaves]

/-- In a round frames go to the sources one by one, up to the first that takes none. -/
theorem exists_feedSources_eq_ok (on : Underway start format g) {sources : List NodeId}
    (going : ∀ s ∈ sources, g.Going s) (index : Nat) :
    ∃ all fs h, feedSources index sources g = .ok (all, h) ∧ g.Serves fs h ∧
      (∀ e ∈ fs, e.isPush) ∧ fs.length ≤ sources.length ∧ (all → fs.length = sources.length) := by
  induction sources generalizing g with
  | nil => exact ⟨true, [], g, rfl, .refl g, by simp, Nat.le_refl _, fun _ => rfl⟩
  | cons s rest ih =>
    obtain ⟨first, later⟩ := List.forall_mem_cons.1 going
    obtain ⟨n, source, -⟩ := first
    have carries := on.sourceFormat_eq source
    cases pushed : g.push s (some (syntheticFrame (format s.index) index)) with
    | error e =>
      refine ⟨false, [], g, ?_, .refl g, by simp, Nat.zero_le _, by simp⟩
      simp [feedSources, carries, pushed, bind, Except.bind]
    | ok h =>
      have one := Serves.push pushed
      have still : ∀ t ∈ rest, h.Going t := fun t member =>
        (later t member).push on.formats.wired pushed
      obtain ⟨all, fs, last, fed, serves, pushes, few, whole⟩ := ih (on.runs one.runs) still
      refine ⟨all, _, last, ?_, one.trans serves, ?_, ?_, ?_⟩
      · simp [feedSources, carries, pushed, fed, bind, Except.bind]
      · exact List.forall_mem_cons.2 ⟨rfl, pushes⟩
      · simpa using few
      · simpa using whole

/-- Where there is room in empty feeds, every source takes its frame. -/
theorem exists_feedSources_eq_true (on : Underway start format g) {sources : List NodeId}
    (going : ∀ s ∈ sources, g.Going s) (distinct : (sources.map NodeId.index).Nodup)
    (room : 0 < g.options.feedCapacity)
    (empty : ∀ s ∈ sources, ∀ n, g.nodes[s.index]? = some n → n.feed = .empty) (index : Nat) :
    ∃ h, feedSources index sources g = .ok (true, h) := by
  induction sources generalizing g with
  | nil => exact ⟨g, rfl⟩
  | cons s rest ih =>
    obtain ⟨first, later⟩ := List.forall_mem_cons.1 going
    obtain ⟨here, elsewhere⟩ := List.forall_mem_cons.1 empty
    obtain ⟨fresh, distinct⟩ := List.nodup_cons.1 distinct
    obtain ⟨n, source, still⟩ := first
    obtain ⟨_, _, there, _, role⟩ := running_eq_ok_iff.1 source
    have carries := on.sourceFormat_eq source
    have expects := on.formats.feedFormat_eq (on.scheduled (isLiveAt_of_running source)) there role
    have fits : ∀ f, g.feedFormat n = some f → (syntheticFrame (format s.index) index).format = f :=
      fun f known => Option.some.inj (expects.symm.trans known)
    obtain ⟨h, pushed, options, _⟩ :=
      exists_push_eq_ok source still (by simpa [here n there] using room) fits
    have one := Serves.push pushed
    have apart : ∀ t ∈ rest, t.index ≠ s.index := fun t member same =>
      fresh (List.mem_map.2 ⟨t, member, same⟩)
    have kept : ∀ t ∈ rest, h.nodes[t.index]? = g.nodes[t.index]? := by
      obtain ⟨m, source', _, _, rfl⟩ := push_some_eq_ok_iff.1 pushed
      intro t member
      exact (nodes_setNode there t.index).trans (if_neg (apart t member).symm)
    have going : ∀ t ∈ rest, h.Going t := fun t member =>
      (later t member).push on.formats.wired pushed
    obtain ⟨last, fed⟩ := ih (on.runs one.runs) going distinct (options ▸ room)
      fun t member m at_t => elsewhere t member m (kept t member ▸ at_t)
    exact ⟨last, by simp [feedSources, carries, pushed, fed, bind, Except.bind]⟩

/-- Draining all sinks hands out what is added to their counts, and leaves each of them over unless no
node has work. -/
theorem exists_drainSinks_eq_ok (on : Underway start format g) {sinks : List NodeId}
    (running : ∀ s ∈ sinks, ∃ n, g.running s .sink = .ok n) (distinct : (sinks.map NodeId.index).Nodup)
    (count : NodeId → Nat) :
    ∃ fs h, drainSinks (tally sinks count) g = .ok (tally sinks (adding count fs), h) ∧ g.Serves fs h ∧
      (∀ e ∈ fs, e.fedAt = none) ∧ (∀ j, j ∉ sinks.map NodeId.index → handedOut j fs = []) ∧
      ∀ s ∈ sinks, h.isExhausted s = .ok true ∨ h.Idle := by
  induction sinks generalizing g with
  | nil => exact ⟨[], g, rfl, .refl g, by simp, fun _ _ => rfl, by simp⟩
  | cons s rest ih =>
    obtain ⟨⟨n, sink⟩, others⟩ := List.forall_mem_cons.1 running
    obtain ⟨fresh, distinct⟩ := List.nodup_cons.1 distinct
    obtain ⟨frames, es, mid, drained, draws, ended⟩ := on.exists_drain_eq_ok sink
    have run := draws.serves.runs
    obtain ⟨fs, last, later, serves, unfed, elsewhere, settled⟩ :=
      ih (on.runs run) (run.running others) distinct
    have wired := run.evolves.wired on.formats.wired
    refine ⟨es ++ fs, last, ?_, draws.serves.trans serves,
      List.forall_mem_append.2 ⟨draws.unfed, unfed⟩, fun j outside => ?_,
      List.forall_mem_cons.2 ⟨?_, settled⟩⟩
    · have here : handedOut s.index (es ++ fs) = frames := by
        rw [handedOut_append, draws.here, elsewhere s.index fresh, List.append_nil]
      have there : tally rest (adding count (es ++ fs)) = tally rest (adding count fs) := by
        refine List.map_congr_left fun t member => ?_
        have apart : t.index ≠ s.index := fun same => fresh (List.mem_map.2 ⟨t, member, same⟩)
        rw [adding, adding, handedOut_append, draws.elsewhere t.index apart, List.nil_append]
      show drainSinks ((s, count s) :: tally rest count) g =
        .ok ((s, adding count (es ++ fs) s) :: tally rest (adding count (es ++ fs)), last)
      rw [there, adding, here]
      simp [drainSinks, drained, later, bind, Except.bind]
    · rw [List.map_cons, List.mem_cons, not_or] at outside
      rw [handedOut_append, draws.elsewhere j outside.1, elsewhere j outside.2, List.append_nil]
    · exact ended.imp (fun exhausted => serves.runs.isExhausted wired exhausted)
        fun idle => idle.runs wired serves.runs unfed

/-- Where no node has work, no frame waits in a source. -/
theorem feed_eq_empty_of_idle (on : Underway start format g) (idle : g.Idle)
    (source : g.running id .source = .ok n) : n.feed = .empty := by
  obtain ⟨_, _, there, _, role⟩ := running_eq_ok_iff.1 source
  obtain ⟨es, before⟩ := on.ran
  exact (Node.source_idle role (idle.hasWork_eq_false on.ready before there)).1

/-- The end of every source comes to it, if it did not before. -/
theorem exists_endSources_eq_ok (on : Underway start format g) {sources : List NodeId}
    (going : ∀ s ∈ sources, g.Going s) (distinct : (sources.map NodeId.index).Nodup) :
    ∃ h, endSources sources g = .ok h ∧ g.Serves (sources.map fun s => .ended s.index) h := by
  induction sources generalizing g with
  | nil => exact ⟨g, rfl, .refl g⟩
  | cons s rest ih =>
    obtain ⟨⟨n, source, still⟩, later⟩ := List.forall_mem_cons.1 going
    obtain ⟨fresh, distinct⟩ := List.nodup_cons.1 distinct
    have accepted := push_none_eq_ok_iff.2 ⟨n, source, still, rfl⟩
    have one := Serves.ended accepted
    have going : ∀ t ∈ rest, Going _ t := fun t member => by
      have apart : s.index ≠ t.index := fun same => fresh (List.mem_map.2 ⟨t, member, same.symm⟩)
      exact (later t member).runs on.formats.wired one.runs (by simp [Event.endsFeed, apart])
    obtain ⟨last, ended, serves⟩ := ih (on.runs one.runs) going distinct
    exact ⟨last, by simp [endSources, accepted, ended], one.trans serves⟩

end Underway
end FrameFlow.Command
