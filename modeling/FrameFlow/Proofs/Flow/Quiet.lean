import FrameFlow.Filter.Script
import FrameFlow.Proofs.Flow.Faultless
import FrameFlow.Proofs.Stream.Pulling

/-! A sink with nothing to hand out waits until something is pushed into a source that leads to it.
No node that leads to it has work then, and calls elsewhere give no work to any of them. -/
namespace FrameFlow

variable {σ τ : Type}

/-- The source that an event feeds, or the feed of which it ends. -/
def Event.fedAt : Event σ → Option Nat
  | .pushed i _ | .ended i => some i
  | _ => none

/-- Only calls reach other nodes than the one where they happen. -/
theorem Event.effect_of_apart [Filter σ] {e : Event σ} {j : Nat} (uncalled : ∀ c, e ≠ .invoked c)
    (apart : j ≠ e.place) : e.effect j = id := by
  funext n
  cases e with
  | invoked c => exact absurd rfl (uncalled c)
  | _ => exact if_neg apart

namespace Graph

/-- No node that leads to some place has work. -/
def Quiet (g : Graph σ) (i : Nat) : Prop := ∀ ⦃j⦄, g.LeadsTo j i → g.hasWorkAt j = false

variable {g h start : Graph σ} {e : Event σ} {es : List (Event σ)} {i j : Nat}

theorem Wired.isLiveAt_of_leadsTo (wired : g.Wired) (leads : g.LeadsTo j i) (live : g.isLiveAt i) :
    g.isLiveAt j := by
  rcases leads.cases_head with rfl | ⟨_, first, _⟩
  · exact live
  · exact (wired.isLiveAt_of_feeds first).1

variable [Filter σ]

theorem Idle.quiet (ready : start.Ready) (evolves : start.Evolves g) (live : start.isLiveAt i)
    (idle : g.Idle) : g.Quiet i := by
  intro j leads
  rw [LeadsTo, evolves.feeds] at leads
  apply idle
  rw [evolves.schedule, ready.schedules.mem_iff]
  exact ready.wired.isLiveAt_of_leadsTo leads live

/-- Requests feed the sources that they name. -/
theorem push_mem_of_fedAt {requests : List Request} (member : e ∈ (g.serveAll requests).2)
    (fed : e.fedAt = some j) : ∃ source frame, .push source frame ∈ requests ∧ source.index = j := by
  induction requests generalizing g with
  | nil => simp [serveAll] at member
  | cons r rest ih =>
    rcases List.mem_append.1 member with now | later
    · cases r with
      | push source frame =>
        refine ⟨source, frame, List.mem_cons_self, ?_⟩
        cases frame <;>
        · simp only at now
          split at now
          · obtain rfl := List.mem_singleton.1 now
            exact Option.some.inj fed
          · simp at now
      | pull id =>
        obtain ⟨_, none⟩ | ⟨n, _, _, pulls⟩ := g.pull_cases id
        · simp [none] at now
        · obtain ⟨offer, rfl⟩ | ⟨c, rfl⟩ := pulls.events e now <;> simp [Event.fedAt] at fed
    · obtain ⟨source, frame, pushed, here⟩ := ih later
      exact ⟨source, frame, List.mem_cons_of_mem _ pushed, here⟩

/-- Upstream of a quiet place, an event that feeds none of the sources there does no more than ask a
sink. -/
theorem Quiet.nodes (quiet : g.Quiet i) (wired : g.Wired) (event : g.Happens e h)
    (apart : ∀ k, e.fedAt = some k → ¬g.LeadsTo k i) (leads : g.LeadsTo j i) :
    h.nodes[j]? = g.nodes[j]? ∨
      ∃ offer, e = .asked j offer ∧ h.nodes[j]? = g.nodes[j]?.map (Node.asked · offer) := by
  by_cases here : j = e.place
  · cases e with
    | pushed k frame => exact absurd leads (here ▸ apart k rfl)
    | ended k => exact absurd leads (here ▸ apart k rfl)
    | asked k offer =>
      subst here
      refine .inr ⟨offer, rfl, ?_⟩
      rw [event.nodes wired]
      cases g.nodes[j]? with
      | none => rfl
      | some n => exact congrArg some (if_pos rfl)
    | invoked c =>
      obtain rfl : j = c.index := here
      have busy : g.hasWorkAt c.index := List.find?_some event.first
      rw [quiet leads] at busy
      simp at busy
  · left
    by_cases called : ∃ c, e = .invoked c
    · obtain ⟨c, rfl⟩ := called
      have busy : g.hasWorkAt c.index := List.find?_some event.first
      refine event.nodes_of_unfed wired here fun feeds => ?_
      rw [quiet (.head feeds leads)] at busy
      simp at busy
    · rw [event.nodes wired, Event.effect_of_apart (fun c same => called ⟨c, same⟩) here,
        Option.map_id, id_eq]

theorem Quiet.happens (quiet : g.Quiet i) (wired : g.Wired) (event : g.Happens e h)
    (apart : ∀ k, e.fedAt = some k → ¬g.LeadsTo k i) : h.Quiet i := by
  intro j leads
  rw [LeadsTo, event.evolves.feeds] at leads
  rw [← quiet leads]
  obtain same | ⟨offer, _, asked⟩ := quiet.nodes wired event apart leads
  · simp only [hasWorkAt, same]
  · simp only [hasWorkAt, asked]
    cases g.nodes[j]? <;> rfl

/-- Where no node has work, nothing but a push gives work to one. -/
theorem Idle.happens (idle : g.Idle) (wired : g.Wired) (event : g.Happens e h)
    (unfed : e.fedAt = none) : h.Idle := by
  intro j member
  rw [event.evolves.schedule] at member
  rw [← idle j member]
  cases e with
  | pushed k frame => simp [Event.fedAt] at unfed
  | ended k => simp [Event.fedAt] at unfed
  | asked k offer =>
    unfold hasWorkAt
    rw [event.nodes wired]
    cases g.nodes[j]? with
    | none => rfl
    | some n =>
      simp only [Option.map_some, Event.effect]
      split <;> rfl
  | invoked c =>
    have busy := List.find?_some event.first
    simp [idle c.index (List.mem_of_find?_eq_some event.first)] at busy

theorem Idle.runs (idle : g.Idle) (wired : g.Wired) (run : g.Runs es h)
    (unfed : ∀ e ∈ es, e.fedAt = none) : h.Idle := by
  induction run with
  | refl => exact idle
  | next event _ ih =>
    exact ih (idle.happens wired event (unfed _ List.mem_cons_self)) (event.evolves.wired wired)
      fun e member => unfed e (List.mem_cons_of_mem _ member)

section Sink

/-- Only a sink is left as a sink where it is asked. -/
theorem exists_sink_of_take [Filter τ] {f : BuiltIn ⊕ τ} {s : Sink}
    (taken : (Filter.take f).1 = .inl (.sink s)) :
    ∃ t : Sink, Filter.take f = (.inl (.sink t.take.1), t.take.2) ∧ t.take.1 = s := by
  rcases f with b | t
  · cases b with
    | sink t => exact ⟨t, rfl, BuiltIn.sink.inj (Sum.inl.inj taken)⟩
    | _ => simp [Filter.take, takeSum, BuiltIn.take] at taken
  · simp [Filter.take, takeSum] at taken

variable [Filter τ] {g h start : Graph (BuiltIn ⊕ τ)} {e : Event (BuiltIn ⊕ τ)}
  {es : List (Event (BuiltIn ⊕ τ))} {exhausted : Bool}

/-- A sink that holds nothing and is not over, with nothing on its way to it. -/
structure Waiting (g : Graph (BuiltIn ⊕ τ)) (i : Nat) (exhausted : Bool) : Prop where
  quiet : g.Quiet i
  sink : ∃ n s, g.nodes[i]? = some n ∧ n.filter = .inl (.sink s) ∧ s.take = (s, .ok .again) ∧
    n.exhausted = exhausted

theorem Waiting.happens (waiting : g.Waiting i exhausted) (wired : g.Wired) (event : g.Happens e h)
    (apart : ∀ k, e.fedAt = some k → ¬g.LeadsTo k i) :
    h.Waiting i exhausted ∧ e.handsOut i = [] := by
  have quiet := waiting.quiet.happens wired event apart
  obtain ⟨n, s, there, filter, empty, same⟩ := waiting.sink
  have take : Filter.take n.filter = (n.filter, .ok .again) := by
    rw [filter]
    show (Sum.inl (BuiltIn.sink s.take.1), s.take.2) = _
    rw [empty]
  obtain kept | ⟨offer, rfl, asked⟩ := waiting.quiet.nodes wired event apart .refl
  · refine ⟨⟨quiet, n, s, kept.trans there, filter, empty, same⟩, ?_⟩
    cases e with
    | asked k offer =>
      by_cases here : k = i
      · subst here
        obtain ⟨m, at_node, answer⟩ := event.asks
        obtain rfl := Option.some.inj (there.symm.trans at_node)
        rw [← answer, take]
        simp [Event.handsOut, offered]
      · exact if_neg here
    | _ => rfl
  · obtain ⟨m, at_node, answer⟩ := event.asks
    obtain rfl := Option.some.inj (there.symm.trans at_node)
    rw [take] at answer
    subst answer
    refine ⟨⟨quiet, _, s, asked.trans (by rw [there]; rfl), ?_, empty, ?_⟩, ?_⟩
    · show (Filter.take n.filter).1 = _
      rw [take, filter]
    · simp [Node.asked, same]
    · simp [Event.handsOut, offered]

/-- However long nothing is pushed that leads to it, a waiting sink waits. -/
theorem Waiting.runs (waiting : g.Waiting i exhausted) (wired : g.Wired) (run : g.Runs es h)
    (apart : ∀ e ∈ es, ∀ k, e.fedAt = some k → ¬g.LeadsTo k i) :
    h.Waiting i exhausted ∧ handedOut i es = [] := by
  induction run with
  | refl => exact ⟨waiting, rfl⟩
  | @next g h last e rest event _ ih =>
    obtain ⟨onward, nothing⟩ := waiting.happens wired event (apart e List.mem_cons_self)
    obtain ⟨waits, later⟩ := ih onward (event.evolves.wired wired) fun e member k fed => by
      rw [LeadsTo, event.evolves.feeds]
      exact apart e (List.mem_cons_of_mem _ member) k fed
    refine ⟨waits, ?_⟩
    show e.handsOut i ++ handedOut i rest = []
    rw [nothing, later, List.append_nil]

/-- A pull without a frame leaves the sink over, or waiting where no node has work. -/
theorem Pulls.over_or_waiting (ready : start.Ready) (evolves : start.Evolves g)
    (live : start.isLiveAt i) {after : Graph (BuiltIn ⊕ τ)} {n : Node (BuiltIn ⊕ τ)} {s : Sink}
    (pulls : Pulls i g es after (.ok none)) (buffering : Buffering after i n s)
    (evolves' : start.Evolves after) :
    n.exhausted ∨ after.Waiting i n.exhausted ∧ after.Idle := by
  obtain ⟨m, offer, there, answer, last⟩ := pulls.last_offer ready evolves rfl
  obtain rfl := Option.some.inj (buffering.there.symm.trans there)
  rcases last with rfl | ⟨rfl, idle⟩
  · exact .inl (Bool.or_true _)
  · have filter : (Filter.take m.filter).1 = .inl (.sink s) := buffering.buffers.filter
    obtain ⟨t, taken, kept⟩ := exists_sink_of_take filter
    have empty := Sink.take_of_again (show t.take.2 = .ok .again by rw [← answer, taken])
    obtain rfl : t = s := (congrArg Prod.fst empty).symm.trans kept
    exact .inr ⟨⟨Idle.quiet ready evolves' live idle, _, t, there, filter, empty, rfl⟩, idle⟩

omit [Filter τ] in
theorem Buffering.exhausted_of_waiting {n : Node (BuiltIn ⊕ τ)} {s : Sink}
    (buffering : Buffering g i n s) (waiting : g.Waiting i exhausted) : n.exhausted = exhausted := by
  obtain ⟨m, _, there, _, _, same⟩ := waiting.sink
  obtain rfl := Option.some.inj (buffering.there.symm.trans there)
  exact same

/-- The pull of a waiting sink brings nothing, and the sink waits on. -/
theorem Buffering.pull_of_waiting {id : NodeId} {n : Node (BuiltIn ⊕ τ)} {s : Sink}
    (buffering : Buffering g id.index n s) (sink : g.running id .sink = .ok n)
    (waiting : g.Waiting id.index exhausted) (faultless : Faultless (g.pullEvents id)) :
    (g.pull id).2 = .ok none ∧ (g.pull id).1.Waiting id.index exhausted := by
  obtain ⟨got, answer⟩ := buffering.exists_pull_eq_ok sink faultless
  have pulls := pulls_pull sink buffering.failedFeeder_eq_none
  have unfed : ∀ e ∈ g.pullEvents id, ∀ k, e.fedAt = some k → ¬g.LeadsTo k id.index := by
    intro e member k fed
    obtain ⟨offer, rfl⟩ | ⟨c, rfl⟩ := pulls.events e member <;> simp [Event.fedAt] at fed
  obtain ⟨waits, nothing⟩ := waiting.runs buffering.running.wired (g.runs_pull id) unfed
  rw [pulls.handedOut_eq, answer] at nothing
  cases got with
  | none => exact ⟨answer, waits⟩
  | some frame => simp [gotten] at nothing

/-- A waiting sink waits through a session that pushes nothing into the sources that lead to it. -/
theorem Buffering.waiting_lasts {id : NodeId} {n : Node (BuiltIn ⊕ τ)} {s : Sink}
    (buffering : Buffering g id.index n s) (sink : g.running id .sink = .ok n)
    (waiting : g.Waiting id.index n.exhausted) {requests : List Request}
    (apart : ∀ source frame, .push source frame ∈ requests → ¬g.LeadsTo source.index id.index) :
    let last := (g.serveAll requests).1
    Faultless ((g.serveAll requests).2 ++ last.pullEvents id) →
      (last.pull id).2 = .ok none ∧ last.isExhausted id = g.isExhausted id ∧
        (last.pull id).1.isExhausted id = g.isExhausted id := by
  intro last faultless
  obtain ⟨sound, sound_pull⟩ := faultless_append_iff.1 faultless
  have to_last := g.runs_serveAll requests
  have onward := last.runs_pull id
  obtain ⟨_, _, at_last, _⟩ := buffering.runs to_last sound
  obtain ⟨_, _, at_end, _⟩ := at_last.runs onward sound_pull
  have sink_last := at_last.sink to_last.evolves sink
  have unfed : ∀ e ∈ (g.serveAll requests).2, ∀ k, e.fedAt = some k →
      ¬g.LeadsTo k id.index := by
    intro e member k fed
    obtain ⟨source, frame, pushed, rfl⟩ := push_mem_of_fedAt member fed
    exact apart source frame pushed
  obtain ⟨waits, _⟩ := waiting.runs buffering.running.wired to_last unfed
  obtain ⟨nothing, still⟩ := at_last.pull_of_waiting sink_last waits sound_pull
  rw [Buffering.isExhausted_eq sink, Buffering.isExhausted_eq sink_last,
    Buffering.isExhausted_eq (at_end.sink (to_last.trans onward).evolves sink),
    at_last.exhausted_of_waiting waits, at_end.exhausted_of_waiting still]
  exact ⟨nothing, rfl, rfl⟩

/-- Pulls of other sinks give no work to any node, so the pull of a waiting sink takes no step. -/
theorem Buffering.idle_lasts {id : NodeId} {n : Node (BuiltIn ⊕ τ)} {s : Sink}
    (buffering : Buffering g id.index n s) (sink : g.running id .sink = .ok n)
    (waiting : g.Waiting id.index n.exhausted) (idle : g.Idle) {requests : List Request}
    (pulled : ∀ r ∈ requests, ∃ other, r = .pull other)
    (faultless : Faultless (g.serveAll requests).2) :
    let last := (g.serveAll requests).1
    (last.pull id).1.stats.steps = last.stats.steps := by
  intro last
  have to_last := g.runs_serveAll requests
  have unfed : ∀ e ∈ (g.serveAll requests).2, e.fedAt = none := by
    intro e member
    rw [Option.eq_none_iff_forall_ne_some]
    intro k fed
    obtain ⟨_, _, pushed, _⟩ := push_mem_of_fedAt member fed
    obtain ⟨_, none⟩ := pulled _ pushed
    simp at none
  have wired := buffering.running.wired
  obtain ⟨waits, _⟩ := waiting.runs wired to_last fun e member k fed => by
    simp [unfed e member] at fed
  obtain ⟨_, _, at_last, _⟩ := buffering.runs to_last faultless
  obtain ⟨m, s', there, filter, empty, _⟩ := waits.sink
  obtain rfl := Option.some.inj (at_last.there.symm.trans there)
  have same := at_last.buffers.filter.symm.trans filter
  obtain rfl := BuiltIn.sink.inj (Sum.inl.inj same)
  rw [at_last.pull_of_idle (at_last.sink to_last.evolves sink) (congrArg Prod.snd empty)
    (idle.runs wired to_last unfed)]
  rfl

end Sink

/-- A filter that passes on one frame and closes its output with it. -/
def once : Kind (BuiltIn ⊕ Script) where
  name := "once"
  description := ""
  role := .transform
  inputs := [.named "default"]
  outputs := [.named "default"]
  options := []
  dynamicInputs := false
  dynamicOutputs := false
  initial := .inr ⟨[.named "default"], [.named "default"], none, .forward, [[.emit 0, .closeAll], []],
    [], [], .unsupported, .empty, false⟩

/-- A graph of built-in filters and of filters that pass on one frame, without any nodes. -/
def blankOrOnce : Graph (BuiltIn ⊕ Script) :=
  ⟨⟨0⟩, .assemble (BuiltIn.kinds.map (Kind.map .inl)) [once], .default, #[], #[], false, [],
    ⟨0, 0, 0, 0⟩⟩

/-- The calls that link a source to a sink by way of such a filter, and another source straight to
another sink. -/
def sourcesToSinks : List Call :=
  [.allocate "buffer", .allocate "once", .allocate "buffersink", .allocate "buffer",
    .allocate "buffersink", .setUp ⟨⟨0⟩, 0⟩, .setUp ⟨⟨0⟩, 1⟩, .setUp ⟨⟨0⟩, 2⟩, .setUp ⟨⟨0⟩, 3⟩,
    .setUp ⟨⟨0⟩, 4⟩, .link ⟨⟨0⟩, 0⟩ 0 ⟨⟨0⟩, 1⟩ 0, .link ⟨⟨0⟩, 1⟩ 0 ⟨⟨0⟩, 2⟩ 0,
    .link ⟨⟨0⟩, 3⟩ 0 ⟨⟨0⟩, 4⟩ 0]

def twoSinks : Graph (BuiltIn ⊕ Script) := (sourcesToSinks.foldl Graph.after blankOrOnce).after .configure

theorem configure_eq_twoSinks :
    (sourcesToSinks.foldl Graph.after blankOrOnce).configure = .ok twoSinks := by rfl

theorem reachable_sourcesToSinks : (sourcesToSinks.foldl Graph.after blankOrOnce).Reachable := by
  have created : Graph.create ⟨0⟩ blankOrOnce.registry .default = .ok blankOrOnce := by rfl
  exact (Reachable.created created).calls sourcesToSinks

theorem size_twoSinks : 2 < twoSinks.nodes.size := by decide +kernel

theorem running_twoSinks :
    twoSinks.running ⟨⟨0⟩, 2⟩ .sink = .ok (getElem twoSinks.nodes 2 size_twoSinks) :=
  running_eq_ok_iff.2 ⟨by decide +kernel, by decide +kernel, Array.getElem?_eq_getElem _,
    by decide +kernel, by decide +kernel⟩

theorem kind_twoSinks :
    (getElem twoSinks.nodes 2 size_twoSinks).kind = (Sink.kind.map .sink).map .inl := by rfl

end Graph
end FrameFlow
