import FrameFlow.Proofs.Moves
import Mathlib.Data.List.Induction

/-! The lives of nodes over whole runs. What a node has of options, pads and queued frames goes by its
life. A handle is good from the allocation of its node until that is discarded, and no two allocations
give the same one. -/
namespace FrameFlow.Graph

variable {σ : Type} [Filter σ] {g h start : Graph σ} {i : Nat} {n m : Node σ} {id : NodeId}

section Handles

theorem drainOnto_of_error {frames : List Frame} {e : GraphError}
    (pulling : g.pull id = (h, .error e)) : drainOnto frames g id = (h, .error e) := by
  rw [drainOnto]
  split
  · next pulling' =>
    obtain ⟨rfl, same⟩ := Prod.mk.inj (pulling.symm.trans pulling')
    exact congrArg (Prod.mk h ∘ Except.error) (Except.error.inj same).symm
  · next pulling' => simp [pulling] at pulling'
  · next pulling' => simp [pulling] at pulling'

/-- Every operation takes the handle for one that the graph does not know. Some look first whether the
graph is configured. -/
structure Rejects (g : Graph σ) (id : NodeId) : Prop where
  find : g.find id = .error (.nodeNotFound id)
  setOption : ∀ key value, g.setOption id key value = .error (.nodeNotFound id)
  setUp : g.initializeNode id = (g, .error (.nodeNotFound id))
  discard : g.configured = false → g.discard id = .error (.nodeNotFound id)
  source : g.configured = false → ∀ output target input,
    g.link id output target input = .error (.nodeNotFound id)
  target : g.configured = false → ∀ source n output input, g.find source = .ok n →
    g.link source output id input = .error (.nodeNotFound id)
  push : g.configured → ∀ frame, g.push id frame = .error (.nodeNotFound id)
  pull : g.configured → g.pull id = (g, .error (.nodeNotFound id))
  drain : g.configured → g.drain id = (g, .error (.nodeNotFound id))
  isExhausted : g.configured → g.isExhausted id = .error (.nodeNotFound id)

theorem rejects_of_find (unknown : g.find id = .error (.nodeNotFound id)) : g.Rejects id := by
  have running : g.configured → ∀ role, g.running id role = .error (.nodeNotFound id) := by
    intro configured role
    simp only [Graph.running, configured, unknown]
    rfl
  have pull : g.configured → g.pull id = (g, .error (.nodeNotFound id)) := by
    intro configured
    simp only [Graph.pull, running configured]
  refine ⟨unknown, fun key value => ?_, ?_, fun off => ?_, fun off output target input => ?_,
    fun off source n output input found => ?_, fun configured frame => ?_, pull,
    fun configured => ?_, fun configured => ?_⟩
  · simp only [Graph.setOption, unknown]
    rfl
  · simp only [initializeNode, unknown]
  · simp only [Graph.discard, off, unknown]
    rfl
  · simp only [Graph.link, off, unknown]
    rfl
  · simp only [Graph.link, off, found, unknown]
    rfl
  · simp only [Graph.push, running configured]
    rfl
  · simp only [Graph.drain, drainOnto_of_error (pull configured)]
    rfl
  · simp only [Graph.isExhausted, running configured, Except.map]

omit [Filter σ] in
theorem find_of_not_live (own : id.graph = g.id) (there : g.nodes[id.index]? = some n)
    (gone : n.life = .discarded) : g.find id = .error (.nodeNotFound id) := by
  have dead : n.isLive = false := by simp [Node.isLive, gone]
  simp [Graph.find, node?, own, there, Option.filter, dead]

omit [Filter σ] in
theorem find_of_live (own : id.graph = g.id) (there : g.nodes[id.index]? = some n)
    (kept : n.life ≠ .discarded) : g.find id = .ok n :=
  find_eq_ok_iff.2 ⟨own, there, by simpa [Node.isLive] using kept⟩

/-- Once its node was discarded, a handle is never accepted again. -/
theorem Reachable.rejects_after (reachable : g.Reachable) (calls : List Call)
    (own : id.graph = g.id) (there : g.nodes[id.index]? = some n) (gone : n.life = .discarded) :
    (calls.foldl after g).Rejects id := by
  obtain ⟨m, there', still⟩ := reachable.discarded_after calls there gone
  have same := (reachable.extends_calls calls).id
  exact rejects_of_find (find_of_not_live (own.trans same.symm) there' still)

theorem Reachable.size_le (reachable : g.Reachable) (calls : List Call) :
    g.nodes.size ≤ (calls.foldl after g).nodes.size := by
  by_contra less
  have inside : (calls.foldl after g).nodes.size < g.nodes.size := by omega
  obtain ⟨m, there, _⟩ :=
    (reachable.extends_calls calls).nodes (Array.getElem?_eq_getElem inside)
  have := (Array.getElem?_eq_some_iff.1 there).1
  omega

end Handles

section History

/-- One of some calls set the node up at some place. -/
def WasSetUp (start : Graph σ) (calls : List Call) (i : Nat) : Prop :=
  ∃ earlier later id, calls = earlier ++ .setUp id :: later ∧ id.index = i ∧
    ((earlier.foldl after start).initializeNode id).2 = .ok ()

/-- The filter of the node at some place failed in one of some calls, while frames flowed. -/
def HasBroken (start : Graph σ) (calls : List Call) (i : Nat) : Prop :=
  ∃ earlier call later c fault, calls = earlier ++ call :: later ∧
    (earlier.foldl after start).configured ∧
    .invoked c ∈ (earlier.foldl after start).eventsOf call ∧ c.index = i ∧
    c.turn.fault = some fault

variable {calls : List Call} {call : Call}

theorem WasSetUp.concat (done : WasSetUp start calls i) (call : Call) :
    WasSetUp start (calls ++ [call]) i := by
  obtain ⟨earlier, later, id, rfl, here, granted⟩ := done
  exact ⟨earlier, later ++ [call], id, by simp, here, granted⟩

theorem HasBroken.concat (done : HasBroken start calls i) (call : Call) :
    HasBroken start (calls ++ [call]) i := by
  obtain ⟨earlier, first, later, c, fault, rfl, broken⟩ := done
  exact ⟨earlier, first, later ++ [call], c, fault, by simp, broken⟩

/-- How a node came to its life. -/
structure Lived (start : Graph σ) (calls : List Call) (i : Nat) (n : Node σ) : Prop where
  setUp : n.life = .initialized → WasSetUp start calls i
  broken : n.life = .failed → (calls.foldl after start).configured →
    WasSetUp start calls i ∧ HasBroken start calls i

/-- Only the set-up of a node leads to it being set up, and only a fault at work to it failing once
the graph is configured. -/
theorem Lived.after (lived : ∀ n, (calls.foldl Graph.after start).nodes[i]? = some n →
      Lived start calls i n)
    (reachable : (calls.foldl Graph.after start).Reachable)
    (there : ((calls ++ [call]).foldl Graph.after start).nodes[i]? = some m) :
    Lived start (calls ++ [call]) i m := by
  rw [List.foldl_concat] at there
  generalize at_g : calls.foldl Graph.after start = g at lived reachable there
  obtain none | ⟨n, before⟩ := g.nodes[i]?.eq_none_or_eq_some
  · have new := reachable.life_of_new none there
    exact ⟨by simp [new], by simp [new]⟩
  · obtain ⟨m', there', step⟩ := reachable.continues call before
    obtain rfl := Option.some.inj (there.symm.trans there')
    constructor
    · intro ready
      rcases step with same | moved
      · exact ((lived n before).setUp (same ▸ ready)).concat call
      · rw [ready] at moved
        generalize n.life = was at moved
        cases moved with
        | setUp here _ granted => exact ⟨calls, [], _, rfl, here, at_g ▸ granted⟩
    · intro failed configured
      rw [List.foldl_concat, at_g] at configured
      cases on : g.configured with
      | false =>
        -- The call has configured the graph, which takes that no node has failed.
        have ready := ((reachable.assembled on).after call).resolve_left fun assembled => by
          simp [assembled.unconfigured] at configured
        have initialized := ready.initialized there (by simp [Node.isLive, failed])
        simp [failed] at initialized
      | true =>
        rcases step with same | moved
        · have broken := (lived n before).broken (same ▸ failed) (at_g ▸ on)
          exact ⟨broken.1.concat call, broken.2.concat call⟩
        · rw [failed] at moved
          generalize life : n.life = was at moved
          cases moved with
          | spoiled _ off _ => simp [on] at off
          | broken _ called here fault =>
            exact ⟨((lived n before).setUp life).concat call,
              calls, call, [], _, _, rfl, at_g ▸ on, at_g ▸ called, here, fault⟩

theorem lived_of_calls {number : GraphId} {registry : Registry σ} {options : GraphOptions}
    (created : create number registry options = .ok start) (calls : List Call)
    (there : (calls.foldl after start).nodes[i]? = some n) : Lived start calls i n := by
  induction calls using List.reverseRecOn generalizing n with
  | nil =>
    obtain rfl := create_eq_ok created
    simp at there
  | append_singleton calls call ih =>
    exact .after (fun n there => ih there) ((Reachable.created created).calls calls) there

end History

section Belongings

variable {call : Call}

theorem Reachable.optionsFit_after (reachable : g.Reachable) (off : g.configured = false)
    (there : (g.after call).nodes[i]? = some m) : m.OptionsFit := by
  obtain ⟨n, before, path⟩ | ⟨kind, rfl⟩ := grows_after off call there
  · have fits := reachable.node_induction Node.optionsFit_ofKind Node.OptionsFit.assembles off i n
      before
    clear there
    induction path with
    | refl => exact fits
    | tail _ one held => exact held.assembles one
  · exact Node.optionsFit_ofKind kind

/-- Options wait only at nodes that are still to be set up. -/
theorem Reachable.staged_eq (reachable : g.Reachable) (there : g.nodes[i]? = some n)
    (older : n.life ≠ .allocated) : n.staged = .empty := by
  induction reachable generalizing n with
  | created made =>
    obtain rfl := create_eq_ok made
    simp at there
  | @called g call reachable ih =>
    cases on : g.configured with
    | false => exact (reachable.optionsFit_after on there).staged older
    | true =>
      have ran := reachable.ran on
      obtain ⟨m, before, via⟩ := (ran.runs_after call).evolves.before there
      refine via.staged.trans (ih before fun fresh => ?_)
      exact ran.life_ne before (by simp [Node.isLive, fresh]) fresh

/-- Options are applied only at nodes that were set up, and stay where such a node breaks down. -/
theorem Reachable.life_of_applied (reachable : g.Reachable) (there : g.nodes[i]? = some n)
    (applied : n.applied ≠ .empty) : n.life = .initialized ∨ n.life = .failed ∧ g.configured := by
  induction reachable generalizing n with
  | created made =>
    obtain rfl := create_eq_ok made
    simp at there
  | @called g call reachable ih =>
    cases on : g.configured with
    | false =>
      have fits := reachable.optionsFit_after on there
      exact .inl (Classical.not_not.1 fun other => applied (fits.applied other))
    | true =>
      have run := (reachable.ran on).runs_after call
      obtain ⟨m, before, via⟩ := run.evolves.before there
      have still := ih before (via.applied ▸ applied)
      rw [run.evolves.configured]
      rcases via.life with same | failed
      · rwa [same]
      · exact .inr ⟨failed, on⟩

/-- So it is with pads. -/
theorem Reachable.life_of_pads (reachable : g.Reachable) (there : g.nodes[i]? = some n)
    (pads : n.inputs ≠ [] ∨ n.outputs ≠ []) :
    n.life = .initialized ∨ n.life = .failed ∧ g.configured := by
  rcases reachable.assembled_or_ran with assembled | ran
  · have prepared := assembled.nodes there
    left
    by_contra other
    obtain ⟨inputs, outputs⟩ := prepared.padless other
    simp [inputs, outputs] at pads
  · have configured := ran.configured
    obtain ⟨start, es, ready, run⟩ := ran
    obtain ⟨m, before, via⟩ := run.evolves.before there
    have ready' : m.life = .initialized := by
      by_contra other
      obtain ⟨inputs, outputs⟩ := (ready.prepared before).padless other
      have none : n.inputs.length = 0 ∧ n.outputs.length = 0 := by
        simp [via.inputs_length, via.outputs_length, inputs, outputs]
      simp [List.length_eq_zero_iff.1 none.1, List.length_eq_zero_iff.1 none.2] at pads
    exact via.life.imp (·.trans ready') fun failed => ⟨failed, configured⟩

end Belongings

/-- What is so of the nodes of a graph after some calls on a new one. -/
structure Lifecycle (start : Graph σ) (calls : List Call) (g : Graph σ) : Prop where
  id : g.id = start.id
  /-- Whatever is called next, nodes stay, and so do their lives unless the call moves them on. -/
  continues : ∀ call : Call, g.Continues call (g.after call)
  /-- The handle of a new node was of no use before, and its place is never given out again. -/
  allocates : ∀ {kind : String} {id : NodeId} {h : Graph σ}, g.allocate kind = .ok (id, h) →
    g.find id = .error (.nodeNotFound id) ∧ (∃ n, h.find id = .ok n ∧ n.life = .allocated) ∧
    ∀ (later : List Call) {kind' : String} {id' : NodeId} {h' : Graph σ},
      (later.foldl after h).allocate kind' = .ok (id', h') → id'.index ≠ id.index
  accepts : ∀ {i : Nat} {n : Node σ}, g.nodes[i]? = some n → n.life ≠ .discarded →
    g.find (g.handle i) = .ok n
  rejects : ∀ {i : Nat} {n : Node σ}, g.nodes[i]? = some n → n.life = .discarded →
    ∀ later : List Call, (later.foldl after g).Rejects (g.handle i)
  discards : ∀ {id : NodeId} {h : Graph σ}, g.discard id = .ok h →
    ∀ later : List Call, (later.foldl after h).Rejects id
  staged : ∀ {i : Nat} {n : Node σ}, g.nodes[i]? = some n → n.staged ≠ .empty →
    n.life = .allocated
  /-- Only a node that was set up has options, pads and links. -/
  equipped : ∀ {i : Nat} {n : Node σ}, g.nodes[i]? = some n →
    (n.applied ≠ .empty ∨ n.inputs ≠ [] ∨ n.outputs ≠ [] ∨
      ∃ l ∈ g.links, ∃ d, (l.endAt d).node = i) → WasSetUp start calls i
  setUp : ∀ {i : Nat} {n : Node σ}, g.nodes[i]? = some n → n.life = .initialized →
    WasSetUp start calls i
  padless : g.configured = false → ∀ {i : Nat} {n : Node σ}, g.nodes[i]? = some n →
    n.life ≠ .initialized → n.inputs = [] ∧ n.outputs = []
  untouched : g.configured = false → ∀ {i : Nat} {n : Node σ}, g.nodes[i]? = some n → n.Untouched
  working : g.configured → ∀ {i : Nat} {n : Node σ}, g.nodes[i]? = some n → n.life ≠ .discarded →
    n.life = .initialized ∨
      n.life = .failed ∧ WasSetUp start calls i ∧ HasBroken start calls i

/-- Whatever is called on a new graph, the lives of its nodes go in order. -/
theorem lifecycle_of_calls {number : GraphId} {registry : Registry σ} {options : GraphOptions}
    (created : create number registry options = .ok start) (calls : List Call) :
    Lifecycle start calls (calls.foldl after start) := by
  have reachable := (Reachable.created created).calls calls
  have extends_start := (Reachable.created created).extends_calls calls
  have lived : ∀ {i : Nat} {n : Node σ}, (calls.foldl after start).nodes[i]? = some n →
      Lived start calls i n := lived_of_calls created calls
  generalize at_g : calls.foldl after start = g at reachable extends_start lived
  have wasSetUp : ∀ {i : Nat} {n : Node σ}, g.nodes[i]? = some n →
      n.life = .initialized ∨ n.life = .failed ∧ g.configured → WasSetUp start calls i := by
    rintro i n there (ready | ⟨failed, on⟩)
    · exact (lived there).setUp ready
    · exact ((lived there).broken failed (at_g ▸ on)).1
  refine {
    id := extends_start.id
    continues := reachable.continues
    allocates := fun {kind id h} ok => ?_
    accepts := fun there kept => find_of_live rfl there kept
    rejects := fun there gone later => reachable.rejects_after later rfl there gone
    discards := fun {id h} ok later => ?_
    staged := fun there staged => Classical.not_not.1 fun older =>
      staged (reachable.staged_eq there older)
    equipped := fun {i n} there some_part => ?_
    setUp := fun there ready => (lived there).setUp ready
    padless := fun off i n there => ((reachable.assembled off).nodes there).padless
    untouched := fun off i n there => ((reachable.assembled off).nodes there).untouched
    working := fun on i n there kept => ?_ }
  · have onto : g.after (.allocate kind) = h := by simp only [after, orSame, ok]
    have reachable' : h.Reachable := onto ▸ .called _ reachable
    obtain ⟨rfl, k, rfl⟩ := allocate_eq_ok ok
    refine ⟨?_, ⟨.ofKind k, ?_, rfl⟩, fun later kind' id' h' ok' => ?_⟩
    · simp [find, node?, handle]
    · exact find_of_live rfl (by simp [handle]) (by simp [Node.ofKind])
    · have grown := reachable'.size_le later
      obtain ⟨rfl, _⟩ := allocate_eq_ok ok'
      simp only [Array.size_push] at grown
      simp only [handle]
      omega
  · have onto : g.after (.discard id) = h := by simp only [after, orSame, ok]
    have reachable' : h.Reachable := onto ▸ .called _ reachable
    obtain ⟨_, n, m, found, gone, rfl⟩ := discard_eq_ok_iff.1 ok
    obtain ⟨own, there, _⟩ := find_eq_ok_iff.1 found
    obtain ⟨_, rfl⟩ := Node.discard_eq_ok_iff.1 gone
    exact reachable'.rejects_after later own ((nodes_setNode there _).trans (if_pos rfl)) rfl
  · obtain applied | inputs | outputs | ⟨l, link, d, rfl⟩ := some_part
    · exact wasSetUp there (reachable.life_of_applied there applied)
    · exact wasSetUp there (reachable.life_of_pads there (.inl inputs))
    · exact wasSetUp there (reachable.life_of_pads there (.inr outputs))
    · obtain ⟨k, at_k⟩ := Array.mem_iff_getElem?.1 link
      obtain ⟨n', there', noted⟩ := reachable.wired.node_at_end at_k d
      obtain rfl := Option.some.inj (there.symm.trans there')
      refine wasSetUp there (reachable.life_of_pads there ?_)
      by_contra none
      rw [not_or, Classical.not_not, Classical.not_not] at none
      simp [Node.link?_of_padless none] at noted
  · cases life : n.life with
    | allocated =>
      exact absurd life ((reachable.ran on).life_ne there (by simp [Node.isLive, life]))
    | initialized => exact .inl rfl
    | failed => exact .inr ⟨rfl, (lived there).broken life (at_g ▸ on)⟩
    | discarded => exact absurd life kept

/-- The calls that give a node an option that its kind does not have, and set it up. -/
def spoilingCalls : List Call :=
  [.allocate "anull", .setOption ⟨⟨0⟩, 0⟩ "loudness" "1", .setUp ⟨⟨0⟩, 0⟩]

/-- The calls after which a source has broken down. -/
def breakingCalls : List Call := twoPipelines ++ [.request (.pull ⟨⟨0⟩, 3⟩)]

/-- A node that could not be set up is discarded, and its handle is of no use from then on. A source that
was set up breaks down in a pull. -/
theorem lifecycle_of_broken :
    (∃ h, (spoilingCalls.foldl after blankOrBroken).discard ⟨⟨0⟩, 0⟩ = .ok h ∧
      ∀ later : List Call, (later.foldl after h).Rejects ⟨⟨0⟩, 0⟩) ∧
    WasSetUp blankOrBroken breakingCalls 0 ∧ HasBroken blankOrBroken breakingCalls 0 := by
  have created : create ⟨0⟩ blankOrBroken.registry .default = .ok blankOrBroken := by rfl
  constructor
  · have granted : ((spoilingCalls.foldl after blankOrBroken).discard ⟨⟨0⟩, 0⟩).toOption.isSome := by
      decide +kernel
    cases gone : (spoilingCalls.foldl after blankOrBroken).discard ⟨⟨0⟩, 0⟩ with
    | error e => simp [gone, Except.toOption] at granted
    | ok h => exact ⟨h, rfl, (lifecycle_of_calls created spoilingCalls).discards gone⟩
  · have lives := lifecycle_of_calls created breakingCalls
    have last : breakingCalls.foldl after blankOrBroken = failedBroken := by
      rw [breakingCalls, List.foldl_concat]
      exact pull_fedBroken
    rw [last] at lives
    have failed : failedBroken.nodes[0]?.map Node.life = some .failed := by decide +kernel
    obtain ⟨n, there, life⟩ := Option.map_eq_some_iff.1 failed
    have broken := lives.working (by decide +kernel) there (by simp [life])
    exact (broken.resolve_left (by simp [life])).2

end FrameFlow.Graph
