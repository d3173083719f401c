import FrameFlow.Proofs.Flow.Channel
import FrameFlow.Proofs.Reach

/-! The invariant of graphs that run. An inlet ends with the outlet upstream and is told of it only
after its last frame, and a node is flushed only after it was told of all ends. -/
namespace FrameFlow.Graph

variable {σ : Type}

structure Running (g : Graph σ) : Prop where
  wired : g.Wired
  linked : ∀ {i : Nat} {n : Node σ} {pad : Nat} {q : Inlet}, g.nodes[i]? = some n →
    n.inputs[pad]? = some q → ∃ k, q.link = some k
  ended : ∀ {k : Nat} {l : Link} {p : Outlet} {q : Inlet}, g.links[k]? = some l →
    g.outletAt l.source = some p → g.inletAt l.target = some q → q.ended = p.closed
  told : ∀ {a : Endpoint} {q : Inlet}, g.inletAt a = some q → q.told → q.ended ∧ q.queue = .empty
  flushedLast : ∀ {i : Nat} {n : Node σ}, g.nodes[i]? = some n → n.FlushedLast

theorem inletAt_eq_some {g : Graph σ} {i pad : Nat} {n : Node σ} {q : Inlet}
    (there : g.nodes[i]? = some n) (inlet : n.inputs[pad]? = some q) :
    g.inletAt ⟨i, pad⟩ = some q := by
  simp [inletAt, there, inlet]

/-- Nothing has come over any link of a graph that was just configured. -/
theorem Ready.running [Filter σ] {g : Graph σ} (h : g.Ready) : g.Running where
  wired := h.wired
  linked := by
    intro i n pad q there inlet
    by_cases live : n.isLive
    · have linked := h.linked there live .input pad (List.getElem?_eq_some_iff.1 inlet).1
      simpa [Node.link?, inlet, Option.isSome_iff_exists] using linked
    · have padless := (h.prepared there).padless fun ready => live (by simp [Node.isLive, ready])
      simp [padless.1] at inlet
  ended := by
    intro k l p q _ outlet inlet
    obtain ⟨n, there, outlet⟩ := Option.bind_eq_some_iff.1 outlet
    obtain ⟨m, there', inlet⟩ := Option.bind_eq_some_iff.1 inlet
    rw [(h.prepared there).untouched.outlets p (List.mem_of_getElem? outlet),
      ((h.prepared there').untouched.inlets q (List.mem_of_getElem? inlet)).ended]
  told := by
    intro a q inlet told
    obtain ⟨m, there, inlet⟩ := Option.bind_eq_some_iff.1 inlet
    simp [((h.prepared there).untouched.inlets q (List.mem_of_getElem? inlet)).told] at told
  flushedLast := by
    intro i n there flushed
    simp [(h.prepared there).untouched.flushed] at flushed

namespace Running

variable [Filter σ] {g h : Graph σ} {e : Event σ} {i : Nat} {n m : Node σ}

omit [Filter σ] in
theorem told_of_mem (running : g.Running) (there : g.nodes[i]? = some n) {q : Inlet}
    (member : q ∈ n.inputs) (told : q.told) : q.ended ∧ q.queue = .empty := by
  obtain ⟨pad, inlet⟩ := List.mem_iff_getElem?.1 member
  exact running.told (inletAt_eq_some there inlet) told

omit [Filter σ] in
/-- No work is taken from a node that was flushed. -/
theorem fresh_of_takes (running : g.Running) (there : g.nodes[i]? = some n) {work : Work}
    (takes : n.Takes work m) : n.flushed = false := by
  cases flushed : n.flushed with
  | false => rfl
  | true =>
    have last := running.flushedLast there flushed
    cases takes with
    | fed source first =>
      rw [if_pos source] at last
      simp [last.1] at first
    | feedOver _ _ _ fresh => exact absurd flushed (by simp [fresh])
    | frame inner at_pad first =>
      rw [if_neg inner] at last
      have member := List.mem_of_getElem? at_pad
      simp [(running.told_of_mem there member (last.2 _ member)).2] at first
    | endOfInput inner _ at_pad _ untold =>
      rw [if_neg inner] at last
      have told := last.2 _ (List.mem_of_getElem? at_pad)
      simp [untold] at told
    | flush _ _ _ _ fresh => exact absurd flushed (by simp [fresh])

/-- Whoever is told of an end has taken every frame before. -/
theorem quiet_of_tells (event : g.Happens e h) {a : Endpoint} {q : Inlet}
    (inlet : g.inletAt a = some q) (tells : e.tells a) : q.ended ∧ q.queue = .empty := by
  cases e with
  | invoked c =>
    obtain ⟨there, takes⟩ := event.takes
    simp only [Event.tells, Bool.and_eq_true, beq_iff_eq] at tells
    obtain ⟨n, there', inlet⟩ := Option.bind_eq_some_iff.1 inlet
    obtain rfl := Option.some.inj ((tells.1 ▸ there).symm.trans there')
    rw [tells.2] at takes
    obtain ⟨_, quiet, p, at_pad, ended, _⟩ := takes.of_endOfInput
    obtain rfl := Option.some.inj (at_pad.symm.trans inlet)
    exact ⟨ended, quiet p (List.mem_of_getElem? inlet)⟩
  | _ => simp [Event.tells] at tells

theorem linked_of_happens (running : g.Running) (event : g.Happens e h) {pad : Nat} {q : Inlet}
    (there : h.nodes[i]? = some m) (inlet : m.inputs[pad]? = some q) : ∃ k, q.link = some k := by
  obtain ⟨n, there', via⟩ := event.evolves.before there
  have inside : pad < n.inputs.length :=
    via.inputs_length ▸ (List.getElem?_eq_some_iff.1 inlet).1
  obtain ⟨k, noted⟩ := running.linked there' (List.getElem?_eq_getElem inside)
  have same := via.link?_eq .input pad
  exact ⟨k, by simpa [Node.link?, inlet, inside, noted] using same⟩

theorem told_of_happens (running : g.Running) (event : g.Happens e h) {a : Endpoint} {q : Inlet}
    (inlet : h.inletAt a = some q) (told : q.told) : q.ended ∧ q.queue = .empty := by
  obtain ⟨m, there, at_pad⟩ := Option.bind_eq_some_iff.1 inlet
  obtain ⟨k, noted⟩ := running.linked_of_happens event there at_pad
  obtain ⟨l, link, target⟩ :=
    ((event.evolves.wired running.wired).inlet_link_iff there at_pad).1 noted
  obtain rfl : a = l.target := target.symm
  rw [event.evolves.links] at link
  obtain ⟨p, _, before, q', outlet, _, inlet_before, inlet_after, via⟩ :=
    event.transfers running.wired link
  obtain rfl := Option.some.inj (inlet_after.symm.trans inlet)
  have quiet : before.ended ∧ before.queue = .empty := by
    rw [via.told, Bool.or_eq_true] at told
    rcases told with told | tells
    · exact running.told inlet_before told
    · exact quiet_of_tells event inlet_before tells
  have silent := via.silent (running.ended link outlet inlet_before ▸ quiet.1)
  have queue := via.queue
  rw [quiet.2, silent, Queue.toList_empty, List.append_nil, List.append_eq_nil_iff] at queue
  exact ⟨by simp [via.ended, quiet.1], Queue.eq_empty_iff.2 queue.2⟩

omit [Filter σ] in
theorem flushedLast_receive (last : n.FlushedLast) (sent : List (Nat × Frame)) (ends : List Nat) :
    (n.receive sent ends).FlushedLast := by
  intro flushed
  have last := last flushed
  show if n.role = .source then n.feed = .empty ∧ n.feedEnded
    else n.inputs.map (Inlet.receive sent ends) ≠ [] ∧
      ∀ q ∈ n.inputs.map (Inlet.receive sent ends), q.told
  simpa using last

/-- A flush comes after all ends, and no node takes in anything after it. -/
theorem flushedLast_of_happens (running : g.Running) (event : g.Happens e h)
    (there : h.nodes[i]? = some m) : m.FlushedLast := by
  rw [event.nodes running.wired] at there
  obtain ⟨n, before, rfl⟩ := Option.map_eq_some_iff.1 there
  have last := running.flushedLast before
  cases event with
  | @pushed id frame _ accepted =>
    obtain ⟨s, source, still, _, _⟩ := push_some_eq_ok_iff.1 accepted
    obtain ⟨_, _, there', _, role⟩ := running_eq_ok_iff.1 source
    unfold Event.effect
    dsimp only
    split
    · next here =>
      obtain rfl := Option.some.inj ((here ▸ there').symm.trans before)
      intro flushed
      have ended := last flushed
      rw [if_pos role] at ended
      simp [still] at ended
    · exact last
  | ended accepted =>
    unfold Event.effect
    dsimp only
    split
    · intro flushed
      have before := last flushed
      show if n.role = .source then n.feed = .empty ∧ true else _
      split at before
      · next source => exact if_pos source ▸ ⟨before.1, rfl⟩
      · next inner => exact if_neg inner ▸ before
    · exact last
  | asked _ _ =>
    unfold Event.effect
    dsimp only
    split
    · exact last
    · exact last
  | @invoked j k rest work _ first _ taken =>
    refine flushedLast_receive ?_ _ _
    split
    · next here =>
      obtain ⟨_, there'⟩ := nextToWork_eq_some_iff.1 first
      have takes := Node.takes_of_takeWork taken
      have after := takes.flushedLast (running.fresh_of_takes there' takes)
      unfold Invocation.left
      split <;> exact after
    · exact last

theorem happens (running : g.Running) (event : g.Happens e h) : h.Running where
  wired := event.evolves.wired running.wired
  linked := running.linked_of_happens event
  ended := by
    intro k l p q link outlet inlet
    rw [event.evolves.links] at link
    obtain ⟨p', p'', q', q'', outlet', outlet'', inlet', inlet'', via⟩ :=
      event.transfers running.wired link
    obtain rfl := Option.some.inj (outlet''.symm.trans outlet)
    obtain rfl := Option.some.inj (inlet''.symm.trans inlet)
    rw [via.ended, via.closed, running.ended link outlet' inlet']
  told := running.told_of_happens event
  flushedLast := running.flushedLast_of_happens event

end Running
end FrameFlow.Graph
