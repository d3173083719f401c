import FrameFlow.Proofs.Flow.Collecting
import FrameFlow.Proofs.Frozen
import Mathlib.Algebra.BigOperators.Group.List.Basic

/-! What a graph counts while it runs, and its sources and sinks, which stay the same. A frame counts as
pushed where a source takes it and as pulled where a sink hands it out, so what was pulled is what all
sinks together have handed out. -/
namespace FrameFlow

variable {σ : Type}

def Event.isPush : Event σ → Bool
  | .pushed .. => true
  | _ => false

namespace Graph

variable {g h start : Graph σ} {id : NodeId} {role : Role} {e : Event σ} {es : List (Event σ)}

section Ends

theorem mem_withRole_iff (configured : g.configured) :
    id ∈ g.withRole role ↔ ∃ n, g.running id role = .ok n := by
  simp only [withRole, List.mem_map, List.mem_filter, Prod.exists, mem_live_iff, beq_iff_eq,
    running_eq_ok_iff]
  constructor
  · rintro ⟨i, n, ⟨⟨there, live⟩, own⟩, rfl⟩
    exact ⟨n, configured, rfl, there, live, own⟩
  · rintro ⟨n, _, same, there, live, own⟩
    refine ⟨id.index, n, ⟨⟨there, live⟩, own⟩, ?_⟩
    rw [handle, ← same]

theorem nodup_withRole (g : Graph σ) (role : Role) : ((g.withRole role).map NodeId.index).Nodup := by
  have ascending : (g.withRole role).Pairwise fun a b => a.index < b.index :=
    List.pairwise_map.2 (g.pairwise_live.filter _)
  exact List.pairwise_map.2 (ascending.imp Nat.ne_of_lt)

/-- The topology tells which nodes have a role. -/
theorem withRole_eq (g : Graph σ) (role : Role) :
    g.withRole role = g.topology.nodes.zipIdx.filterMap fun entry =>
      if entry.1.live && entry.1.kind.role == role then some ⟨g.topology.id, entry.2⟩ else none := by
  simp only [withRole, live, topology, List.zipIdx_map, List.filterMap_map, List.filter_filterMap,
    List.map_filterMap]
  apply List.filterMap_congr
  rintro ⟨n, i⟩ _
  by_cases used : n.isLive
  · simp [used, Node.shape, Node.role, handle, Option.filter]
  · simp [used, Node.shape]

end Ends

variable [Filter σ]

theorem Ready.withRole_eq (ready : start.Ready) (run : start.Runs es g) (role : Role) :
    g.withRole role = start.withRole role := by
  rw [Graph.withRole_eq, Graph.withRole_eq, ready.topology_eq run]

theorem Happens.pushed_eq (event : g.Happens e h) :
    h.stats.pushed = g.stats.pushed + [e].countP Event.isPush := by
  cases event with
  | pushed accepted =>
    obtain ⟨n, _, _, _, rfl⟩ := push_some_eq_ok_iff.1 accepted
    rfl
  | ended accepted =>
    obtain ⟨n, _, _, rfl⟩ := push_none_eq_ok_iff.1 accepted
    rfl
  | @asked id n asked offer _ asking =>
    have same : (asked.countOffer offer).stats.pushed = asked.stats.pushed := by
      unfold countOffer
      split <;> rfl
    exact same.trans (congrArg Stats.pushed (stats_askSink asking))
  | invoked => exact (stats_handleWork ..).1

theorem Runs.pushed_eq (run : g.Runs es h) :
    h.stats.pushed = g.stats.pushed + es.countP Event.isPush := by
  induction run with
  | refl => rfl
  | @next _ _ _ e rest event _ ih =>
    rw [ih, event.pushed_eq, Nat.add_assoc, ← List.countP_append, List.singleton_append]

/-- What an event counts as pulled is handed out by one of the sinks. -/
theorem Ready.pulled_of_happens (ready : start.Ready) (run : start.Runs es g) (event : g.Happens e h) :
    h.stats.pulled =
      g.stats.pulled + (start.sinks.map fun s => (e.handsOut s.index).length).sum := by
  have silent (none : ∀ i, e.handsOut i = []) :
      (start.sinks.map fun s => (e.handsOut s.index).length).sum = 0 := by
    simp [none]
  cases event with
  | pushed accepted =>
    obtain ⟨n, _, _, _, rfl⟩ := push_some_eq_ok_iff.1 accepted
    rw [silent fun _ => rfl]
    rfl
  | ended accepted =>
    obtain ⟨n, _, _, rfl⟩ := push_none_eq_ok_iff.1 accepted
    rw [silent fun _ => rfl]
    rfl
  | @asked id n asked offer sink asking =>
    have listed : id ∈ start.sinks := by
      rw [sinks, ← ready.withRole_eq run, mem_withRole_iff (running_eq_ok_iff.1 sink).1]
      exact ⟨n, sink⟩
    have distinct : (start.sinks.map NodeId.index).Nodup := start.nodup_withRole .sink
    have once : start.sinks.count id = 1 := List.count_eq_one_of_mem distinct.of_map listed
    have own : (start.sinks.map fun s =>
        ((Event.asked id.index offer : Event σ).handsOut s.index).length).sum =
          (offered offer).length := by
      rw [List.sum_map_eq_nsmul_single id _ fun s other there => ?_, once, one_nsmul]
      · simp [Event.handsOut]
      · have apart : id.index ≠ s.index := fun same =>
          other (List.inj_on_of_nodup_map distinct there listed same.symm)
        simp [Event.handsOut, apart]
    rw [own, ← stats_askSink asking]
    rcases offer with fault | (frame | _ | _) <;> rfl
  | invoked =>
    rw [silent fun _ => rfl]
    exact (stats_handleWork ..).2

/-- The sinks together have handed out what a graph counts as pulled. -/
theorem Ready.pulled_eq (ready : start.Ready) (run : start.Runs es g) :
    g.stats.pulled =
      start.stats.pulled + (start.sinks.map fun s => (handedOut s.index es).length).sum := by
  refine (run.history (P := fun es g => start.Runs es g ∧ g.stats.pulled = start.stats.pulled +
    (start.sinks.map fun s => (handedOut s.index es).length).sum) ?_ ⟨.refl start, ?_⟩).2
  · rintro before g h e ⟨run, counted⟩ event
    refine ⟨run.trans (.single event), ?_⟩
    simp only [ready.pulled_of_happens run event, counted, handedOut_concat, List.length_append,
      List.sum_map_add, Nat.add_assoc]
  · simp [handedOut]

end Graph
end FrameFlow
