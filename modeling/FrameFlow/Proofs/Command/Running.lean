import FrameFlow.Command.Run
import FrameFlow.Proofs.Blueprint.Json
import FrameFlow.Proofs.Blueprint.Scalars
import FrameFlow.Proofs.Command.Rounds
import FrameFlow.Proofs.Registry

/-! Running a blueprint of built-in kinds. Once its graph is configured and has a source and a sink, the
run comes to its end, and it tells what the sinks have handed out. -/
namespace FrameFlow

namespace Blueprint

variable {σ : Type} [Filter σ] {b : Blueprint} {number : GraphId} {registry : Registry σ}
  {built : Built σ}

theorem Node.Describes.prepared {n : Node} {m : FrameFlow.Node σ} (describes : n.Describes registry m) :
    m.Prepared where
  untouched := describes.untouched
  initial := by simp [describes.life]
  isSetUp _ := ⟨⟨_, describes.resolved⟩, describes.filter, describes.inputs, describes.outputs⟩
  padless other := absurd describes.life other

/-- What was built is of the kinds of the registry, still to be configured, and has not run. -/
theorem assembled_of_build (made : b.build number registry = .ok built) :
    built.graph.Assembled ∧ built.graph.options = b.options ∧ built.graph.stats = ⟨0, 0, 0, 0⟩ ∧
      ∀ {i : Nat} {n : FrameFlow.Node σ}, built.graph.nodes[i]? = some n →
        ∃ name, registry.get? name = some n.kind := by
  obtain ⟨start, created, realizes⟩ := exists_created_of_build made
  obtain rfl := Graph.create_eq_ok created
  have described : ∀ {i : Nat} {m : FrameFlow.Node σ}, built.graph.nodes[i]? = some m →
      ∃ n : Node, n.Describes registry m := by
    intro i m there
    obtain ⟨n, _, describes⟩ := exists_of_forall₂ realizes.nodes.flip
      ((Array.getElem?_toList ..).trans there)
    exact ⟨n, describes⟩
  refine ⟨⟨realizes.unconfigured, realizes.wired, fun there => ?_⟩, ?_, ?_, fun there => ?_⟩
  · obtain ⟨n, describes⟩ := described there
    exact describes.prepared
  · rw [realizes.rest]
  · rw [realizes.rest]
  · obtain ⟨n, describes⟩ := described there
    exact ⟨n.kind, describes.kind⟩

end Blueprint

theorem mem_kinds_of_get? {name : String} {k : Kind BuiltIn} (found : builtInRegistry.get? name = some k) :
    k ∈ BuiltIn.kinds := by
  rw [builtInRegistry, Registry.get?_ofKinds] at found
  exact List.mem_reverse.1 (List.mem_of_find?_eq_some found)

namespace Command

open FrameFlow.Graph

variable {b : Blueprint} {built : Built BuiltIn} {g h : Graph BuiltIn}

/-- A graph that was just built and configured can be fed, and there is room in all feeds unless there is
never any. -/
theorem exists_feedable (made : b.build ⟨0⟩ builtInRegistry = .ok built)
    (configured : built.graph.configure = .ok g) :
    ∃ format, Feedable g format g.sources g.sinks g ∧ g.options = b.options ∧
      g.stats = ⟨0, 0, 0, 0⟩ ∧ (0 < g.options.feedCapacity → Roomy g.sources g) := by
  obtain ⟨assembled, options, unused, registered⟩ := Blueprint.assembled_of_build made
  have builtIn : built.graph.OnlyBuiltIn := fun i n live => by
    obtain ⟨name, found⟩ := registered (mem_live_iff.1 live).1
    exact mem_kinds_of_get? found
  have ready := assembled.ready configured
  obtain ⟨format, formats, _⟩ := assembled.hasFormats configured builtIn
  obtain ⟨p, _, rfl⟩ := (configure_eq_ok_iff assembled).1 configured
  refine ⟨format, ⟨⟨ready, ⟨[], .refl _⟩, assembled.fitted configured builtIn, ready.unfailed, formats⟩,
    fun s member => ?_, fun s member => (mem_withRole_iff ready.configured).1 member,
    nodup_withRole _ _, nodup_withRole _ _⟩, options, unused, fun room => ⟨room, fun s _ n there => ?_⟩⟩
  · obtain ⟨n, source⟩ := (mem_withRole_iff ready.configured).1 member
    exact ⟨n, source, (ready.prepared (running_eq_ok_iff.1 source).2.2.1).untouched.feedEnded⟩
  · exact (ready.prepared there).untouched.feed

/-- What the sinks of a graph have handed out. -/
def handedOutBy (g : Graph BuiltIn) (es : List (Event BuiltIn)) : List (NodeId × Nat) :=
  g.sinks.map fun s => (s, (handedOut s.index es).length)

/-- A run feeds, ends all sources and drains all sinks, and nothing of that fails. -/
theorem exists_runGraph_eq_ok {format : Nat → Format} (feedable : Feedable g format g.sources g.sinks g)
    (fed : g.sources ≠ []) (drained : g.sinks ≠ []) (frames : Nat) :
    ∃ counts mid es h, feedRounds g.sources frames 0 (g.sinks.map (·, 0)) g = .ok (counts, mid) ∧
      runGraph g frames = .ok (handedOutBy g es, h) ∧ g.Serves es h ∧
      h.stats.pushed = mid.stats.pushed ∧ mid.stats.pushed ≤ g.stats.pushed + frames * g.sources.length ∧
      ∀ s ∈ g.sources, (accepted s.index es).ended := by
  obtain ⟨fs, mid, rounds, serves, on, few⟩ := feedable.exists_feedRounds_eq_ok frames 0 fun _ => 0
  have same : mid.sources = g.sources := feedable.ready.withRole_eq serves.runs .source
  obtain ⟨gs, h, closing, serves', unpushed, ended⟩ :=
    (feedable.runs serves.runs on).exists_closing_eq_ok (adding (fun _ => 0) fs)
  have counts : tally g.sinks (adding (adding (fun _ => 0) fs) gs) = handedOutBy g (fs ++ gs) := by
    refine List.map_congr_left fun s _ => ?_
    rw [adding_append, adding, Nat.zero_add]
  refine ⟨_, mid, fs ++ gs, h, rounds, ?_, serves.trans serves', ?_, ?_, fun s member => ?_⟩
  · have begun : feedRounds g.sources frames 0 (g.sinks.map (·, 0)) g =
        .ok (tally g.sinks (adding (fun _ => 0) fs), mid) := rounds
    have both : ¬(g.sources.isEmpty || g.sinks.isEmpty) := by simp [fed, drained]
    simp only [runGraph, if_neg both, begun, same, ok_bind]
    exact closing.trans (by rw [counts])
  · rw [serves'.runs.pushed_eq, unpushed, Nat.add_zero]
  · rw [serves.runs.pushed_eq]
    exact Nat.add_le_add_left few _
  · show (fs ++ gs).any (Event.endsFeed s.index) = true
    rw [List.any_append, Bool.or_eq_true]
    exact .inr (ended s member)

/-- A blueprint without floats is loaded as it was written. -/
theorem loadBlueprint_writeJson {path : String} (json : extension? path = some "json") (exact : b.IsExact)
    (below : b.NumbersBelow 0x10000000000000000) :
    loadBlueprint (fun _ => .ok b.writeJson) path = .ok b := by
  simp only [loadBlueprint, readBlueprint, json, Except.mapError, ok_bind,
    Blueprint.readJson_writeJson exact below]

/-- What a run prints of its counts. -/
def printed (names : Table NodeId) (counts : List (NodeId × Nat)) (s : Stats) : String :=
  unlines ((counts.map fun (sink, count) => s!"  {padRight 12 (nameOf names sink)} {count} frames") ++
    [s!"pushed {s.pushed}, pulled {s.pulled}, dropped {s.dropped}, {s.steps} scheduler steps"])

theorem run_eq {files : Files} {path : String} {frames : Nat} {counts : List (NodeId × Nat)}
    (loaded : loadBlueprint files path = .ok b) (made : b.build ⟨0⟩ builtInRegistry = .ok built)
    (configured : built.graph.configure = .ok g) (ran : runGraph g frames = .ok (counts, h)) :
    run files path frames = .ok (printed built.names counts h.stats) := by
  have graph : loadGraph files path = .ok { built with graph := g } := by
    simp [loadGraph, loaded, made, configured, Except.mapError, bind, Except.bind, pure, Except.pure]
  simp only [run, graph, ran, ok_bind]
  rfl

/-- A source whose feed holds one frame, and a sink that gets only the first of its frames. -/
def shortened : Blueprint where
  options := ⟨1, 0⟩
  nodes := [⟨"in", "buffer", .empty⟩, ⟨"cut", "head", .empty⟩, ⟨"out", "buffersink", .empty⟩]
  links := [⟨"in", 0, "cut", 0⟩, ⟨"cut", 0, "out", 0⟩]

theorem extension?_cut : extension? "cut.json" = some "json" := by
  have whole : "cut.json".splitOn "/" = ["cut.json"] := by
    rw [String.splitOn, if_neg (by decide)]
    repeat rw [String.splitOnAux, if_neg (by decide +kernel), if_neg (by decide +kernel)]
    rw [String.splitOnAux, if_pos (by decide +kernel)]
    decide +kernel
  rw [extension?, whole]
  decide +kernel

end Command
end FrameFlow
