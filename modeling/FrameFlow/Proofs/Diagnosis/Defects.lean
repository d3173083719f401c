import FrameFlow.Proofs.Diagnosis.Orders
import FrameFlow.Proofs.Graph.Topology

/-! What is reported where a graph cannot be configured: every node that is not set up, then every pad
without a link, then what is wrong with the links as a whole, of which a cycle hides the rest. -/
namespace FrameFlow

variable {σ : Type}

namespace Defect

/-- Where a defect stands: at a node, or at a pad of it, inputs before outputs. -/
def place : Defect → List Nat
  | notInitialized node => [node.index]
  | initializationFailed node => [node.index]
  | danglingInput node _ pad => [node.index, 0, pad]
  | danglingOutput node _ pad => [node.index, 1, pad]
  | unreachable node => [node.index]
  | _ => []

/-- A pad without a link. -/
def dangling : Direction → NodeId → String → Nat → Defect
  | .input => danglingInput
  | .output => danglingOutput

end Defect

/-- All defects of some sort, each once, in the order of their places. -/
structure Enumerates (Counts : Defect → Prop) (defects : List Defect) : Prop where
  mem_iff : ∀ d, d ∈ defects ↔ Counts d
  ascending : defects.Pairwise fun d e => d.place < e.place

theorem Enumerates.unique {Counts : Defect → Prop} {defects defects' : List Defect}
    (first : Enumerates Counts defects) (second : Enumerates Counts defects') : defects = defects' := by
  have apart : ∀ {d e : Defect}, d.place < e.place → d ≠ e := by
    rintro d _ lt rfl
    exact List.lt_irrefl _ lt
  have perm : defects.Perm defects' := (List.perm_ext_iff_of_nodup (first.ascending.imp apart)
    (second.ascending.imp apart)).2 fun d => (first.mem_iff d).trans (second.mem_iff d).symm
  refine perm.eq_of_pairwise (fun d e _ _ lt gt => ?_) first.ascending second.ascending
  exact (List.lt_asymm lt gt).elim

namespace Graph

variable {g : Graph σ} {i : Nat} {d : Defect}

/-- A live node that is not set up. -/
inductive Unready (g : Graph σ) : Defect → Prop where
  | allocated {i : Nat} {n : Node σ} : g.nodes[i]? = some n → n.life = .allocated →
      Unready g (.notInitialized (g.handle i))
  | failed {i : Nat} {n : Node σ} : g.nodes[i]? = some n → n.life = .failed →
      Unready g (.initializationFailed (g.handle i))

/-- A pad without a link at a node that is set up. -/
inductive Dangling (g : Graph σ) : Defect → Prop where
  | pad {i : Nat} {n : Node σ} (direction : Direction) {pad : Nat} : g.nodes[i]? = some n →
      n.life = .initialized → pad < n.padCount direction → n.link? direction pad = none →
      Dangling g (.dangling direction (g.handle i) n.kind.name pad)

/-- A node that is set up, where no root leads to it. -/
inductive Unreached (g : Graph σ) : Defect → Prop where
  | node {i : Nat} {n : Node σ} : g.nodes[i]? = some n → n.life = .initialized →
      (∀ root, g.IsRoot root → ¬g.LeadsTo root i) → Unreached g (.unreachable (g.handle i))

/-- What is wrong with the links as a whole: all nodes that share cycles with one another, or that
there are no roots, or the nodes that no root leads to. Each is looked for where there is nothing
of the former. -/
inductive Astray (g : Graph σ) : List Defect → Prop where
  | cycle {i : Nat} {nodes : List Nat} : Relation.TransGen g.Feeds i i →
      (∀ j, j ∈ nodes ↔ Relation.TransGen g.Feeds i j ∧ Relation.TransGen g.Feeds j i) →
      nodes.Pairwise (· < ·) → Astray g [.cycle (nodes.map g.handle)]
  | noSources : (∀ i, ¬Relation.TransGen g.Feeds i i) → (∀ i, ¬g.IsRoot i) → Astray g [.noSources]
  | unreached {root : Nat} {defects : List Defect} : (∀ i, ¬Relation.TransGen g.Feeds i i) →
      g.IsRoot root → Enumerates g.Unreached defects → Astray g defects

theorem enumerates_initializationDefects (g : Graph σ) :
    Enumerates g.Unready g.initializationDefects where
  mem_iff d := by
    simp only [initializationDefects, List.mem_map, List.mem_filter, Prod.exists, mem_live_iff]
    constructor
    · rintro ⟨i, n, ⟨⟨there, live⟩, unready⟩, rfl⟩
      cases life : n.life with
      | allocated => exact .allocated there life
      | failed => exact .failed there life
      | initialized => simp [Node.isInitialized, life] at unready
      | discarded => simp [Node.isLive, life] at live
    · rintro (⟨there, life⟩ | ⟨there, life⟩)
      all_goals
        refine ⟨_, _, ⟨⟨there, ?_⟩, ?_⟩, ?_⟩
        · simp [Node.isLive, life]
        · simp [Node.isInitialized, life]
        · simp [life]
  ascending := by
    refine List.pairwise_map.2 ((g.pairwise_live.sublist List.filter_sublist).imp fun {p q} lt => ?_)
    obtain ⟨i, n⟩ := p
    obtain ⟨j, m⟩ := q
    dsimp only at lt ⊢
    cases n.life <;> cases m.life <;> exact .rel lt

theorem mem_danglingPads_iff {n : Node σ} {direction : Direction} {pad : Nat} :
    pad ∈ danglingPads n direction ↔ pad < n.padCount direction ∧ n.link? direction pad = none := by
  simp [danglingPads]

theorem pairwise_danglingPads (n : Node σ) (direction : Direction) :
    (danglingPads n direction).Pairwise (· < ·) :=
  List.pairwise_lt_range.sublist List.filter_sublist

theorem enumerates_danglingDefects (g : Graph σ) : Enumerates g.Dangling g.danglingDefects where
  mem_iff d := by
    simp only [danglingDefects, List.mem_flatMap, List.mem_filter, Prod.exists, mem_live_iff,
      List.mem_append, List.mem_map, mem_danglingPads_iff, Node.isInitialized, beq_iff_eq]
    constructor
    · rintro ⟨i, n, ⟨⟨there, _⟩, ready⟩, ⟨pad, ⟨inside, free⟩, rfl⟩ | ⟨pad, ⟨inside, free⟩, rfl⟩⟩
      · exact .pad .input there ready inside free
      · exact .pad .output there ready inside free
    · rintro @⟨i, n, direction, pad, there, ready, inside, free⟩
      refine ⟨i, n, ⟨⟨there, Node.isLive_of_initialized ready⟩, ready⟩, ?_⟩
      cases direction with
      | input => exact .inl ⟨pad, ⟨inside, free⟩, rfl⟩
      | output => exact .inr ⟨pad, ⟨inside, free⟩, rfl⟩
  ascending := by
    -- the pads of a node one after the other, and all of them before those of a later node
    refine List.pairwise_flatMap.2 ⟨fun p _ => List.pairwise_append.2 ⟨?_, ?_, ?_⟩, ?_⟩
    · exact List.pairwise_map.2
        ((pairwise_danglingPads p.2 .input).imp fun lt => .cons (.cons (.rel lt)))
    · exact List.pairwise_map.2
        ((pairwise_danglingPads p.2 .output).imp fun lt => .cons (.cons (.rel lt)))
    · simp only [List.forall_mem_map]
      exact fun pad _ pad' _ => .cons (.rel Nat.zero_lt_one)
    · refine (g.pairwise_live.sublist List.filter_sublist).imp fun {p q} lt => ?_
      simp only [List.forall_mem_append, List.forall_mem_map]
      exact ⟨fun _ _ => ⟨fun _ _ => .rel lt, fun _ _ => .rel lt⟩,
        fun _ _ => ⟨fun _ _ => .rel lt, fun _ _ => .rel lt⟩⟩

theorem Wired.enumerates_unreachable (h : g.Wired) :
    Enumerates g.Unreached (g.unreachable.map fun i => .unreachable (g.handle i)) where
  mem_iff d := by
    simp only [List.mem_map, h.mem_unreachable_iff]
    constructor
    · rintro ⟨i, ⟨⟨n, there, ready⟩, apart⟩, rfl⟩
      exact .node there ready apart
    · rintro ⟨there, ready, apart⟩
      exact ⟨_, ⟨⟨_, there, ready⟩, apart⟩, rfl⟩
  ascending := List.pairwise_map.2 (g.pairwise_unreachable.imp fun lt => .rel lt)

/-- Of what is wrong with the links as a whole, the defects up to the first fatal one. -/
theorem Wired.astray (h : g.Wired) : g.Astray (upToFatal (g.cycleDefects ++ g.reachDefects)).1 := by
  cases lists : g.cycles with
  | cons nodes more =>
    have there : nodes ∈ g.cycles := lists ▸ List.mem_cons_self
    obtain ⟨i, cycle, mem_iff⟩ := h.exists_of_mem_cycles there
    rw [cycleDefects, lists, List.map_cons, List.cons_append, upToFatal_cons_of_fatal rfl]
    exact .cycle cycle mem_iff (h.of_mem_cycles there).2.1
  | nil =>
    have acyclic := h.cycles_eq_nil_iff.1 lists
    rw [cycleDefects, lists, List.map_nil, List.nil_append, reachDefects]
    cases roots : g.roots with
    | nil =>
      rw [List.isEmpty_nil, if_pos rfl, List.cons_append, upToFatal_cons_of_fatal rfl]
      refine .noSources acyclic fun i root => ?_
      simpa [roots] using mem_roots_iff_isRoot.2 root
    | cons root rest =>
      have isRoot : g.IsRoot root := mem_roots_iff_isRoot.1 (roots ▸ List.mem_cons_self)
      rw [List.isEmpty_cons, if_neg Bool.false_ne_true, List.nil_append,
        upToFatal_of_not_fatal (List.forall_mem_map.2 fun _ _ => rfl)]
      exact .unreached acyclic isRoot h.enumerates_unreachable

/-- The defects that the stages report together. -/
theorem Wired.defects_examine_all (h : g.Wired) (some_live : g.isEmpty = false) :
    (g.examine Stage.all).defects = g.initializationDefects ++ g.danglingDefects ++
      (upToFatal (g.cycleDefects ++ g.reachDefects)).1 := by
  have first : Stage.initialization.found g = g.initializationDefects :=
    Stage.found_of_verdict rfl
  have second : Stage.linkage.found g = g.danglingDefects := by
    have given : Stage.linkage.examine g = verdict g.danglingDefects g.sinkWarnings := by
      simp [Stage.linkage, some_live, h.duplicateDefects]
    exact Stage.found_of_verdict given
  have third : Stage.topology.found g = g.cycleDefects ++ g.reachDefects := by
    have given : Stage.topology.examine g =
        verdict (g.cycleDefects ++ g.reachDefects) (g.rootWarnings ++ g.partWarnings) := by
      simp [Stage.topology, some_live]
    exact Stage.found_of_verdict given
  have unready : ∀ d ∈ g.initializationDefects, d.isFatal = false := by
    intro d there
    cases (g.enumerates_initializationDefects.mem_iff d).1 there <;> rfl
  have dangling : ∀ d ∈ g.danglingDefects, d.isFatal = false := by
    intro d there
    cases (g.enumerates_danglingDefects.mem_iff d).1 there with
    | pad direction => cases direction <;> rfl
  rw [Stage.all, defects_examine_cons, defects_examine_cons, defects_examine_cons, first, second,
    third, upToFatal_of_not_fatal unready, upToFatal_of_not_fatal dangling]
  simp [examine, examineFrom, Report.empty]

section Plan

variable [Filter σ] {stages : List (Stage σ)} {report : Report} {order : List Nat}

theorem plan_of_defects (found : (g.examine stages).defects ≠ []) :
    g.plan stages = .error (g.examine stages) := by
  simp [plan, Report.isValid, found]

theorem plan_of_refusal (none : (g.examine stages).defects = [])
    (ordered : g.topologicalOrder = .ok order) (refused : g.negotiate order = .error d) :
    g.plan stages = .error ((g.examine stages).addDefect d) := by
  simp [plan, Report.isValid, none, ordered, refused]

theorem configure_of_plan_eq_error (unconfigured : g.configured = false)
    (failed : g.plan Stage.all = .error report) :
    g.configure = .error (.configuration report) := by
  simp [configure, unconfigured, failed]

/-- Ordering and negotiation come up only where the stages find nothing, and each adds one defect. -/
theorem plan_eq_error_cases (failed : g.plan stages = .error report) :
    report = g.examine stages ∨ ∃ d, report.defects = [d] := by
  unfold plan at failed
  dsimp only at failed
  split at failed
  · exact .inl (Except.error.inj failed).symm
  · next valid =>
    have none : (g.examine stages).defects = [] := by simpa [Report.isValid] using valid
    split at failed
    · obtain rfl := Except.error.inj failed
      exact .inr ⟨_, by rw [Report.addDefect, none, List.nil_append]⟩
    · split at failed
      · obtain rfl := Except.error.inj failed
        exact .inr ⟨_, by rw [Report.addDefect, none, List.nil_append]⟩
      · simp at failed

theorem fatalLast_plan (failed : g.plan stages = .error report) : FatalLast report.defects := by
  obtain rfl | ⟨d, only⟩ := plan_eq_error_cases failed
  · exact g.fatalLast_examine stages
  · exact only ▸ fatalLast_singleton d

/-- Where the stages find nothing, only a node that refuses formats stands against configuration. -/
theorem Assembled.configure_of_no_defects (h : g.Assembled) (some_live : g.isEmpty = false)
    (none : (g.examine Stage.all).defects = []) : (∃ after, g.configure = .ok after) ∨
      ∃ report before i after d, g.configure = .error (.configuration report) ∧
        report.defects = [d] ∧ g.topologicalOrder = .ok (before ++ i :: after) ∧
        g.EndsAt before i d := by
  have wired := h.wired
  have valid : (g.examine Stage.all).isValid := by simp [Report.isValid, none]
  obtain ⟨initialized, linked⟩ := wired.linked_of_isValid valid
  have acyclic : ∀ i, ¬Relation.TransGen g.Feeds i i := by
    have nothing := none
    rw [wired.defects_examine_all some_live, List.append_eq_nil_iff] at nothing
    cases nothing.2 ▸ wired.astray with
    | unreached acyclic => exact acyclic
  obtain ⟨order, ordered⟩ := wired.exists_order_iff.2 acyclic
  cases negotiated : g.negotiate order with
  | ok formats =>
    have planned : g.plan Stage.all = .ok ⟨order, formats, _⟩ :=
      plan_eq_ok_iff.2 ⟨valid, ordered, negotiated, rfl⟩
    exact .inl ⟨_, (configure_eq_ok_iff h).2 ⟨_, planned, rfl⟩⟩
  | error d =>
    obtain ⟨before, i, after, rfl, ends⟩ :=
      (negotiate_eq_error_iff wired (wired.schedules ordered) linked).1 negotiated
    have failed := plan_of_refusal none ordered negotiated
    exact .inr ⟨_, before, i, after, d, configure_of_plan_eq_error h.unconfigured failed,
      by rw [Report.addDefect, none, List.nil_append], ordered, ends⟩

end Plan

/-- What stands against the configuration of a graph. The stages report all nodes that are not set up,
then all pads without a link, then what is wrong with the links as a whole, and configuration
fails with that report. Where they report nothing it succeeds, or fails with the one
refusal of formats on which negotiation ends. A fatal defect is the last in every report. -/
theorem Reachable.defects_reported [Filter σ] (h : g.Reachable) (unconfigured : g.configured = false)
    (live : g.isLiveAt i) :
    (∃ unready dangling astray, (g.examine Stage.all).defects = unready ++ dangling ++ astray ∧
      Enumerates g.Unready unready ∧ Enumerates g.Dangling dangling ∧ g.Astray astray) ∧
    ((g.examine Stage.all).defects ≠ [] →
      g.configure = .error (.configuration (g.examine Stage.all))) ∧
    ((g.examine Stage.all).defects = [] → (∃ after, g.configure = .ok after) ∨
      ∃ report before i after d, g.configure = .error (.configuration report) ∧
        report.defects = [d] ∧ g.topologicalOrder = .ok (before ++ i :: after) ∧
        g.EndsAt before i d) ∧
    ∀ stages, FatalLast (g.examine stages).defects ∧
      ∀ report, g.plan stages = .error report → FatalLast report.defects := by
  have assembled := h.assembled unconfigured
  have some_live : g.isEmpty = false := by
    rw [← Bool.not_eq_true, isEmpty_iff]
    exact fun none => none i live
  exact ⟨⟨_, _, _, assembled.wired.defects_examine_all some_live, g.enumerates_initializationDefects,
      g.enumerates_danglingDefects, assembled.wired.astray⟩,
    fun found => configure_of_plan_eq_error unconfigured (plan_of_defects found),
    assembled.configure_of_no_defects some_live,
    fun stages => ⟨g.fatalLast_examine stages, fun _ => fatalLast_plan⟩⟩

/-- The calls that leave a node without set-up, one that failed, one without links, one that feeds
itself and one discarded. -/
def halfBuiltCalls : List Call :=
  [.allocate "buffer", .allocate "buffer", .allocate "amix", .allocate "asplit", .allocate "anull",
    .setOption ⟨⟨0⟩, 1⟩ "sample_rate" "none", .setUp ⟨⟨0⟩, 1⟩, .setUp ⟨⟨0⟩, 2⟩, .setUp ⟨⟨0⟩, 3⟩,
    .discard ⟨⟨0⟩, 4⟩, .link ⟨⟨0⟩, 3⟩ 0 ⟨⟨0⟩, 3⟩ 0]

def halfBuilt : Graph BuiltIn := halfBuiltCalls.foldl Graph.after blank

theorem reachable_halfBuilt : halfBuilt.Reachable := reachable_blank.calls halfBuiltCalls

/-- A graph with defects of every sort, and one whose nodes only disagree on formats. -/
theorem defects_halfBuilt :
    halfBuilt.configure = .error (.configuration (halfBuilt.examine Stage.all)) ∧
    (halfBuilt.examine Stage.all).defects =
      [.notInitialized ⟨⟨0⟩, 0⟩, .initializationFailed ⟨⟨0⟩, 1⟩] ++
      [.danglingInput ⟨⟨0⟩, 2⟩ "amix" 0, .danglingInput ⟨⟨0⟩, 2⟩ "amix" 1,
        .danglingOutput ⟨⟨0⟩, 2⟩ "amix" 0, .danglingOutput ⟨⟨0⟩, 3⟩ "asplit" 1] ++
      [.cycle [⟨⟨0⟩, 3⟩]] ∧
    halfBuilt.Astray [.cycle [⟨⟨0⟩, 3⟩]] ∧
    ∃ report d, (mixing "44100").configure = .error (.configuration report) ∧
      report.defects = [d] := by
  have live : halfBuilt.isLiveAt 0 ∧ (mixing "44100").isLiveAt 0 := by decide +kernel
  have unconfigured : halfBuilt.configured = false ∧ (mixing "44100").configured = false := by
    decide +kernel
  have some_defects : (halfBuilt.examine Stage.all).defects ≠ [] := by decide +kernel
  have no_defects : ((mixing "44100").examine Stage.all).defects = [] := by decide +kernel
  have refused : (mixing "44100").configure.isOk = false := by decide +kernel
  obtain ⟨⟨unready, dangling, astray, reported, first, second, third⟩, fails, _⟩ :=
    Reachable.defects_reported reachable_halfBuilt unconfigured.1 live.1
  obtain ⟨_, _, rest, _⟩ :=
    Reachable.defects_reported (reachable_mixing "44100") unconfigured.2 live.2
  obtain rfl := first.unique halfBuilt.enumerates_initializationDefects
  obtain rfl := second.unique halfBuilt.enumerates_danglingDefects
  have earlier : halfBuilt.initializationDefects =
        [.notInitialized ⟨⟨0⟩, 0⟩, .initializationFailed ⟨⟨0⟩, 1⟩] ∧
      halfBuilt.danglingDefects =
        [.danglingInput ⟨⟨0⟩, 2⟩ "amix" 0, .danglingInput ⟨⟨0⟩, 2⟩ "amix" 1,
          .danglingOutput ⟨⟨0⟩, 2⟩ "amix" 0, .danglingOutput ⟨⟨0⟩, 3⟩ "asplit" 1] := by
    decide +kernel
  have listed : (halfBuilt.examine Stage.all).defects =
      halfBuilt.initializationDefects ++ halfBuilt.danglingDefects ++ [.cycle [⟨⟨0⟩, 3⟩]] := by
    decide +kernel
  obtain rfl : astray = [.cycle [⟨⟨0⟩, 3⟩]] := List.append_cancel_left (reported.symm.trans listed)
  refine ⟨fails some_defects, by rw [listed, earlier.1, earlier.2], third, ?_⟩
  obtain ⟨after, ok⟩ | ⟨report, _, _, _, d, failed, only, _⟩ := rest no_defects
  · simp [ok, Except.isOk, Except.toBool] at refused
  · exact ⟨report, d, failed, only⟩

end Graph
end FrameFlow
