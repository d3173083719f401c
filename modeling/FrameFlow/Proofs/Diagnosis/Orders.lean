import FrameFlow.Proofs.Diagnosis.Configuration

/-! Negotiation along any schedule. A node that is asked after all that feed it sees the formats that
they answered, whatever came in between, so the schedule has no say in the formats. Where
negotiation fails, a node has refused the formats on its inputs. -/
namespace FrameFlow

variable {σ : Type} [Filter σ]

/-- A node refuses formats where its filter does, or where that answers with more or fewer formats
than there are outputs. -/
inductive Node.Refuses (n : Node σ) (formats : List Format) : String → Prop where
  | fault {fault : Fault} : n.negotiate formats = .error fault → Refuses n formats fault.message
  | count {answer : List Format} : n.negotiate formats = .ok answer →
      answer.length ≠ n.outputs.length →
      Refuses n formats (s!"{n.kind.name} answered {answer.length} format(s) for " ++
        s!"{n.outputs.length} output pad(s)")

namespace Graph

variable {g : Graph σ}

/-- Negotiation ends at a node with a defect: some formats suit those asked before, and this node
refuses the ones on its inputs. -/
def EndsAt (g : Graph σ) (asked : List Nat) (i : Nat) (d : Defect) : Prop :=
  ∃ n formats reason, g.nodes[i]? = some n ∧
    (∀ j ∈ asked, ∀ m, g.nodes[j]? = some m → m.Answers formats) ∧
    n.Refuses (n.formatsIn formats) reason ∧ d = .formatMismatch (g.handle i) reason

section Failure

variable {asked order : List Nat} {formats : Nat → Format} {found : LinkFormats} {i : Nat}
  {n : Node σ} {d : Defect}

/-- A node that is asked after all that feed it can only fail by its own refusal. -/
theorem negotiateNode_eq_error_iff (wired : g.Wired) (fixed : g.Fixed asked formats found)
    (there : g.nodes[i]? = some n) (linked : n.IsLinked) (upstream : ∀ j, g.Feeds j i → j ∈ asked) :
    g.negotiateNode found i = .error d ↔
      ∃ reason, n.Refuses (n.formatsIn formats) reason ∧ d = .formatMismatch (g.handle i) reason := by
  unfold negotiateNode
  simp only [there, fixed.inputFormats_eq wired there linked upstream]
  cases answered : n.negotiate (n.formatsIn formats) with
  | error fault =>
    simp only [Except.error.injEq]
    constructor
    · rintro rfl
      exact ⟨_, .fault answered, rfl⟩
    · rintro ⟨reason, refused, rfl⟩
      cases refused with
      | fault answered' => rw [Except.error.inj (answered.symm.trans answered')]
      | count answered' => simp [answered] at answered'
  | ok answer =>
    simp only
    constructor
    · intro failed
      split at failed
      · simp at failed
      · next wrong => exact ⟨_, .count answered wrong, (Except.error.inj failed).symm⟩
    · rintro ⟨reason, refused, rfl⟩
      cases refused with
      | fault answered' => simp [answered] at answered'
      | count answered' wrong =>
        obtain rfl := Except.ok.inj (answered.symm.trans answered')
        rw [if_neg wrong]

/-- Once every node was asked no link lacks a format, so negotiation fails only over a node. -/
theorem negotiate_eq_error_iff_asked (wired : g.Wired) (schedules : g.Schedules order)
    (linked : g.FullyLinked) : g.negotiate order = .error d ↔
      order.foldlM g.negotiateNode (g.links.toList.map fun _ => none) = .error d := by
  rw [negotiate, bind_eq_error_iff, or_iff_left]
  rintro ⟨final, ok, missing⟩
  have whole : g.Schedules (order ++ []) := by simpa using schedules
  obtain ⟨formats, fixed, _⟩ := exists_formats_of_asked wired whole linked ok
  have all := allFixed_eq_ok_iff (k := 0).2 (fixed.eq_map wired schedules)
  simp [all] at missing

/-- Negotiation along a schedule fails just where some node refuses what those before it answered. -/
theorem negotiate_eq_error_iff (wired : g.Wired) (schedules : g.Schedules order)
    (linked : g.FullyLinked) :
    g.negotiate order = .error d ↔ ∃ before i after, order = before ++ i :: after ∧
      g.EndsAt before i d := by
  rw [negotiate_eq_error_iff_asked wired schedules linked, foldlM_eq_error_iff]
  constructor
  · rintro ⟨before, i, after, found, rfl, passed, failed⟩
    obtain ⟨n, there, live⟩ := isLiveAt_iff.1 ((schedules.mem_iff i).1 (by simp))
    obtain ⟨formats, fixed, suits⟩ := exists_formats_of_asked wired schedules linked passed
    obtain ⟨reason, refused, rfl⟩ := (negotiateNode_eq_error_iff wired fixed there
      (linked there live) fun j feeds => schedules.mem_of_feeds_next feeds).1 failed
    exact ⟨before, i, after, rfl, n, formats, reason, there, suits, refused, rfl⟩
  · rintro ⟨before, i, after, rfl, n, formats, reason, there, suits, refused, rfl⟩
    obtain ⟨m, there', live⟩ := isLiveAt_iff.1 ((schedules.mem_iff i).1 (by simp))
    obtain rfl := Option.some.inj (there'.symm.trans there)
    obtain ⟨found, passed, fixed⟩ := asked_of_answers wired schedules linked suits
    exact ⟨before, i, after, found, rfl, passed, (negotiateNode_eq_error_iff wired fixed there
      (linked there live) fun j feeds => schedules.mem_of_feeds_next feeds).2
      ⟨reason, refused, rfl⟩⟩

end Failure

/-- The formats that negotiation finds do not depend on the order in which the nodes are asked, nor
does whether it finds any. It gives every link a format, or some node refuses the formats that
the nodes before it have answered. -/
theorem Reachable.negotiate_any_order (h : g.Reachable) (linked : g.FullyLinked)
    (acyclic : ∀ i, ¬Relation.TransGen g.Feeds i i) :
    (∃ order, g.Schedules order) ∧ ∀ order, g.Schedules order →
      (∀ order', g.Schedules order' →
        (∀ formats, g.negotiate order = .ok formats ↔ g.negotiate order' = .ok formats) ∧
        ((∃ d, g.negotiate order = .error d) ↔ ∃ d, g.negotiate order' = .error d)) ∧
      (∀ formats, g.negotiate order = .ok formats → formats.length = g.links.size) ∧
      ∀ d, g.negotiate order = .error d ↔ ∃ before i after, order = before ++ i :: after ∧
        g.EndsAt before i d := by
  have wired := h.wired
  obtain ⟨order, found⟩ := wired.exists_order_iff.2 acyclic
  refine ⟨⟨order, wired.schedules found⟩, fun order schedules => ⟨fun order' schedules' => ?_,
    fun formats ok => ?_, fun d => negotiate_eq_error_iff wired schedules linked⟩⟩
  · have same : ∀ formats, g.negotiate order = .ok formats ↔ g.negotiate order' = .ok formats := by
      intro formats
      rw [negotiate_eq_ok_iff wired schedules linked, negotiate_eq_ok_iff wired schedules' linked]
    refine ⟨same, ?_⟩
    have fails : ∀ order : List Nat, (∃ d, g.negotiate order = .error d) ↔
        ∀ formats, g.negotiate order ≠ .ok formats := by
      intro order
      cases g.negotiate order <;> simp
    simp only [fails, ne_eq, same]
  · obtain ⟨_, _, rfl⟩ := (negotiate_eq_ok_iff wired schedules linked).1 ok
    simp

/-- The calls that mix two sources, the second with a rate of its own. -/
def mixingCalls (rate : String) : List Call :=
  [.allocate "buffer", .allocate "buffer", .allocate "amix", .allocate "buffersink",
    .setOption ⟨⟨0⟩, 1⟩ "sample_rate" rate] ++
  ([0, 1, 2, 3].map fun i => .setUp ⟨⟨0⟩, i⟩) ++
  [.link ⟨⟨0⟩, 0⟩ 0 ⟨⟨0⟩, 2⟩ 0, .link ⟨⟨0⟩, 1⟩ 0 ⟨⟨0⟩, 2⟩ 1, .link ⟨⟨0⟩, 2⟩ 0 ⟨⟨0⟩, 3⟩ 0]

def mixing (rate : String) : Graph BuiltIn := (mixingCalls rate).foldl Graph.after blank

theorem reachable_mixing (rate : String) : (mixing rate).Reachable :=
  reachable_blank.calls (mixingCalls rate)

/-- Either source may be asked first. With equal rates this leads to the same formats, with different
ones to a refusal. -/
theorem negotiate_mixing :
    (mixing "48000").negotiate [0, 1, 2, 3] = .ok (List.replicate 3 ⟨48000, 2⟩) ∧
    ∃ d, (mixing "44100").negotiate [0, 1, 2, 3] = .error d := by
  have swapped : ∀ rate ∈ ["48000", "44100"],
      (∀ formats, (mixing rate).negotiate [1, 0, 2, 3] = .ok formats ↔
        (mixing rate).negotiate [0, 1, 2, 3] = .ok formats) ∧
      ((∃ d, (mixing rate).negotiate [1, 0, 2, 3] = .error d) ↔
        ∃ d, (mixing rate).negotiate [0, 1, 2, 3] = .error d) := by
    intro rate member
    have valid : ((mixing rate).examine Stage.all).isValid := by revert rate; decide +kernel
    have found : (mixing rate).topologicalOrder = .ok [1, 0, 2, 3] := by revert rate; decide +kernel
    have ordered : ∀ l ∈ (mixing rate).links, Earlier [0, 1, 2, 3] l.source.node l.target.node := by
      simp only [Earlier]
      revert rate
      decide +kernel
    have wired := (reachable_mixing rate).wired
    have schedules := wired.schedules found
    exact ((Reachable.negotiate_any_order (reachable_mixing rate) (wired.linked_of_isValid valid).2
      schedules.acyclic).2 _ schedules).1 _ (schedules.of_perm (.swap 0 1 [2, 3]) ordered)
  have agreed : (mixing "48000").negotiate [1, 0, 2, 3] = .ok (List.replicate 3 ⟨48000, 2⟩) := by
    decide +kernel
  have refused : (mixing "44100").negotiate [1, 0, 2, 3] = .error (.formatMismatch ⟨⟨0⟩, 2⟩
      "Unsupported format: input 1 carries 44100Hz/2ch, input 0 carries 48000Hz/2ch") := by
    decide +kernel
  exact ⟨((swapped _ (by simp)).1 _).1 agreed, (swapped _ (by simp)).2.1 ⟨_, refused⟩⟩

end Graph
end FrameFlow
