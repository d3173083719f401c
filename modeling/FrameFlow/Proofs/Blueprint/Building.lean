import FrameFlow.Proofs.Blueprint.Links
import FrameFlow.Proofs.Blueprint.Nodes

/-! Building a blueprint gives the graph that it describes, and it fails over the first thing that is
wrong, in nodes before links. -/
namespace FrameFlow.Blueprint

variable {σ : Type} [Filter σ] {start : Graph σ} {b : Blueprint} {number : GraphId}
  {registry : Registry σ}

theorem builtAs_create (created : Graph.create number registry b.options = .ok start) :
    BuiltAs start (ofNodes b.options []) ⟨start, .empty⟩ := by
  have assembled := Graph.Assembled.create created
  obtain rfl := Graph.create_eq_ok created
  exact {
    sound := ⟨.nil, by simp [ofNodes], by simp [ofNodes], by simp [ofNodes]⟩
    made := ⟨rfl, .nil, rfl, assembled.wired, rfl, rfl⟩ }

/-- A blueprint is built just where each of its nodes and links can be, and then as it describes.
Otherwise the error is that of the first node or link with which anything is wrong. The room that the
graph asks for at the start is taken to be there. -/
theorem build_described (created : Graph.create number registry b.options = .ok start) :
    ((∃ built, b.build number registry = .ok built) ↔ Buildable registry b) ∧
    (∀ built, b.build number registry = .ok built → Realizes start b built) ∧
    ∀ e, b.build number registry = .error e ↔ FirstOffence number registry b e := by
  have first := builtAs_create created
  have nodes := checks_nodes start b.options
  have links := checks_links start b
  have same : start.registry = registry ∧ start.id = number := by
    obtain rfl := Graph.create_eq_ok created
    exact ⟨rfl, rfl⟩
  obtain ⟨rfl, rfl⟩ := same
  have steps : b.build start.id start.registry =
      b.nodes.foldlM addTo ⟨start, .empty⟩ >>= fun mid => b.links.foldlM linkIn mid := by
    rw [build, created]
    rfl
  have unlinked {links : List Link} (sound : Buildable start.registry { b with links }) :
      Buildable start.registry (ofNodes b.options b.nodes) :=
    ⟨sound.names, sound.nodes, by simp [ofNodes], by simp [ofNodes]⟩
  rw [steps]
  refine ⟨⟨?_, fun sound => ?_⟩, fun built made => ?_, fun e => ?_⟩
  · rintro ⟨built, made⟩
    obtain ⟨mid, added, linked⟩ := bind_eq_ok_iff.1 made
    exact links.good (links.fit_of_ok (nodes.fit_of_ok first added) linked)
  · obtain ⟨mid, added⟩ := (nodes.exists_ok_iff first).2 (unlinked sound)
    obtain ⟨built, linked⟩ := (links.exists_ok_iff (nodes.fit_of_ok first added)).2 sound
    exact ⟨built, bind_eq_ok_iff.2 ⟨mid, added, linked⟩⟩
  · obtain ⟨mid, added, linked⟩ := bind_eq_ok_iff.1 made
    exact (links.fit_of_ok (nodes.fit_of_ok first added) linked).made
  · rw [bind_eq_error_iff]
    constructor
    · rintro (refused | ⟨mid, added, refused⟩)
      · obtain ⟨earlier, n, later, split, sound, offence⟩ := (nodes.eq_error_iff first).1 refused
        exact .node split sound offence
      · obtain ⟨earlier, l, later, split, sound, offence⟩ :=
          (links.eq_error_iff (nodes.fit_of_ok first added)).1 refused
        exact .link split sound offence
    · intro offence
      cases offence with
      | node split sound offence =>
        exact .inl ((nodes.eq_error_iff first).2 ⟨_, _, _, split, sound, offence⟩)
      | link split sound offence =>
        obtain ⟨mid, added⟩ := (nodes.exists_ok_iff first).2 (unlinked sound)
        exact .inr ⟨mid, added, (links.eq_error_iff (nodes.fit_of_ok first added)).2
          ⟨_, _, _, split, sound, offence⟩⟩

/-- A source with options of its own that feeds a sink. -/
def sourceToSink : Blueprint where
  options := .default
  nodes := [⟨"in", "buffer", .ofList [("channels", .integer 2)]⟩, ⟨"out", "buffersink", .empty⟩]
  links := [⟨"in", 0, "out", 0⟩]

/-- The source feeds the sink, but not twice. -/
theorem build_sourceToSink :
    Graph.create ⟨0⟩ builtInRegistry .default =
      .ok ⟨⟨0⟩, builtInRegistry, .default, #[], #[], false, [], ⟨0, 0, 0, 0⟩⟩ ∧
    Buildable builtInRegistry sourceToSink ∧
    FirstOffence ⟨0⟩ builtInRegistry (sourceToSink.withLink ⟨"in", 0, "out", 0⟩)
      (.link (.padOccupied ⟨⟨0⟩, 0⟩ .output 0)) := by
  have created : Graph.create ⟨0⟩ builtInRegistry .default =
      .ok ⟨⟨0⟩, builtInRegistry, .default, #[], #[], false, [], ⟨0, 0, 0, 0⟩⟩ := by rfl
  have made : (sourceToSink.build ⟨0⟩ builtInRegistry).toOption.isSome := by decide +kernel
  have refused : ((sourceToSink.withLink ⟨"in", 0, "out", 0⟩).build ⟨0⟩ builtInRegistry).map
      (fun _ => ()) = .error (.link (.padOccupied ⟨⟨0⟩, 0⟩ .output 0)) := by decide +kernel
  refine ⟨created, (build_described (b := sourceToSink) created).1.1 ?_,
    ((build_described (b := sourceToSink.withLink _) created).2.2 _).1 ?_⟩
  · cases built : sourceToSink.build ⟨0⟩ builtInRegistry with
    | error e => simp [built, Except.toOption] at made
    | ok after => exact ⟨after, rfl⟩
  · cases built : (sourceToSink.withLink ⟨"in", 0, "out", 0⟩).build ⟨0⟩ builtInRegistry with
    | error e => simpa [built, Except.map] using refused
    | ok after => simp [built, Except.map] at refused

end FrameFlow.Blueprint
