import FrameFlow.Proofs.Blueprint.Building
import FrameFlow.Proofs.Filter.Scalars

/-! Scalars in blueprints. An option that is written as a whole number, as a truth value or as a text waits
at its node as a text. An option of that kind gets back from it just what was written. -/
namespace FrameFlow

open Setting (Value Definition)
open Text (Around)

/-- The value of a literal, for an option of the kind that it is written for. -/
inductive Literal.Gives : Literal → Setting.Kind → Value → Prop where
  | integer (i : Int64) : Gives (.integer i) .integer (.integer i)
  | boolean (b : Bool) : Gives (.boolean b) .boolean (.boolean b)
  | text (s : String) : Gives (.text s) .text (.text s)

theorem Literal.Gives.read_render {l : Literal} {kind : Setting.Kind} {v : Value} (gives : l.Gives kind v) :
    kind.read l.render = .ok v := by
  cases gives with
  | integer i => exact Setting.read_integer i
  | boolean b => exact Setting.read_boolean b
  | text s => rfl

namespace Blueprint

variable {σ : Type} {n : Node} {name : String} {l : Literal}

theorem Node.get?_texts (n : Node) (name : String) :
    n.texts.get? name = (n.options.get? name).map Literal.render :=
  Table.get?_map ..

theorem Node.staged_of_allocate {g grown : Graph σ} {id : NodeId} (n : Node)
    (allocated : g.allocate n.kind = .ok (id, grown)) :
    ∃ h m, stageOptions grown id n.options = .ok h ∧ h.find id = .ok m ∧
      ∀ name, m.staged.get? name = (n.options.get? name).map Literal.render := by
  obtain ⟨_, k, _, rfl, rfl⟩ := Graph.allocate_eq_ok_iff.1 allocated
  exact ⟨_, n.fresh k, stageOptions_ofKind g n k, Graph.find_grown rfl, n.get?_texts⟩

variable [Filter σ]

theorem exists_created_of_build {b : Blueprint} {number : GraphId} {registry : Registry σ}
    {built : Built σ} (made : b.build number registry = .ok built) :
    ∃ start, Graph.create number registry b.options = .ok start ∧ Realizes start b built := by
  obtain ⟨start, created, linked⟩ := bind_eq_ok_iff.1 made
  obtain ⟨mid, added, linked⟩ := bind_eq_ok_iff.1 linked
  have nodes := (checks_nodes start b.options).fit_of_ok (builtAs_create created) added
  exact ⟨start, created, ((checks_links start b).fit_of_ok nodes linked).made⟩

theorem realizes_of_build {b : Blueprint} {number : GraphId} {registry : Registry σ} {built : Built σ}
    (made : b.build number registry = .ok built) :
    ∃ start : Graph σ, start.registry = registry ∧ Realizes start b built := by
  obtain ⟨start, created, realizes⟩ := exists_created_of_build made
  exact ⟨start, by rw [Graph.create_eq_ok created], realizes⟩

theorem Node.Describes.get?_applied {registry : Registry σ} {m : FrameFlow.Node σ} {d : Definition}
    {v : Value} (describes : n.Describes registry m) (written : n.options.get? name = some l)
    (found : m.kind.options.find? name = some d) (gives : l.Gives d.kind v) :
    m.applied.get? name = some v := by
  obtain ⟨v', there, -, taken⟩ := Setting.Schema.exists_value describes.resolved found
  rw [n.get?_texts, written] at taken
  have read := Setting.Kind.read_eq_ok_iff.1 gives.read_render
  rw [there, ← read]
  exact taken.1.symm

/-- Whole numbers, truth values and texts keep their values as options. What is written waits at its node as
a text, and an option of its kind reads the same value from that. A whole number is read from its digits with
at most one sign in front, where it fits into 64 bits. Blanks around it, or around a truth value, make no
difference to what is read. -/
theorem scalars_kept :
    (∀ (l : Literal) (kind : Setting.Kind) (v : Value), l.Gives kind v → kind.read l.render = .ok v) ∧
    (∀ (n : Node) (g grown : Graph σ) (id : NodeId), g.allocate n.kind = .ok (id, grown) →
      ∃ h m, stageOptions grown id n.options = .ok h ∧ h.find id = .ok m ∧
        ∀ name, m.staged.get? name = (n.options.get? name).map Literal.render) ∧
    (∀ (b : Blueprint) (number : GraphId) (registry : Registry σ) (built : Built σ),
      b.build number registry = .ok built → ∀ (i : Nat) (n : Node), b.nodes[i]? = some n →
        ∃ m, built.graph.nodes[i]? = some m ∧ registry.get? n.kind = some m.kind ∧
          ∀ (name : String) (l : Literal) (d : Definition) (v : Value), n.options.get? name = some l →
            m.kind.options.find? name = some d → l.Gives d.kind v → m.applied.get? name = some v) ∧
    (∀ (raw : String) (v : Value), Setting.Kind.integer.read raw = .ok v ↔
      ∃ core n, Around core raw.toList ∧ Decimal.Writes core n ∧ -2 ^ 63 ≤ n ∧ n ≤ 2 ^ 63 - 1 ∧
        v = .integer (.ofInt n)) ∧
    ∀ kind : Setting.Kind, kind = .integer ∨ kind = .boolean → ∀ inner outer : String,
      Around inner.toList outer.toList → (kind.read outer).toOption = (kind.read inner).toOption := by
  refine ⟨fun _ _ _ gives => gives.read_render, fun n _ _ _ allocated => n.staged_of_allocate allocated, ?_,
    fun _ _ => Setting.read_integer_iff, ?_⟩
  · intro b number registry built made i n there
    obtain ⟨start, rfl, realizes⟩ := realizes_of_build made
    obtain ⟨m, place, describes⟩ := exists_of_forall₂ realizes.nodes there
    refine ⟨m, by simpa using place, describes.kind, ?_⟩
    intro name l d v written found gives
    exact describes.get?_applied written found gives
  · intro kind scalar inner outer around
    have other : kind ≠ .text := by rintro rfl; simp at scalar
    rw [Setting.toOption_read, Setting.toOption_read]
    exact Setting.read?_eq_of_around other around

/-- A mixer with an option of each kind. -/
def shortMix : Blueprint where
  options := .default
  nodes := [⟨"mix", "amix", .ofList [("inputs", .integer 3), ("duration", .text "shortest"),
    ("normalize", .boolean false)]⟩]
  links := []

/-- The mixer gets what was written. A number of many digits can still be small, and none is read that does
not fit into 64 bits. -/
theorem mixer_kept :
    (∃ built, shortMix.build ⟨0⟩ builtInRegistry = .ok built ∧ ∃ m, built.graph.nodes[0]? = some m ∧
      m.applied.get? "inputs" = some (.integer 3) ∧ m.applied.get? "duration" = some (.text "shortest") ∧
      m.applied.get? "normalize" = some (.boolean false)) ∧
    Setting.Kind.integer.read "\u00a0+0000000000000000000000007\u3000" = .ok (.integer 7) ∧
    (∀ v, Setting.Kind.integer.read " 9223372036854775808" ≠ .ok v) ∧
    (Setting.Kind.boolean.read "\tYes ").toOption = (Setting.Kind.boolean.read "Yes").toOption := by
  obtain ⟨-, -, applied, numbers, blanks⟩ := @scalars_kept BuiltIn _
  refine ⟨?_, ?_, ?_, ?_⟩
  · have made : (shortMix.build ⟨0⟩ builtInRegistry).toOption.isSome := by decide +kernel
    cases built : shortMix.build ⟨0⟩ builtInRegistry with
    | error e => simp [built, Except.toOption] at made
    | ok after =>
      obtain ⟨m, place, registered, kept⟩ := applied _ _ _ _ built 0 _ rfl
      have same : m.kind = Mixer.kind.map BuiltIn.mixer := (Option.some.inj registered).symm
      rw [same] at kept
      refine ⟨after, rfl, m, place, ?_, ?_, ?_⟩
      · exact kept "inputs" (.integer 3) _ _ rfl rfl (.integer 3)
      · exact kept "duration" (.text "shortest") _ _ rfl rfl (.text "shortest")
      · exact kept "normalize" (.boolean false) _ _ rfl rfl (.boolean false)
  · refine (numbers _ _).2 ⟨"+0000000000000000000000007".toList, 7, ?_, ?_, by decide, by decide, rfl⟩
    · exact ⟨['\u00a0'], ['\u3000'], rfl, List.all_eq_true.1 (by decide), List.all_eq_true.1 (by decide)⟩
    · exact .plus ⟨by simp, List.all_eq_true.1 (by decide)⟩
  · have refused : Setting.Kind.integer.read " 9223372036854775808" =
        .error "' 9223372036854775808' is not an integer" := by rfl
    simp [refused]
  · refine blanks .boolean (.inr rfl) "Yes" "\tYes " ⟨['\t'], [' '], rfl, ?_, ?_⟩
    · exact List.all_eq_true.1 (by decide)
    · exact List.all_eq_true.1 (by decide)

end Blueprint
end FrameFlow
