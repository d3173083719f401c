import FrameFlow.Proofs.Blueprint.Json
import FrameFlow.Proofs.Blueprint.Toml
import Mathlib.Algebra.Group.Nat.Defs

/-! Blueprints survive writing and reading, in both text formats. -/
namespace FrameFlow.Blueprint

/-- A blueprint none of whose options is a float reads back from its JSON text as it was, its options in
their order, if its numbers fit 64 bits. If they fit 64 bits with sign, it has a TOML text as well, and
reads back from that. -/
theorem reads_back {b : Blueprint} (exact : b.IsExact) :
    (b.NumbersBelow (2 ^ 64) → readJson b.writeJson = .ok b) ∧
      (b.NumbersBelow (2 ^ 63) → ∃ s, b.writeToml = .ok s ∧ readToml s = .ok b) :=
  ⟨readJson_writeJson exact, exists_writeToml exact⟩

/-- A blueprint whose texts look like other things. -/
def disguised : Blueprint where
  options := ⟨2 ^ 63 - 1, 0⟩
  nodes := [⟨"a\"b\\'''\n", "", ⟨[("z", .text "1"), ("true", .text "false"), ("a.b", .boolean true),
      ("", .integer (-1)), ("\x00é", .text "\"\"\"\r\t\x7F")], by decide⟩⟩,
    ⟨"[nodes]", "null", .empty⟩]
  links := [⟨"a\"b\\'''\n", 2 ^ 63 - 1, "[nodes]", 0⟩]

theorem reads_back_disguised :
    disguised.IsExact ∧ disguised.NumbersBelow (2 ^ 64) ∧ disguised.NumbersBelow (2 ^ 63) ∧
      readJson disguised.writeJson = .ok disguised ∧
      ∃ s, disguised.writeToml = .ok s ∧ readToml s = .ok disguised := by
  have exact : disguised.IsExact := by decide
  have signed : disguised.NumbersBelow (2 ^ 63) :=
    ⟨by decide, by decide, by simp [disguised], by simp [disguised]⟩
  have unsigned : disguised.NumbersBelow (2 ^ 64) :=
    ⟨by decide, by decide, by simp [disguised], by simp [disguised]⟩
  exact ⟨exact, unsigned, signed, (reads_back exact).1 unsigned, (reads_back exact).2 signed⟩

end FrameFlow.Blueprint
