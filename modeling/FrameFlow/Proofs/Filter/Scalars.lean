import FrameFlow.Proofs.Filter.Resolution
import FrameFlow.Proofs.Text.Digits
import FrameFlow.Text.Blank
import Mathlib.Algebra.Order.Ring.Int

/-! Scalars in texts. A whole number is a run of digits with at most one sign in front, and it has to fit
into 64 bits. Blanks around it, or around a truth value, say nothing. -/
namespace FrameFlow

open Text (Around trim isBlank)

namespace Decimal

variable {s run : List Char} {n : Int}

/-- A whole number in digits, perhaps with a sign in front. -/
inductive Writes : List Char → Int → Prop where
  | plain {run : List Char} (digits : Digits run) : Writes run (Nat.ofDigitChars 10 run 0)
  | plus {run : List Char} (digits : Digits run) : Writes ('+' :: run) (Nat.ofDigitChars 10 run 0)
  | minus {run : List Char} (digits : Digits run) : Writes ('-' :: run) (-Nat.ofDigitChars 10 run 0)

theorem natural?_of_digits (digits : Digits run) : natural? run = some (Nat.ofDigitChars 10 run 0) := by
  have nonempty : run.isEmpty = false := by simpa using digits.nonempty
  have all : run.all Char.isDigit := List.all_eq_true.2 digits.all
  rw [natural?, nonempty, all]
  rfl

theorem digits_of_natural? {m : Nat} (read : natural? run = some m) :
    Digits run ∧ m = Nat.ofDigitChars 10 run 0 := by
  have digits : Digits run := by
    unfold natural? at read
    split at read
    · simp at read
    · next right =>
      rw [Bool.or_eq_true, not_or, Bool.not_eq_true', Bool.not_eq_false, List.isEmpty_iff] at right
      exact ⟨right.1, List.all_eq_true.1 right.2⟩
  rw [natural?_of_digits digits] at read
  exact ⟨digits, (Option.some.inj read).symm⟩

/-- No digit is a sign. -/
theorem Digits.splitSign_eq (digits : Digits run) : splitSign run = (false, run) := by
  refine splitSign.eq_3 run ?_ ?_
  all_goals
    rintro rest rfl
    exact absurd (digits.all _ List.mem_cons_self) (by decide)

theorem integer?_eq_map {negative : Bool} (split : splitSign s = (negative, run)) :
    integer? s = (natural? run).map fun m : Nat => if negative then -(m : Int) else m := by
  simp only [integer?, split]
  cases natural? run <;> rfl

theorem splitSign_cases (s : List Char) :
    (∃ run, s = '-' :: run ∧ splitSign s = (true, run)) ∨
      (∃ run, s = '+' :: run ∧ splitSign s = (false, run)) ∨ splitSign s = (false, s) := by
  fun_cases splitSign s with
  | case1 run => exact .inl ⟨run, rfl, rfl⟩
  | case2 run => exact .inr (.inl ⟨run, rfl, rfl⟩)
  | case3 minus plus => exact .inr (.inr rfl)

theorem integer?_eq_some_iff : integer? s = some n ↔ Writes s n := by
  constructor
  · intro read
    obtain ⟨run, rfl, split⟩ | ⟨run, rfl, split⟩ | split := splitSign_cases s
    all_goals
      rw [integer?_eq_map split] at read
      obtain ⟨m, natural, rfl⟩ := Option.map_eq_some_iff.1 read
      obtain ⟨digits, rfl⟩ := digits_of_natural? natural
    · exact .minus digits
    · exact .plus digits
    · exact .plain digits
  · intro writes
    cases writes with
    | plain digits => simp [integer?_eq_map digits.splitSign_eq, natural?_of_digits digits]
    | plus digits => simp [integer?_eq_map rfl, natural?_of_digits digits]
    | minus digits => simp [integer?_eq_map rfl, natural?_of_digits digits]

theorem not_blank_of_isDigit {c : Char} (digit : c.isDigit) : isBlank c = false := by
  have range : 48 ≤ c.toNat ∧ c.toNat ≤ 57 := by simpa [Char.isDigit, UInt32.le_iff_toNat_le] using digit
  simp [isBlank]
  omega

theorem Digits.not_blank (digits : Digits run) : ∀ c ∈ run, isBlank c = false :=
  fun c member => not_blank_of_isDigit (digits.all c member)

theorem Writes.not_blank (writes : Writes s n) : ∀ c ∈ s, isBlank c = false := by
  cases writes with
  | plain digits => exact digits.not_blank
  | plus digits => exact List.forall_mem_cons.2 ⟨by decide, digits.not_blank⟩
  | minus digits => exact List.forall_mem_cons.2 ⟨by decide, digits.not_blank⟩

/-- Only blanks can stand around a number without being part of it. -/
theorem Writes.trim_eq (writes : Writes s n) : trim s = s :=
  Text.trim_of_ends (fun c first => writes.not_blank c (List.mem_of_mem_head? first))
    fun c last => writes.not_blank c (List.mem_of_mem_getLast? last)

theorem writes_toString (n : Int) : Writes (toString n).toList n := by
  have digits := digits_repr n.natAbs
  have value : Nat.ofDigitChars 10 (Nat.repr n.natAbs).toList 0 = n.natAbs := value_repr n.natAbs
  rw [toList_toString]
  by_cases negative : n < 0
  · have same : -(n.natAbs : Int) = n := by omega
    have minus := Writes.minus digits
    rw [value, same] at minus
    rwa [decide_eq_true negative]
  · have same : (n.natAbs : Int) = n := by omega
    have plain := Writes.plain digits
    rw [value, same] at plain
    rwa [decide_eq_false negative]

end Decimal

namespace Setting

variable {kind : Kind} {n : Int} {i : Int64} {v : Value} {raw inner outer : String}

theorem ofInt?_eq_some_iff : ofInt? n = some i ↔ (-2 ^ 63 ≤ n ∧ n ≤ 2 ^ 63 - 1) ∧ i = .ofInt n := by
  unfold ofInt?
  split <;> grind

/-- Whole numbers are read from just those texts that write one of 64 bits, with blanks around it or not. -/
theorem read_integer_iff : Kind.integer.read raw = .ok v ↔ ∃ core n, Around core raw.toList ∧
    Decimal.Writes core n ∧ -2 ^ 63 ≤ n ∧ n ≤ 2 ^ 63 - 1 ∧ v = .integer (.ofInt n) := by
  simp only [Kind.read_eq_ok_iff, Kind.read?, Option.map_eq_some_iff, Option.bind_eq_some_iff,
    Decimal.integer?_eq_some_iff, ofInt?_eq_some_iff]
  constructor
  · rintro ⟨_, ⟨n, writes, ⟨low, high⟩, rfl⟩, rfl⟩
    exact ⟨_, n, Text.around_trim raw.toList, writes, low, high, rfl⟩
  · rintro ⟨core, n, around, writes, low, high, rfl⟩
    refine ⟨_, ⟨n, ?_, ⟨low, high⟩, rfl⟩, rfl⟩
    rwa [Text.trim_of_around around, writes.trim_eq]

theorem toOption_read (kind : Kind) (raw : String) : (kind.read raw).toOption = kind.read? raw := by
  unfold Kind.read
  cases kind.read? raw <;> rfl

/-- Blanks around a text count where texts are taken as they stand, and nowhere else. -/
theorem read?_eq_of_around (scalar : kind ≠ .text) (around : Around inner.toList outer.toList) :
    kind.read? outer = kind.read? inner := by
  have same := Text.trim_of_around around
  cases kind with
  | text => exact absurd rfl scalar
  | integer | float | boolean => simp only [Kind.read?, same]

theorem read_boolean (b : Bool) : Kind.boolean.read (toString b) = .ok (.boolean b) := by
  cases b <;> rfl

theorem read_integer (i : Int64) : Kind.integer.read (toString i.toInt) = .ok (.integer i) := by
  have fits := ofInt?_eq_some_iff.1 (ofInt?_toInt i)
  have writes := Decimal.writes_toString i.toInt
  refine read_integer_iff.2 ⟨_, i.toInt, Text.around_self _, writes, fits.1.1, fits.1.2, ?_⟩
  rw [← fits.2]

end Setting
end FrameFlow
