import FrameFlow.Decimal.Numeral

/-! Runs of characters at the front of a text, and the runs of digits that whole numbers are written
as. -/
namespace FrameFlow

/-- The text does not go on with a character of some sort. -/
def Stops (sort : Char → Bool) (s : List Char) : Prop := ∀ c r, s = c :: r → sort c = false

section Runs

variable {sort : Char → Bool} {c : Char} {run rest : List Char}

theorem stops_nil : Stops sort [] := by
  intro c r same
  simp at same

theorem stops_cons (other : sort c = false) : Stops sort (c :: rest) := by
  rintro _ _ ⟨⟩
  exact other

theorem Stops.takeWhile_eq (stops : Stops sort rest) : rest.takeWhile sort = [] := by
  cases rest with
  | nil => rfl
  | cons c r => simp [stops c r rfl]

theorem takeWhile_run (all : ∀ c ∈ run, sort c) (stops : Stops sort rest) :
    (run ++ rest).takeWhile sort = run := by
  rw [List.takeWhile_append_of_pos all, stops.takeWhile_eq, List.append_nil]

theorem Stops.dropWhile_eq (stops : Stops sort rest) : rest.dropWhile sort = rest := by
  cases rest with
  | nil => rfl
  | cons c r => simp [stops c r rfl]

theorem dropWhile_run (all : ∀ c ∈ run, sort c) (stops : Stops sort rest) :
    (run ++ rest).dropWhile sort = rest := by
  rw [List.dropWhile_append_of_pos all, stops.dropWhile_eq]

end Runs

namespace Decimal

theorem isDigit_of_mem_repr {n : Nat} {c : Char} (mem : c ∈ (Nat.repr n).toList) : c.isDigit := by
  rw [Nat.toList_repr] at mem
  exact Nat.isDigit_of_mem_toDigits (by decide) (by decide) mem

theorem repr_ne_nil (n : Nat) : (Nat.repr n).toList ≠ [] := by
  rw [Nat.toList_repr]
  exact Nat.toDigits_ne_nil

theorem value_repr (n : Nat) : value (Nat.repr n).toList = n := by
  rw [Nat.toList_repr]
  exact Nat.ofDigitChars_toDigits (by decide) (by decide)

theorem toList_toString (n : Int) :
    (toString n).toList = Numeral.sign (n < 0) ++ (Nat.repr n.natAbs).toList := by
  rw [Int.toString_eq_repr, Int.repr_eq_if]
  by_cases negative : n < 0
  · have size : (-n).toNat = n.natAbs := by omega
    rw [if_neg (by omega), String.toList_append, size]
    simp [Numeral.sign, negative]
  · have size : n.toNat = n.natAbs := by omega
    rw [if_pos (by omega), size]
    simp [Numeral.sign, negative]

/-- Only zero is written with a zero in front. -/
theorem exists_repr_cons {n : Nat} (positive : 0 < n) :
    ∃ c r, (Nat.repr n).toList = c :: r ∧ c.isDigit ∧ c ≠ '0' := by
  rw [Nat.toList_repr]
  induction n using Nat.strongRecOn with
  | ind n ih =>
    by_cases single : n < 10
    · refine ⟨Nat.digitChar n, [], Nat.toDigits_of_lt_base single, ?_, ?_⟩
      · simpa [Nat.isDigit_digitChar] using single
      · have all : ∀ d < 10, 0 < d → Nat.digitChar d ≠ '0' := by decide
        exact all n single positive
    · obtain ⟨c, r, same, digit, other⟩ := ih (n / 10) (by omega) (by omega)
      refine ⟨c, r ++ [Nat.digitChar (n % 10)], ?_, digit, other⟩
      rw [Nat.toDigits_of_base_le (by decide) (by omega), same]
      rfl

/-- At least one digit, and nothing but digits. -/
structure Digits (run : List Char) : Prop where
  nonempty : run ≠ []
  all : ∀ c ∈ run, c.isDigit

theorem digits_repr (n : Nat) : Digits (Nat.repr n).toList :=
  ⟨repr_ne_nil n, fun _ mem => isDigit_of_mem_repr mem⟩

namespace Numeral

/-- The numerals that are written as they are read: digits stand in every part, and no zero in front
of other digits. -/
structure Proper (n : Numeral) : Prop where
  whole : Digits n.whole
  front : n.whole.head? = some '0' → n.whole.length = 1
  places : ∀ run, n.places = some run → Digits run
  power : ∀ negative run, n.power = some (negative, run) → Digits run

theorem proper_ofInt (n : Int) : (ofInt n).Proper where
  whole := digits_repr n.natAbs
  front := by
    intro zero
    by_cases none : n.natAbs = 0
    · simp [ofInt, none]
    · obtain ⟨c, r, same, -, other⟩ := exists_repr_cons (Nat.pos_of_ne_zero none)
      simp [ofInt, same, other] at zero
  places := by simp [ofInt]
  power := by simp [ofInt]

@[simp] theorem isWhole_ofInt (n : Int) : (ofInt n).isWhole := rfl

@[simp] theorem negative_ofInt (n : Int) : (ofInt n).negative = decide (n < 0) := rfl

@[simp] theorem value_ofInt (n : Int) : value (ofInt n).whole = n.natAbs := value_repr n.natAbs

theorem ofNat_eq_ofInt (n : Nat) : ofNat n = ofInt n := by
  simp [ofNat, ofInt]

/-- Characters by which the digits before an exponent would go on. -/
def inDigits (c : Char) : Bool := c.isDigit || c == '.'

/-- Characters by which a numeral would go on. -/
def continues (c : Char) : Bool := inDigits c || c == 'e' || c == 'E'

/-- How the fraction of a numeral is written. -/
def placesText : Option (List Char) → List Char
  | some run => '.' :: run
  | none => []

/-- How the exponent of a numeral is written. -/
def powerText : Option (Bool × List Char) → List Char
  | some (negative, run) => 'e' :: (if negative then '-' else '+') :: run
  | none => []

theorem render_eq (n : Numeral) :
    n.render = sign n.negative ++ (n.whole ++ (placesText n.places ++ powerText n.power)) := by
  rw [← List.append_assoc, ← List.append_assoc]
  rfl

theorem exists_render_cons {n : Numeral} (proper : n.Proper) :
    ∃ c r, n.render = c :: r ∧ (c.isDigit || c == '-') := by
  rw [render_eq]
  obtain ⟨negative, whole, places, power⟩ := n
  obtain ⟨c, r, rfl⟩ := List.exists_cons_of_ne_nil proper.whole.nonempty
  have digit : c.isDigit := proper.whole.all c (by simp)
  cases negative with
  | true => exact ⟨'-', _, rfl, by decide⟩
  | false => exact ⟨c, _, rfl, by simp [digit]⟩

variable {run rest : List Char}

theorem digits?_run (digits : Digits run) (stops : Stops Char.isDigit rest) :
    digits? (run ++ rest) = some (run, rest) := by
  have some : run.isEmpty = false := by simpa using digits.nonempty
  simp [digits?, takeWhile_run digits.all stops, dropWhile_run digits.all stops, some]

theorem whole?_run (digits : Digits run) (front : run.head? = some '0' → run.length = 1)
    (stops : Stops Char.isDigit rest) : whole? (run ++ rest) = some (run, rest) := by
  rw [whole?, digits?_run digits stops]
  simpa using front

theorem places?_render {places : Option (List Char)}
    (digits : ∀ run, places = some run → Digits run) (stops : Stops inDigits rest) :
    places? (placesText places ++ rest) = some (places, rest) := by
  have digit : Stops Char.isDigit rest := fun c r same => by
    simpa using (Bool.or_eq_false_iff.1 (stops c r same)).1
  cases places with
  | some run => simp [placesText, places?, digits?_run (digits run rfl) digit]
  | none =>
    rw [placesText, List.nil_append, places?.eq_2 rest fun r same => absurd (stops _ r same) (by decide)]

theorem power?_render {power : Option (Bool × List Char)}
    (digits : ∀ negative run, power = some (negative, run) → Digits run)
    (stops : Stops continues rest) :
    power? (powerText power ++ rest) = some (power, rest) := by
  have other : ∀ c r, rest = c :: r → c.isDigit = false ∧ ¬(c = 'e' ∨ c = 'E') := by
    intro c r same
    have none := stops c r same
    simp only [continues, inDigits, Bool.or_eq_false_iff, beq_eq_false_iff_ne] at none
    exact ⟨none.1.1.1, not_or.2 ⟨none.1.2, none.2⟩⟩
  have digit : Stops Char.isDigit rest := fun c r same => (other c r same).1
  match power with
  | some (true, run) => simp [powerText, power?, splitSign, digits?_run (digits _ run rfl) digit]
  | some (false, run) => simp [powerText, power?, splitSign, digits?_run (digits _ run rfl) digit]
  | none =>
    cases rest with
    | nil => rfl
    | cons c r => simp [powerText, power?, not_or.1 (other c r rfl).2]

theorem stops_power (power : Option (Bool × List Char)) (stops : Stops inDigits rest) :
    Stops inDigits (powerText power ++ rest) := by
  cases power with
  | some power => exact stops_cons (by decide)
  | none => exact stops

theorem stops_places (places : Option (List Char)) (stops : Stops Char.isDigit rest) :
    Stops Char.isDigit (placesText places ++ rest) := by
  cases places with
  | some run => exact stops_cons (by decide)
  | none => exact stops

theorem scan_render {n : Numeral} (proper : n.Proper) (stops : Stops continues rest) :
    scan (n.render ++ rest) = some (n, rest) := by
  have inner : Stops inDigits rest := fun c r same => by
    have none := stops c r same
    simp only [continues, Bool.or_eq_false_iff] at none
    exact none.1.1
  have last := power?_render proper.power stops
  have beforePower := stops_power n.power inner
  have middle := places?_render proper.places beforePower
  have beforePlaces := stops_places n.places fun c r same =>
    (Bool.or_eq_false_iff.1 (beforePower c r same)).1
  have first := whole?_run proper.whole proper.front beforePlaces
  rw [render_eq]
  obtain ⟨negative, whole, places, power⟩ := n
  simp only [List.append_assoc] at first ⊢
  cases negative with
  | true => simp [scan, sign, first, middle, last]
  | false =>
    obtain ⟨c, r, rfl⟩ := List.exists_cons_of_ne_nil proper.whole.nonempty
    have other : c ≠ '-' := by
      rintro rfl
      exact absurd (proper.whole.all '-' (by simp)) (by decide)
    simp only [List.cons_append] at first
    simp [scan, sign, other, first, middle, last]

end Numeral
end Decimal
end FrameFlow
