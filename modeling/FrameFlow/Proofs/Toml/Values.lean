import FrameFlow.Proofs.Toml.Texts

/-! The values of entries in TOML read back as they were: a whole number is not taken for a date, and a
text keeps its quotes and so stays a text, whatever it says. -/
namespace FrameFlow.Toml
open Decimal (isDigit_of_mem_repr repr_ne_nil exists_repr_cons value_repr toList_toString)

/-- What a value reads back as. -/
def Scalar.item : Scalar → Item
  | .text s => .text s
  | .integer n => .integer n
  | .float x => .float x
  | .boolean b => .boolean b
  | .emptyArray => .array []

/-- Whether no rounding can change a value on its way through a text. -/
def Scalar.IsExact : Scalar → Prop
  | .float _ => False
  | _ => True

section Numbers

variable {run rest : List Char}

theorem field?_run {count most v : Nat} {r : List Char} (all : ∀ c ∈ run, c.isDigit)
    (read : field? count most (run ++ '\n' :: rest) = some (v, r)) :
    ∃ c r', r = c :: r' ∧ (c.isDigit || c == '\n') := by
  unfold field? at read
  dsimp only at read
  split at read
  · next digits =>
    obtain ⟨-, rfl⟩ := Prod.mk.inj (Option.some.inj read)
    by_cases long : count ≤ run.length
    · rw [List.drop_append_of_le_length long]
      cases left : run.drop count with
      | nil => exact ⟨'\n', rest, rfl, by decide⟩
      | cons c r =>
        have digit := all c (List.mem_of_mem_drop (left ▸ List.mem_cons_self))
        exact ⟨c, _, rfl, by simp [digit]⟩
    · have newline : '\n' ∈ (run ++ '\n' :: rest).take count := by
        rw [List.take_append]
        obtain ⟨k, more⟩ :=
          Nat.exists_eq_add_one_of_ne_zero (Nat.sub_ne_zero_of_lt (Nat.not_le.1 long))
        simp [more]
      exact absurd (List.all_eq_true.1 digits.2.1 _ newline) (by decide)
  · simp at read

theorem field?_run_ne {count most v : Nat} {c : Char} {r : List Char} (all : ∀ c ∈ run, c.isDigit)
    (other : (c.isDigit || c == '\n') = false) :
    field? count most (run ++ '\n' :: rest) ≠ some (v, c :: r) := by
  intro read
  obtain ⟨d, r', same, front⟩ := field?_run all read
  rw [← (List.cons.inj same).1, other] at front
  exact absurd front (by decide)

/-- A run of digits at the end of a line is neither a date nor a time of day. -/
theorem starts_run (all : ∀ c ∈ run, c.isDigit) : Moment.starts (run ++ '\n' :: rest) = false := by
  rw [Moment.starts, Bool.or_eq_false_iff]
  constructor
  · unfold Date.starts
    split
    · next read => exact absurd read (field?_run_ne all (by decide))
    · rfl
  · unfold Time.starts
    split
    · next read => exact absurd read (field?_run_ne all (by decide))
    · rfl

theorem starts_minus : Moment.starts ('-' :: rest) = false := by
  have none : ∀ count most, field? (count + 1) most ('-' :: rest) = none := by
    intro count most
    simp [field?]
  simp [Moment.starts, Date.starts, Time.starts, none]

theorem moreDigits_run (all : ∀ c ∈ run, c.isDigit) :
    moreDigits Char.isDigit (run ++ '\n' :: rest) = some (run, '\n' :: rest) := by
  induction run with
  | nil => rfl
  | cons c r ih =>
    obtain ⟨first, others⟩ := List.forall_mem_cons.1 all
    rw [List.cons_append, moreDigits.eq_3 _ _ _ fun _ _ same => absurd (same ▸ first) (by decide),
      if_pos first, ih others]
    rfl

theorem whole?_repr (n : Nat) :
    whole? ((Nat.repr n).toList ++ '\n' :: rest) = some ((Nat.repr n).toList, '\n' :: rest) := by
  by_cases zero : n = 0
  · subst zero
    rfl
  · obtain ⟨c, r, same, digit, other⟩ := exists_repr_cons (Nat.pos_of_ne_zero zero)
    have all : ∀ c ∈ r, c.isDigit := fun c mem => isDigit_of_mem_repr (same ▸ List.mem_cons_of_mem _ mem)
    rw [same, List.cons_append, whole?.eq_2 _ fun r same => other (List.cons.inj same).1, digits?,
      if_pos digit, moreDigits_run all]
    rfl

theorem decimal?_repr (negative : Bool) (n : Nat) :
    decimal? negative ((Nat.repr n).toList ++ '\n' :: rest) =
      (integer? negative n).map (·, '\n' :: rest) := by
  rw [decimal?, whole?_repr]
  change (integer? negative (Decimal.value (Nat.repr n).toList)).map _ = _
  rw [value_repr]

theorem afterWord?_of_front {c d : Char} {w r : List Char} (other : c ≠ d) :
    Json.afterWord? (c :: w) (d :: r) = none := by
  simp [Json.afterWord?, List.isPrefixOf, other]

theorem signed?_repr (negative : Bool) (n : Nat) (rest : List Char) :
    signed? negative ((Nat.repr n).toList ++ '\n' :: rest) =
      (integer? negative n).map (·, '\n' :: rest) := by
  obtain ⟨c, r, same⟩ := List.exists_cons_of_ne_nil (repr_ne_nil n)
  have digit : c.isDigit := isDigit_of_mem_repr (same ▸ List.mem_cons_self)
  have other : ∀ d, d.isDigit = false → d ≠ c := by
    rintro d none rfl
    simp [digit] at none
  rw [← decimal?_repr, same, List.cons_append, signed?]
  rw [show "inf".toList = ['i', 'n', 'f'] from rfl, show "nan".toList = ['n', 'a', 'n'] from rfl,
    afterWord?_of_front (other 'i' (by decide)), afterWord?_of_front (other 'n' (by decide))]

/-- Digits are not taken for a number of another base, since a zero in front ends them. -/
theorem number?_repr (n : Nat) :
    number? ((Nat.repr n).toList ++ '\n' :: rest) =
      signed? false ((Nat.repr n).toList ++ '\n' :: rest) := by
  by_cases zero : n = 0
  · subst zero
    rfl
  · obtain ⟨c, r, same, digit, other⟩ := exists_repr_cons (Nat.pos_of_ne_zero zero)
    rw [same, List.cons_append]
    refine number?.eq_6 _ ?_ ?_ ?_ ?_ ?_ <;> intro r' same
    · exact other (List.cons.inj same).1
    · exact other (List.cons.inj same).1
    · exact other (List.cons.inj same).1
    · exact absurd ((List.cons.inj same).1 ▸ digit) (by decide)
    · exact absurd ((List.cons.inj same).1 ▸ digit) (by decide)

theorem number?_toString (n : Int) (rest : List Char) :
    number? ((toString n).toList ++ '\n' :: rest) =
      (Setting.ofInt? n).map fun n => (.integer n, '\n' :: rest) := by
  rw [toList_toString]
  by_cases negative : n < 0
  · have sign : Decimal.Numeral.sign (n < 0) = ['-'] := by simp [Decimal.Numeral.sign, negative]
    have back : -(n.natAbs : Int) = n := by omega
    rw [sign, List.singleton_append, List.cons_append, number?, signed?_repr, integer?, if_pos rfl,
      back, Option.map_map]
    rfl
  · have sign : Decimal.Numeral.sign (n < 0) = [] := by simp [Decimal.Numeral.sign, negative]
    have back : (n.natAbs : Int) = n := by omega
    rw [sign, List.nil_append, number?_repr, signed?_repr, integer?, if_neg (by decide), back,
      Option.map_map]
    rfl

theorem exists_toString_cons (n : Int) :
    ∃ c r, (toString n).toList = c :: r ∧ (c.isDigit || c == '-') := by
  rw [toList_toString]
  by_cases negative : n < 0
  · exact ⟨'-', (Nat.repr n.natAbs).toList, by simp [Decimal.Numeral.sign, negative], by decide⟩
  · obtain ⟨c, r, same⟩ := List.exists_cons_of_ne_nil (repr_ne_nil n.natAbs)
    have digit : c.isDigit := isDigit_of_mem_repr (same ▸ List.mem_cons_self)
    exact ⟨c, r, by simpa [Decimal.Numeral.sign, negative] using same, by simp [digit]⟩

theorem starts_toString (n : Int) (rest : List Char) :
    Moment.starts ((toString n).toList ++ '\n' :: rest) = false := by
  rw [toList_toString]
  by_cases negative : n < 0
  · simpa [Decimal.Numeral.sign, negative] using starts_minus
  · simpa [Decimal.Numeral.sign, negative] using
      starts_run fun c mem => isDigit_of_mem_repr (n := n.natAbs) mem

theorem scalar?_toString (n : Int) (rest : List Char) :
    scalar? ((toString n).toList ++ '\n' :: rest) =
      (Setting.ofInt? n).map fun n => (.integer n, '\n' :: rest) := by
  obtain ⟨c, r, same, front⟩ := exists_toString_cons n
  have number := number?_toString n rest
  have starts := starts_toString n rest
  rw [same, List.cons_append] at number starts ⊢
  have other : ∀ d, (d.isDigit || d == '-') = false → ∀ r', c :: (r ++ '\n' :: rest) ≠ d :: r' := by
    rintro d none r' same
    obtain ⟨rfl, -⟩ := List.cons.inj same
    simp [front] at none
  rw [scalar?.eq_3 _ (other 't' (by decide)) (other 'f' (by decide)), starts, number]
  rfl

end Numbers

variable {depth fuel : Nat} {c : Char} {r rest : List Char}

theorem value?_number (front : c.isDigit || c == '-') :
    value? depth (fuel + 1) (c :: r) = scalar? (c :: r) := by
  have other : ∀ d, (d.isDigit || d == '-') = false → ∀ r', c :: r = d :: r' → False := by
    rintro d none r' same
    obtain ⟨rfl, -⟩ := List.cons.inj same
    simp [front] at none
  exact value?.eq_8 _ _ _ (other _ (by decide)) (other _ (by decide)) (other _ (by decide))
    (other _ (by decide))

theorem quoteText_front (s : List Char) : ∃ c r, quoteText s = c :: r ∧ (c = '"' ∨ c = '\'') := by
  unfold quoteText
  dsimp only
  split
  · exact ⟨_, _, rfl, .inl rfl⟩
  split
  · exact ⟨_, _, rfl, .inr rfl⟩
  split
  · exact ⟨_, _, rfl, .inl rfl⟩
  split
  · exact ⟨_, _, rfl, .inr rfl⟩
  split <;> exact ⟨_, _, rfl, .inl rfl⟩

theorem value?_text (front : c = '"' ∨ c = '\'') :
    value? depth (fuel + 1) (c :: r) =
      (readText (c :: r)).map fun (text, rest) => (.text (String.ofList text), rest) := by
  rcases front with rfl | rfl <;> rw [value?]

/-- A value reads back up to the end of its line. -/
theorem value?_write {v : Scalar} (exact : v.IsExact) :
    value? (depth + 1) (fuel + 2) (v.write ++ '\n' :: rest) = some (v.item, '\n' :: rest) := by
  cases v with
  | text s =>
    obtain ⟨c, r, same, front⟩ := quoteText_front s.toList
    have read : readText (quoteText s.toList ++ '\n' :: rest) = some (s.toList, '\n' :: rest) :=
      readText_quoteText (stops_cons (by decide)) (stops_cons (by decide))
    rw [same, List.cons_append] at read
    rw [Scalar.write, same, List.cons_append, value?_text front, read]
    simp [Scalar.item]
  | integer n =>
    obtain ⟨c, r, same, front⟩ := exists_toString_cons n.toInt
    have read := scalar?_toString n.toInt rest
    rw [same, List.cons_append] at read
    rw [Scalar.write, same, List.cons_append, value?_number front, read, Setting.ofInt?_toInt]
    rfl
  | float x => exact exact.elim
  | boolean b => cases b <;> rfl
  | emptyArray =>
    have trivia : skipTrivia (']' :: '\n' :: rest) = some (']' :: '\n' :: rest) := by
      rw [skipTrivia]
      rfl
    rw [Scalar.write, List.cons_append, List.cons_append, List.nil_append, value?, arrayItems?, trivia]
    rfl

end FrameFlow.Toml
