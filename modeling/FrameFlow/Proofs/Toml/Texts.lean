import FrameFlow.Proofs.Toml.Quoting

/-! Texts and keys in TOML read back as they were, whatever characters they have: the quoting that is
chosen for one always suits it. -/
namespace FrameFlow.Toml

section Text

variable {s t rest : List Char}

/-- A text on lines of its own starts after a line end, which does not count. -/
theorem skipNewline_opening (visible : '\n' ∉ s → ∀ c r, t = c :: r → c ≠ '\n' ∧ c ≠ '\r') :
    skipNewline (opening s ++ t) = t := by
  rw [opening]
  split
  · rfl
  · next none =>
    rw [List.contains_iff_mem] at none
    match t, visible none with
    | [], _ => rfl
    | c :: r, visible =>
      obtain ⟨newline, carriage⟩ := visible c r rfl
      rw [List.nil_append, skipNewline, afterNewline?_of_visible newline carriage]
      rfl

/-- What the escaped form of a text starts with. -/
theorem escape_front {lines : Bool} {most : Nat} {d : Char} {r : List Char}
    (same : escape lines most 0 s = d :: r) :
    d = '\\' ∨ d ∈ s ∧ d ≠ '\r' ∧ (d = '"' → 0 < most) := by
  cases s with
  | nil => simp [escape] at same
  | cons c s =>
    rw [escape] at same
    split at same
    · next quote =>
      split at same
      · next room =>
        obtain ⟨rfl, -⟩ := List.cons.inj same
        exact .inr ⟨by simp [quote], by decide, fun _ => room⟩
      · exact .inl (List.cons.inj same).1.symm
    · next quote =>
      obtain ⟨_, _, escaped, -⟩ | ⟨plain, -, carriage, -⟩ := escapeChar_cases lines c
      · rw [escaped] at same
        exact .inl (List.cons.inj same).1.symm
      · rw [plain] at same
        obtain ⟨rfl, -⟩ := List.cons.inj same
        exact .inr ⟨List.mem_cons_self, carriage, fun same => absurd same quote⟩

theorem readText_basic (stops : Stops (· == '"') rest) :
    readText (basic s ++ rest) = some (s, rest) := by
  have single : ∀ r, escape false 0 0 s ++ '"' :: rest ≠ '"' :: '"' :: r := by
    intro r same
    cases front : escape false 0 0 s with
    | nil =>
      rw [front] at same
      simpa using stops '"' r (List.cons.inj same).2
    | cons d r' =>
      rw [front] at same
      obtain ⟨rfl, -⟩ := List.cons.inj same
      simpa using escape_front front
  have read := readBasic_escape 0 s rest
  simp only [basic, List.cons_append, List.append_assoc, List.nil_append]
  rw [readText.eq_3 _ single, read]

theorem readText_literal (plain : ∀ c ∈ s, isControl c = false) (unquoted : '\'' ∉ s)
    (stops : Stops (· == '\'') rest) : readText (literal s ++ rest) = some (s, rest) := by
  have single : ∀ r, s ++ '\'' :: rest ≠ '\'' :: '\'' :: r := by
    intro r same
    cases s with
    | nil => simpa using stops '\'' r (List.cons.inj same).2
    | cons c s => exact unquoted (by simp [(List.cons.inj same).1])
  have read := readLiteral_quoted rest plain unquoted
  simp only [literal, List.cons_append, List.append_assoc, List.nil_append]
  rw [readText.eq_4 _ single, read]

theorem readText_tripledBasic (stops : Stops (· == '"') rest) :
    readText (tripledBasic s ++ rest) = some (s, rest) := by
  have visible : '\n' ∉ s → ∀ c r, escape true 2 0 s ++ '"' :: '"' :: '"' :: rest = c :: r →
      c ≠ '\n' ∧ c ≠ '\r' := by
    intro none c r same
    cases front : escape true 2 0 s with
    | nil =>
      rw [front] at same
      rw [← (List.cons.inj same).1]
      decide
    | cons d r' =>
      rw [front] at same
      obtain ⟨rfl, -⟩ := List.cons.inj same
      rcases escape_front front with rfl | ⟨mem, carriage, -⟩
      · decide
      · exact ⟨fun newline => none (newline ▸ mem), carriage⟩
  have shape : tripledBasic s ++ rest =
      '"' :: '"' :: '"' :: (opening s ++ (escape true 2 0 s ++ '"' :: '"' :: '"' :: rest)) := by
    simp [tripledBasic]
  have read := readTripledBasic_escape (k := 0) (by decide) s stops
  rw [shape, readText, skipNewline_opening visible]
  exact read

theorem readText_tripledLiteral (plain : ∀ c ∈ s, isControl c = false ∨ c = '\n')
    (few : longestRun '\'' 0 s ≤ 2) (stops : Stops (· == '\'') rest) :
    readText (tripledLiteral s ++ rest) = some (s, rest) := by
  have visible : '\n' ∉ s → ∀ c r, s ++ '\'' :: '\'' :: '\'' :: rest = c :: r →
      c ≠ '\n' ∧ c ≠ '\r' := by
    intro none c r same
    cases s with
    | nil =>
      rw [← (List.cons.inj same).1]
      decide
    | cons d s =>
      obtain ⟨rfl, -⟩ := List.cons.inj same
      have other : d ≠ '\n' := fun newline => none (newline ▸ List.mem_cons_self)
      refine ⟨other, ?_⟩
      rintro rfl
      simpa [isControl] using plain _ List.mem_cons_self
  have shape : tripledLiteral s ++ rest =
      '\'' :: '\'' :: '\'' :: (opening s ++ (s ++ '\'' :: '\'' :: '\'' :: rest)) := by
    simp [tripledLiteral]
  have read := readTripledLiteral_quoted (k := 0) plain few stops
  rw [shape, readText, skipNewline_opening visible]
  exact read

theorem plain_of_needsCodes (none : needsCodes s = false) :
    ∀ c ∈ s, isControl c = false ∨ c = '\n' := by
  intro c mem
  have plain := List.any_eq_false.1 none c mem
  simp only [Bool.and_eq_true, bne_iff_ne, not_and, Decidable.not_not] at plain
  cases control : isControl c with
  | false => exact .inl rfl
  | true => exact .inr (plain control)

theorem not_mem_of_longestRun {c : Char} {s : List Char} (none : longestRun c 0 s = 0) : c ∉ s := by
  induction s with
  | nil => simp
  | cons d r ih =>
    rw [longestRun] at none
    split at none
    · have run := le_longestRun c (0 + 1) r
      omega
    · next other =>
      rw [List.mem_cons, not_or]
      exact ⟨Ne.symm other, ih (by omega)⟩

/-- A text reads back from the quoting that is chosen for it. -/
theorem readText_quoteText (double : Stops (· == '"') rest) (single : Stops (· == '\'') rest) :
    readText (quoteText s ++ rest) = some (s, rest) := by
  unfold quoteText
  dsimp only
  split
  · exact readText_basic double
  split
  · next plain =>
    simp only [Bool.and_eq_true, Bool.not_eq_true', beq_iff_eq, List.contains_eq_mem,
      decide_eq_false_iff_not] at plain
    obtain ⟨⟨codes, singles⟩, lines⟩ := plain
    have visible : ∀ c ∈ s, isControl c = false := fun c mem =>
      (plain_of_needsCodes codes c mem).resolve_right fun newline => lines (newline ▸ mem)
    exact readText_literal visible (not_mem_of_longestRun singles) single
  split
  · exact readText_tripledBasic double
  split
  · next plain =>
    simp only [Bool.and_eq_true, Bool.not_eq_true', decide_eq_true_eq] at plain
    exact readText_tripledLiteral (plain_of_needsCodes plain.1) plain.2 single
  split
  · exact readText_tripledBasic double
  · exact readText_basic double

end Text

section Key

variable {rest : List Char}

theorem keyPart?_bare {s : List Char} (nonempty : s ≠ []) (bare : ∀ c ∈ s, isBare c)
    (stops : Stops isBare rest) : keyPart? (s ++ rest) = some (String.ofList s, rest) := by
  have front : ∀ c r, s ++ rest = c :: r → isBare c := by
    intro c r same
    obtain ⟨d, s, rfl⟩ := List.exists_cons_of_ne_nil nonempty
    rw [← (List.cons.inj same).1]
    exact bare d List.mem_cons_self
  rw [keyPart?.eq_3 _ (fun r same => absurd (front _ r same) (by decide))
    (fun r same => absurd (front _ r same) (by decide)), takeWhile_run bare stops,
    dropWhile_run bare stops]
  simp [nonempty]

/-- A key reads back where no character follows that could belong to it. -/
theorem keyPart?_writeKey (key : String) (stops : Stops isBare rest) :
    keyPart? (writeKey key ++ rest) = some (key, rest) := by
  have quoted : keyPart? (basic key.toList ++ rest) = some (key, rest) := by
    simp [basic, keyPart?, readBasic_escape]
  unfold writeKey
  dsimp only
  split
  · next bare =>
    simp only [Bool.and_eq_true, Bool.not_eq_true', List.isEmpty_eq_false_iff, List.all_eq_true] at bare
    rw [keyPart?_bare bare.1 bare.2 stops, String.ofList_toList]
  split
  · exact quoted
  split
  · next plain =>
    simp only [Bool.and_eq_true, Bool.not_eq_true', List.any_eq_false, List.contains_eq_mem,
      decide_eq_false_iff_not] at plain
    have read := readLiteral_quoted rest (fun c mem => Bool.eq_false_iff.2 (plain.1 c mem)) plain.2
    simp [literal, keyPart?, read]
  · exact quoted

end Key

end FrameFlow.Toml
