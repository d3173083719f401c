import FrameFlow.Toml.Writer
import FrameFlow.Proofs.Text.Digits

/-! The content of a text in TOML reads back from each of the four quotings: escapes stand for their
characters, and quotes inside belong to the text where they are few. -/
namespace FrameFlow.Toml

/-- What a character of a text adds to what was read. -/
def addChar (c : Char) (read : List Char × List Char) : List Char × List Char := (c :: read.1, read.2)

/-- What stands after the backslash of an escape for a character, its first character apart. -/
structure Escapes (d : Char) (e : List Char) (c : Char) : Prop where
  visible : isSpace d = false ∧ d ≠ '\n' ∧ d ≠ '\r'
  read : ∀ r, readEscape (d :: (e ++ r)) = some (c, r)

theorem escapes_letter {d c : Char} (visible : isSpace d = false ∧ d ≠ '\n' ∧ d ≠ '\r')
    (code : d ≠ 'u' ∧ d ≠ 'U') (escaped : escape? d = some c) : Escapes d [] c where
  visible := visible
  read := by
    intro r
    rw [List.nil_append, readEscape.eq_3 d r (fun _ _ _ _ _ same _ => code.1 same)
      (fun _ _ _ _ _ _ _ _ _ same _ => code.2 same), escaped]
    rfl

theorem control_cases {c : Char} (control : isControl c) :
    c.toNat < 0x20 ∨ c.toNat = 0x7F := by
  simp only [isControl, Bool.or_eq_true, Bool.and_eq_true, decide_eq_true_eq, beq_iff_eq] at control
  exact control.imp And.left id

theorem codePoint?_upperHex4 :
    ∀ n < 0x80, (upperHex4 n).length = 4 ∧ codePoint? (upperHex4 n) = some (Char.ofNat n) := by
  decide +kernel

theorem escapes_code {c : Char} (control : isControl c) : Escapes 'u' (upperHex4 c.toNat) c where
  visible := by decide
  read := by
    intro r
    have small : c.toNat < 0x80 := by
      rcases control_cases control with low | delete <;> omega
    obtain ⟨four, code⟩ := codePoint?_upperHex4 c.toNat small
    match upperHex4 c.toNat, four, code with
    | [a, b, d, e], _, code => simp [readEscape, code, Char.ofNat_toNat]

/-- A character other than a quote is written as itself or as an escape. -/
theorem escapeChar_cases (lines : Bool) (c : Char) :
    (∃ d e, escapeChar lines c = '\\' :: d :: e ∧ Escapes d e c) ∨
      (escapeChar lines c = [c] ∧ c ≠ '\\' ∧ c ≠ '\r' ∧
        (isControl c = false ∨ lines = true ∧ c = '\n')) := by
  unfold escapeChar
  split
  · next same =>
    subst same
    exact .inl ⟨_, _, rfl, escapes_letter (by decide) (by decide) rfl⟩
  split
  · next same =>
    subst same
    exact .inl ⟨_, _, rfl, escapes_letter (by decide) (by decide) rfl⟩
  split
  · next same =>
    subst same
    cases lines with
    | true => exact .inr ⟨rfl, by decide, by decide, .inr ⟨rfl, rfl⟩⟩
    | false => exact .inl ⟨_, _, rfl, escapes_letter (by decide) (by decide) rfl⟩
  split
  · next same =>
    subst same
    exact .inl ⟨_, _, rfl, escapes_letter (by decide) (by decide) rfl⟩
  split
  · next same =>
    subst same
    exact .inl ⟨_, _, rfl, escapes_letter (by decide) (by decide) rfl⟩
  split
  · next same =>
    subst same
    exact .inl ⟨_, _, rfl, escapes_letter (by decide) (by decide) rfl⟩
  split
  · next control => exact .inl ⟨_, _, rfl, escapes_code control⟩
  · next carriage backslash plain =>
    exact .inr ⟨rfl, backslash, carriage, .inl (Bool.eq_false_iff.2 plain)⟩

section Basic

variable {c d : Char} {e r rest : List Char}

theorem readBasic_escaped (escapes : Escapes d e c) :
    readBasic ('\\' :: d :: (e ++ r)) = (readBasic r).map (addChar c) := by
  rw [readBasic]
  split
  · next read =>
    obtain ⟨rfl, rfl⟩ := Prod.mk.inj (Option.some.inj (read.symm.trans (escapes.read r)))
    rfl
  · next read => simp [escapes.read r] at read

theorem readBasic_plain (quote : c ≠ '"') (backslash : c ≠ '\\') (plain : isControl c = false) :
    readBasic (c :: r) = (readBasic r).map (addChar c) := by
  rw [readBasic.eq_4 c r quote backslash, if_neg (Bool.eq_false_iff.1 plain)]
  rfl

/-- Between double quotes, a text with its escapes reads back up to the closing quote. -/
theorem readBasic_escape (run : Nat) (s rest : List Char) :
    readBasic (escape false 0 run s ++ '"' :: rest) = some (s, rest) := by
  induction s generalizing run with
  | nil => rw [escape, List.nil_append, readBasic]
  | cons c r ih =>
    rw [escape]
    split
    · next same =>
      subst same
      have escapes : Escapes '"' [] '"' := escapes_letter (by decide) (by decide) rfl
      have read := readBasic_escaped (r := escape false 0 0 r ++ '"' :: rest) escapes
      simpa [ih, addChar] using read
    · next quote =>
      rw [List.append_assoc]
      obtain ⟨d, e, same, escapes⟩ | ⟨same, backslash, -, plain | ⟨lines, -⟩⟩ := escapeChar_cases false c
      · rw [same, List.cons_append, List.cons_append, readBasic_escaped escapes, ih]
        rfl
      · rw [same, List.singleton_append, readBasic_plain quote backslash plain, ih]
        rfl
      · simp at lines

end Basic

/-- Between single quotes, a text of visible characters reads back. -/
theorem readLiteral_quoted {s : List Char} (rest : List Char) (plain : ∀ c ∈ s, isControl c = false)
    (unquoted : '\'' ∉ s) : readLiteral (s ++ '\'' :: rest) = some (s, rest) := by
  induction s with
  | nil => rfl
  | cons c r ih =>
    obtain ⟨first, others⟩ := List.forall_mem_cons.1 plain
    obtain ⟨other, unquoted⟩ := not_or.1 (mt List.mem_cons.2 unquoted)
    rw [List.cons_append, readLiteral.eq_3 _ _ (Ne.symm other), if_neg (Bool.eq_false_iff.1 first),
      ih others unquoted]
    rfl

theorem replicate_append_cons (k : Nat) (c : Char) (r : List Char) :
    List.replicate k c ++ c :: r = List.replicate (k + 1) c ++ r := by
  simp [List.replicate_succ']

/-- Quotes that are not followed by another one. -/
theorem closeTripled_replicate {quote : Char} {k : Nat} {rest : List Char} (few : k ≤ 2)
    (stops : Stops (· == quote) rest) :
    closeTripled quote (List.replicate k quote ++ rest) = (List.replicate k quote, rest) := by
  have other : ∀ c r, rest = c :: r → c ≠ quote := fun c r same => by simpa using stops c r same
  match k, few with
  | 0, _ =>
    match rest, other with
    | [], _ => rfl
    | [c], other => simp [closeTripled, other c [] rfl]
    | c :: d :: r, other => simp [closeTripled, other c _ rfl]
  | 1, _ =>
    match rest, other with
    | [], _ => simp [closeTripled]
    | c :: r, other => simp [closeTripled, other c r rfl]
  | 2, _ => simp [closeTripled]

section Tripled

variable {c d : Char} {e r rest : List Char}

theorem afterNewline?_of_visible (newline : d ≠ '\n') (carriage : d ≠ '\r') :
    afterNewline? (d :: r) = none :=
  afterNewline?.eq_3 _ (fun _ same => newline (List.cons.inj same).1)
    fun _ same => carriage (List.cons.inj same).1

theorem afterFold?_of_visible (visible : isSpace d = false ∧ d ≠ '\n' ∧ d ≠ '\r') :
    afterFold? (d :: r) = none := by
  rw [afterFold?, List.dropWhile_cons_of_neg (by simp [visible.1]),
    afterNewline?_of_visible visible.2.1 visible.2.2]
  rfl

theorem readTripledBasic_escaped (escapes : Escapes d e c) :
    readTripledBasic ('\\' :: d :: (e ++ r)) = (readTripledBasic r).map (addChar c) := by
  rw [readTripledBasic]
  split
  · next fold => simp [afterFold?_of_visible escapes.visible] at fold
  · split
    · next read =>
      obtain ⟨rfl, rfl⟩ := Prod.mk.inj (Option.some.inj (read.symm.trans (escapes.read r)))
      rfl
    · next read => simp [escapes.read r] at read

theorem readTripledBasic_plain (quotes : ∀ r', c = '"' → r ≠ '"' :: '"' :: r') (backslash : c ≠ '\\')
    (carriage : c ≠ '\r') (plain : isControl c = false ∨ c = '\n') :
    readTripledBasic (c :: r) = (readTripledBasic r).map (addChar c) := by
  by_cases newline : c = '\n'
  · subst newline
    rw [readTripledBasic]
    rfl
  · have visible := plain.resolve_right newline
    rw [readTripledBasic.eq_6 c r quotes (fun _ same => absurd same carriage) newline backslash,
      if_neg (Bool.eq_false_iff.1 visible)]
    rfl

/-- What a few quotes of a text add to what was read, whichever quotes they are. -/
theorem read_quotes {quote : Char} {read : List Char → Option (List Char × List Char)}
    (plain : ∀ r, (∀ r', r ≠ quote :: quote :: r') → read (quote :: r) = (read r).map (addChar quote))
    {k : Nat} (few : k ≤ 2) (stops : Stops (· == quote) rest) :
    read (List.replicate k quote ++ rest) =
      (read rest).map fun read => (List.replicate k quote ++ read.1, read.2) := by
  have other : ∀ r, rest ≠ quote :: r := fun r same => by simpa using stops quote r same
  induction k with
  | zero => simp
  | succ k ih =>
    have apart : ∀ r', List.replicate k quote ++ rest ≠ quote :: quote :: r' := by
      intro r' same
      match k, few with
      | 0, _ => exact other _ same
      | 1, _ => exact other _ (List.cons.inj same).2
    rw [List.replicate_succ, List.cons_append, plain _ apart, ih (by omega), Option.map_map]
    rfl

theorem readTripledBasic_quotes {k : Nat} (few : k ≤ 2) (stops : Stops (· == '"') rest) :
    readTripledBasic (List.replicate k '"' ++ rest) =
      (readTripledBasic rest).map fun read => (List.replicate k '"' ++ read.1, read.2) :=
  read_quotes (fun _ apart => readTripledBasic_plain (fun r' _ => apart r') (by decide) (by decide)
    (.inl (by decide))) few stops

/-- Between tripled double quotes, a text reads back together with the quotes that stand right before
it, which are no more than two. -/
theorem readTripledBasic_escape {k : Nat} (few : k ≤ 2) (s : List Char)
    (stops : Stops (· == '"') rest) :
    readTripledBasic (List.replicate k '"' ++ (escape true 2 k s ++ '"' :: '"' :: '"' :: rest)) =
      some (List.replicate k '"' ++ s, rest) := by
  -- `k` counts the quotes right before the text, as `escape` does: a quote that may stand adds to them,
  -- and any other character, or an escaped quote, starts anew.
  induction s generalizing k with
  | nil =>
    have closed : List.replicate k '"' ++ (escape true 2 k [] ++ '"' :: '"' :: '"' :: rest) =
        '"' :: '"' :: '"' :: (List.replicate k '"' ++ rest) := by
      simp [escape, replicate_append_cons, List.replicate_succ]
    rw [closed, readTripledBasic, closeTripled_replicate few stops, List.append_nil]
  | cons c r ih =>
    have after := ih (k := 0) (by decide)
    rw [List.replicate_zero, List.nil_append, List.nil_append] at after
    rw [escape]
    split
    · next same =>
      subst same
      split
      · next room => rw [List.cons_append, replicate_append_cons, ih room, replicate_append_cons]
      · next full =>
        have escapes : Escapes '"' [] '"' := escapes_letter (by decide) (by decide) rfl
        rw [List.cons_append, readTripledBasic_quotes few (stops_cons (by decide)), List.cons_append,
          ← List.nil_append (escape true 2 0 r ++ _), readTripledBasic_escaped escapes, after]
        rfl
    · next quote =>
      rw [List.append_assoc]
      obtain ⟨d, e, same, escapes⟩ | ⟨same, backslash, carriage, plain⟩ := escapeChar_cases true c
      · rw [same, List.cons_append, List.cons_append,
          readTripledBasic_quotes few (stops_cons (by decide)), readTripledBasic_escaped escapes, after]
        rfl
      · rw [same, List.singleton_append,
          readTripledBasic_quotes few (stops_cons (by simpa using quote)),
          readTripledBasic_plain (fun _ same => absurd same quote) backslash carriage
            (plain.imp_right And.right), after]
        rfl

theorem le_longestRun (c : Char) (k : Nat) (s : List Char) : k ≤ longestRun c k s := by
  induction s generalizing k with
  | nil => exact Nat.le_refl k
  | cons d r ih =>
    rw [longestRun]
    split
    · exact Nat.le_of_succ_le (ih (k + 1))
    · exact Nat.le_max_left ..

theorem readTripledLiteral_plain (quotes : ∀ r', c = '\'' → r ≠ '\'' :: '\'' :: r')
    (plain : isControl c = false ∨ c = '\n') :
    readTripledLiteral (c :: r) = (readTripledLiteral r).map (addChar c) := by
  have carriage : c ≠ '\r' := by
    rintro rfl
    simp [isControl] at plain
  by_cases newline : c = '\n'
  · subst newline
    rw [readTripledLiteral]
    rfl
  · have visible := plain.resolve_right newline
    rw [readTripledLiteral.eq_5 c r quotes (fun _ same => absurd same carriage) newline,
      if_neg (Bool.eq_false_iff.1 visible)]
    rfl

theorem readTripledLiteral_quotes {k : Nat} (few : k ≤ 2) (stops : Stops (· == '\'') rest) :
    readTripledLiteral (List.replicate k '\'' ++ rest) =
      (readTripledLiteral rest).map fun read => (List.replicate k '\'' ++ read.1, read.2) :=
  read_quotes (fun _ apart => readTripledLiteral_plain (fun r' _ => apart r') (.inl (by decide)))
    few stops

/-- Between tripled single quotes, a text reads back together with the quotes that stand right before
it, if no more than two stand together. -/
theorem readTripledLiteral_quoted {k : Nat} {s : List Char}
    (plain : ∀ c ∈ s, isControl c = false ∨ c = '\n') (few : longestRun '\'' k s ≤ 2)
    (stops : Stops (· == '\'') rest) :
    readTripledLiteral (List.replicate k '\'' ++ (s ++ '\'' :: '\'' :: '\'' :: rest)) =
      some (List.replicate k '\'' ++ s, rest) := by
  induction s generalizing k with
  | nil =>
    have closed : List.replicate k '\'' ++ '\'' :: '\'' :: '\'' :: rest =
        '\'' :: '\'' :: '\'' :: (List.replicate k '\'' ++ rest) := by
      simp [replicate_append_cons, List.replicate_succ]
    rw [longestRun] at few
    rw [List.nil_append, closed, readTripledLiteral, closeTripled_replicate few stops, List.append_nil]
  | cons c r ih =>
    obtain ⟨first, others⟩ := List.forall_mem_cons.1 plain
    rw [longestRun] at few
    split at few
    · next same =>
      subst same
      rw [List.cons_append, replicate_append_cons, ih others few, replicate_append_cons]
    · next quote =>
      have after := ih (k := 0) others (by omega)
      rw [List.replicate_zero, List.nil_append, List.nil_append] at after
      rw [List.cons_append, readTripledLiteral_quotes (by omega) (stops_cons (by simpa using quote)),
        readTripledLiteral_plain (fun _ same => absurd same quote) first, after]
      rfl

end Tripled

end FrameFlow.Toml
