import FrameFlow.Proofs.Json.Quoting

/-! The tokens that a JSON value is written as, and the cutting of its text into these tokens, on
however many lines it stands. -/
namespace FrameFlow.Json
open Decimal (Numeral)

mutual

/-- The values that are written as they are: texts that are no half of a surrogate pair, and numerals
that read back. -/
def Value.Plain : Value → Prop
  | .null => True
  | .boolean _ => True
  | .number n => n.Proper
  | .text s => s.isSome
  | .array items => PlainItems items
  | .object members => PlainMembers members

def PlainItems : List Value → Prop
  | [] => True
  | v :: rest => v.Plain ∧ PlainItems rest

def PlainMembers : List (Option String × Value) → Prop
  | [] => True
  | (key, v) :: rest => key.isSome ∧ v.Plain ∧ PlainMembers rest

end

mutual

def Value.tokens : Value → List Token
  | .null => [.null]
  | .boolean b => [.boolean b]
  | .number n => [.number n]
  | .text s => [.text s]
  | .array items => .mark .beginArray :: itemTokens items
  | .object members => .mark .beginObject :: memberTokens members

/-- The items of an array, after its opening bracket. -/
def itemTokens : List Value → List Token
  | [] => [.mark .endArray]
  | v :: rest => v.tokens ++ moreItemTokens rest

def moreItemTokens : List Value → List Token
  | [] => [.mark .endArray]
  | v :: rest => .mark .comma :: (v.tokens ++ moreItemTokens rest)

/-- The members of an object, after its opening brace. -/
def memberTokens : List (Option String × Value) → List Token
  | [] => [.mark .endObject]
  | (key, v) :: rest => .text key :: .mark .colon :: (v.tokens ++ moreMemberTokens rest)

def moreMemberTokens : List (Option String × Value) → List Token
  | [] => [.mark .endObject]
  | (key, v) :: rest =>
    .mark .comma :: .text key :: .mark .colon :: (v.tokens ++ moreMemberTokens rest)

end

theorem Mark.ofChar?_eq_none {c : Char} (front : c.isDigit || c == '-') : Mark.ofChar? c = none := by
  refine List.find?_eq_none.2 fun m _ same => ?_
  rw [← beq_iff_eq.1 same] at front
  cases m <;> exact absurd front (by decide)

theorem Token.scan_render {n : Numeral} {rest : List Char} (proper : n.Proper)
    (stops : Stops Numeral.continues rest) : scan (n.render ++ rest) = some (.number n, rest) := by
  obtain ⟨c, r, same, front⟩ := Numeral.exists_render_cons proper
  have other : ∀ d, (d.isDigit || d == '-') = false → c ≠ d := by
    rintro d none rfl
    simp [front] at none
  have scanned := Numeral.scan_render proper stops
  rw [same, List.cons_append] at scanned ⊢
  simp [scan, Mark.ofChar?_eq_none front, other '"' (by decide), other 'n' (by decide),
    other 't' (by decide), other 'f' (by decide), scanned]

/-- A text is cut into tokens, whatever the fuel beyond its length. -/
def Lexes (s : List Char) (ts : List Token) : Prop :=
  ∀ fuel, s.length ≤ fuel → Token.lexWithin fuel s = some ts

namespace Lexes

variable {c : Char} {w rest : List Char} {t : Token} {ts : List Token}

theorem lex (lexes : Lexes rest ts) : Token.lex rest = some ts := lexes _ (Nat.le_refl _)

protected theorem nil : Lexes [] [] := by
  intro fuel _
  cases fuel <;> rfl

theorem space (blank : isSpace c) (lexes : Lexes rest ts) : Lexes (c :: rest) ts := by
  intro fuel enough
  obtain ⟨fuel, rfl⟩ := Nat.exists_eq_add_one_of_ne_zero (Nat.ne_zero_of_lt enough)
  rw [Token.lexWithin, if_pos blank]
  exact lexes fuel (Nat.le_of_succ_le_succ enough)

theorem token (visible : isSpace c = false) (scanned : Token.scan (c :: (w ++ rest)) = some (t, rest))
    (lexes : Lexes rest ts) : Lexes (c :: (w ++ rest)) (t :: ts) := by
  intro fuel enough
  obtain ⟨fuel, rfl⟩ := Nat.exists_eq_add_one_of_ne_zero (Nat.ne_zero_of_lt enough)
  have left := lexes fuel (by simp at enough; omega)
  simp [Token.lexWithin, visible, scanned, left]

theorem mark (m : Mark) (lexes : Lexes rest ts) : Lexes (m.char :: rest) (.mark m :: ts) := by
  refine token (w := []) (by cases m <;> rfl) ?_ lexes
  cases m <;> rfl

theorem newline (level : Nat) (lexes : Lexes rest ts) :
    Lexes ((Json.newline level).toList ++ rest) ts := by
  have blanks : ∀ n, Lexes (List.replicate n ' ' ++ rest) ts := by
    intro n
    induction n with
    | zero => exact lexes
    | succ n ih => exact space (by decide) ih
  simpa [Json.newline, Mark.char] using space (c := '\n') (by decide) (blanks (2 * level))

theorem text (s : String) (lexes : Lexes rest ts) :
    Lexes ((quote s).toList ++ rest) (.text (some s) :: ts) := by
  have scanned := scan_quote s rest
  rw [toList_quote] at scanned ⊢
  exact token (by decide) scanned lexes

theorem number {n : Numeral} (proper : n.Proper) (stops : Stops Numeral.continues rest)
    (lexes : Lexes rest ts) : Lexes (n.render ++ rest) (.number n :: ts) := by
  obtain ⟨c, r, same, front⟩ := Numeral.exists_render_cons proper
  have scanned := Token.scan_render proper stops
  rw [same] at scanned ⊢
  refine token (Bool.eq_false_iff.2 fun blank => ?_) scanned lexes
  simp only [isSpace, Bool.or_eq_true, beq_iff_eq] at blank
  rcases blank with ((rfl | rfl) | rfl) | rfl <;> exact absurd front (by decide)

end Lexes

theorem stops_newline (level : Nat) (rest : List Char) :
    Stops Numeral.continues ((newline level).toList ++ rest) := by
  rw [newline, String.toList_append]
  exact stops_cons (by decide)

theorem stops_prettyItems (level outer : Nat) (items : List Value) (rest : List Char) :
    Stops Numeral.continues
      ((prettyItems level items).toList ++ ((newline outer).toList ++ rest)) := by
  cases items with
  | nil => exact stops_newline outer rest
  | cons v items =>
    simp only [prettyItems, String.toList_append]
    exact stops_cons (by decide)

theorem stops_prettyMembers (level outer : Nat) (members : List (Option String × Value))
    (rest : List Char) :
    Stops Numeral.continues
      ((prettyMembers level members).toList ++ ((newline outer).toList ++ rest)) := by
  cases members with
  | nil => exact stops_newline outer rest
  | cons member members =>
    simp only [prettyMembers, String.toList_append]
    exact stops_cons (by decide)

mutual

/-- The text of a value is cut into the tokens of the value, if what follows is no part of a
numeral. -/
theorem lexes_pretty (level : Nat) (v : Value) {rest : List Char} {ts : List Token} (plain : v.Plain)
    (stops : Stops Numeral.continues rest) (lexes : Lexes rest ts) :
    Lexes ((v.pretty level).toList ++ rest) (v.tokens ++ ts) := by
  match v with
  | .null =>
    rw [Value.pretty, Value.tokens]
    exact .token (c := 'n') (w := "ull".toList) (by decide) rfl lexes
  | .boolean true =>
    rw [Value.pretty, Value.tokens]
    exact .token (c := 't') (w := "rue".toList) (by decide) rfl lexes
  | .boolean false =>
    rw [Value.pretty, Value.tokens]
    exact .token (c := 'f') (w := "alse".toList) (by decide) rfl lexes
  | .number n =>
    rw [Value.pretty, String.toList_ofList]
    exact .number plain stops lexes
  | .text (some s) =>
    rw [Value.pretty, Value.tokens]
    exact .text s lexes
  | .array [] =>
    rw [Value.pretty, Value.tokens, itemTokens]
    exact .mark .beginArray (.mark .endArray lexes)
  | .array (v :: items) =>
    -- A comma or a line end follows each item, so that a numeral ends where the item does.
    obtain ⟨first, others⟩ := plain
    have after := lexes_prettyItems (level + 1) level items others lexes
    have item := lexes_pretty (level + 1) v first (stops_prettyItems _ _ _ _) after
    simpa [Value.pretty, Value.tokens, itemTokens, Mark.char] using
      Lexes.mark .beginArray (.newline (level + 1) item)
  | .object [] =>
    rw [Value.pretty, Value.tokens, memberTokens]
    exact .mark .beginObject (.mark .endObject lexes)
  | .object ((some key, v) :: members) =>
    obtain ⟨-, first, others⟩ := plain
    have after := lexes_prettyMembers (level + 1) level members others lexes
    have value := lexes_pretty (level + 1) v first (stops_prettyMembers _ _ _ _) after
    have member := Lexes.text key (.mark .colon (.space (c := ' ') (by decide) value))
    simpa [Value.pretty, Value.tokens, memberTokens, Mark.char] using
      Lexes.mark .beginObject (.newline (level + 1) member)

theorem lexes_prettyItems (level outer : Nat) (items : List Value) {rest : List Char}
    {ts : List Token} (plain : PlainItems items) (lexes : Lexes rest ts) :
    Lexes ((prettyItems level items).toList ++ ((newline outer).toList ++ ']' :: rest))
      (moreItemTokens items ++ ts) := by
  match items with
  | [] => exact .newline outer (.mark .endArray lexes)
  | v :: items =>
    have after := lexes_prettyItems level outer items plain.2 lexes
    have item := lexes_pretty level v plain.1 (stops_prettyItems _ _ _ _) after
    simpa [prettyItems, moreItemTokens, Mark.char] using
      Lexes.mark .comma (.newline level item)

theorem lexes_prettyMembers (level outer : Nat) (members : List (Option String × Value))
    {rest : List Char} {ts : List Token} (plain : PlainMembers members) (lexes : Lexes rest ts) :
    Lexes ((prettyMembers level members).toList ++ ((newline outer).toList ++ '\x7d' :: rest))
      (moreMemberTokens members ++ ts) := by
  match members with
  | [] => exact .newline outer (.mark .endObject lexes)
  | (some key, v) :: members =>
    have after := lexes_prettyMembers level outer members plain.2.2 lexes
    have value := lexes_pretty level v plain.2.1 (stops_prettyMembers _ _ _ _) after
    have member := Lexes.text key (.mark .colon (.space (c := ' ') (by decide) value))
    simpa [prettyMembers, moreMemberTokens, Mark.char] using
      Lexes.mark .comma (.newline level member)

end

theorem lex_write {v : Value} (plain : v.Plain) : Token.lex (write v).toList = some v.tokens := by
  have lexes := lexes_pretty 0 v plain stops_nil .nil
  rw [List.append_nil, List.append_nil] at lexes
  exact lexes.lex

end FrameFlow.Json
