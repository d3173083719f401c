import FrameFlow.Proofs.Json.Tokens

/-! A value is read back from the tokens it is written as, and so from its text. -/
namespace FrameFlow.Json
namespace State

variable {outer : List Open} {t : Token}

/-- An array that goes on with an item goes on as any place for a value does. -/
theorem step_begun (other : t ≠ .mark .endArray) :
    step (begun outer) t = step (due (.array [] :: outer)) t := by
  rw [step.eq_3 t outer (fun same => other same), step]

end State

theorem exists_tokens_cons (v : Value) : ∃ t ts, v.tokens = t :: ts ∧ t ≠ .mark .endArray := by
  cases v <;> exact ⟨_, _, by rw [Value.tokens], by simp⟩

variable {ts : List Token}

mutual

/-- The tokens of a value, where one is due, make it complete. -/
theorem foldlM_tokens (v : Value) (outer : List Open) (ts : List Token) :
    (v.tokens ++ ts).foldlM State.step (.due outer) = ts.foldlM State.step (.after v outer) := by
  match v with
  | .null => rw [Value.tokens]; rfl
  | .boolean b => rw [Value.tokens]; rfl
  | .number n => rw [Value.tokens]; rfl
  | .text s => rw [Value.tokens]; rfl
  | .array [] => rw [Value.tokens, itemTokens]; rfl
  | .array (v :: items) =>
    obtain ⟨t, following, same, other⟩ := exists_tokens_cons v
    have first := foldlM_tokens v (.array [] :: outer) (moreItemTokens items ++ ts)
    rw [foldlM_moreItemTokens, same] at first
    rw [Value.tokens, itemTokens, same]
    simpa [State.step_begun other, State.step, State.begin] using first
  | .object [] => rw [Value.tokens, memberTokens]; rfl
  | .object ((key, v) :: members) =>
    have first := foldlM_tokens v (.object [] key :: outer) (moreMemberTokens members ++ ts)
    rw [foldlM_moreMemberTokens] at first
    rw [Value.tokens, memberTokens]
    simpa [State.step, State.begin] using first

theorem foldlM_moreItemTokens (v : Value) (read items : List Value) (outer : List Open)
    (ts : List Token) :
    (moreItemTokens items ++ ts).foldlM State.step (.after v (.array read :: outer)) =
      ts.foldlM State.step (.after (.array (read.reverse ++ v :: items)) outer) := by
  match items with
  | [] => simp [moreItemTokens, State.step]
  | w :: items =>
    have next := foldlM_tokens w (.array (v :: read) :: outer) (moreItemTokens items ++ ts)
    rw [foldlM_moreItemTokens] at next
    simpa [moreItemTokens, State.step] using next

theorem foldlM_moreMemberTokens (v : Value) (key : Option String)
    (read members : List (Option String × Value)) (outer : List Open) (ts : List Token) :
    (moreMemberTokens members ++ ts).foldlM State.step (.after v (.object read key :: outer)) =
      ts.foldlM State.step (.after (.object (read.reverse ++ (key, v) :: members)) outer) := by
  match members with
  | [] => simp [moreMemberTokens, State.step]
  | (name, w) :: members =>
    have next := foldlM_tokens w (.object ((key, v) :: read) name :: outer)
      (moreMemberTokens members ++ ts)
    rw [foldlM_moreMemberTokens] at next
    simpa [moreMemberTokens, State.step] using next

end

theorem ofTokens?_tokens (v : Value) : ofTokens? v.tokens = some v := by
  have whole := foldlM_tokens v [] []
  rw [List.append_nil] at whole
  rw [ofTokens?, whole]
  rfl

/-- A plain value reads back from its text. -/
theorem read?_write {v : Value} (plain : v.Plain) : read? (write v) = some v := by
  rw [read?, lex_write plain]
  exact ofTokens?_tokens v

end FrameFlow.Json
