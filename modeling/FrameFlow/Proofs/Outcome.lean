import Mathlib.Data.List.Induction

/-! Computations that may be refused: when they give a result, and over which item of a list they fail
where they go through one. -/
namespace FrameFlow

variable {ε δ α β : Type}

@[simp] theorem pure_eq_ok_iff {a b : α} : (pure a : Except ε α) = .ok b ↔ a = b :=
  Except.ok.injEq a b ▸ Iff.rfl

theorem ok_bind (a : α) (f : α → Except ε β) : (.ok a >>= f) = f a := rfl

theorem bind_eq_ok_iff {x : Except ε α} {f : α → Except ε β} {b : β} :
    x >>= f = .ok b ↔ ∃ a, x = .ok a ∧ f a = .ok b := by
  cases x <;> simp [bind, Except.bind]

@[simp] theorem mapError_eq_ok_iff {x : Except ε α} {f : ε → δ} {a : α} :
    x.mapError f = .ok a ↔ x = .ok a := by
  cases x with
  | ok b =>
    show (.ok b : Except δ α) = .ok a ↔ _
    simp
  | error e =>
    show (.error (f e) : Except δ α) = .ok a ↔ _
    simp

@[simp] theorem map_eq_ok_iff {x : Except ε α} {f : α → β} {b : β} :
    x.map f = .ok b ↔ ∃ a, x = .ok a ∧ f a = b := by
  cases x <;> simp [Except.map]

/-- A check that throws where something is wrong, and what follows it. -/
theorem check_eq_ok_iff {p : Prop} [Decidable p] {e : ε} {f : Unit → Except ε β} {b : β} :
    (if p then throw e >>= f else f ()) = .ok b ↔ ¬p ∧ f () = .ok b := by
  by_cases wrong : p
  · simp [wrong, throw, throwThe, MonadExceptOf.throw, bind, Except.bind]
  · simp [wrong]

@[simp] theorem guard_eq_ok_iff {p : Prop} [Decidable p] {e : ε} {u : Unit} :
    (if p then .ok () else .error e : Except ε Unit) = .ok u ↔ p := by
  by_cases h : p <;> simp [h]

theorem guard_eq_error_iff {p : Prop} [Decidable p] {e e' : ε} :
    (if p then .ok () else .error e : Except ε Unit) = .error e' ↔ ¬p ∧ e = e' := by
  by_cases h : p <;> simp [h]

theorem bind_eq_error_iff {x : Except ε α} {f : α → Except ε β} {e : ε} :
    x >>= f = .error e ↔ x = .error e ∨ ∃ a, x = .ok a ∧ f a = .error e := by
  cases x <;> simp [bind, Except.bind]

/-- A computation that goes through a list fails at its first item that fails. -/
theorem foldlM_eq_error_iff {f : β → α → Except ε β} {all : List α} {start : β} {e : ε} :
    all.foldlM f start = .error e ↔ ∃ before a after b, all = before ++ a :: after ∧
      before.foldlM f start = .ok b ∧ f b a = .error e := by
  constructor
  · intro failed
    induction all generalizing start with
    | nil => simp [pure, Except.pure] at failed
    | cons a rest ih =>
      rw [List.foldlM_cons, bind_eq_error_iff] at failed
      obtain here | ⟨b, first, later⟩ := failed
      · exact ⟨[], a, rest, start, rfl, rfl, here⟩
      · obtain ⟨before, c, after, d, rfl, passed, refused⟩ := ih later
        exact ⟨a :: before, c, after, d, rfl, by simp [first, passed, ok_bind], refused⟩
  · rintro ⟨before, a, after, b, rfl, passed, refused⟩
    simp [List.foldlM_append, passed, refused, bind, Except.bind]

/-- Where a step may be taken does not depend on the steps before, all are taken if each may be. -/
theorem exists_foldlM_ok_iff {f : β → α → Except ε β} {Good : α → Prop}
    (step : ∀ b a, (∃ c, f b a = .ok c) ↔ Good a) (all : List α) (start : β) :
    (∃ b, all.foldlM f start = .ok b) ↔ ∀ a ∈ all, Good a := by
  induction all generalizing start with
  | nil => exact ⟨fun _ _ none => absurd none (List.not_mem_nil), fun _ => ⟨start, rfl⟩⟩
  | cons a rest ih =>
    rw [List.forall_mem_cons, List.foldlM_cons]
    constructor
    · rintro ⟨b, ok⟩
      obtain ⟨c, first, later⟩ := bind_eq_ok_iff.1 ok
      exact ⟨(step start a).1 ⟨c, first⟩, (ih c).1 ⟨b, later⟩⟩
    · rintro ⟨good, later⟩
      obtain ⟨c, first⟩ := (step start a).2 good
      obtain ⟨b, ok⟩ := (ih c).2 later
      exact ⟨b, bind_eq_ok_iff.2 ⟨c, first, ok⟩⟩

/-- A check goes through a list. As long as the items are `Good` together it goes on, with a state that
is `Fit` for those that it has passed, and it ends at the first that is `Bad` after those before it. -/
structure Checks (f : β → α → Except ε β) (Good : List α → Prop) (Fit : List α → β → Prop)
    (Bad : List α → α → ε → Prop) : Prop where
  earlier : ∀ {all : List α} {a : α}, Good (all ++ [a]) → Good all
  sound : ∀ {all : List α} {a : α} {e : ε}, Good (all ++ [a]) → ¬ Bad all a e
  good : ∀ {all : List α} {b : β}, Fit all b → Good all
  refuses : ∀ {all : List α} {a : α} {b : β} {e : ε}, Fit all b → Bad all a e → f b a = .error e
  outcome : ∀ {all : List α} {b : β}, Fit all b → ∀ a,
    (∃ e, Bad all a e) ∨ ∃ c, f b a = .ok c ∧ Fit (all ++ [a]) c

namespace Checks

variable {f : β → α → Except ε β} {Good : List α → Prop} {Fit : List α → β → Prop}
  {Bad : List α → α → ε → Prop} {all : List α} {a : α} {start b c : β} {e : ε}

theorem fit (checks : Checks f Good Fit Bad) (fits : Fit all b) (ok : f b a = .ok c) :
    Fit (all ++ [a]) c := by
  obtain ⟨e, bad⟩ | ⟨c', ok', fits'⟩ := checks.outcome fits a
  · simp [checks.refuses fits bad] at ok
  · exact Except.ok.inj (ok'.symm.trans ok) ▸ fits'

theorem error_iff (checks : Checks f Good Fit Bad) (fits : Fit all b) :
    f b a = .error e ↔ Bad all a e := by
  refine ⟨fun refused => ?_, checks.refuses fits⟩
  obtain ⟨e', bad⟩ | ⟨c, ok, _⟩ := checks.outcome fits a
  · exact Except.error.inj (refused.symm.trans (checks.refuses fits bad)) ▸ bad
  · simp [ok] at refused

theorem goes_on (checks : Checks f Good Fit Bad) (fits : Fit all b) (good : Good (all ++ [a])) :
    ∃ c, f b a = .ok c := by
  obtain ⟨e, bad⟩ | ⟨c, ok, _⟩ := checks.outcome fits a
  · exact absurd bad (checks.sound good)
  · exact ⟨c, ok⟩

theorem fit_of_ok (checks : Checks f Good Fit Bad) (fits : Fit [] start)
    (ok : all.foldlM f start = .ok b) : Fit all b := by
  induction all using List.reverseRecOn generalizing b with
  | nil => exact pure_eq_ok_iff.1 ok ▸ fits
  | append_singleton all a ih =>
    rw [List.foldlM_append] at ok
    obtain ⟨c, before, last⟩ := bind_eq_ok_iff.1 ok
    exact checks.fit (ih before) (by simpa using last)

theorem exists_ok_iff (checks : Checks f Good Fit Bad) (fits : Fit [] start) :
    (∃ b, all.foldlM f start = .ok b) ↔ Good all := by
  refine ⟨fun ⟨b, ok⟩ => checks.good (checks.fit_of_ok fits ok), fun good => ?_⟩
  induction all using List.reverseRecOn with
  | nil => exact ⟨start, rfl⟩
  | append_singleton all a ih =>
    obtain ⟨b, before⟩ := ih (checks.earlier good)
    obtain ⟨c, last⟩ := checks.goes_on (checks.fit_of_ok fits before) good
    exact ⟨c, by simp [List.foldlM_append, before, last, ok_bind]⟩

theorem eq_error_iff (checks : Checks f Good Fit Bad) (fits : Fit [] start) :
    all.foldlM f start = .error e ↔
      ∃ earlier a later, all = earlier ++ a :: later ∧ Good earlier ∧ Bad earlier a e := by
  rw [foldlM_eq_error_iff]
  constructor
  · rintro ⟨earlier, a, later, b, rfl, passed, refused⟩
    have fits' := checks.fit_of_ok fits passed
    exact ⟨earlier, a, later, rfl, checks.good fits', (checks.error_iff fits').1 refused⟩
  · rintro ⟨earlier, a, later, rfl, good, bad⟩
    obtain ⟨b, passed⟩ := (checks.exists_ok_iff fits).2 good
    exact ⟨earlier, a, later, b, rfl, passed,
      (checks.error_iff (checks.fit_of_ok fits passed)).2 bad⟩

end Checks
end FrameFlow
