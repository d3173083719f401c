/-! The order by which runs of the scheduler come to an end: lists of numbers of one length,
compared at the first place where they differ. It is well founded. -/
namespace FrameFlow.Load

def Less : List Nat → List Nat → Prop
  | a :: as, b :: bs => (a < b ∧ as.length = bs.length) ∨ (a = b ∧ Less as bs)
  | _, _ => False

theorem length_eq {as bs : List Nat} (h : Less as bs) : as.length = bs.length := by
  induction as generalizing bs with
  | nil => exact h.elim
  | cons a as ih =>
    cases bs with
    | nil => exact h.elim
    | cons b bs =>
      rcases h with ⟨_, same⟩ | ⟨_, less⟩
      · simp [same]
      · simp [ih less]

theorem acc_cons (b : Nat) : ∀ bs, (∀ as, as.length = bs.length → Acc Less as) →
    Acc Less (b :: bs) := by
  induction b using Nat.strongRecOn with
  | ind b smaller =>
    intro bs tails
    have acc := tails bs rfl
    induction acc with
    | intro bs _ shorter =>
      refine ⟨_, fun l less => ?_⟩
      cases l with
      | nil => exact less.elim
      | cons a as =>
        rcases less with ⟨lower, same⟩ | ⟨rfl, less⟩
        · exact smaller a lower as fun cs h => tails cs (h.trans same)
        · exact shorter as less fun cs h => tails cs (h.trans (length_eq less))

theorem acc (n : Nat) : ∀ bs : List Nat, bs.length = n → Acc Less bs := by
  induction n with
  | zero =>
    intro bs h
    cases bs with
    | nil =>
      refine ⟨_, fun l less => ?_⟩
      cases l <;> exact less.elim
    | cons b bs => simp at h
  | succ n ih =>
    intro bs h
    cases bs with
    | nil => simp at h
    | cons b bs =>
      have same : bs.length = n := by simpa using h
      exact acc_cons b bs fun as hs => ih as (hs.trans same)

theorem wellFounded : WellFounded Less := ⟨fun bs => acc bs.length bs rfl⟩

/-- Whether one load is less than another where they first differ. The loads are not written
out: at each place two tests say whether they are the same there, and which one is lower. -/
def lowers (same lower : Nat → Bool) : List Nat → Bool
  | [] => false
  | i :: later => if same i then lowers same lower later else lower i

theorem less_of_lowers {same lower : Nat → Bool} {after before : Nat → Nat} {places : List Nat}
    (same_sound : ∀ i, same i → after i = before i)
    (lower_sound : ∀ i, lower i → after i < before i)
    (h : lowers same lower places) : Less (places.map after) (places.map before) := by
  induction places with
  | nil => simp [lowers] at h
  | cons i later ih =>
    unfold lowers at h
    split at h
    · next equal => exact .inr ⟨same_sound i equal, ih h⟩
    · exact .inl ⟨lower_sound i h, by simp⟩

theorem trans {as bs cs : List Nat} (h : Less as bs) (h' : Less bs cs) : Less as cs := by
  induction as generalizing bs cs with
  | nil => exact h.elim
  | cons a as ih =>
    cases bs with
    | nil => exact h.elim
    | cons b bs =>
      cases cs with
      | nil => exact h'.elim
      | cons c cs =>
        rcases h with ⟨lower, same⟩ | ⟨rfl, less⟩
        · rcases h' with ⟨lower', same'⟩ | ⟨rfl, less'⟩
          · exact .inl ⟨Nat.lt_trans lower lower', same.trans same'⟩
          · exact .inl ⟨lower, same.trans (length_eq less')⟩
        · rcases h' with ⟨lower', same'⟩ | ⟨rfl, less'⟩
          · exact .inl ⟨lower', (length_eq less).trans same'⟩
          · exact .inr ⟨rfl, ih less less'⟩

/-- What differs early differs also where one more number follows. -/
theorem append_of_less {as bs : List Nat} (h : Less as bs) (m n : Nat) :
    Less (as ++ [m]) (bs ++ [n]) := by
  induction as generalizing bs with
  | nil => exact h.elim
  | cons a as ih =>
    cases bs with
    | nil => exact h.elim
    | cons b bs =>
      rcases h with ⟨lower, same⟩ | ⟨rfl, less⟩
      · exact .inl ⟨lower, by simp [same]⟩
      · exact .inr ⟨rfl, ih less⟩

theorem append_of_lt (as : List Nat) {m n : Nat} (h : m < n) : Less (as ++ [m]) (as ++ [n]) := by
  induction as with
  | nil => exact .inl ⟨h, rfl⟩
  | cons a as ih => exact .inr ⟨rfl, ih⟩

/-- Lists of numbers under `Less`, for recursion that lowers a load. -/
structure Measure where
  loads : List Nat

instance : WellFoundedRelation Measure where
  rel a b := Less a.loads b.loads
  wf := InvImage.wf Measure.loads wellFounded

end FrameFlow.Load
