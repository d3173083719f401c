/-! Numbers that a walk has come across, newest first. Beside the list stands a mark for each
number in it, so asking whether a number has come up does not go through the list. -/
namespace FrameFlow

structure Trail where
  /-- Newest first. -/
  toList : List Nat
  /-- The numbers in the list as places of binary ones. -/
  marks : Nat
  testBit_marks : ∀ i, marks.testBit i = toList.contains i
deriving DecidableEq, Repr

namespace Trail

def empty : Trail := ⟨[], 0, by simp⟩

def push (t : Trail) (i : Nat) : Trail where
  toList := i :: t.toList
  marks := t.marks ||| 1 <<< i
  testBit_marks j := by
    rw [Nat.testBit_or, t.testBit_marks, Nat.one_shiftLeft, Nat.testBit_two_pow,
      List.contains_cons, Bool.or_comm]
    congr 1
    exact decide_eq_decide.2 eq_comm

def contains (t : Trail) (i : Nat) : Bool := t.marks.testBit i

instance : Membership Nat Trail := ⟨fun t i => i ∈ t.toList⟩

theorem contains_eq (t : Trail) (i : Nat) : t.contains i = t.toList.contains i :=
  t.testBit_marks i

theorem contains_iff {t : Trail} {i : Nat} : t.contains i = true ↔ i ∈ t := by
  rw [contains_eq, List.contains_iff_mem]
  rfl

instance (i : Nat) (t : Trail) : Decidable (i ∈ t) := decidable_of_iff _ contains_iff

@[simp] theorem toList_empty : empty.toList = [] := rfl

@[simp] theorem toList_push (t : Trail) (i : Nat) : (t.push i).toList = i :: t.toList := rfl

theorem mem_toList {t : Trail} {i : Nat} : i ∈ t.toList ↔ i ∈ t := Iff.rfl

@[simp] theorem not_mem_empty (i : Nat) : i ∉ empty := List.not_mem_nil

@[simp] theorem mem_push {t : Trail} {i j : Nat} : j ∈ t.push i ↔ j = i ∨ j ∈ t := List.mem_cons

/-- The list decides the marks. -/
theorem ext {t u : Trail} (h : t.toList = u.toList) : t = u := by
  obtain ⟨list, marks, marked⟩ := t
  obtain ⟨list', marks', marked'⟩ := u
  obtain rfl : list = list' := h
  obtain rfl : marks = marks' := Nat.eq_of_testBit_eq fun i => by rw [marked, marked']
  rfl

end Trail
end FrameFlow
