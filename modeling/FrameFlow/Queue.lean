/-! Queues, first in first out. A queue is its elements in order of age: two queues with the same
elements are the same. Underneath it has two lists and its size at hand, so adding an element and
taking the oldest one are cheap. -/
namespace FrameFlow

/-- One way to store a queue. -/
structure Halves (α : Type) where
  /-- Oldest first. -/
  front : List α
  /-- Newest first. -/
  back : List α
  size : Nat
  size_eq : size = front.length + back.length

namespace Halves

variable {α : Type}

def toList (h : Halves α) : List α := h.front ++ h.back.reverse

theorem size_eq_length (h : Halves α) : h.size = h.toList.length := by
  simp [toList, h.size_eq]

instance setoid (α : Type) : Setoid (Halves α) where
  r a b := a.toList = b.toList
  iseqv := ⟨fun _ => rfl, Eq.symm, Eq.trans⟩

def ofList (front : List α) : Halves α := ⟨front, [], front.length, by simp⟩

def push (h : Halves α) (a : α) : Halves α :=
  ⟨h.front, a :: h.back, h.size + 1, by simp [h.size_eq, Nat.add_assoc]⟩

/-- The oldest element and the rest. An empty front takes over the back. -/
def pop? (h : Halves α) : Option (α × Halves α) :=
  match hf : h.front with
  | a :: front =>
    some (a, ⟨front, h.back, h.size - 1, by
      simp only [h.size_eq, hf, List.length_cons]; omega⟩)
  | [] =>
    match hb : h.back.reverse with
    | a :: front => some (a, ⟨front, [], h.size - 1, by
        have := congrArg List.length hb
        simp only [List.length_reverse, List.length_cons] at this
        simp [h.size_eq, hf, this]⟩)
    | [] => none

@[simp] theorem toList_ofList (l : List α) : (ofList l).toList = l := by simp [ofList, toList]

@[simp] theorem toList_push (h : Halves α) (a : α) : (h.push a).toList = h.toList ++ [a] := by
  simp [push, toList]

/-- Taking the oldest element splits the elements at the first one. -/
theorem toList_pop? (h : Halves α) :
    h.pop?.map (fun p => (p.1, p.2.toList)) = h.toList.head?.map (·, h.toList.tail) := by
  unfold pop? toList
  split
  · next hf => simp [hf]
  · next hf =>
    split
    · next hb => simp [hf, hb]
    · next hb => simp [hf, hb]

end Halves

def Queue (α : Type) : Type := Quotient (Halves.setoid α)

namespace Queue

variable {α : Type}

/-- The queue that is stored in some way. -/
def stored (h : Halves α) : Queue α := Quotient.mk _ h

theorem stored_eq {a b : Halves α} (same : a.toList = b.toList) : stored a = stored b :=
  Quotient.sound same

def ofList (l : List α) : Queue α := stored (.ofList l)

def empty : Queue α := ofList []

/-- The elements, oldest first. -/
def toList (q : Queue α) : List α := Quotient.lift Halves.toList (fun _ _ same => same) q

def size (q : Queue α) : Nat :=
  Quotient.lift Halves.size
    (fun a b (same : a.toList = b.toList) => by
      rw [Halves.size_eq_length, Halves.size_eq_length, same]) q

def isEmpty (q : Queue α) : Bool := q.size == 0

def push (q : Queue α) (a : α) : Queue α :=
  Quotient.lift (fun h => stored (h.push a))
    (fun x y (same : x.toList = y.toList) => stored_eq (by simp [same])) q

theorem stored_pop? (h : Halves α) :
    h.pop?.map (fun p => (p.1, stored p.2)) =
      h.toList.head?.map fun a => (a, ofList h.toList.tail) := by
  have view := Halves.toList_pop? h
  cases hl : h.toList with
  | nil =>
    cases hp : h.pop? with
    | none => rfl
    | some p => simp [hl, hp] at view
  | cons a l =>
    cases hp : h.pop? with
    | none => simp [hl, hp] at view
    | some p =>
      simp only [hl, hp, Option.map_some, List.head?_cons, List.tail_cons, Option.some.injEq,
        Prod.mk.injEq] at view
      simp only [Option.map_some, List.head?_cons, List.tail_cons, view.1]
      rw [stored_eq (b := .ofList l) (by simp [view.2])]
      rfl

/-- The oldest element and the rest. -/
def pop? (q : Queue α) : Option (α × Queue α) :=
  Quotient.lift (fun h => h.pop?.map fun p => (p.1, stored p.2))
    (fun x y (same : x.toList = y.toList) => by
      show x.pop?.map _ = y.pop?.map _
      rw [stored_pop?, stored_pop?, same]) q

/-- The oldest element. -/
def head? (q : Queue α) : Option α := q.pop?.map Prod.fst

/-- The queue without its oldest element. -/
def tail (q : Queue α) : Queue α := (q.pop?.map Prod.snd).getD empty

theorem ext {q r : Queue α} (same : q.toList = r.toList) : q = r := by
  induction q using Quotient.ind
  induction r using Quotient.ind
  exact Quotient.sound same

@[simp] theorem toList_ofList (l : List α) : (ofList l).toList = l := Halves.toList_ofList l

@[simp] theorem toList_empty : (empty : Queue α).toList = [] := toList_ofList []

@[simp] theorem ofList_toList (q : Queue α) : ofList q.toList = q := ext (by simp)

@[simp] theorem toList_push (q : Queue α) (a : α) : (q.push a).toList = q.toList ++ [a] := by
  induction q using Quotient.ind
  exact Halves.toList_push _ a

theorem size_eq_length (q : Queue α) : q.size = q.toList.length := by
  induction q using Quotient.ind
  exact Halves.size_eq_length _

@[simp] theorem size_empty : (empty : Queue α).size = 0 := rfl

@[simp] theorem size_push (q : Queue α) (a : α) : (q.push a).size = q.size + 1 := by
  simp [size_eq_length]

theorem pop?_eq (q : Queue α) :
    q.pop? = q.toList.head?.map fun a => (a, ofList q.toList.tail) := by
  induction q using Quotient.ind
  exact stored_pop? _

theorem pop?_eq_none_iff {q : Queue α} : q.pop? = none ↔ q.toList = [] := by
  simp [pop?_eq]

theorem pop?_eq_some_iff {q r : Queue α} {a : α} :
    q.pop? = some (a, r) ↔ q.toList = a :: r.toList := by
  rw [pop?_eq]
  cases h : q.toList with
  | nil => simp
  | cons b l =>
    simp only [List.head?_cons, List.tail_cons, Option.map_some, Option.some.injEq,
      Prod.mk.injEq, List.cons.injEq]
    constructor
    · rintro ⟨rfl, rfl⟩
      simp
    · rintro ⟨rfl, rfl⟩
      simp

theorem size_of_pop? {q r : Queue α} {a : α} (h : q.pop? = some (a, r)) :
    q.size = r.size + 1 := by
  simp [size_eq_length, pop?_eq_some_iff.1 h]

theorem isEmpty_iff {q : Queue α} : q.isEmpty ↔ q.toList = [] := by
  simp [isEmpty, size_eq_length]

@[simp] theorem head?_eq (q : Queue α) : q.head? = q.toList.head? := by
  cases h : q.toList <;> simp [head?, pop?_eq, h]

@[simp] theorem toList_tail (q : Queue α) : q.tail.toList = q.toList.tail := by
  cases h : q.toList <;> simp [tail, pop?_eq, h]

instance [DecidableEq α] : DecidableEq (Queue α) := fun q r =>
  decidable_of_iff (q.toList = r.toList) ⟨ext, congrArg toList⟩

instance [Repr α] : Repr (Queue α) := ⟨fun q => reprPrec q.toList⟩

instance : Inhabited (Queue α) := ⟨empty⟩

end Queue
end FrameFlow
