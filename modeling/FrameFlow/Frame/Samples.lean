/-! The samples of a frame. Their number is known at once. They themselves are worked out when
someone looks at them, and then only once: a frame that nobody looks into is cheap, however long
it is. -/
namespace FrameFlow

structure Samples where
  /-- How many samples there are, in all channels together. -/
  size : Nat
  later : Thunk (List Float32)
  length_later : later.get.length = size

namespace Samples

def toList (s : Samples) : List Float32 := s.later.get

@[simp] theorem length_toList (s : Samples) : s.toList.length = s.size := s.length_later

@[ext] theorem ext {s t : Samples} (h : s.toList = t.toList) : s = t := by
  obtain ⟨size, later, counted⟩ := s
  obtain ⟨size', later', counted'⟩ := t
  obtain rfl : later = later' := Thunk.ext h
  obtain rfl : size = size' := counted.symm.trans counted'
  rfl

instance : DecidableEq Samples := fun s t =>
  decidable_of_iff (s.toList = t.toList) ⟨ext, congrArg toList⟩

instance : Repr Samples := ⟨fun s => reprPrec s.toList⟩

def ofList (l : List Float32) : Samples := ⟨l.length, .pure l, rfl⟩

/-- A known number of samples by a rule that is followed when they are looked at. -/
def compute (size : Nat) (rule : Unit → List Float32) (length_rule : (rule ()).length = size) :
    Samples := ⟨size, ⟨rule⟩, length_rule⟩

def empty : Samples := ofList []

def replicate (size : Nat) (x : Float32) : Samples :=
  compute size (fun _ => List.replicate size x) List.length_replicate

def isEmpty (s : Samples) : Bool := s.size == 0

def map (f : Float32 → Float32) (s : Samples) : Samples :=
  ⟨s.size, s.later.map (List.map f), (List.length_map f).trans s.length_later⟩

@[simp] theorem toList_ofList (l : List Float32) : (ofList l).toList = l := rfl

@[simp] theorem ofList_toList (s : Samples) : ofList s.toList = s := ext rfl

@[simp] theorem toList_compute (size : Nat) (rule : Unit → List Float32)
    (length_rule : (rule ()).length = size) : (compute size rule length_rule).toList = rule () :=
  rfl

@[simp] theorem toList_empty : empty.toList = [] := rfl

@[simp] theorem toList_replicate (size : Nat) (x : Float32) :
    (replicate size x).toList = List.replicate size x := rfl

@[simp] theorem toList_map (f : Float32 → Float32) (s : Samples) :
    (s.map f).toList = s.toList.map f := rfl

theorem isEmpty_iff {s : Samples} : s.isEmpty ↔ s.toList = [] := by
  rw [← List.length_eq_zero_iff, length_toList, isEmpty, beq_iff_eq]

end Samples
end FrameFlow
