import FrameFlow.Frame.Basic

/-! Frame variables that share sample buffers. Copying a variable shares its buffer; writing
samples copies a shared buffer first, so no variable sees another's writes. A buffer counts the
variables that hold it, and the count alone decides whether writing copies. -/
namespace FrameFlow

structure Variable where
  format : Format
  pts : Option Int64
  /-- Index of the buffer in the pool. -/
  buffer : Nat
deriving DecidableEq, Repr

structure SampleBuffer where
  samples : List Float32
  /-- How many variables hold the buffer. -/
  holders : Nat
deriving DecidableEq, Repr

namespace SampleBuffer

def retain (b : SampleBuffer) : SampleBuffer := { b with holders := b.holders + 1 }

def release (b : SampleBuffer) : SampleBuffer := { b with holders := b.holders - 1 }

def change (f : List Float32 → List Float32) (b : SampleBuffer) : SampleBuffer :=
  { b with samples := f b.samples }

end SampleBuffer

/-- Variables in the order in which they were made, over a pool of buffers that only grows. -/
structure Pool where
  buffers : List SampleBuffer
  vars : List Variable
deriving DecidableEq, Repr

namespace Pool

def empty : Pool := ⟨[], []⟩

def samples (p : Pool) (v : Variable) : List Float32 :=
  p.buffers[v.buffer]?.elim [] SampleBuffer.samples

def frame (p : Pool) (v : Variable) : Frame := ⟨v.format, v.pts, .ofList (p.samples v)⟩

/-- What the variables hold. -/
def frames (p : Pool) : List Frame := p.vars.map p.frame

/-- The count of a variable's buffer. -/
def references (p : Pool) (v : Variable) : Nat :=
  p.buffers[v.buffer]?.elim 0 SampleBuffer.holders

def shares (v w : Variable) : Bool := v.buffer == w.buffer

/-- A new buffer, which no variable holds yet. -/
def reserve (p : Pool) (samples : List Float32) : Pool :=
  { p with buffers := p.buffers ++ [⟨samples, 0⟩] }

/-- One more variable. -/
def push (p : Pool) (v : Variable) : Pool :=
  ⟨p.buffers.modify v.buffer .retain, p.vars ++ [v]⟩

/-- Puts a variable in the place of another, whose buffer is let go after the new one is held. -/
def put (p : Pool) (i : Nat) (v : Variable) : Pool :=
  match p.vars[i]? with
  | some old => ⟨(p.buffers.modify v.buffer .retain).modify old.buffer .release, p.vars.set i v⟩
  | none => p

/-- A new variable with a buffer of its own. -/
def add (p : Pool) (f : Frame) : Pool :=
  (p.reserve f.samples.toList).push ⟨f.format, f.pts, p.buffers.length⟩

def copy (p : Pool) (i : Nat) : Pool :=
  match p.vars[i]? with
  | some v => p.push v
  | none => p

def setPts (p : Pool) (i : Nat) (pts : Option Int64) : Pool :=
  { p with vars := p.vars.modify i fun v => { v with pts } }

/-- Leaves an empty frame with an empty buffer of its own. -/
def release (p : Pool) (i : Nat) : Pool :=
  (p.reserve []).put i ⟨⟨0, 0⟩, none, p.buffers.length⟩

/-- Gives a variable a buffer that no other variable shares. -/
def detach (p : Pool) (i : Nat) : Pool :=
  match p.vars[i]? with
  | some v =>
    if p.references v = 1 then p
    else (p.reserve (p.samples v)).put i { v with buffer := p.buffers.length }
  | none => p

/-- Changes the samples in a buffer, for all variables that hold it. -/
def rewrite (p : Pool) (b : Nat) (f : List Float32 → List Float32) : Pool :=
  { p with buffers := p.buffers.modify b (.change f) }

/-- Changes the samples of one variable. -/
def update (p : Pool) (i : Nat) (f : List Float32 → List Float32) : Pool :=
  let p := p.detach i
  match p.vars[i]? with
  | some v => p.rewrite v.buffer f
  | none => p

def write (p : Pool) (i place : Nat) (sample : Float32) : Pool :=
  p.update i fun samples => samples.set place sample

def extend (p : Pool) (i : Nat) (sample : Float32) : Pool :=
  p.update i (· ++ [sample])

def assign (p : Pool) (i j : Nat) : Pool :=
  match p.vars[j]? with
  | some v => p.put i v
  | none => p

end Pool
end FrameFlow
