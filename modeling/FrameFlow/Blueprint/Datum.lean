import FrameFlow.Blueprint.Basic

/-! Structured data as text formats give it, and the reading of a blueprint from it. A record may
also be written as a list of its fields in order. -/
namespace FrameFlow

inductive Datum where
  | boolean (b : Bool)
  /-- A whole number that fits 64 bits with or without sign. -/
  | integer (n : Int)
  | float (x : Float)
  | text (s : String)
  | list (items : List Datum)
  /-- Names may be repeated; a name that is no text is `none`. -/
  | record (members : List (Option String × Datum))
  /-- Anything that no part of a blueprint can be. -/
  | other

namespace Datum

def natural? : Datum → Option Nat
  | integer n => if 0 ≤ n then some n.toNat else none
  | _ => none

def text? : Datum → Option String
  | text s => some s
  | _ => none

def list? : Datum → Option (List Datum)
  | list items => some items
  | _ => none

/-- An integer that does not fit 64 bits with sign is rounded. -/
def literal? : Datum → Option Literal
  | boolean b => some (.boolean b)
  | integer n => some (match Setting.ofInt? n with
      | some i => .integer i
      | none => .float (Float.ofInt n))
  | float x => some (.float x)
  | text s => some (.text s)
  | _ => none

/-- The one value of a field, if there is any. -/
def field? (members : List (Option String × Datum)) (name : String) : Option (Option Datum) :=
  match members.filter fun (key, _) => key == some name with
  | [] => some none
  | [(_, d)] => some (some d)
  | _ => none

/-- The fields of a record by their names, or in order from a list. Fields under other names are
passed over; more items than fields are passed over only where `surplus` allows it. -/
def fields? (surplus : Bool) (names : List String) : Datum → Option (List (Option Datum))
  | record members =>
    if members.all fun (key, _) => key.isSome then names.mapM (field? members) else none
  | list items =>
    if names.length < items.length && !surplus then none
    else some (names.zipIdx.map fun (_, i) => items[i]?)
  | _ => none

/-- A field that may be missing. -/
def optional {α : Type} (read : Datum → Option α) (default : α) : Option Datum → Option α
  | none => some default
  | some d => read d

def options? (d : Datum) : Option (Table Literal) :=
  match d with
  | record members => do
    let entries ← members.mapM fun (key, value) => do some (← key, ← value.literal?)
    some (.ofList entries)
  | _ => none

variable (surplus : Bool)

def graphOptions? (d : Datum) : Option GraphOptions := do
  match ← d.fields? surplus ["source_queue_capacity", "initial_capacity"] with
  | [capacity, reserve] =>
    let capacity ← optional natural? GraphOptions.default.feedCapacity capacity
    let reserve ← optional natural? GraphOptions.default.reserve reserve
    some ⟨capacity, reserve⟩
  | _ => none

def node? (d : Datum) : Option Blueprint.Node := do
  match ← d.fields? surplus ["name", "kind", "options"] with
  | [some name, some kind, options] =>
    some ⟨← name.text?, ← kind.text?, ← optional options? .empty options⟩
  | _ => none

def link? (d : Datum) : Option Blueprint.Link := do
  match ← d.fields? surplus ["from", "from_pad", "to", "to_pad"] with
  | [some source, output, some target, input] =>
    some ⟨← source.text?, ← optional natural? 0 output, ← target.text?,
      ← optional natural? 0 input⟩
  | _ => none

def blueprint? (d : Datum) : Option Blueprint := do
  match ← d.fields? surplus ["options", "nodes", "links"] with
  | [options, nodes, links] =>
    let options ← optional (graphOptions? surplus) .default options
    let nodes ← optional (fun d => d.list?.bind (·.mapM (node? surplus))) [] nodes
    let links ← optional (fun d => d.list?.bind (·.mapM (link? surplus))) [] links
    some ⟨options, nodes, links⟩
  | _ => none

end Datum
end FrameFlow
