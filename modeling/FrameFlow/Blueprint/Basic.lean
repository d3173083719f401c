import FrameFlow.Graph.Basic

/-! Blueprints: graphs described by the names and kinds of their nodes, options in the form in
which they were written, and links between named nodes. -/
namespace FrameFlow

/-- An option as it is written in a blueprint. -/
inductive Literal where
  | boolean (b : Bool)
  | integer (n : Int64)
  | float (x : Float)
  | text (s : String)

namespace Literal

/-- The text that a literal stages. -/
def render : Literal → String
  | boolean b => toString b
  | integer n => toString n.toInt
  | float x => Decimal.plain x
  | text s => s

/-- Floats are compared as numbers: the two zeros are the same and no number is not itself. -/
def same : Literal → Literal → Bool
  | boolean a, boolean b => a == b
  | integer a, integer b => a == b
  | float a, float b => a == b
  | text a, text b => a == b
  | _, _ => false

instance : BEq Literal := ⟨same⟩

end Literal

namespace Blueprint

structure Node where
  name : String
  kind : String
  options : Table Literal

structure Link where
  source : String
  output : Nat
  target : String
  input : Nat
deriving DecidableEq, Repr

def Node.same (a b : Node) : Bool :=
  a.name == b.name && a.kind == b.kind && a.options.entries == b.options.entries

instance : BEq Node := ⟨Node.same⟩

end Blueprint

structure Blueprint where
  options : GraphOptions
  nodes : List Blueprint.Node
  links : List Blueprint.Link

namespace Blueprint

def empty : Blueprint := ⟨.default, [], []⟩

def same (a b : Blueprint) : Bool :=
  a.options == b.options && a.nodes == b.nodes && a.links == b.links

def addNode (b : Blueprint) (name kind : String) : Blueprint :=
  { b with nodes := b.nodes ++ [⟨name, kind, .empty⟩] }

/-- Gives the last node an option; without a node nothing happens. -/
def addOption (b : Blueprint) (key value : String) : Blueprint :=
  match b.nodes.getLast? with
  | none => b
  | some last => { b with
      nodes := b.nodes.dropLast ++ [{ last with options := last.options.put key (.text value) }] }

def addLink (b : Blueprint) (source : String) (output : Nat) (target : String) (input : Nat) :
    Blueprint :=
  { b with links := b.links ++ [⟨source, output, target, input⟩] }

end Blueprint
end FrameFlow
