import FrameFlow.Diagnosis.Report
import FrameFlow.Fault
import FrameFlow.Frame.Basic

/-! Everything that an operation on a graph can be refused for. -/
namespace FrameFlow

/-- A node is allocated, then set up; a node whose set-up or work failed is of no more use. -/
inductive Life where
  | allocated
  | initialized
  | failed
  | discarded
deriving DecidableEq, Repr

def Life.name : Life → String
  | .allocated => "allocated"
  | .initialized => "initialized"
  | .failed => "failed"
  | .discarded => "discarded"

/-- An operation that does not suit the node it names. -/
inductive Misuse where
  | setOption (life : Life)
  | initialization (life : Life)
  | discard (life : Life)
  | role (kind : String) (actual expected : Role)
  | failedFeeder (node : NodeId)
  | failedEarlier
deriving DecidableEq, Repr

def Misuse.reason : Misuse → String
  | .setOption life => s!"cannot set options on a {life.name} node"
  | .initialization life => s!"cannot initialize a {life.name} node"
  | .discard life => s!"cannot discard a {life.name} node"
  | .role kind actual expected => s!"{kind} is a {actual.name} node, expected {expected.name}"
  | .failedFeeder node => s!"{node.name} failed earlier"
  | .failedEarlier => "node failed earlier"

inductive LinkError where
  | padOutOfRange (node : NodeId) (direction : Direction) (pad count : Nat)
  | padOccupied (node : NodeId) (direction : Direction) (pad : Nat)
  | notInitialized (node : NodeId)
deriving DecidableEq, Repr

namespace LinkError

def message : LinkError → String
  | padOutOfRange node direction pad count =>
    s!"{direction.name} pad {pad} is out of range on {node.name} ({count} pads)"
  | padOccupied node direction pad =>
    s!"{direction.name} pad {pad} on {node.name} is already linked"
  | notInitialized node => s!"Node {node.name} must be initialized before it can be linked"

def node : LinkError → NodeId
  | padOutOfRange node _ _ _ => node
  | padOccupied node _ _ => node
  | notInitialized node => node

end LinkError

/-- Why a source takes no frame. -/
inductive PushRefusal where
  | ended
  | full (capacity : Nat)
  | format (frame link : Format)
deriving DecidableEq, Repr

def PushRefusal.reason : PushRefusal → String
  | .ended => "end of stream was already signalled"
  | .full capacity => s!"feed is full ({capacity} frames)"
  | .format frame link => s!"frame is {frame.render}, link carries {link.render}"

/-- What is wrong with a description of a graph. -/
inductive DescriptionError where
  | invalidToml
  | invalidJson
  | unwritableToml
  | repeatedName (name : String)
  | unknownName (name : String)
  | unknownFormat (path : String)
deriving DecidableEq, Repr

def DescriptionError.message : DescriptionError → String
  | .invalidToml => "invalid TOML"
  | .invalidJson => "invalid JSON"
  | .unwritableToml => "cannot write TOML"
  | .repeatedName name => s!"node name '{name}' is used twice"
  | .unknownName name => s!"link names unknown node '{name}'"
  | .unknownFormat path => s!"{path}: expected a .toml or .json file"

/-- Why an arena of nodes cannot be reserved. -/
inductive AllocationError where
  | capacityOverflow
  | outOfMemory
deriving DecidableEq, Repr

def AllocationError.message : AllocationError → String
  | .capacityOverflow => "node arena: memory allocation failed because the computed capacity " ++
      "exceeded the collection's maximum"
  | .outOfMemory => "node arena: memory allocation failed because the memory allocator " ++
      "returned an error"

/-- Why a file cannot be read. -/
inductive FileError where
  | missing
  | directory
  /-- A part of the path that has to be a directory is none. -/
  | notDirectory
  /-- A name in the path, or the path itself, has too many bytes. -/
  | tooLong
  | notText
deriving DecidableEq, Repr

def FileError.message : FileError → String
  | .missing => "No such file or directory (os error 2)"
  | .directory => "Is a directory (os error 21)"
  | .notDirectory => "Not a directory (os error 20)"
  | .tooLong => "File name too long (os error 36)"
  | .notText => "stream did not contain valid UTF-8"

inductive GraphError where
  | allocation (e : AllocationError)
  | unknownKind (name : String)
  | nodeNotFound (node : NodeId)
  | invalidOperation (node : NodeId) (misuse : Misuse)
  | initialization (node : NodeId) (kind : String) (fault : Fault)
  | link (e : LinkError)
  | configuration (report : Report)
  | alreadyConfigured
  | notConfigured
  | push (node : NodeId) (refusal : PushRefusal)
  | pull (node : NodeId) (fault : Fault)
  | description (e : DescriptionError)
  | file (e : FileError)
deriving DecidableEq, Repr

namespace GraphError

def message : GraphError → String
  | allocation e => s!"Allocation failed: {e.message}"
  | unknownKind name => s!"Unknown filter kind '{name}'"
  | nodeNotFound node => s!"Node {node.name} not found in this graph"
  | invalidOperation node misuse => s!"Invalid operation on {node.name}: {misuse.reason}"
  | initialization node kind fault =>
    s!"Failed to initialize {node.name} ({kind}): {fault.message}"
  | link e => s!"Link error: {e.message}"
  | configuration report => s!"Configuration failed: {report.summary}"
  | alreadyConfigured => "Graph is already configured"
  | notConfigured => "Graph is not configured"
  | push node refusal => s!"Failed to push frame into {node.name}: {refusal.reason}"
  | pull node fault => s!"Failed to pull frame from {node.name}: {fault.message}"
  | description e => s!"Graph description error: {e.message}"
  | file e => s!"I/O error: {e.message}"

/-- The node that an error names. -/
def node? : GraphError → Option NodeId
  | nodeNotFound node => some node
  | invalidOperation node _ => some node
  | initialization node _ _ => some node
  | link e => some e.node
  | push node _ => some node
  | pull node _ => some node
  | _ => none

/-- The message of the error inside, where there is one. -/
def cause? : GraphError → Option String
  | initialization _ _ fault => some fault.message
  | link e => some e.message
  | pull _ fault => some fault.message
  | file e => some e.message
  | _ => none

end GraphError
end FrameFlow
