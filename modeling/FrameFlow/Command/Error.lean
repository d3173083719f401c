import FrameFlow.Graph.Error

/-! What a command can fail with. An error is told from the outside in: what was to be done, what
stood against it, and what lay behind that. -/
namespace FrameFlow.Command

inductive CountError where
  | empty
  | invalidDigit
  | tooLarge
deriving DecidableEq, Repr

def CountError.message : CountError → String
  | .empty => "cannot parse integer from empty string"
  | .invalidDigit => "invalid digit found in string"
  | .tooLarge => "number too large to fit in target type"

inductive Error where
  | missingKind
  | unknownKind (name : String)
  | missingFile
  | missingCount
  | count (raw : String) (e : CountError)
  | unknownOption (name : String)
  | load (path : String) (e : GraphError)
  | build (e : GraphError)
  | configure (e : GraphError)
  | noEnds
  | unsettledSource (node : NodeId)
  | running (e : GraphError)
deriving DecidableEq, Repr

/-- The message of an error of a graph, and the message of its cause. -/
def graphChain (e : GraphError) : List String := e.message :: e.cause?.toList

def Error.chain : Error → List String
  | missingKind => ["please specify a kind"]
  | unknownKind name => [s!"unknown kind '{name}', use 'list' to see available kinds"]
  | missingFile => ["please specify a description file"]
  | missingCount => ["--frames needs a value"]
  | count raw e => [s!"'{raw}' is not a frame count", e.message]
  | unknownOption name => [s!"unknown option: {name}"]
  | load path e => s!"cannot load {path}" :: graphChain e
  | build e => "cannot build graph" :: graphChain e
  | configure e => "configuration failed" :: graphChain e
  | noEnds => ["graph needs at least one source and one sink"]
  | unsettledSource node => [s!"source {node.name} has no negotiated format"]
  | running e => graphChain e

def Error.message (e : Error) : String := "Error: " ++ ": ".intercalate e.chain

end FrameFlow.Command
