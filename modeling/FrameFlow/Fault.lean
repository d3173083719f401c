/-! What a filter can object to: its options, the formats it is offered, or the work it is
asked to do. -/
namespace FrameFlow

inductive Fault where
  | unknownOption (name : String)
  | invalidOption (name reason : String)
  | unsupportedFormat (reason : String)
  | noSuchOutput (pad count : Nat)
  | unsupported (operation : String)
  | failed (reason : String)
deriving DecidableEq, Repr

def Fault.message : Fault → String
  | .unknownOption name => s!"Unknown option '{name}'"
  | .invalidOption name reason => s!"Invalid value for option '{name}': {reason}"
  | .unsupportedFormat reason => s!"Unsupported format: {reason}"
  | .noSuchOutput pad count => s!"Output pad {pad} out of range ({count} pads)"
  | .unsupported operation => s!"Operation not supported by this filter: {operation}"
  | .failed reason => reason

end FrameFlow
