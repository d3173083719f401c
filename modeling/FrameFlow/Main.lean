import FrameFlow.Command.Run

/-! The program: reads files, prints what a command answers, and exits with its code. -/
namespace FrameFlow

/-- A directory can be opened but not read, so only an error in opening names the path. -/
def readTextFile (path : String) : IO (Except FileError String) := do
  try
    match String.fromUTF8? (← IO.FS.readBinFile path) with
    | some text => return .ok text
    | none => return .error .notText
  catch
    | .inappropriateType (some _) .. => return .error .notDirectory
    | .inappropriateType none .. => return .error .directory
    | .invalidArgument .. => return .error .tooLong
    | _ => return .error .missing

end FrameFlow

/-- At most one file is read, the one that a command names. -/
def main (args : List String) : IO UInt32 := do
  let text ← match args with
    | "check" :: path :: _ | "run" :: path :: _ => FrameFlow.readTextFile path
    | _ => pure (.error .missing)
  let reply := FrameFlow.Command.execute (fun _ => text) args
  IO.print reply.output
  IO.eprint reply.errors
  return UInt32.ofNat reply.code
