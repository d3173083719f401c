import FrameFlow.Registry

/-! What the program tells about itself and about the kinds of a registry. -/
namespace FrameFlow.Command

def version : String := "0.3.0"

/-- Fills up with blanks on the right. -/
def padRight (width : Nat) (s : String) : String :=
  s ++ String.ofList (List.replicate (width - s.length) ' ')

def unlines (lines : List String) : String := String.join (lines.map (· ++ "\n"))

def usage : String := unlines [
  "Filtergraph v" ++ version,
  "",
  "Usage: filtergraph <command> [options]",
  "",
  "Commands:",
  "  list                      List all available kinds",
  "  info <kind>               Show pads and options of a kind",
  "  check <file>              Build and configure a .toml/.json description",
  "  run <file> [--frames N]   Push N synthetic frames into every source and drain every sink",
  "  help                      Show this help message",
  "",
  "Set RUST_LOG=debug for scheduler output."]

variable {σ : Type}

def listRole (r : Registry σ) (role : Role) : List String :=
  ["  " ++ role.name] ++
    (r.namesByRole role).filterMap (fun name => (r.get? name).map fun k =>
      "      " ++ padRight 12 k.name ++ " " ++ k.description) ++
    [""]

def listKinds (r : Registry σ) : String :=
  unlines ([s!"Available kinds ({r.size} total):", ""] ++
    [Role.source, .transform, .sink].flatMap (listRole r))

def describePads (title : String) (pads : List Pad) (dynamic : Bool) : List String :=
  if pads.isEmpty && !dynamic then []
  else
    [title ++ (if dynamic then " (count set by options)" else "") ++ ":"] ++
      pads.zipIdx.flatMap (fun (pad, i) =>
        s!"  {i} {pad.name}" ::
          if pad.description.isEmpty then [] else ["    " ++ pad.description]) ++
      [""]

def describeOption (d : Setting.Definition) : List String :=
  [s!"  {d.name} [{d.kind.name}] = {d.default.render}"] ++
    (if d.description.isEmpty then [] else ["    " ++ d.description]) ++
    d.constraints.map fun c => "    " ++ c.describe

def describeKind (k : Kind σ) : String :=
  unlines (["Kind: " ++ k.name, "Role: " ++ k.role.name, "", "Description:",
      "  " ++ k.description, ""] ++
    describePads "Inputs" k.inputs k.dynamicInputs ++
    describePads "Outputs" k.outputs k.dynamicOutputs ++
    (if k.options.isEmpty then [] else "Options:" :: k.options.flatMap describeOption))

end FrameFlow.Command
