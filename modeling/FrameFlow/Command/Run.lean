import FrameFlow.Blueprint.Json
import FrameFlow.Blueprint.Toml
import FrameFlow.Command.Catalogue
import FrameFlow.Command.Feed

/-! The command line. A command gets its arguments and a way to read files, and answers with what
is to be printed and with which code to exit. -/
namespace FrameFlow.Command

structure Reply where
  code : Nat
  output : String
  errors : String
deriving DecidableEq, Repr

abbrev Files := String → Except FileError String

/-- The part of a file's name after its last point, if the point is not its first character. -/
def extension? (path : String) : Option String := do
  let name ← ((path.splitOn "/").filter fun part => part ≠ "" ∧ part ≠ ".").getLast?
  if name = ".." then none
  else
    let reversed := name.toList.reverse
    let tail := reversed.takeWhile (· != '.')
    if tail.length + 1 < reversed.length then some (String.ofList tail.reverse) else none

def readBlueprint (path text : String) : Except GraphError Blueprint :=
  match extension? path with
  | some "toml" => Blueprint.readToml text
  | some "json" => Blueprint.readJson text
  | _ => .error (.description (.unknownFormat path))

def loadBlueprint (files : Files) (path : String) : Except GraphError Blueprint := do
  let text ← (files path).mapError .file
  readBlueprint path text

/-- The graph that a file describes, configured. -/
def loadGraph (files : Files) (path : String) : Except Error (Built BuiltIn) := do
  let blueprint ← (loadBlueprint files path).mapError (.load path)
  let built ← (blueprint.build ⟨0⟩ builtInRegistry).mapError .build
  let graph ← built.graph.configure.mapError .configure
  pure { built with graph }

def nodeLine (g : Graph BuiltIn) (name : String) (id : NodeId) : Except Error String := do
  let n ← (g.find id).mapError .running
  let pads := s!"{n.inputs.length} in / {n.outputs.length} out"
  pure s!"  {padRight 12 name} {padRight 10 n.kind.name} {pads}"

def linkLine (l : Link) : String :=
  let format := match l.format with
    | some f => f.render
    | none => "?"
  s!"  {l.source.name} -> {l.target.name} [{format}]"

def check (files : Files) (path : String) : Except Error String := do
  let built ← loadGraph files path
  let g := built.graph
  let nodeLines ← built.names.entries.mapM fun (name, id) => nodeLine g name id
  pure (unlines ([s!"{path}: {g.nodeCount} nodes, {g.links.size} links"] ++ nodeLines ++
    g.links.toList.map linkLine ++ ["Configuration OK"]))

def nameOf (names : Table NodeId) (id : NodeId) : String :=
  ((names.entries.find? fun (_, other) => other == id).map Prod.fst).getD "?"

def run (files : Files) (path : String) (frames : Nat) : Except Error String := do
  let built ← loadGraph files path
  let (counts, g) ← runGraph built.graph frames
  let sinkLines := counts.map fun (sink, count) =>
    s!"  {padRight 12 (nameOf built.names sink)} {count} frames"
  let s := g.stats
  pure (unlines (sinkLines ++
    [s!"pushed {s.pushed}, pulled {s.pulled}, dropped {s.dropped}, {s.steps} scheduler steps"]))

/-- Digits of a number below `2 ^ 64`, read from the left. -/
def readDigits (n : Nat) : List Char → Except CountError Nat
  | [] => .ok n
  | c :: r =>
    if !c.isDigit then .error .invalidDigit
    else if 0x10000000000000000 ≤ 10 * n + Decimal.digit c then .error .tooLarge
    else readDigits (10 * n + Decimal.digit c) r

def readCount (s : String) : Except CountError Nat :=
  match s.toList with
  | [] => .error .empty
  | '+' :: c :: r => readDigits 0 (c :: r)
  | cs => readDigits 0 cs

/-- The number of frames that options ask for; the last one counts. -/
def readFrames (frames : Nat) : List String → Except Error Nat
  | [] => .ok frames
  | option :: rest =>
    if option = "--frames" then
      match rest with
      | [] => .error .missingCount
      | raw :: rest =>
        match readCount raw with
        | .ok n => readFrames n rest
        | .error e => .error (.count raw e)
    else .error (.unknownOption option)

def defaultFrames : Nat := 8

def info (name : String) : Except Error String :=
  match builtInRegistry.get? name with
  | some k => .ok (describeKind k)
  | none => .error (.unknownKind name)

def reply : Except Error String → Reply
  | .ok output => ⟨0, output, ""⟩
  | .error e => ⟨1, "", e.message ++ "\n"⟩

def execute (files : Files) : List String → Reply
  | [] => ⟨0, usage, ""⟩
  | "list" :: _ => ⟨0, listKinds builtInRegistry, ""⟩
  | "info" :: rest => reply (match rest with
    | name :: _ => info name
    | [] => .error .missingKind)
  | "check" :: rest => reply (match rest with
    | path :: _ => check files path
    | [] => .error .missingFile)
  | "run" :: rest => reply (match rest with
    | path :: options => readFrames defaultFrames options >>= run files path
    | [] => .error .missingFile)
  | command :: _ =>
    if command ∈ ["help", "--help", "-h"] then ⟨0, usage, ""⟩
    else ⟨2, usage, s!"Unknown command: {command}\n"⟩

end FrameFlow.Command
