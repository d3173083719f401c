import FrameFlow.Blueprint.Datum
import FrameFlow.Toml.Writer

/-! Blueprints in TOML. -/
namespace FrameFlow

/-- A moment counts as a record with this field alone, which holds its text. -/
def Datum.momentField : String := "$__toml_private_datetime"

mutual

def Datum.ofToml : Toml.Item → Datum
  | .text s => .text s
  | .integer n => .integer n.toInt
  | .float x => .float x
  | .boolean b => .boolean b
  | .moment m => .record [(some momentField, .text m.render)]
  | .array items => .list (Datum.listOfToml items)
  | .table _ members => .record (Datum.membersOfToml members)
  | .tables tables => .list (Datum.tablesOfToml tables)

def Datum.listOfToml : List Toml.Item → List Datum
  | [] => []
  | v :: rest => Datum.ofToml v :: Datum.listOfToml rest

def Datum.membersOfToml : List (String × Toml.Item) → List (Option String × Datum)
  | [] => []
  | (key, v) :: rest => (some key, Datum.ofToml v) :: Datum.membersOfToml rest

def Datum.tablesOfToml : List (List (String × Toml.Item)) → List Datum
  | [] => []
  | members :: rest => .record (Datum.membersOfToml members) :: Datum.tablesOfToml rest

end

open Toml (Scalar Section)

def Literal.toToml : Literal → Scalar
  | .boolean b => .boolean b
  | .integer n => .integer n
  | .float x => .float x
  | .text s => .text s

namespace Blueprint

/-- Numbers are integers of 64 bits with sign. -/
def tomlNumber? (n : Nat) : Option Scalar :=
  if n < 0x8000000000000000 then some (.integer (Int64.ofNat n)) else none

/-- A node without options has no table for them. -/
def Node.toToml (n : Node) : List Section :=
  ⟨.item ["nodes"], [("name", .text n.name), ("kind", .text n.kind)]⟩ ::
    (if n.options.isEmpty then []
    else [⟨.table ["nodes", "options"],
      n.options.entries.map fun (key, l) => (key, l.toToml)⟩])

def Link.toToml? (l : Link) : Option Section := do
  some ⟨.item ["links"], [("from", .text l.source), ("from_pad", ← tomlNumber? l.output),
    ("to", .text l.target), ("to_pad", ← tomlNumber? l.input)]⟩

/-- Lists without items come before all tables. -/
def emptyLists (b : Blueprint) : List (String × Scalar) :=
  (if b.nodes.isEmpty then [("nodes", .emptyArray)] else []) ++
    (if b.links.isEmpty then [("links", .emptyArray)] else [])

def toToml? (b : Blueprint) : Option (List Section) := do
  let options : Section := ⟨.table ["options"], [
    ("source_queue_capacity", ← tomlNumber? b.options.feedCapacity),
    ("initial_capacity", ← tomlNumber? b.options.reserve)]⟩
  let links ← b.links.mapM Link.toToml?
  let lists := b.emptyLists
  some ((if lists.isEmpty then [] else [⟨.document, lists⟩]) ++
    options :: b.nodes.flatMap Node.toToml ++ links)

def writeToml (b : Blueprint) : Except GraphError String :=
  match b.toToml? with
  | some sections => .ok (Toml.write sections)
  | none => .error (.description .unwritableToml)

def readToml (s : String) : Except GraphError Blueprint :=
  match (Toml.read? s).bind fun ms => (Datum.ofToml (.table .header ms)).blueprint? true with
  | some b => .ok b
  | none => .error (.description .invalidToml)

end Blueprint
end FrameFlow
