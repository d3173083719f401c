import FrameFlow.Fault
import FrameFlow.Setting.Constraint
import FrameFlow.Table

/-! Option schemas. `resolve` turns texts staged for the options of a schema into one value
per option: the staged text read and checked, or else the default. -/
namespace FrameFlow.Setting

structure Definition where
  name : String
  default : Value
  description : String
  constraints : List Constraint

abbrev Schema := List Definition

/-- The values that a filter is set up with. -/
abbrev Values := Table Value

namespace Definition

def kind (d : Definition) : Kind := d.default.kind

def read (d : Definition) (raw : String) : Except Fault Value :=
  let checked := do
    let value ← d.kind.read raw
    d.constraints.forM fun c => c.check value
    pure value
  checked.mapError (Fault.invalidOption d.name)

end Definition

def Schema.find? (schema : Schema) (name : String) : Option Definition :=
  List.find? (fun d => d.name == name) schema

def Schema.readStaged (schema : Schema) (staged : Table String) : Except Fault Values :=
  staged.entries.foldlM (fun values (name, raw) =>
    match schema.find? name with
    | none => .error (.unknownOption name)
    | some d => (d.read raw).map (values.put name)) .empty

/-- Adds the defaults of the options that have no value yet. -/
def Schema.complete (schema : Schema) (values : Values) : Values :=
  schema.foldl (fun vs d => if vs.contains d.name then vs else vs.put d.name d.default) values

def Schema.resolve (schema : Schema) (staged : Table String) : Except Fault Values :=
  (schema.readStaged staged).map schema.complete

namespace Values

def require (values : Values) (name : String) : Except Fault Value :=
  match values.get? name with
  | some v => .ok v
  | none => .error (.unknownOption name)

/-- A value read as one kind; `view` is `none` on values of other kinds. -/
def requireAs {α : Type} (values : Values) (kind : Kind) (view : Value → Option α) (name : String) :
    Except Fault α := do
  match view (← values.require name) with
  | some a => pure a
  | none => throw (.invalidOption name s!"expected {kind.name}")

def integer (values : Values) (name : String) : Except Fault Int64 :=
  values.requireAs .integer Value.integer? name

def number (values : Values) (name : String) : Except Fault Float :=
  values.requireAs .float Value.number? name

def text (values : Values) (name : String) : Except Fault String :=
  values.requireAs .text Value.text? name

def boolean (values : Values) (name : String) : Except Fault Bool :=
  values.requireAs .boolean Value.boolean? name

end Values
end FrameFlow.Setting
