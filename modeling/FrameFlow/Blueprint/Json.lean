import FrameFlow.Blueprint.Datum
import FrameFlow.Json.Reader
import FrameFlow.Json.Writer

/-! Blueprints in JSON. -/
namespace FrameFlow

def Datum.ofNumeral (n : Decimal.Numeral) : Datum :=
  match Json.integer? n, Json.natural? n, Json.binary64? n with
  | some i, _, _ => .integer i
  | none, some i, _ => .integer i
  | none, none, some x => .float x
  | none, none, none => .other

mutual

def Datum.ofJson : Json.Value → Datum
  | .null => .other
  | .boolean b => .boolean b
  | .number n => .ofNumeral n
  | .text (some s) => .text s
  | .text none => .other
  | .array items => .list (Datum.listOfJson items)
  | .object members => .record (Datum.membersOfJson members)

def Datum.listOfJson : List Json.Value → List Datum
  | [] => []
  | v :: rest => Datum.ofJson v :: Datum.listOfJson rest

def Datum.membersOfJson : List (Option String × Json.Value) → List (Option String × Datum)
  | [] => []
  | (key, v) :: rest => (key, Datum.ofJson v) :: Datum.membersOfJson rest

end

open Json (Value)

def Literal.toJson : Literal → Value
  | .boolean b => .boolean b
  | .integer n => .ofInt n.toInt
  | .float x => .ofFloat x
  | .text s => .string s

namespace Blueprint

def GraphOptions.toJson (o : GraphOptions) : Value :=
  .record [("source_queue_capacity", .ofNat o.feedCapacity), ("initial_capacity", .ofNat o.reserve)]

/-- A node without options has no field for them. -/
def Node.toJson (n : Node) : Value :=
  let options := if n.options.isEmpty then []
    else [("options", Value.record (n.options.entries.map fun (key, l) => (key, l.toJson)))]
  .record ([("name", .string n.name), ("kind", .string n.kind)] ++ options)

def Link.toJson (l : Link) : Value :=
  .record [("from", .string l.source), ("from_pad", .ofNat l.output), ("to", .string l.target),
    ("to_pad", .ofNat l.input)]

def toJson (b : Blueprint) : Value :=
  .record [("options", GraphOptions.toJson b.options),
    ("nodes", .array (b.nodes.map Node.toJson)), ("links", .array (b.links.map Link.toJson))]

def writeJson (b : Blueprint) : String := Json.write b.toJson

def readJson (s : String) : Except GraphError Blueprint :=
  match (Json.read? s).bind fun v => (Datum.ofJson v).blueprint? false with
  | some b => .ok b
  | none => .error (.description .invalidJson)

end Blueprint
end FrameFlow
