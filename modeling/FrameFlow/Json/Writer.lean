import FrameFlow.Json.Value
import FrameFlow.Text.Printable

/-! Indented JSON texts: two blanks for each level, one member or item on a line, and empty
arrays and objects closed at once. -/
namespace FrameFlow.Json

def escapeChar (c : Char) : String :=
  if c = '"' then "\\\""
  else if c = '\\' then "\\\\"
  else if c = '\x08' then "\\b"
  else if c = '\x0C' then "\\f"
  else if c = '\n' then "\\n"
  else if c = '\r' then "\\r"
  else if c = '\t' then "\\t"
  else if c.toNat < 0x10 then "\\u000" ++ Text.hex c.toNat
  else if c.toNat < 0x20 then "\\u00" ++ Text.hex c.toNat
  else c.toString

def quote (s : String) : String := "\"" ++ String.join (s.toList.map escapeChar) ++ "\""

def newline (level : Nat) : String := "\n" ++ String.ofList (List.replicate (2 * level) ' ')

mutual

def Value.pretty (level : Nat) : Value → String
  | .null => "null"
  | .boolean b => toString b
  | .number n => String.ofList n.render
  | .text s => quote (s.getD "")
  | .array [] => "[]"
  | .array (v :: rest) =>
    "[" ++ newline (level + 1) ++ v.pretty (level + 1) ++ prettyItems (level + 1) rest ++
      newline level ++ "]"
  | .object [] => "\x7b\x7d"
  | .object ((k, v) :: rest) =>
    "\x7b" ++ newline (level + 1) ++ quote (k.getD "") ++ ": " ++ v.pretty (level + 1) ++
      prettyMembers (level + 1) rest ++ newline level ++ "\x7d"

def prettyItems (level : Nat) : List Value → String
  | [] => ""
  | v :: rest => "," ++ newline level ++ v.pretty level ++ prettyItems level rest

def prettyMembers (level : Nat) : List (Option String × Value) → String
  | [] => ""
  | (k, v) :: rest =>
    "," ++ newline level ++ quote (k.getD "") ++ ": " ++ v.pretty level ++
      prettyMembers level rest

end

def write (v : Value) : String := v.pretty 0

end FrameFlow.Json
