import FrameFlow.Json.Token

/-! Reading of JSON texts. A machine takes one token at a time; its state holds what may come
next and the arrays and objects still open, so values nest to any depth. -/
namespace FrameFlow.Json

/-- An array or object that is still open, its contents newest first. -/
inductive Open where
  | array (items : List Value)
  | object (members : List (Option String × Value)) (key : Option String)
deriving Repr

inductive State where
  /-- A value has to follow. -/
  | due (outer : List Open)
  /-- An array has just begun. -/
  | begun (outer : List Open)
  /-- A key has to follow, or the end of the object if it may close. -/
  | key (closes : Bool) (members : List (Option String × Value)) (outer : List Open)
  | colon (members : List (Option String × Value)) (key : Option String) (outer : List Open)
  /-- A value is complete. -/
  | after (v : Value) (outer : List Open)
deriving Repr

namespace State

/-- A token where a value has to follow. -/
def begin (outer : List Open) : Token → Option State
  | .mark .beginArray => some (begun outer)
  | .mark .beginObject => some (key true [] outer)
  | .mark _ => none
  | .null => some (after .null outer)
  | .boolean b => some (after (.boolean b) outer)
  | .number n => some (after (.number n) outer)
  | .text s => some (after (.text s) outer)

def step : State → Token → Option State
  | due outer, token => begin outer token
  | begun outer, .mark .endArray => some (after (.array []) outer)
  | begun outer, token => begin (.array [] :: outer) token
  | key _ members outer, .text name => some (colon members name outer)
  | key true members outer, .mark .endObject => some (after (.object members.reverse) outer)
  | colon members name outer, .mark .colon => some (due (.object members name :: outer))
  | after v (.array items :: outer), .mark .comma => some (due (.array (v :: items) :: outer))
  | after v (.array items :: outer), .mark .endArray =>
    some (after (.array (v :: items).reverse) outer)
  | after v (.object members name :: outer), .mark .comma =>
    some (key false ((name, v) :: members) outer)
  | after v (.object members name :: outer), .mark .endObject =>
    some (after (.object ((name, v) :: members).reverse) outer)
  | _, _ => none

def result? : State → Option Value
  | after v [] => some v
  | _ => none

end State

def ofTokens? (tokens : List Token) : Option Value :=
  (tokens.foldlM State.step (.due [])).bind State.result?

def read? (s : String) : Option Value := (Token.lex s.toList).bind ofTokens?

end FrameFlow.Json
