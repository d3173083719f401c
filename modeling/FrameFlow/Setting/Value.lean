import FrameFlow.Decimal.Reader
import FrameFlow.Decimal.Writer
import FrameFlow.Text.Blank

/-! Typed values of options and the reading of one from text. Blanks around a number or a
truth value do not count; a text is taken as it stands. -/
namespace FrameFlow.Setting

inductive Kind where
  | integer
  | float
  | text
  | boolean
deriving DecidableEq, Repr

def Kind.name : Kind → String
  | .integer => "Integer"
  | .float => "Float"
  | .text => "String"
  | .boolean => "Boolean"

inductive Value where
  | integer (n : Int64)
  | float (x : Float)
  | text (s : String)
  | boolean (b : Bool)

namespace Value

def kind : Value → Kind
  | integer _ => .integer
  | float _ => .float
  | text _ => .text
  | boolean _ => .boolean

def integer? : Value → Option Int64
  | integer n => some n
  | _ => none

/-- An integer counts as a number too, rounded where it has more than 53 bits. -/
def number? : Value → Option Float
  | float x => some x
  | integer n => some (Float.ofInt n.toInt)
  | _ => none

def text? : Value → Option String
  | text s => some s
  | _ => none

def boolean? : Value → Option Bool
  | boolean b => some b
  | _ => none

def render : Value → String
  | integer n => toString n.toInt
  | float x => Decimal.plain x
  | text s => s!"\"{s}\""
  | boolean b => toString b

end Value

/-- The integers of 64 bits with sign. -/
def ofInt? (n : Int) : Option Int64 :=
  if -0x8000000000000000 ≤ n ∧ n < 0x8000000000000000 then some (Int64.ofInt n) else none

theorem ofInt?_toInt (n : Int64) : ofInt? n.toInt = some n := by
  have low := n.le_toInt
  have high := n.toInt_lt
  rw [ofInt?, if_pos ⟨by simpa using low, by simpa using high⟩, Int64.ofInt_toInt]

def trueWords : List String := ["1", "true", "yes", "on"]

def falseWords : List String := ["0", "false", "no", "off"]

def boolean? (s : List Char) : Option Bool :=
  let word := String.ofList (Decimal.lowerAscii s)
  if word ∈ trueWords then some true
  else if word ∈ falseWords then some false
  else none

def Kind.read? (kind : Kind) (raw : String) : Option Value :=
  let trimmed := Text.trim raw.toList
  match kind with
  | .integer => ((Decimal.integer? trimmed).bind ofInt?).map .integer
  | .float => ((Decimal.binary64? trimmed).filter Float.isFinite).map .float
  | .text => some (.text raw)
  | .boolean => (boolean? trimmed).map .boolean

/-- What a text that is not of this kind is told. -/
def Kind.objection (kind : Kind) (raw : String) : String :=
  match kind with
  | .integer => s!"'{raw}' is not an integer"
  | .float => s!"'{raw}' is not a finite number"
  | .text => s!"'{raw}' is not a text"
  | .boolean => s!"'{raw}' is not a boolean"

def Kind.read (kind : Kind) (raw : String) : Except String Value :=
  match kind.read? raw with
  | some value => .ok value
  | none => .error (kind.objection raw)

theorem kind_of_read? {kind : Kind} {raw : String} {v : Value} (h : kind.read? raw = some v) :
    v.kind = kind := by
  cases kind <;> simp only [Kind.read?, Option.map_eq_some_iff] at h
  · obtain ⟨_, _, rfl⟩ := h; rfl
  · obtain ⟨_, _, rfl⟩ := h; rfl
  · rw [← Option.some.inj h]; rfl
  · obtain ⟨_, _, rfl⟩ := h; rfl

end FrameFlow.Setting
