import FrameFlow.Setting.Value
import FrameFlow.Text.Printable

/-! Constraints on the value of an option. A bound concerns numbers only and a choice texts
only: a value of another kind passes. -/
namespace FrameFlow.Setting

inductive Constraint where
  | range (low high : Float)
  | least (bound : Float)
  | greatest (bound : Float)
  | positive
  | nonNegative
  | oneOf (choices : List String)
  | notEmpty

namespace Constraint

def allowsNumber (x : Float) : Constraint → Bool
  | range low high => !(x < low || x > high)
  | least bound => !(x < bound)
  | greatest bound => !(x > bound)
  | positive => !(x ≤ 0)
  | nonNegative => !(x < 0)
  | _ => true

def allowsText (s : String) : Constraint → Bool
  | oneOf choices => choices.contains s
  | notEmpty => !s.isEmpty
  | _ => true

def allows (c : Constraint) (v : Value) : Bool :=
  (match v.number? with | some x => c.allowsNumber x | none => true) &&
    (match v.text? with | some s => c.allowsText s | none => true)

def objection (c : Constraint) (v : Value) : String :=
  let number := (v.number?.map Decimal.plain).getD ""
  let text := v.text?.getD ""
  match c with
  | range low high => s!"value {number} is out of range [{Decimal.plain low}, {Decimal.plain high}]"
  | least bound => s!"value {number} is below minimum {Decimal.plain bound}"
  | greatest bound => s!"value {number} is above maximum {Decimal.plain bound}"
  | positive => s!"value {number} must be positive"
  | nonNegative => s!"value {number} must be non-negative"
  | oneOf choices => s!"'{text}' is not one of {Text.bracketed (choices.map Text.quote)}"
  | notEmpty => "value cannot be empty"

def check (c : Constraint) (v : Value) : Except String Unit :=
  if c.allows v then .ok () else .error (c.objection v)

def describe : Constraint → String
  | range low high => s!"Must be between {Decimal.plain low} and {Decimal.plain high}"
  | least bound => s!"Must be at least {Decimal.plain bound}"
  | greatest bound => s!"Must be at most {Decimal.plain bound}"
  | positive => "Must be positive"
  | nonNegative => "Must be non-negative"
  | oneOf choices => "One of " ++ ", ".intercalate choices
  | notEmpty => "Cannot be empty"

end Constraint
end FrameFlow.Setting
