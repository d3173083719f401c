import FrameFlow.Decimal.Numeral
import FrameFlow.Decimal.Writer

/-! JSON values. Numbers keep their written form, and the members of an object their order
and repetitions. A text is `none` where an escape names half of a surrogate pair.

A whole number that fits 64 bits is an integer. Any other number is a binary64: its significand keeps the
leading digits that fit 64 bits, is rounded, and is then scaled by a power of ten; one too large to be finite
is refused. -/
namespace FrameFlow.Json

open Decimal (Numeral digit value)

/-- The digits that still fit a 64-bit significand, and those left over. -/
def gather (significand : Nat) : List Char → Nat × List Char
  | [] => (significand, [])
  | c :: r =>
    let next := 10 * significand + digit c
    if next < 0x10000000000000000 then gather next r else (significand, c :: r)

/-- `x * 10 ^ exponent`, by one rounded operation for each power of ten of at most 308. -/
def scale (x : Float) (exponent : Int) : Option Float :=
  if exponent.natAbs ≤ 308 then
    let power := Float.ofScientific 1 false exponent.natAbs
    if 0 ≤ exponent then
      let y := x * power
      if y.isInf then none else some y
    else some (x / power)
  else if x == 0 then some x
  else if 0 ≤ exponent then none
  else scale (x / Float.ofScientific 1 false 308) (exponent + 308)
termination_by exponent.natAbs
decreasing_by omega

/-- The exponent of a numeral that fits 32 bits with sign, or which way it goes beyond. -/
def exponentOf (n : Numeral) : Except Bool Int :=
  match n.power with
  | none => .ok 0
  | some (negative, digits) =>
    let e := value digits
    if 0x80000000 ≤ e then .error negative else .ok (if negative then -(e : Int) else e)

def binary64? (n : Numeral) : Option Float :=
  let (leading, left) := gather 0 n.whole
  let places := n.places.getD []
  let (significand, unread) := gather leading places
  let shift : Int := (left.length : Int) - ((places.length : Int) - unread.length)
  let magnitude := match exponentOf n with
    | .error negative => if significand = 0 || negative then some 0 else none
    | .ok e => scale (Float.ofNat significand) (shift + e)
  magnitude.map (Decimal.signed n.negative)

/-- A whole number without sign below `2 ^ 64`. -/
def natural? (n : Numeral) : Option Nat :=
  let v := value n.whole
  if n.isWhole && !n.negative && v < 0x10000000000000000 then some v else none

/-- A whole number of 64 bits with sign; minus zero is none. -/
def integer? (n : Numeral) : Option Int :=
  let v := value n.whole
  if !n.isWhole then none
  else if n.negative then if 0 < v && v ≤ 0x8000000000000000 then some (-(v : Int)) else none
  else if v < 0x8000000000000000 then some v else none

inductive Value where
  | null
  | boolean (b : Bool)
  | number (n : Decimal.Numeral)
  | text (s : Option String)
  | array (items : List Value)
  | object (members : List (Option String × Value))
deriving Repr, Inhabited

namespace Value

def string (s : String) : Value := text (some s)

def ofNat (n : Nat) : Value := number (.ofNat n)

def ofInt (n : Int) : Value := number (.ofInt n)

/-- No numeral stands for infinity or no number: they are written as `null`. -/
def ofFloat (x : Float) : Value := if x.isFinite then number (Decimal.compact x) else null

def record (members : List (String × Value)) : Value :=
  object (members.map fun (name, v) => (some name, v))

end Value
end FrameFlow.Json
