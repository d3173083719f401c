import FrameFlow.Decimal.Numeral
import FrameFlow.Decimal.Shortest

/-! Texts of a binary64. Both styles write the shortest digits; `plain` never uses an
exponent and writes whole numbers without a point, `compact` always shows a point or an
exponent and turns to exponents outside `1e-5 ≤ |x| < 1e16`. Of two decimals equally near
`plain` writes the greater and `compact` the even one. -/
namespace FrameFlow.Decimal

def isNegative (x : Float) : Bool := 0x8000000000000000 ≤ x.toBits.toNat

def digitsOf (s : Scientific) : List Char := (Nat.repr s.digits).toList

def zeros (n : Nat) : List Char := List.replicate n '0'

/-- Digits with the point moved into or around them. -/
def Scientific.positional (s : Scientific) (negative : Bool) : Numeral :=
  let digits := digitsOf s
  if 0 ≤ s.exponent then ⟨negative, digits ++ zeros s.exponent.toNat, none, none⟩
  else
    let places := s.exponent.natAbs
    let padded := zeros (places + 1 - digits.length) ++ digits
    let whole := padded.length - places
    ⟨negative, padded.take whole, some (padded.drop whole), none⟩

/-- One digit before the point and the others after it. -/
def Scientific.exponential (s : Scientific) (negative : Bool) : Numeral :=
  let digits := digitsOf s
  let power := s.exponent + digits.length - 1
  ⟨negative, digits.take 1, if digits.length = 1 then none else some (digits.drop 1),
    some (power < 0, (Nat.repr power.natAbs).toList)⟩

def plainNumeral (x : Float) : Numeral :=
  if x == 0 then ⟨isNegative x, ['0'], none, none⟩
  else (shortest .up (.ofFloat x)).positional (isNegative x)

def plain (x : Float) : String :=
  if x.isNaN then "NaN"
  else if x.isInf then if isNegative x then "-inf" else "inf"
  else String.ofList (plainNumeral x).render

/-- The numeral of a finite value, which always has a fraction or an exponent. -/
def compact (x : Float) : Numeral :=
  if x == 0 then ⟨isNegative x, ['0'], some ['0'], none⟩
  else
    let s := shortest .even (.ofFloat x)
    let lead := (digitsOf s).length + s.exponent
    if -5 < lead && lead ≤ 16 then
      let n := s.positional (isNegative x)
      if n.isWhole then { n with places := some ['0'] } else n
    else s.exponential (isNegative x)

end FrameFlow.Decimal
