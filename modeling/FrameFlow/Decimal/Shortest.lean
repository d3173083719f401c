/-! The fewest decimal digits that read back as a given binary64. A finite value is taken
apart into a significand and a power of two; `shortest` tries one digit, then two, and so
on, and stops at the first decimal that lies in the interval of reals rounding to the value. -/
namespace FrameFlow.Decimal

/-- A positive decimal `digits * 10 ^ exponent`. -/
structure Scientific where
  digits : Nat
  exponent : Int
deriving DecidableEq, Repr

/-- Which of two equally near decimals is written. -/
inductive Tie where
  | up
  | even
deriving DecidableEq, Repr

/-- A positive binary64 `significand * 2 ^ exponent`. -/
structure Dyadic where
  significand : Nat
  exponent : Int
deriving DecidableEq, Repr

namespace Dyadic

/-- The magnitude of a finite binary64. -/
def ofFloat (x : Float) : Dyadic :=
  let bits := x.toBits.toNat
  let biased : Nat := bits / 0x10000000000000 % 0x800
  let fraction : Nat := bits % 0x10000000000000
  if biased = 0 then ⟨fraction, -1074⟩ else ⟨fraction + 0x10000000000000, (biased : Int) - 1075⟩

/-- Numerator and denominator of the value, both over one power of two. -/
def ratio (d : Dyadic) : Nat × Nat :=
  if 0 ≤ d.exponent then (d.significand * Nat.pow 2 d.exponent.toNat, 1)
  else (d.significand, Nat.pow 2 d.exponent.natAbs)

/-- The gap below the smallest significand of a binade is half as wide as the one above. -/
def lowestOfBinade (d : Dyadic) : Bool := d.significand == 0x10000000000000 && d.exponent != -1074

/-- Whether `num / den` rounds to the value; a tie does if the significand is even. -/
def admits (d : Dyadic) (num den : Nat) : Bool :=
  let (n, m) := d.ratio
  let unit := n / d.significand
  -- quarters of the last place, over the common denominator
  let x := 4 * num * m
  let v := 4 * n * den
  let above := 2 * unit * den
  let below := if d.lowestOfBinade then unit * den else above
  if d.significand % 2 = 0 then v ≤ x + below && x ≤ v + above
  else v < x + below && x < v + above

end Dyadic

/-- `10 ^ k` as a fraction. -/
def powerOfTen (k : Int) : Nat × Nat :=
  if 0 ≤ k then (Nat.pow 10 k.toNat, 1) else (1, Nat.pow 10 k.natAbs)

/-- The nearer of `lower` and `lower + 1`, given twice the value and the sum of the two on
one scale. -/
def Tie.choose (tie : Tie) (lower twice sum : Nat) : Nat :=
  if twice < sum then lower
  else if sum < twice then lower + 1
  else match tie with
    | .up => lower + 1
    | .even => lower + lower % 2

/-- The better of the two decimals with last place `k` around the value, if one of them
rounds to it. -/
def onGrid (tie : Tie) (d : Dyadic) (k : Int) : Option Nat :=
  let (n, m) := d.ratio
  let (p, q) := powerOfTen k
  let lower := n * q / (m * p)
  let upper := lower + 1
  let low := 0 < lower && d.admits (lower * p) q
  let high := d.admits (upper * p) q
  if low && high then some (tie.choose lower (2 * (n * q)) ((lower + upper) * (m * p)))
  else if low then some lower
  else if high then some upper
  else none

/-- The place of the leading digit: the greatest `k` with `10 ^ k` at most the value. -/
def leadingPlace (d : Dyadic) : Int :=
  let (n, m) := d.ratio
  let whole := n / m
  if 0 < whole then (Nat.repr whole).length - 1
  else
    let guess : Int := -((Nat.repr (m / n)).length : Int)
    let (p, q) := powerOfTen (guess + 1)
    if p * m ≤ n * q then guess + 1 else guess

/-- Tries the grids with last place `k`, `k - 1` and so on; the last one is cut off. -/
def refine (tie : Tie) (d : Dyadic) : Nat → Int → Scientific
  | 0, k => ⟨(d.ratio.1 * (powerOfTen k).2) / (d.ratio.2 * (powerOfTen k).1), k⟩
  | grids + 1, k =>
    match onGrid tie d k with
    | some digits => ⟨digits, k⟩
    | none => refine tie d grids (k - 1)

/-- The shortest decimal that reads back as a positive finite value, the nearest of several.
Seventeen digits always suffice. -/
def shortest (tie : Tie) (d : Dyadic) : Scientific := refine tie d 18 (leadingPlace d + 1)

end FrameFlow.Decimal
