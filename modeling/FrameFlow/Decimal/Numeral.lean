import FrameFlow.Decimal.Reader

/-! Numerals as they are written: a sign, digits, and perhaps a fraction and a power of ten.
`scan` takes the longest numeral off the front of a text. -/
namespace FrameFlow.Decimal

structure Numeral where
  negative : Bool
  whole : List Char
  places : Option (List Char)
  /-- Sign and digits of the exponent. -/
  power : Option (Bool × List Char)
deriving DecidableEq, Repr

namespace Numeral

def ofNat (n : Nat) : Numeral := ⟨false, (Nat.repr n).toList, none, none⟩

def ofInt (n : Int) : Numeral := ⟨n < 0, (Nat.repr n.natAbs).toList, none, none⟩

def sign (negative : Bool) : List Char := if negative then ['-'] else []

/-- An exponent is written with its sign, also where that is plus. -/
def render (n : Numeral) : List Char :=
  sign n.negative ++ n.whole ++
    (match n.places with | some digits => '.' :: digits | none => []) ++
    (match n.power with
      | some (negative, digits) => 'e' :: (if negative then '-' else '+') :: digits
      | none => [])

/-- Whether the numeral has neither fraction nor exponent. -/
def isWhole (n : Numeral) : Bool := n.places.isNone && n.power.isNone

/-- A run of at least one digit, and the rest. -/
def digits? (s : List Char) : Option (List Char × List Char) :=
  let run := s.takeWhile Char.isDigit
  if run.isEmpty then none else some (run, s.dropWhile Char.isDigit)

/-- Digits that do not start with a superfluous zero. -/
def whole? (s : List Char) : Option (List Char × List Char) := do
  let (run, rest) ← digits? s
  if run.head? = some '0' && run.length ≠ 1 then none else some (run, rest)

def places? : List Char → Option (Option (List Char) × List Char)
  | '.' :: r => (digits? r).map fun (run, rest) => (some run, rest)
  | r => some (none, r)

def power? : List Char → Option (Option (Bool × List Char) × List Char)
  | [] => some (none, [])
  | c :: r =>
    if c = 'e' || c = 'E' then
      let (negative, body) := splitSign r
      (digits? body).map fun (run, rest) => (some (negative, run), rest)
    else some (none, c :: r)

def scan (s : List Char) : Option (Numeral × List Char) := do
  let (negative, body) := match s with
    | '-' :: r => (true, r)
    | r => (false, r)
  let (whole, rest) ← whole? body
  let (places, rest) ← places? rest
  let (power, rest) ← power? rest
  some (⟨negative, whole, places, power⟩, rest)

end Numeral
end FrameFlow.Decimal
